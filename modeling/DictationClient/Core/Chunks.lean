import Mathlib.Data.List.Basic
import Mathlib.Tactic.Ring

/-!
# Cutting a list into frames

`chunks n l` cuts `l` into consecutive frames of `n` elements, the last one
possibly shorter. It is what a sender that walks a buffer with a fixed step is
meant to produce; the loops of this development are compared with it.

* `flatten_chunks`, `length_chunks`, `framed_chunks`: nothing is lost, the
  number of frames is `⌈|l| / n⌉`, every frame but the last is full.
* `frame_of_prefix`: the same of a frame among the first frames.
* `flatten_take_chunks`: a sender that stops after `k` frames has sent the
  first `k * n` elements.
* `chunks_eq_iff`: two frame sizes cut a list alike exactly when they are
  equal or the list fits in one frame of either.
* `chunks_append_of_dvd`, `dvd_length_chunks_iff`: frames of a list of whole
  frames and more, and when all frames are made of whole records.
-/
namespace DictationClient

variable {α : Type}

def chunks (n : Nat) (l : List α) : List (List α) :=
  if _h : n = 0 ∨ l = [] then [] else l.take n :: chunks n (l.drop n)
termination_by l.length
decreasing_by
  have := List.length_pos_iff.mpr (fun e => _h (.inr e))
  rw [List.length_drop]; omega

@[simp] theorem chunks_nil (n : Nat) : chunks n ([] : List α) = [] := by
  rw [chunks]; simp

theorem chunks_of_ne_nil {n : Nat} {l : List α} (hn : 0 < n) (hl : l ≠ []) :
    chunks n l = l.take n :: chunks n (l.drop n) := by
  rw [chunks, dif_neg (by rintro (h | h) <;> [omega; exact hl h])]

/-- Induction along the frames of a list. -/
theorem chunks_induction {n : Nat} (hn : 0 < n) {P : List α → Prop} (nil : P [])
    (cut : ∀ l, l ≠ [] → P (l.drop n) → P l) (l : List α) : P l := by
  induction h : l.length using Nat.strongRecOn generalizing l with
  | ind k ih =>
    by_cases hl : l = []
    · subst hl; exact nil
    · have := List.length_pos_iff.mpr hl
      exact cut l hl (ih (l.drop n).length (by rw [List.length_drop]; omega) _ rfl)

theorem chunks_of_length_le {n : Nat} {l : List α} (hn : 0 < n) (hl : l ≠ []) (h : l.length ≤ n) :
    chunks n l = [l] := by
  rw [chunks_of_ne_nil hn hl, List.take_of_length_le h, List.drop_eq_nil_of_le h, chunks_nil]

theorem flatten_take_chunks {n : Nat} (hn : 0 < n) (k : Nat) (l : List α) :
    ((chunks n l).take k).flatten = l.take (k * n) := by
  induction k generalizing l with
  | zero => simp
  | succ k ih =>
    by_cases hl : l = []
    · subst hl; simp
    · rw [chunks_of_ne_nil hn hl, List.take_succ_cons, List.flatten_cons, ih,
        show (k + 1) * n = n + k * n by ring, List.take_add]

/-- One element from what is left behind `k` to what was taken. -/
theorem take_drop_succ {l t : List α} {a : α} {k : Nat} (h : a :: t = l.drop k) :
    l.take k ++ [a] = l.take (k + 1) ∧ t = l.drop (k + 1) := by
  have ha : l[k]? = some a := by rw [← List.head?_drop, ← h]; rfl
  refine ⟨?_, ?_⟩
  · rw [List.take_add_one, ha]; rfl
  · rw [← List.tail_drop, ← h]; rfl

/-- One frame off a count of `⌈a / n⌉`. -/
theorem ceil_div_step {n a : Nat} (hn : 0 < n) (ha : 0 < a) :
    (a + n - 1) / n = (a - n + n - 1) / n + 1 := by
  by_cases h : a ≤ n
  · have h1 : (a - n + n - 1) / n = 0 := Nat.div_eq_of_lt (by omega)
    have h2 : (a - 1) / n = 0 := Nat.div_eq_of_lt (by omega)
    rw [h1, show a + n - 1 = (a - 1) + n by omega, Nat.add_div_right _ hn, h2]
  · rw [show a + n - 1 = (a - n + n - 1) + n by omega, Nat.add_div_right _ hn]

theorem length_chunks {n : Nat} (hn : 0 < n) (l : List α) :
    (chunks n l).length = (l.length + n - 1) / n := by
  induction l using chunks_induction hn with
  | nil => simp only [chunks_nil, List.length_nil, Nat.zero_add]; exact (Nat.div_eq_of_lt (by omega)).symm
  | cut l hl ih =>
    have hpos := List.length_pos_iff.mpr hl
    rw [chunks_of_ne_nil hn hl, List.length_cons, ih, List.length_drop, ceil_div_step hn hpos]

theorem length_chunks_le {n : Nat} (hn : 0 < n) (l : List α) : (chunks n l).length ≤ l.length := by
  induction l using chunks_induction hn with
  | nil => simp
  | cut l hl ih =>
    have hpos := List.length_pos_iff.mpr hl
    rw [List.length_drop] at ih
    rw [chunks_of_ne_nil hn hl, List.length_cons]
    omega

theorem flatten_chunks {n : Nat} (hn : 0 < n) (l : List α) : (chunks n l).flatten = l := by
  induction l using chunks_induction hn with
  | nil => simp
  | cut l hl ih => rw [chunks_of_ne_nil hn hl, List.flatten_cons, ih, List.take_append_drop]

/-- A cut at a frame boundary. -/
theorem chunks_append_of_dvd {n : Nat} (hn : 0 < n) {l : List α} (h : n ∣ l.length) (l' : List α) :
    chunks n (l ++ l') = chunks n l ++ chunks n l' := by
  induction l using chunks_induction hn with
  | nil => simp
  | cut l hl ih =>
    have hle : n ≤ l.length := Nat.le_of_dvd (List.length_pos_iff.mpr hl) h
    have hdvd : n ∣ (l.drop n).length := by rw [List.length_drop]; exact Nat.dvd_sub h (Nat.dvd_refl n)
    have hne : l ++ l' ≠ [] := fun e => hl (List.append_eq_nil_iff.mp e).1
    rw [chunks_of_ne_nil hn hne, chunks_of_ne_nil hn hl, List.take_append_of_le_length hle,
      List.drop_append_of_le_length hle, ih hdvd, List.cons_append]

/-- Frames of a list of whole `d`-element records are made of whole records
exactly when the frame size is, or one frame holds the list. -/
theorem dvd_length_chunks_iff {d n : Nat} (hn : 0 < n) {l : List α} (hd : d ∣ l.length) :
    (∀ c ∈ chunks n l, d ∣ c.length) ↔ d ∣ n ∨ l.length ≤ n := by
  constructor
  · intro h
    by_cases hle : l.length ≤ n
    · exact .inr hle
    · have hl : l ≠ [] := by rintro rfl; exact hle (Nat.zero_le n)
      have hfirst := h (l.take n) (by rw [chunks_of_ne_nil hn hl]; exact List.mem_cons_self)
      rw [List.length_take, Nat.min_eq_left (by omega)] at hfirst
      exact .inl hfirst
  · rintro (hdn | hle)
    · induction l using chunks_induction hn with
      | nil => simp
      | cut l hl ih =>
        intro c hc
        rw [chunks_of_ne_nil hn hl] at hc
        rcases List.mem_cons.mp hc with rfl | hc
        · rw [List.length_take]
          rcases Nat.le_total n l.length with h | h
          · rwa [Nat.min_eq_left h]
          · rwa [Nat.min_eq_right h]
        · exact ih (by rw [List.length_drop]; exact Nat.dvd_sub hd hdn) c hc
    · intro c hc
      by_cases hl : l = []
      · rw [hl, chunks_nil] at hc; cases hc
      · rw [chunks_of_length_le hn hl hle, List.mem_singleton] at hc
        rwa [hc]

/-! ## Well-formed frame lists -/

/-- Frames of at most `n` elements, none empty, all but the last full. -/
structure Framed (n : Nat) (cs : List (List α)) : Prop where
  nonempty : ∀ c ∈ cs, c ≠ []
  le : ∀ c ∈ cs, c.length ≤ n
  full : ∀ c ∈ cs.dropLast, c.length = n

theorem framed_chunks {n : Nat} (hn : 0 < n) (l : List α) : Framed n (chunks n l) := by
  induction l using chunks_induction hn with
  | nil => exact ⟨by simp, by simp, by simp⟩
  | cut l hl ih =>
    rw [chunks_of_ne_nil hn hl]
    have hne : l.take n ≠ [] := by
      rw [ne_eq, List.take_eq_nil_iff]; rintro (h | h) <;> [omega; exact hl h]
    refine ⟨?_, ?_, ?_⟩
    · intro c hc
      rcases List.mem_cons.mp hc with rfl | hc
      · exact hne
      · exact ih.nonempty c hc
    · intro c hc
      rcases List.mem_cons.mp hc with rfl | hc
      · exact List.length_take_le n l
      · exact ih.le c hc
    · intro c hc
      by_cases hd : l.drop n = []
      · rw [hd, chunks_nil] at hc; simp at hc
      · -- another frame follows, so more than `n` elements were left
        have hlen : n < l.length := by
          by_contra h; exact hd (List.drop_eq_nil_of_le (by omega))
        rw [List.dropLast_cons_of_ne_nil (by rw [chunks_of_ne_nil hn hd]; simp)] at hc
        rcases List.mem_cons.mp hc with rfl | hc
        · rw [List.length_take]; omega
        · exact ih.full c hc

theorem Framed.take {n : Nat} {cs : List (List α)} (h : Framed n cs) (k : Nat) :
    Framed n (cs.take k) where
  nonempty c hc := h.nonempty c (List.mem_of_mem_take hc)
  le c hc := h.le c (List.mem_of_mem_take hc)
  full c hc := by
    have hp : (cs.take k).dropLast <+: cs.dropLast := by
      rw [List.dropLast_eq_take, List.dropLast_eq_take, List.take_take]
      exact List.take_prefix_take_left (by rw [List.length_take]; omega)
    exact h.full c (hp.subset hc)

/-- A frame among the first frames of a list is full, or ends where the list ends. -/
theorem frame_of_prefix {n : Nat} (hn : 0 < n) {l c : List α} {front back : List (List α)}
    (h : front ++ c :: back <+: chunks n l) :
    c ≠ [] ∧ (c.length = n ∨ (front.flatten ++ c).length = l.length) := by
  obtain ⟨more, hmore⟩ := h
  have hframed := framed_chunks hn l
  have hc : c ∈ chunks n l := by rw [← hmore]; simp
  refine ⟨hframed.nonempty c hc, ?_⟩
  rw [List.append_assoc, List.cons_append] at hmore
  by_cases hlast : back ++ more = []
  · right
    have hall := congrArg List.flatten hmore
    rw [hlast, flatten_chunks hn, List.flatten_append, List.flatten_singleton] at hall
    rw [hall]
  · left
    apply hframed.full c
    rw [← hmore, List.dropLast_append_cons, List.dropLast_cons_of_ne_nil hlast]
    simp

/-- Frames, some of them left empty. -/
theorem flatten_sublist {cs cs' : List (List α)} (h : List.Forall₂ (fun c c' => c = c' ∨ c = []) cs cs') :
    cs.flatten.Sublist cs'.flatten := by
  induction h with
  | nil => exact List.Sublist.refl _
  | cons hc _ ih =>
    rw [List.flatten_cons, List.flatten_cons]
    rcases hc with rfl | rfl
    · exact (List.append_sublist_append_left _).mpr ih
    · exact ih.trans (List.sublist_append_right _ _)

/-! ## Two frame sizes -/

theorem chunks_eq_iff {m n : Nat} (hm : 0 < m) (hn : 0 < n) (l : List α) :
    chunks m l = chunks n l ↔ m = n ∨ l.length ≤ min m n := by
  constructor
  · intro h
    by_cases hl : l = []
    · subst hl; right; simp
    · rw [chunks_of_ne_nil hm hl, chunks_of_ne_nil hn hl, List.cons.injEq] at h
      have hlen := congrArg List.length h.1
      simp only [List.length_take] at hlen
      omega
  · rintro (rfl | h)
    · rfl
    · by_cases hl : l = []
      · subst hl; simp
      · rw [chunks_of_length_le hm hl (by omega), chunks_of_length_le hn hl (by omega)]

end DictationClient
