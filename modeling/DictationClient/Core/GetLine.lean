import Mathlib.Data.List.Basic
import Mathlib.Data.List.TakeWhile

/-!
# Splitting with `std::getline`

`std::getline(stream, field, delim)` takes everything up to the next delimiter,
drops the delimiter, and fails only if nothing at all was left. A loop that
collects fields until it fails therefore sees no field behind a trailing
delimiter, and none in an empty stream.

* `getlines_eq_cons_iff`: the first field, and what the others are split from.
* `splitOn_eq_getlines`: `List.splitOn` finds the same pieces, and an empty last
  one where the list is empty or ends in the delimiter.
-/
namespace DictationClient

variable {α : Type} [DecidableEq α]

/-- One call: the field, and what is left of the stream; `none`: it fails. -/
def getline (delim : α) : List α → Option (List α × List α)
  | [] => none
  | a :: l =>
    some ((a :: l).takeWhile (· ≠ delim), ((a :: l).dropWhile (· ≠ delim)).tail)

theorem length_rest_lt {delim : α} {l field rest : List α} (h : getline delim l = some (field, rest)) :
    rest.length < l.length := by
  cases l with
  | nil => cases h
  | cons a l =>
    simp only [getline, Option.some.injEq, Prod.mk.injEq] at h
    have hdrop := (List.dropWhile_suffix (p := fun b => decide (b ≠ delim)) (l := a :: l)).length_le
    rw [← h.2, List.length_tail]
    rw [List.length_cons] at hdrop ⊢
    omega

/-- `while (std::getline(stream, field, delim)) fields.push_back(field)`. -/
def getlines (delim : α) (l : List α) : List (List α) :=
  match _h : getline delim l with
  | none => []
  | some (field, rest) => field :: getlines delim rest
termination_by l.length
decreasing_by exact length_rest_lt _h

@[simp] theorem getlines_nil (delim : α) : getlines delim [] = [] := by
  rw [getlines]; rfl

theorem getlines_of_getline {delim : α} {l field rest : List α}
    (h : getline delim l = some (field, rest)) : getlines delim l = field :: getlines delim rest := by
  rw [getlines]
  split
  · rename_i h'; rw [h] at h'; cases h'
  · rename_i field' rest' h'; rw [h] at h'; cases h'; rfl

theorem forall_ne_of_not_mem {delim : α} {l : List α} (h : delim ∉ l) :
    ∀ a ∈ l, decide (a ≠ delim) = true := by
  intro a ha
  apply decide_eq_true
  intro e
  exact h (e ▸ ha)

theorem getline_of_not_mem {delim : α} {l : List α} (h : delim ∉ l) (hne : l ≠ []) :
    getline delim l = some (l, []) := by
  have hall := forall_ne_of_not_mem h
  cases l with
  | nil => exact absurd rfl hne
  | cons a l =>
    rw [getline, List.takeWhile_eq_self_iff.mpr hall, List.dropWhile_eq_nil_iff.mpr hall, List.tail_nil]

theorem getline_append_cons {delim : α} {field : List α} (h : delim ∉ field) (rest : List α) :
    getline delim (field ++ delim :: rest) = some (field, rest) := by
  have hall := forall_ne_of_not_mem h
  have htake : (field ++ delim :: rest).takeWhile (· ≠ delim) = field := by
    rw [List.takeWhile_append_of_pos hall, List.takeWhile_cons]; simp
  have hdrop : (field ++ delim :: rest).dropWhile (· ≠ delim) = delim :: rest := by
    rw [List.dropWhile_append_of_pos hall, List.dropWhile_cons]; simp
  cases hl : field ++ delim :: rest with
  | nil => simp at hl
  | cons a l => rw [getline, ← hl, htake, hdrop, List.tail_cons]

/-- The last field, without a delimiter behind it. -/
theorem getlines_of_not_mem {delim : α} {l : List α} (h : delim ∉ l) (hne : l ≠ []) :
    getlines delim l = [l] := by
  rw [getlines_of_getline (getline_of_not_mem h hne), getlines_nil]

/-- A field with a delimiter behind it. -/
theorem getlines_append_cons {delim : α} {field : List α} (h : delim ∉ field) (rest : List α) :
    getlines delim (field ++ delim :: rest) = field :: getlines delim rest :=
  getlines_of_getline (getline_append_cons h rest)

/-- Every list is empty, a last field, or a field with a delimiter behind it. -/
theorem getlines_induction (delim : α) {P : List α → Prop} (nil : P [])
    (last : ∀ l, delim ∉ l → l ≠ [] → P l)
    (field : ∀ f rest, delim ∉ f → P rest → P (f ++ delim :: rest)) (l : List α) : P l := by
  induction h : l.length using Nat.strongRecOn generalizing l with
  | ind n ih =>
    by_cases hmem : delim ∈ l
    · obtain ⟨f, rest, rfl, hf⟩ := List.eq_append_cons_of_mem hmem
      refine field f rest hf (ih rest.length ?_ rest rfl)
      rw [← h, List.length_append, List.length_cons]
      omega
    · by_cases hne : l = []
      · exact hne ▸ nil
      · exact last l hmem hne

theorem getlines_eq_nil_iff {delim : α} {l : List α} : getlines delim l = [] ↔ l = [] := by
  induction l using getlines_induction delim with
  | nil => simp
  | last l h hne => simp [getlines_of_not_mem h hne, hne]
  | field f rest hf ih => simp [getlines_append_cons hf]

/-- **The first field.** -/
theorem getlines_eq_cons_iff {delim : α} {l f : List α} {fs : List (List α)} :
    getlines delim l = f :: fs ↔ delim ∉ f ∧ ((l = f ∧ f ≠ [] ∧ fs = []) ∨
      ∃ rest, l = f ++ delim :: rest ∧ getlines delim rest = fs) := by
  refine ⟨fun h => ?_, fun h => ?_⟩
  · induction l using getlines_induction delim with
    | nil => rw [getlines_nil] at h; cases h
    | last l hl hne =>
      rw [getlines_of_not_mem hl hne] at h
      cases h
      exact ⟨hl, .inl ⟨rfl, hne, rfl⟩⟩
    | field f' rest hf ih =>
      rw [getlines_append_cons hf] at h
      cases h
      exact ⟨hf, .inr ⟨rest, rfl, rfl⟩⟩
  · obtain ⟨hf, ⟨rfl, hne, rfl⟩ | ⟨rest, rfl, rfl⟩⟩ := h
    · exact getlines_of_not_mem hf hne
    · exact getlines_append_cons hf rest

theorem getlines_eq_singleton_iff {delim : α} {l f : List α} :
    getlines delim l = [f] ↔ delim ∉ f ∧ ((l = f ∧ f ≠ []) ∨ l = f ++ [delim]) := by
  simp [getlines_eq_cons_iff, getlines_eq_nil_iff]

/-- Two fields: one delimiter between them, and perhaps one at the end. -/
theorem getlines_eq_pair_iff {delim : α} {l f g : List α} :
    getlines delim l = [f, g] ↔ delim ∉ f ∧ delim ∉ g ∧
      ((l = f ++ delim :: g ∧ g ≠ []) ∨ l = f ++ delim :: (g ++ [delim])) := by
  rw [getlines_eq_cons_iff]
  apply and_congr_right
  intro hf
  refine ⟨fun h => ?_, fun h => ?_⟩
  · obtain ⟨-, -, hnil⟩ | ⟨rest, rfl, hrest⟩ := h
    · cases hnil
    · obtain ⟨hg, ⟨rfl, hne⟩ | rfl⟩ := getlines_eq_singleton_iff.mp hrest
      · exact ⟨hg, .inl ⟨rfl, hne⟩⟩
      · exact ⟨hg, .inr rfl⟩
  · obtain ⟨hg, ⟨rfl, hne⟩ | rfl⟩ := h
    · exact .inr ⟨g, rfl, getlines_eq_singleton_iff.mpr ⟨hg, .inl ⟨rfl, hne⟩⟩⟩
    · exact .inr ⟨_, rfl, getlines_eq_singleton_iff.mpr ⟨hg, .inr rfl⟩⟩

/-- **`splitOn` and `getline`.** -/
theorem splitOn_eq_getlines (delim : α) (l : List α) :
    l.splitOn delim = getlines delim l ∨ l.splitOn delim = getlines delim l ++ [[]] := by
  induction l using getlines_induction delim with
  | nil => right; simp
  | last l h hne =>
    left
    rw [getlines_of_not_mem h hne, List.splitOn_eq_singleton h]
  | field f rest hf ih =>
    rw [getlines_append_cons hf, List.splitOn_append_cons_self_of_not_mem hf]
    rcases ih with ih | ih
    · left; rw [ih]
    · right; rw [ih, List.cons_append]

end DictationClient
