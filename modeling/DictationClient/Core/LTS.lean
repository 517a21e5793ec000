import Mathlib.Data.List.Basic

/-!
# Labelled transition systems and event logs

The systems of this development are interleavings of a few sequential
threads. Each is given by a partial step function on states; the label of a
step says which thread moves and how the environment answers.

* `LTS`, `LTS.Run`: runs with their label sequence, grown at the end.
* `LTS.Inductive`: holds initially and is kept by every step, hence in every
  state of every run (`Inductive.run`).
* `LTS.guard`: the runs in which every step meets a condition on the state it
  starts from. `run_dichotomy` is the rule for a defect that cannot be undone:
  a run stays inside the guard and keeps `I`, or has left it and keeps `D`.
* `countP_add_rank_le`: a rank that a party lowers bounds the steps of that party.
  `LTS.exists_stuck`: a rank that every step lowers leads to
  a state without a step.
* `countAfter p q l`: how many `q`-events a log has after its first `p`-event.
-/
namespace DictationClient

structure LTS (S L : Type) where
  init : S → Prop
  step : S → L → S → Prop

namespace LTS

variable {S L : Type}

/-- The system of a partial step function. -/
def ofFn (init : S → Prop) (step : S → L → Option S) : LTS S L where
  init := init
  step s l s' := step s l = some s'

/-- `Run s ls s'`: the labels `ls`, in order, lead from `s` to `s'`. -/
inductive Run (T : LTS S L) : S → List L → S → Prop
  | nil (s : S) : Run T s [] s
  | snoc {s s' s'' : S} {ls : List L} {l : L} :
      Run T s ls s' → T.step s' l s'' → Run T s (ls ++ [l]) s''

/-- Only the steps whose source state and label meet `G`. -/
def guard (T : LTS S L) (G : S → L → Prop) : LTS S L where
  init := T.init
  step s l s' := T.step s l s' ∧ G s l

/-- A run of labels that are always allowed. -/
theorem Run.guarded {T : LTS S L} {G : S → L → Prop} {s s' : S} {ls : List L} (h : T.Run s ls s')
    (hG : ∀ l ∈ ls, ∀ s, G s l) : (T.guard G).Run s ls s' := by
  induction h with
  | nil => exact .nil _
  | snoc _ hst ih =>
    rw [List.forall_mem_append, List.forall_mem_singleton] at hG
    exact .snoc (ih hG.1) ⟨hst, hG.2 _⟩

theorem Run.unguarded {T : LTS S L} {G : S → L → Prop} {s s' : S} {ls : List L}
    (h : (T.guard G).Run s ls s') : T.Run s ls s' := by
  induction h with
  | nil => exact .nil _
  | snoc _ hst ih => exact .snoc ih hst.1

structure Inductive (T : LTS S L) (I : S → Prop) : Prop where
  init : ∀ s, T.init s → I s
  step : ∀ s l s', I s → T.step s l s' → I s'

theorem Inductive.run {T : LTS S L} {I : S → Prop} (h : T.Inductive I) {s s' : S} {ls : List L}
    (h0 : T.init s) (hr : T.Run s ls s') : I s' := by
  induction hr with
  | nil => exact h.init _ h0
  | snoc _ hst ih => exact h.step _ _ _ ih hst

/-- **Inside the guard or doomed.** `I` is kept by the steps that meet `G`, a
step that does not meet `G` leads from `I` to `D`, and every step keeps `D`. -/
theorem run_dichotomy {T : LTS S L} {G : S → L → Prop} {I D : S → Prop}
    (hI : (T.guard G).Inductive I)
    (hout : ∀ s l s', I s → T.step s l s' → ¬ G s l → D s')
    (hD : ∀ s l s', D s → T.step s l s' → D s') {s s' : S} {ls : List L}
    (h0 : T.init s) (hr : T.Run s ls s') : (T.guard G).Run s ls s' ∨ D s' := by
  induction hr with
  | nil => exact .inl (.nil _)
  | @snoc s₁ s₂ _ l _ hst ih =>
    rcases ih with hg | hd
    · by_cases hG : G s₁ l
      · exact .inl (.snoc hg ⟨hst, hG⟩)
      · exact .inr (hout _ _ _ (hI.run h0 hg) hst hG)
    · exact .inr (hD _ _ _ hd hst)

theorem Run.append {T : LTS S L} {s s' s'' : S} {ls ls' : List L} (h : T.Run s ls s')
    (h' : T.Run s' ls' s'') : T.Run s (ls ++ ls') s'' := by
  induction h' with
  | nil => simpa using h
  | snoc _ hst ih => rw [← List.append_assoc]; exact .snoc ih hst

/-! ## Termination -/

/-- **A rank bounds a party's steps.** Inside `I` only the steps with a label in `q`
raise the rank, by one at most, and those with a label in `p` lower it. -/
theorem countP_add_rank_le {T : LTS S L} {I : S → Prop} {p q : L → Bool} {rank : S → Nat}
    (hI : ∀ s l s', I s → T.step s l s' → I s')
    (hd : ∀ s l s', I s → T.step s l s' →
      rank s' + (if p l then 1 else 0) ≤ rank s + if q l then 1 else 0)
    {s s' : S} {ls : List L} (hs : I s) (hr : T.Run s ls s') :
    I s' ∧ ls.countP p + rank s' ≤ rank s + ls.countP q := by
  induction hr with
  | nil => exact ⟨hs, by simp⟩
  | @snoc s₁ s₂ _ l _ hst ih =>
    obtain ⟨hI₁, hle⟩ := ih
    have hstep := hd s₁ l s₂ hI₁ hst
    refine ⟨hI s₁ l s₂ hI₁ hst, ?_⟩
    rw [List.countP_append, List.countP_append, List.countP_singleton, List.countP_singleton]
    omega

/-- No step is enabled. -/
def Stuck (T : LTS S L) (s : S) : Prop := ∀ l s', ¬ T.step s l s'

/-- **Every step lowers the rank**, so every run can be continued to a state
without a step. -/
theorem exists_stuck {T : LTS S L} {I : S → Prop} {rank : S → Nat}
    (hI : ∀ s l s', I s → T.step s l s' → I s')
    (hd : ∀ s l s', I s → T.step s l s' → rank s' < rank s) {s : S} (hs : I s) :
    ∃ ls s', T.Run s ls s' ∧ T.Stuck s' := by
  induction h : rank s using Nat.strongRecOn generalizing s with
  | ind n ih =>
    by_cases hstuck : T.Stuck s
    · exact ⟨[], s, .nil s, hstuck⟩
    · simp only [Stuck, not_forall, not_not] at hstuck
      obtain ⟨l, s₁, hst⟩ := hstuck
      obtain ⟨ls, s', hr, hs'⟩ := ih (rank s₁) (h ▸ hd s l s₁ hs hst) (hI s l s₁ hs hst) rfl
      have h₁ : T.Run s [l] s₁ := .snoc (.nil s) hst
      exact ⟨[l] ++ ls, s', h₁.append hr, hs'⟩

/-! ## Running a step function -/

/-- Run the labels in order; `none` as soon as a step is not enabled. -/
def exec (step : S → L → Option S) : S → List L → Option S
  | s, [] => some s
  | s, l :: ls => (step s l).bind fun s' => exec step s' ls

theorem run_of_exec {init : S → Prop} {step : S → L → Option S} :
    ∀ {ls : List L} {s s' : S}, exec step s ls = some s' → (ofFn init step).Run s ls s'
  | [], s, s', h => by
    simp only [exec, Option.some.injEq] at h; subst h; exact .nil _
  | l :: ls, s, s', h => by
    simp only [exec, Option.bind_eq_some_iff] at h
    obtain ⟨s₁, h₁, h₂⟩ := h
    have h₁' : (ofFn init step).Run s [l] s₁ := .snoc (.nil s) h₁
    exact h₁'.append (run_of_exec h₂)

end LTS

/-! ## Event logs -/

/-- Number of `q`-events after the first `p`-event of the log. -/
def countAfter {α : Type} (p q : α → Bool) : List α → Nat
  | [] => 0
  | a :: l => if p a then l.countP q else countAfter p q l

section Log
variable {α : Type} (p q : α → Bool)

@[simp] theorem countAfter_nil : countAfter p q [] = 0 := rfl

/-- Appending an event adds one exactly when it is a `q`-event and the log
already holds a `p`-event. -/
theorem countAfter_snoc (l : List α) (a : α) :
    countAfter p q (l ++ [a]) = countAfter p q l + if l.any p && q a then 1 else 0 := by
  induction l with
  | nil => simp [countAfter]
  | cons b l ih =>
    by_cases hb : p b
    · simp [countAfter, hb, List.countP_append, List.countP_singleton]
    · simp [countAfter, hb, ih]

theorem countAfter_snoc_of_not {l : List α} {a : α} (h : q a = false) :
    countAfter p q (l ++ [a]) = countAfter p q l := by
  rw [countAfter_snoc, h, Bool.and_false]; rfl

theorem any_snoc_of_not {l : List α} {a : α} (h : p a = false) : (l ++ [a]).any p = l.any p := by
  rw [List.any_append, List.any_cons, h, List.any_nil, Bool.or_false, Bool.or_false]

theorem any_snoc_self {l : List α} {a : α} (h : p a = true) : (l ++ [a]).any p = true := by
  rw [List.any_append, List.any_cons, h, Bool.true_or, Bool.or_true]

theorem countAfter_of_any_eq_false {l : List α} (h : l.any p = false) : countAfter p q l = 0 := by
  induction l with
  | nil => rfl
  | cons b l ih =>
    simp only [List.any_cons, Bool.or_eq_false_iff] at h
    simp [countAfter, h.1, ih h.2]

/-- After any `p`-event, not only the first, there are at most as many. -/
theorem countP_le_countAfter {pre post : List α} {a : α} (ha : p a = true) :
    post.countP q ≤ countAfter p q (pre ++ a :: post) := by
  induction pre with
  | nil => simp [countAfter, ha]
  | cons b pre ih =>
    simp only [List.cons_append, countAfter]
    split
    · simp only [List.countP_append, List.countP_cons]; omega
    · exact ih

end Log
end DictationClient
