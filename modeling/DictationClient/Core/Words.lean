import Mathlib.Data.List.Basic

/-!
# Splitting at runs of separators

`words p l` are the maximal runs of elements of `l` that are no separators: what
`str.split()` without an argument returns. Separators are the elements that
satisfy `p`.

* `words_are_plain`: every word is non-empty and has no separator in it.
* `words_intercalate_iff`: splitting gives back what was joined exactly when
  everything joined is such a word.
-/
namespace DictationClient

variable {α : Type} {p : α → Bool}

def words (p : α → Bool) (l : List α) : List (List α) := (l.splitOnP p).filter fun w => !w.isEmpty

/-- Non-empty, and without separators. -/
def PlainWord (p : α → Bool) (w : List α) : Prop := w ≠ [] ∧ ∀ a ∈ w, p a = false

theorem splitOnP_pieces (l : List α) : ∀ w ∈ l.splitOnP p, ∀ a ∈ w, p a = false := by
  induction l with
  | nil => simp
  | cons b l ih =>
    rw [List.splitOnP_cons_eq_if_modifyHead]
    split
    · rw [List.forall_mem_cons]
      exact ⟨by simp, ih⟩
    · rename_i hb
      cases hs : l.splitOnP p with
      | nil => simp
      | cons w ws =>
        rw [hs, List.forall_mem_cons] at ih
        rw [List.modifyHead_cons, List.forall_mem_cons, List.forall_mem_cons]
        exact ⟨⟨by simpa using hb, ih.1⟩, ih.2⟩

theorem words_are_plain (l : List α) : ∀ w ∈ words p l, PlainWord p w := by
  intro w hw
  obtain ⟨hmem, hne⟩ := List.mem_filter.mp hw
  exact ⟨by simpa using hne, splitOnP_pieces l w hmem⟩

theorem splitOnP_intercalate {sep : α} (hsep : p sep = true) {ws : List (List α)}
    (h : ∀ w ∈ ws, ∀ a ∈ w, p a = false) (hne : ws ≠ []) : ([sep].intercalate ws).splitOnP p = ws := by
  induction ws with
  | nil => exact absurd rfl hne
  | cons w ws ih =>
    rw [List.forall_mem_cons] at h
    cases ws with
    | nil => rw [List.intercalate_singleton, List.splitOnP_eq_singleton h.1]
    | cons w' ws =>
      rw [List.intercalate_cons_cons, List.append_assoc, List.singleton_append,
        List.splitOnP_append_cons_of_forall_mem h.1 sep hsep, ih h.2 (by simp)]

/-- **Joining and splitting.** -/
theorem words_intercalate_iff {sep : α} (hsep : p sep = true) (ws : List (List α)) :
    words p ([sep].intercalate ws) = ws ↔ ∀ w ∈ ws, PlainWord p w := by
  refine ⟨fun h => ?_, fun h => ?_⟩
  · rw [← h]
    exact words_are_plain _
  · by_cases hne : ws = []
    · subst hne; rfl
    · rw [words, splitOnP_intercalate hsep (fun w hw => (h w hw).2) hne, List.filter_eq_self]
      intro w hw
      simpa using (h w hw).1

end DictationClient
