import Mathlib.Data.List.Basic

/-!
# A list handed out from the front

A `Cursor all` hands out the elements of `all` one by one. It can be rewound, and
it can be stopped: then it hands out nothing until it is rewound. What it has
handed out since the last rewind and what it has left are a prefix of `all`; that
is a field, so no cursor loses or repeats an element.

Any number of readers may share a cursor. A reader that was told once that there
is nothing left may give up for good, so it may also be told so later, whatever
the cursor has left (`Run.refuse`).

* `Run.taken_eq`: the history tells what was handed out.
* `Run.quiet`: nothing is handed out between a stop and the next rewind.
-/
namespace DictationClient

variable {α : Type}

structure Cursor (all : List α) where
  taken : List α
  left : List α
  isPrefix : taken ++ left <+: all

namespace Cursor

variable {all : List α}

def rewind (all : List α) : Cursor all := ⟨[], all, List.prefix_rfl⟩

def stop (c : Cursor all) : Cursor all :=
  ⟨c.taken, [], by rw [List.append_nil]; exact (List.prefix_append _ _).trans c.isPrefix⟩

/-- The next element, or `none`. -/
def pull (c : Cursor all) : Option α × Cursor all :=
  match h : c.left with
  | [] => (none, c)
  | a :: l => (some a, ⟨c.taken ++ [a], l, by
      have hp := c.isPrefix
      rw [h] at hp
      rwa [List.append_assoc]⟩)

theorem pull_of_nil {c : Cursor all} (h : c.left = []) : c.pull = (none, c) := by
  unfold pull
  split
  · rfl
  · rename_i h'; rw [h] at h'; cases h'

theorem pull_of_cons {c : Cursor all} {a : α} {l : List α} (h : c.left = a :: l) :
    c.pull.1 = some a ∧ c.pull.2.taken = c.taken ++ [a] ∧ c.pull.2.left = l := by
  unfold pull
  split
  · rename_i h'; rw [h] at h'; cases h'
  · rename_i h'; rw [h] at h'; cases h'; exact ⟨rfl, rfl, rfl⟩

/-! ## Histories -/

inductive Act (α : Type) where
  | pull (out : Option α)
  | rewind
  | stop
  deriving DecidableEq, Repr

/-- What was handed out before an action, and after it. -/
def Act.collect (out : List α) : Act α → List α
  | .pull a => out ++ a.toList
  | .rewind => []
  | .stop => out

/-- The elements handed out since the last rewind. -/
def collected (acts : List (Act α)) : List α := acts.foldl Act.collect []

@[simp] theorem collected_snoc (acts : List (Act α)) (a : Act α) :
    collected (acts ++ [a]) = a.collect (collected acts) := by
  rw [collected, List.foldl_append]; rfl

/-- The actions `acts`, in order, lead to the cursor. -/
inductive Run (all : List α) : List (Act α) → Cursor all → Prop
  | start : Run all [] (.rewind all)
  | pull {acts c} (h : Run all acts c) : Run all (acts ++ [.pull c.pull.1]) c.pull.2
  | refuse {acts c} (h : Run all acts c) : Run all (acts ++ [.pull none]) c
  | rewind {acts c} (h : Run all acts c) : Run all (acts ++ [.rewind]) (.rewind all)
  | stop {acts c} (h : Run all acts c) : Run all (acts ++ [.stop]) c.stop

theorem Run.taken_eq {acts : List (Act α)} {c : Cursor all} (h : Run all acts c) :
    c.taken = collected acts := by
  induction h with
  | start => rfl
  | @pull acts c h ih =>
    rw [collected_snoc, ← ih]
    cases hl : c.left with
    | nil => rw [pull_of_nil hl]; exact (List.append_nil _).symm
    | cons a l =>
      obtain ⟨hout, htaken, -⟩ := pull_of_cons hl
      rw [hout, htaken]; rfl
  | refuse h ih => rw [collected_snoc, ← ih]; exact (List.append_nil _).symm
  | rewind h ih => rw [collected_snoc]; rfl
  | stop h ih => rw [collected_snoc, ← ih]; rfl

/-- **What was handed out** since the last rewind is a prefix of the list. -/
theorem Run.collected_prefix {acts : List (Act α)} {c : Cursor all} (h : Run all acts c) :
    collected acts <+: all := by
  rw [← h.taken_eq]
  exact (List.prefix_append _ _).trans c.isPrefix

/-- Where an element stands in a list with one more at the end. -/
theorem snoc_eq_split {β : Type} {l before after : List β} {x a : β}
    (h : l ++ [x] = before ++ a :: after) :
    (after = [] ∧ l = before ∧ x = a) ∨ ∃ after', after = after' ++ [x] ∧ l = before ++ a :: after' := by
  rcases List.eq_nil_or_concat after with rfl | ⟨after', y, rfl⟩
  · obtain ⟨hl, hx⟩ := List.append_inj' h rfl
    exact .inl ⟨rfl, hl, List.singleton_inj.mp hx⟩
  · rw [List.concat_eq_append, ← List.cons_append, ← List.append_assoc] at h
    obtain ⟨hl, hx⟩ := List.append_inj' h rfl
    exact .inr ⟨after', by rw [List.concat_eq_append, hx], hl⟩

/-- A stopped cursor has nothing left until it is rewound. -/
theorem Run.left_eq_nil {acts : List (Act α)} {c : Cursor all} (h : Run all acts c) :
    ∀ before after, acts = before ++ .stop :: after → .rewind ∉ after → c.left = [] := by
  induction h with
  | start => intro before after he; simp at he
  | @pull acts c h ih =>
    intro before after he hmem
    obtain ⟨-, -, hx⟩ | ⟨after', rfl, he'⟩ := snoc_eq_split he
    · cases hx
    · have hnil := ih before after' he' fun h => hmem (List.mem_append_left _ h)
      rw [pull_of_nil hnil]; exact hnil
  | refuse h ih =>
    intro before after he hmem
    obtain ⟨-, -, hx⟩ | ⟨after', rfl, he'⟩ := snoc_eq_split he
    · cases hx
    · exact ih before after' he' fun h => hmem (List.mem_append_left _ h)
  | rewind h ih =>
    intro before after he hmem
    obtain ⟨-, -, hx⟩ | ⟨after', rfl, -⟩ := snoc_eq_split he
    · cases hx
    · exact absurd (List.mem_append_right _ (List.mem_singleton_self _)) hmem
  | stop h ih => intro before after _ _; rfl

/-- Behind a stop nothing is handed out without a rewind in between. -/
def Quiet (acts : List (Act α)) : Prop :=
  ∀ before between a after, acts = before ++ .stop :: (between ++ .pull (some a) :: after) →
    .rewind ∈ between

theorem Quiet.snoc {acts : List (Act α)} (h : Quiet acts) {x : Act α}
    (hx : ∀ before between a, acts = before ++ .stop :: between → x = .pull (some a) →
      .rewind ∈ between) : Quiet (acts ++ [x]) := by
  intro before between a after he
  rw [← List.cons_append, ← List.append_assoc] at he
  obtain ⟨-, he', hxa⟩ | ⟨after', -, he'⟩ := snoc_eq_split he
  · exact hx before between a he' hxa
  · rw [List.append_assoc, List.cons_append] at he'
    exact h before between a after' he'

theorem Run.quiet {acts : List (Act α)} {c : Cursor all} (h : Run all acts c) : Quiet acts := by
  induction h with
  | start => intro before between a after he; simp at he
  | @pull acts c h ih =>
    apply ih.snoc
    intro before between a he hx
    by_contra hmem
    rw [pull_of_nil (h.left_eq_nil before between he hmem)] at hx
    cases hx
  | refuse h ih => exact ih.snoc fun _ _ _ _ hx => by cases hx
  | rewind h ih => exact ih.snoc fun _ _ _ _ hx => by cases hx
  | stop h ih => exact ih.snoc fun _ _ _ _ hx => by cases hx

end Cursor
end DictationClient
