import Mathlib.Logic.Function.Basic

/-!
# A flag that is tested and then set

Parties share an object and a flag that is only ever set. A party that wants to
close the object asks whether the flag is down, sets it, and then closes; a party
that wants to act on the object asks whether the flag is down, and then acts.
The question and what follows it are separate steps, so the flag alone does not
order the parties.

* `Allowed`: no party asks in order to close while another has asked and not yet
  set, and no party closes while another has asked and not yet acted.
* `Kept`: what holds while every step is allowed. At rest with the flag up, the
  object was closed exactly once and nobody acted on it afterwards (`Kept.rest`).
* `Spoilt`: what a step that is not allowed leads to (`spoilt_of_not_allowed`).
  No step undoes it (`spoilt_step`), and at rest it shows (`Spoilt.rest`).
-/
namespace DictationClient.CheckThenSet

/-- Where a party stands: `acting` and `asked` have found the flag down. -/
inductive Role where
  | away
  | acting
  | asked
  | closing
  deriving DecidableEq, Repr

def Role.committed : Role → Bool
  | .asked => true
  | .closing => true
  | _ => false

/-- `late`: actions begun after a close. -/
@[ext] structure State (ι : Type) where
  flag : Bool
  role : ι → Role
  closes : Nat
  late : Nat

inductive Act (ι : Type) where
  | skip
  | test (i : ι)
  | act (i : ι)
  | ask (i : ι)
  | set (i : ι)
  | close (i : ι)

variable {ι : Type} [DecidableEq ι]

def State.move (s : State ι) (i : ι) (r : Role) : State ι :=
  { s with role := Function.update s.role i r }

inductive Step (s : State ι) : Act ι → State ι → Prop
  | skip : Step s .skip s
  | test {i} (hr : s.role i = .away) (hf : s.flag = false) : Step s (.test i) (s.move i .acting)
  | act {i} (hr : s.role i = .acting) :
      Step s (.act i) { s.move i .away with late := s.late + if s.closes = 0 then 0 else 1 }
  | ask {i} (hr : s.role i = .away) (hf : s.flag = false) : Step s (.ask i) (s.move i .asked)
  | set {i} (hr : s.role i = .asked) : Step s (.set i) { s.move i .closing with flag := true }
  | close {i} (hr : s.role i = .closing) :
      Step s (.close i) { s.move i .away with closes := s.closes + 1 }

def Allowed (s : State ι) : Act ι → Prop
  | .skip => True
  | .test _ => True
  | .act _ => True
  | .ask _ => ∀ j, s.role j ≠ .asked
  | .set _ => True
  | .close _ => ∀ j, s.role j ≠ .acting

@[simp] theorem move_flag (s : State ι) (i : ι) (r : Role) : (s.move i r).flag = s.flag := rfl

@[simp] theorem move_closes (s : State ι) (i : ι) (r : Role) : (s.move i r).closes = s.closes := rfl

theorem move_role (s : State ι) (i j : ι) (r : Role) :
    (s.move i r).role j = if j = i then r else s.role j := Function.update_apply ..

theorem move_role_of_ne {s : State ι} {i j : ι} {r : Role} (h : j ≠ i) :
    (s.move i r).role j = s.role j := by rw [move_role, if_neg h]

/-! ## Every step allowed -/

structure Kept (s : State ι) : Prop where
  down : s.flag = false → s.closes = 0 ∧ ∀ j, s.role j ≠ .closing
  asker : ∀ i j, s.role i = .asked → s.role j = .asked → i = j
  up : s.flag = true → ∀ j, s.role j ≠ .asked
  closer : ∀ i j, s.role i = .closing → s.role j = .closing → i = j
  open_ : ∀ i, s.role i = .closing → s.closes = 0
  once : s.flag = true → s.closes = 1 ∨ ∃ j, s.role j = .closing
  quiet : s.closes ≠ 0 → ∀ j, s.role j ≠ .acting
  late : s.late = 0

omit [DecidableEq ι] in
theorem Kept.rest {s : State ι} (h : Kept s) (hf : s.flag = true) (hr : ∀ j, s.role j = .away) :
    s.closes = 1 ∧ s.late = 0 := by
  refine ⟨?_, h.late⟩
  rcases h.once hf with h1 | ⟨j, hj⟩
  · exact h1
  · rw [hr j] at hj; cases hj

theorem kept_step {s s' : State ι} {a : Act ι} (h : Kept s) (hst : Step s a s')
    (ha : Allowed s a) : Kept s' := by
  obtain ⟨hd, has, hu, hcl, ho, h1, hq, hl⟩ := h
  cases hst with
  | skip => exact ⟨hd, has, hu, hcl, ho, h1, hq, hl⟩
  | @test i hr hf =>
    -- the flag is down, so nothing has been closed yet
    obtain ⟨h0, hn⟩ := hd hf
    refine ⟨?_, ?_, ?_, ?_, ?_, ?_, ?_, hl⟩ <;> grind [move_role, move_flag, move_closes]
  | @act i hr =>
    -- somebody is acting, so nothing has been closed yet
    have h0 : s.closes = 0 := by_contra fun h => hq h i hr
    refine ⟨?_, ?_, ?_, ?_, ?_, fun h => .inr ?_, ?_, by simp [h0, hl]⟩
    case refine_6 =>
      obtain ⟨j, hj⟩ := (h1 h).resolve_left (by omega)
      have hji : j ≠ i := ne_of_apply_ne s.role (by simp [hr, hj])
      exact ⟨j, (move_role_of_ne hji).trans hj⟩
    all_goals grind [move_role, move_flag, move_closes]
  | @ask i hr hf =>
    -- allowed: nobody else has asked, so `i` is the only one
    obtain ⟨h0, hn⟩ := hd hf
    unfold Allowed at ha
    refine ⟨?_, ?_, ?_, ?_, ?_, ?_, ?_, hl⟩ <;> grind [move_role, move_flag, move_closes]
  | @set i hr =>
    -- `i` is the only one that has asked, so afterwards nobody has
    have hf : s.flag = false := Bool.eq_false_iff.mpr fun h => hu h i hr
    obtain ⟨h0, hn⟩ := hd hf
    refine ⟨?_, ?_, ?_, ?_, ?_, fun _ => .inr ⟨i, by simp [move_role]⟩, ?_, hl⟩ <;>
      grind [move_role, move_closes]
  | @close i hr =>
    -- allowed: nobody is acting, and `i` is the only one closing
    have h0 := ho i hr
    unfold Allowed at ha
    refine ⟨?_, ?_, ?_, ?_, ?_, fun _ => .inl (by simp [h0]), ?_, hl⟩ <;> grind [move_role, move_flag]

/-! ## A step that is not allowed -/

/-- Two closes made or bound to be made, or an action made or bound to be made
behind a close. -/
inductive Spoilt (s : State ι) : Prop
  | twice (h : 2 ≤ s.closes)
  | again (i : ι) (h : s.closes ≠ 0) (hi : (s.role i).committed = true)
  | both (i j : ι) (hne : i ≠ j) (hi : (s.role i).committed = true) (hj : (s.role j).committed = true)
  | late (h : s.late ≠ 0)
  | pending (i : ι) (h : s.closes ≠ 0) (hi : s.role i = .acting)

omit [DecidableEq ι] in
theorem Spoilt.rest {s : State ι} (h : Spoilt s) (hr : ∀ j, s.role j = .away) :
    s.closes ≠ 1 ∨ s.late ≠ 0 := by
  cases h with
  | twice h => left; omega
  | again i h hi => rw [hr i] at hi; cases hi
  | both i j hne hi hj => rw [hr i] at hi; cases hi
  | late h => exact .inr h
  | pending i h hi => rw [hr i] at hi; cases hi

theorem spoilt_of_not_allowed {s s' : State ι} {a : Act ι} (hst : Step s a s')
    (ha : ¬ Allowed s a) : Spoilt s' := by
  cases hst <;> simp only [Allowed, not_true_eq_false, ne_eq, not_forall, not_not] at ha
  case ask i hr hf =>
    obtain ⟨j, hj⟩ := ha
    have hji : j ≠ i := ne_of_apply_ne s.role (by simp [hr, hj])
    exact .both i j hji.symm (by simp [move_role, Role.committed])
      (by simp [move_role, hji, hj, Role.committed])
  case close i hr =>
    obtain ⟨j, hj⟩ := ha
    have hji : j ≠ i := ne_of_apply_ne s.role (by simp [hr, hj])
    exact .pending j (Nat.succ_ne_zero _) ((move_role_of_ne hji).trans hj)

theorem closes_le {s s' : State ι} {a : Act ι} (hst : Step s a s') : s.closes ≤ s'.closes := by
  cases hst <;> first | exact Nat.le_refl _ | exact Nat.le_succ _

theorem late_le {s s' : State ι} {a : Act ι} (hst : Step s a s') : s.late ≤ s'.late := by
  cases hst <;> first | exact Nat.le_refl _ | exact Nat.le_add_right _ _

/-- A party that has asked closes in the end. -/
theorem committed_step {s s' : State ι} {a : Act ι} {i : ι} (hst : Step s a s')
    (hi : (s.role i).committed = true) :
    (s'.role i).committed = true ∨ (s'.closes = s.closes + 1 ∧ ∀ j, j ≠ i → s'.role j = s.role j) := by
  cases hst with
  | skip => exact .inl hi
  | @test j hr hf | @act j hr | @ask j hr hf =>
    have hji : i ≠ j := by intro e; rw [e, hr] at hi; cases hi
    left; simpa [move_role, hji] using hi
  | @set j hr =>
    left; simp only [move_role]
    split
    · rfl
    · exact hi
  | @close j hr =>
    by_cases hji : i = j
    · subst hji; exact .inr ⟨rfl, fun k hk => move_role_of_ne hk⟩
    · left; simpa [move_role, hji] using hi

/-- A party that has decided to act does so in the end. -/
theorem acting_step {s s' : State ι} {a : Act ι} {i : ι} (hst : Step s a s')
    (hi : s.role i = .acting) :
    s'.role i = .acting ∨ s'.late = s.late + if s.closes = 0 then 0 else 1 := by
  cases hst with
  | skip => exact .inl hi
  | @test j hr hf | @ask j hr hf | @set j hr | @close j hr =>
    have hji : i ≠ j := ne_of_apply_ne s.role (by simp [hr, hi])
    left; simpa [move_role, hji] using hi
  | @act j hr =>
    by_cases hji : i = j
    · exact .inr rfl
    · left; simpa [move_role, hji] using hi

theorem spoilt_step {s s' : State ι} {a : Act ι} (h : Spoilt s) (hst : Step s a s') : Spoilt s' := by
  have hc := closes_le hst
  have hl := late_le hst
  cases h with
  | twice h => exact .twice (by omega)
  | again i h hi =>
    rcases committed_step hst hi with hi' | ⟨hc', -⟩
    · exact .again i (by omega) hi'
    · exact .twice (by omega)
  | both i j hne hi hj =>
    rcases committed_step hst hi with hi' | ⟨hc', hoth⟩
    · rcases committed_step hst hj with hj' | ⟨hc', -⟩
      · exact .both i j hne hi' hj'
      · exact .again i (by omega) hi'
    · exact .again j (by omega) (by rw [hoth j hne.symm]; exact hj)
  | late h => exact .late (by omega)
  | pending i h hi =>
    rcases acting_step hst hi with hi' | hl'
    · exact .pending i (by omega) hi'
    · rw [if_neg h] at hl'; exact .late (by omega)

end DictationClient.CheckThenSet
