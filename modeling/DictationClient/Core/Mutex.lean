import DictationClient.Core.LTS
import Mathlib.Logic.Function.Basic

/-!
# Calls under a lock

Threads call one procedure on a shared state. Its body runs in small steps while
the thread holds a lock, and returns a result. Operations from outside (`act`)
change the shared state without taking the lock.

The calls are atomic, and take effect in the order of the lock, if an operation
from outside falls only where it can be moved in front of the body or behind it
(`Movers`).

* `exclusive_start`, `exclusive_step`: one thread at a time is in the body.
* `Linearizes`: a history of whole calls that explains a log. Calls keep their
  order; an operation from outside stays where it is, or moves to either side of
  the call it fell into.
* `lin_inductive`, `linearizable`: whenever the lock is free, the log has such a
  history, and it leads to the shared state.
-/
namespace DictationClient

/-- The body of a procedure: a small step moves on, or returns. -/
structure Mutex.Body (σ κ ρ : Type) where
  entry : κ
  step : σ → κ → σ × (κ ⊕ ρ)

namespace Mutex

variable {σ κ ρ ε ι : Type}

/-- Called on `x`, the body gets to `k` with the shared state `x'`. -/
inductive Body.At (b : Body σ κ ρ) (x : σ) : σ → κ → Prop
  | entry : b.At x x b.entry
  | next {x₁ k₁ x₂ k₂} : b.At x x₁ k₁ → b.step x₁ k₁ = (x₂, .inl k₂) → b.At x x₂ k₂

/-- Called on `x`, the body returns `r` and leaves `x'`. -/
def Body.Returns (b : Body σ κ ρ) (x x' : σ) (r : ρ) : Prop :=
  ∃ x₁ k₁, b.At x x₁ k₁ ∧ b.step x₁ k₁ = (x', .inr r)

/-! ## Whole calls -/

inductive Op (ε ρ : Type) where
  | called (r : ρ)
  | outside (e : ε)
  deriving DecidableEq, Repr

section Sequential
variable (b : Body σ κ ρ) (act : ε → σ → σ)

/-- Operations from outside, in order. -/
def actAll (es : List ε) (x : σ) : σ := es.foldl (fun x e => act e x) x

/-- One call after the other leads from `x₀` to `x`. -/
inductive Sequential (x₀ : σ) : List (Op ε ρ) → σ → Prop
  | nil : Sequential x₀ [] x₀
  | outside {t x} (e : ε) : Sequential x₀ t x → Sequential x₀ (t ++ [.outside e]) (act e x)
  | called {t x x' r} : Sequential x₀ t x → b.Returns x x' r → Sequential x₀ (t ++ [.called r]) x'

variable {b act}

theorem actAll_snoc (es : List ε) (e : ε) (x : σ) : actAll act (es ++ [e]) x = act e (actAll act es x) := by
  rw [actAll, List.foldl_append]; rfl

theorem Sequential.outsides {x₀ x : σ} {t : List (Op ε ρ)} (h : Sequential b act x₀ t x)
    (es : List ε) : Sequential b act x₀ (t ++ es.map .outside) (actAll act es x) := by
  induction es generalizing t x with
  | nil => simpa [actAll] using h
  | cons e es ih =>
    have h' := ih (h.outside e)
    rwa [List.append_assoc] at h'

end Sequential

/-! ## Threads -/

inductive Pc (κ ρ : Type) where
  | away
  | inside (k : κ)
  | leaving (r : ρ)
  deriving DecidableEq, Repr

inductive Event (ι ε ρ : Type) where
  | acquired (i : ι)
  | outside (e : ε)
  | released (i : ι) (r : ρ)
  deriving DecidableEq, Repr

structure State (σ κ ρ ε ι : Type) where
  shared : σ
  owner : Option ι
  pc : ι → Pc κ ρ
  log : List (Event ι ε ρ)

inductive Lbl (ε ι : Type) where
  | acquire (i : ι)
  | body (i : ι)
  | release (i : ι)
  | outside (e : ε)
  deriving DecidableEq, Repr

section Model
variable [DecidableEq ι] (b : Body σ κ ρ) (act : ε → σ → σ)

/-- What is left of a small step of thread `i`. -/
def bodyStep (s : State σ κ ρ ε ι) (i : ι) : σ × (κ ⊕ ρ) → State σ κ ρ ε ι
  | (x, .inl k) => { s with shared := x, pc := Function.update s.pc i (.inside k) }
  | (x, .inr r) => { s with shared := x, pc := Function.update s.pc i (.leaving r) }

def step (s : State σ κ ρ ε ι) : Lbl ε ι → Option (State σ κ ρ ε ι)
  | .acquire i =>
    match s.pc i, s.owner with
    | .away, none => some { s with owner := some i, pc := Function.update s.pc i (.inside b.entry),
                                   log := s.log ++ [.acquired i] }
    | _, _ => none
  | .body i =>
    match s.pc i with
    | .inside k => some (bodyStep s i (b.step s.shared k))
    | _ => none
  | .release i =>
    match s.pc i with
    | .leaving r => some { s with owner := none, pc := Function.update s.pc i .away,
                                  log := s.log ++ [.released i r] }
    | _ => none
  | .outside e => some { s with shared := act e s.shared, log := s.log ++ [.outside e] }

def start (x₀ : σ) : State σ κ ρ ε ι :=
  { shared := x₀, owner := none, pc := fun _ => .away, log := [] }

def lts (x₀ : σ) : LTS (State σ κ ρ ε ι) (Lbl ε ι) := LTS.ofFn (· = start x₀) (step b act)

/-- Everything a step can do. -/
inductive Step (s : State σ κ ρ ε ι) : Lbl ε ι → State σ κ ρ ε ι → Prop
  | acquire {i} (hpc : s.pc i = .away) (ho : s.owner = none) :
      Step s (.acquire i) { s with owner := some i, pc := Function.update s.pc i (.inside b.entry),
                                   log := s.log ++ [.acquired i] }
  | next {i k x k'} (hpc : s.pc i = .inside k) (hb : b.step s.shared k = (x, .inl k')) :
      Step s (.body i) { s with shared := x, pc := Function.update s.pc i (.inside k') }
  | returns {i k x r} (hpc : s.pc i = .inside k) (hb : b.step s.shared k = (x, .inr r)) :
      Step s (.body i) { s with shared := x, pc := Function.update s.pc i (.leaving r) }
  | release {i r} (hpc : s.pc i = .leaving r) :
      Step s (.release i) { s with owner := none, pc := Function.update s.pc i .away,
                                   log := s.log ++ [.released i r] }
  | outside (e) : Step s (.outside e) { s with shared := act e s.shared, log := s.log ++ [.outside e] }

variable {b act}

theorem step_cases {s s' : State σ κ ρ ε ι} {l : Lbl ε ι} (h : step b act s l = some s') :
    Step b act s l s' := by
  cases l with
  | acquire i =>
    simp only [step] at h
    split at h
    · rename_i hpc ho; cases h; exact .acquire hpc ho
    · cases h
  | body i =>
    simp only [step] at h
    split at h
    · rename_i k hpc
      rcases hb : b.step s.shared k with ⟨x, k' | r⟩
      · rw [hb] at h; cases h; exact .next hpc hb
      · rw [hb] at h; cases h; exact .returns hpc hb
    · cases h
  | release i =>
    simp only [step] at h
    split at h
    · rename_i r hpc; cases h; exact .release hpc
    · cases h
  | outside e => cases h; exact .outside e

end Model

/-! ## One thread at a time -/

section Safety
variable [DecidableEq ι] {b : Body σ κ ρ} {act : ε → σ → σ}

/-- The owner of the lock is the thread in the body. -/
def Exclusive (s : State σ κ ρ ε ι) : Prop := ∀ i, s.pc i ≠ .away ↔ s.owner = some i

omit [DecidableEq ι] in
theorem Exclusive.unique {s : State σ κ ρ ε ι} (h : Exclusive s) {i j : ι} (hi : s.pc i ≠ .away)
    (hj : s.pc j ≠ .away) : i = j :=
  Option.some.inj (((h i).mp hi).symm.trans ((h j).mp hj))

/-- The owner stays in the body. -/
theorem Exclusive.update {s s' : State σ κ ρ ε ι} (h : Exclusive s) {i : ι} {pc : Pc κ ρ}
    (hi : s.pc i ≠ .away) (hpc : pc ≠ .away) (ho : s'.owner = s.owner)
    (hp : s'.pc = Function.update s.pc i pc) : Exclusive s' := by
  intro j
  rw [hp, ho, Function.update_apply]
  by_cases hji : j = i
  · rw [if_pos hji, hji]
    exact iff_of_true hpc ((h i).mp hi)
  · rw [if_neg hji]
    exact h j

theorem exclusive_step {s s' : State σ κ ρ ε ι} {l : Lbl ε ι} (h : Exclusive s)
    (hst : Step b act s l s') : Exclusive s' := by
  cases hst with
  | @acquire i hpc ho =>
    intro j
    simp only [Function.update_apply]
    by_cases hji : j = i
    · simp [hji]
    · rw [if_neg hji, h j, ho]
      simp [Ne.symm hji]
  | next hpc hb => exact h.update (by simp [hpc]) (by simp) rfl rfl
  | returns hpc hb => exact h.update (by simp [hpc]) (by simp) rfl rfl
  | @release i r hpc =>
    have ho := (h i).mp (by simp [hpc])
    intro j
    simp only [Function.update_apply]
    by_cases hji : j = i
    · simp [hji]
    · rw [if_neg hji, h j, ho]
      simp [Ne.symm hji]
  | outside e => exact h

omit [DecidableEq ι] in
theorem exclusive_start (x₀ : σ) : Exclusive (start x₀ : State σ κ ρ ε ι) := by
  intro i; simp [start]

end Safety

/-! ## Linearization -/

/-- A log explained by whole calls. -/
inductive Linearizes : List (Event ι ε ρ) → List (Op ε ρ) → Prop
  | nil : Linearizes [] []
  | outside {l t} (e : ε) : Linearizes l t → Linearizes (l ++ [.outside e]) (t ++ [.outside e])
  | call {l t} (i : ι) (r : ρ) (before after : List ε) : Linearizes l t →
      Linearizes (l ++ .acquired i :: (before ++ after).map .outside ++ [.released i r])
        (t ++ before.map .outside ++ [.called r] ++ after.map .outside)

/-- The results returned, in the order of the lock. -/
def released (l : List (Event ι ε ρ)) : List ρ :=
  l.filterMap fun
    | .released _ r => some r
    | _ => none

def called (t : List (Op ε ρ)) : List ρ :=
  t.filterMap fun
    | .called r => some r
    | _ => none

@[simp] theorem released_append (l l' : List (Event ι ε ρ)) :
    released (l ++ l') = released l ++ released l' := List.filterMap_append

@[simp] theorem called_append (t t' : List (Op ε ρ)) : called (t ++ t') = called t ++ called t' :=
  List.filterMap_append

@[simp] theorem released_outsides (es : List ε) :
    released (es.map .outside : List (Event ι ε ρ)) = [] := by
  simp [released, List.filterMap_map]

@[simp] theorem called_outsides (es : List ε) : called (es.map .outside : List (Op ε ρ)) = [] := by
  simp [called, List.filterMap_map]

/-- The calls of a history are those of the log, in its order. -/
theorem Linearizes.released_eq {l : List (Event ι ε ρ)} {t : List (Op ε ρ)} (h : Linearizes l t) :
    released l = called t := by
  induction h with
  | nil => rfl
  | outside e h ih =>
    rw [released_append, called_append, ih]; rfl
  | @call l t i r before after h ih =>
    have hcall : released (Event.acquired i :: (before ++ after).map .outside ++ [.released i r] :
        List (Event ι ε ρ)) = [r] := by
      rw [released_append]
      change released ((before ++ after).map .outside) ++ [r] = [r]
      rw [released_outsides, List.nil_append]
    rw [List.append_assoc l, released_append, hcall, ih]
    simp only [called_append, called_outsides, List.append_nil]
    rfl

/-- Where an operation from outside can be moved. `early`: in front of the body;
`late`: behind it. -/
structure Movers (b : Body σ κ ρ) (act : ε → σ → σ) where
  early : κ → Prop
  late : κ → Prop
  early_at : ∀ {e x x' k}, early k → b.At x x' k → b.At (act e x) (act e x') k
  late_step : ∀ {e x k}, late k → b.step (act e x) k = (act e (b.step x k).1, (b.step x k).2)
  late_next : ∀ {x k x' k'}, late k → b.step x k = (x', .inl k') → late k'

section Linearization
variable {b : Body σ κ ρ} {act : ε → σ → σ} (m : Movers b act) {x₀ : σ}

theorem Movers.late_steps {k : κ} {es : List ε} (h : es ≠ [] → m.late k) (x : σ) :
    b.step (actAll act es x) k = (actAll act es (b.step x k).1, (b.step x k).2) := by
  induction es generalizing x with
  | nil => rfl
  | cons e es ih =>
    have hk := h (List.cons_ne_nil e es)
    have hes := ih (fun _ => hk) (act e x)
    rwa [m.late_step hk] at hes

/-- Operations from outside fall only where they can be moved. -/
def Movers.Guard (s : State σ κ ρ ε ι) : Lbl ε ι → Prop
  | .outside _ => ∀ i k, s.pc i = .inside k → m.early k ∨ m.late k
  | _ => True

/-- A call on `x` has come to `pc`, with the operations `before` moved in front of
it and `after` behind it. -/
def Movers.Inside (x : σ) (before after : List ε) (shared : σ) : Pc κ ρ → Prop
  | .away => False
  | .inside k => ∃ x', b.At (actAll act before x) x' k ∧ shared = actAll act after x' ∧
      (after ≠ [] → m.late k)
  | .leaving r => ∃ x', b.Returns (actAll act before x) x' r ∧ shared = actAll act after x'

/-- Thread `i` is in the body; what was logged before is explained by `t`. -/
structure Movers.Open (x₀ : σ) (s : State σ κ ρ ε ι) (i : ι) (l : List (Event ι ε ρ))
    (t : List (Op ε ρ)) (x : σ) (before after : List ε) : Prop where
  log : s.log = l ++ .acquired i :: (before ++ after).map .outside
  explained : Linearizes l t
  sequential : Sequential b act x₀ t x
  inside : m.Inside x before after s.shared (s.pc i)

def Movers.Lin (x₀ : σ) (s : State σ κ ρ ε ι) : Prop :=
  match s.owner with
  | none => ∃ t, Linearizes s.log t ∧ Sequential b act x₀ t s.shared
  | some i => ∃ l t x before after, m.Open x₀ s i l t x before after

/-- The call takes effect when it is over. -/
theorem Movers.Open.closed {m : Movers b act} {s : State σ κ ρ ε ι} {i : ι} {l t x before after r}
    (h : m.Open x₀ s i l t x before after) (hpc : s.pc i = .leaving r) :
    ∃ t', Linearizes (s.log ++ [.released i r]) t' ∧ Sequential b act x₀ t' s.shared := by
  obtain ⟨hlog, hexp, hseq, hin⟩ := h
  rw [hpc] at hin
  obtain ⟨x', hret, hsh⟩ := hin
  refine ⟨_, hlog ▸ hexp.call i r before after, ?_⟩
  rw [hsh]
  exact ((hseq.outsides before).called hret).outsides after

/-- An operation from outside, moved to one of the sides. -/
theorem Movers.Open.outside {m : Movers b act} {s : State σ κ ρ ε ι} {i : ι} {l t x before after}
    (h : m.Open x₀ s i l t x before after) (e : ε)
    (hg : ∀ k, s.pc i = .inside k → m.early k ∨ m.late k) :
    ∃ before' after', m.Open x₀ { s with shared := act e s.shared, log := s.log ++ [.outside e] }
      i l t x before' after' := by
  obtain ⟨hlog, hexp, hseq, hin⟩ := h
  have hbehind : s.log ++ [.outside e] = l ++ .acquired i :: (before ++ (after ++ [e])).map .outside := by
    rw [hlog]; simp
  cases hpc : s.pc i with
  | away => rw [hpc] at hin; exact hin.elim
  | leaving r =>
    rw [hpc] at hin
    obtain ⟨x', hret, hsh⟩ := hin
    refine ⟨before, after ++ [e], hbehind, hexp, hseq, ?_⟩
    simp only [hpc]
    exact ⟨x', hret, by rw [hsh, actAll_snoc]⟩
  | inside k =>
    rw [hpc] at hin
    obtain ⟨x', hat, hsh, hlate⟩ := hin
    by_cases hk : m.late k
    · refine ⟨before, after ++ [e], hbehind, hexp, hseq, ?_⟩
      simp only [hpc]
      exact ⟨x', hat, by rw [hsh, actAll_snoc], fun _ => hk⟩
    · -- nothing has been moved behind the body yet
      obtain rfl : after = [] := by_contra fun hne => hk (hlate hne)
      have hearly := (hg k hpc).resolve_right hk
      refine ⟨before ++ [e], [], ?_, hexp, hseq, ?_⟩
      · rw [hlog]; simp
      · simp only [hpc]
        refine ⟨act e x', ?_, by rw [hsh]; rfl, fun h => absurd rfl h⟩
        rw [actAll_snoc]
        exact m.early_at hearly hat

theorem lin_step [DecidableEq ι] {s s' : State σ κ ρ ε ι} {lbl : Lbl ε ι} (hx : Exclusive s)
    (h : m.Lin x₀ s) (hst : Step b act s lbl s') (hg : m.Guard s lbl) : m.Lin x₀ s' := by
  unfold Movers.Lin at h ⊢
  cases hst with
  | @acquire i hpc ho =>
    rw [ho] at h
    obtain ⟨t, hexp, hseq⟩ := h
    refine ⟨s.log, t, s.shared, [], [], rfl, hexp, hseq, ?_⟩
    simp only [Function.update_self]
    exact ⟨s.shared, .entry, rfl, fun h => absurd rfl h⟩
  | @next i k y k' hpc hb =>
    have ho := (hx i).mp (by simp [hpc])
    simp only [ho] at h ⊢
    obtain ⟨l, t, x, before, after, hlog, hexp, hseq, hin⟩ := h
    rw [hpc] at hin
    obtain ⟨x', hat, hsh, hlate⟩ := hin
    rw [hsh, m.late_steps hlate, Prod.mk.injEq] at hb
    have hstep : b.step x' k = ((b.step x' k).1, .inl k') := Prod.ext rfl hb.2
    refine ⟨l, t, x, before, after, hlog, hexp, hseq, ?_⟩
    simp only [Function.update_self]
    exact ⟨_, hat.next hstep, hb.1.symm, fun hne => m.late_next (hlate hne) hstep⟩
  | @returns i k y r hpc hb =>
    have ho := (hx i).mp (by simp [hpc])
    simp only [ho] at h ⊢
    obtain ⟨l, t, x, before, after, hlog, hexp, hseq, hin⟩ := h
    rw [hpc] at hin
    obtain ⟨x', hat, hsh, hlate⟩ := hin
    rw [hsh, m.late_steps hlate, Prod.mk.injEq] at hb
    refine ⟨l, t, x, before, after, hlog, hexp, hseq, ?_⟩
    simp only [Function.update_self]
    exact ⟨_, ⟨x', k, hat, Prod.ext rfl hb.2⟩, hb.1.symm⟩
  | @release i r hpc =>
    have ho := (hx i).mp (by simp [hpc])
    simp only [ho] at h ⊢
    obtain ⟨l, t, x, before, after, hopen⟩ := h
    exact hopen.closed hpc
  | outside e =>
    cases ho : s.owner with
    | none =>
      simp only [ho] at h ⊢
      obtain ⟨t, hexp, hseq⟩ := h
      exact ⟨_, hexp.outside e, hseq.outside e⟩
    | some i =>
      simp only [ho] at h ⊢
      obtain ⟨l, t, x, before, after, hopen⟩ := h
      obtain ⟨before', after', hopen'⟩ := hopen.outside e fun k hpc => hg i k hpc
      rw [ho] at hopen'
      exact ⟨l, t, x, before', after', hopen'⟩

theorem lin_inductive [DecidableEq ι] :
    ((lts b act x₀).guard m.Guard).Inductive fun s : State σ κ ρ ε ι => Exclusive s ∧ m.Lin x₀ s where
  init := by
    rintro s rfl
    exact ⟨exclusive_start x₀, [], .nil, .nil⟩
  step := by
    rintro s l s' ⟨hx, h⟩ ⟨hst, hg⟩
    exact ⟨exclusive_step hx (step_cases hst), lin_step m hx h (step_cases hst) hg⟩

/-- **Calls are atomic.** Whenever the lock is free, whole calls one after the
other explain the log and the shared state. -/
theorem linearizable [DecidableEq ι] {ls : List (Lbl ε ι)} {s : State σ κ ρ ε ι}
    (hr : ((lts b act x₀).guard m.Guard).Run (start x₀) ls s) (hfree : s.owner = none) :
    ∃ t, Linearizes s.log t ∧ Sequential b act x₀ t s.shared := by
  have h := ((lin_inductive m).run rfl hr).2
  rwa [Movers.Lin, hfree] at h

end Linearization

end Mutex
end DictationClient
