import DictationClient.Core.LTS

/-!
# A streaming call over a network

The client of a bidirectional call is given by itself (`Client`): a step function,
the messages it has put on the stream, and an inbox. `lts` puts it opposite a
server. Each direction is a queue that keeps the order; the server is free in what
it answers and when.

A call ends in one of two ways (`Ending`). The server finishes it, and the client
sees that behind the last response; or it fails: a deadline has passed, the
connection is lost, the server or the client's own library has given it up. A
failure comes at any moment, and takes the responses with it that have not been
delivered. A step of the client knows what it sees of the end (`State.view`), so
that a read past the inbox can wait for it.

* `received_le`: the server has taken in a prefix of what the client sent.
* `alone`: what the client does over the network it does by itself, if all the
  responses, also those to come, are in its inbox from the start. What is proved
  of the client alone carries over.
* `view_of_seen`: what the client has noticed of the end is so.
* `Live.steps_le`, `Live.completes`: given a rank of the client alone and that it
  does not wait for the server before it has half-closed, a server that ends the
  call some time after the half-close makes every run end.
-/
namespace DictationClient

/-- What a client puts on the stream. -/
inductive Link.Item (Q : Type) where
  | message (q : Q)
  | halfClose
  deriving DecidableEq, Repr

/-- How a call has ended. -/
inductive Link.Ending where
  | ok
  | failed
  deriving DecidableEq, Repr

namespace Link

variable {σ ℓ Q R : Type}

def Item.message? : Item Q → Option Q
  | .message q => some q
  | .halfClose => none

theorem Item.filterMap_message? (qs : List Q) :
    (qs.map Item.message ++ [Item.halfClose]).filterMap Item.message? = qs := by
  simp [List.filterMap_map, Item.message?, Function.comp_def]

/-- A part of the stream with the half-close in it is all of it. -/
theorem prefix_with_halfClose {qs : List Q} {items : List (Item Q)} {b : Bool}
    (hp : items <+: qs.map .message ++ if b then [] else [.halfClose]) (hc : .halfClose ∈ items) :
    items = qs.map .message ++ [.halfClose] ∧ b = false := by
  have hno : Item.halfClose ∉ qs.map Item.message := by simp
  cases b with
  | true =>
    rw [if_pos rfl, List.append_nil] at hp
    exact absurd (hp.subset hc) hno
  | false =>
    rw [if_neg (by simp), List.prefix_concat_iff] at hp
    exact ⟨hp.resolve_right fun h => hno (h.subset hc), rfl⟩

theorem filterMap_message?_le (qs : List Q) (b : Bool) :
    (qs.map Item.message ++ if b then [] else [Item.halfClose]).filterMap Item.message? = qs := by
  cases b <;> simp [List.filterMap_map, Item.message?, Function.comp_def]

/-! ## Up to the half-close -/

/-- The stream up to the first half-close. -/
def cut : List (Item Q) → List (Item Q)
  | [] => []
  | .message q :: items => .message q :: cut items
  | .halfClose :: _ => [.halfClose]

theorem cut_le (items : List (Item Q)) : cut items <+: items := by
  induction items with
  | nil => exact List.prefix_rfl
  | cons item items ih =>
    cases item with
    | message q => exact (List.prefix_cons_inj _).mpr ih
    | halfClose => exact ⟨items, rfl⟩

theorem cut_mono {items items' : List (Item Q)} (h : items <+: items') : cut items <+: cut items' := by
  obtain ⟨tl, rfl⟩ := h
  induction items with
  | nil => exact List.nil_prefix
  | cons item items ih =>
    cases item with
    | message q => exact (List.prefix_cons_inj _).mpr ih
    | halfClose => exact List.prefix_rfl

theorem mem_cut {items : List (Item Q)} : .halfClose ∈ cut items ↔ .halfClose ∈ items := by
  induction items with
  | nil => rfl
  | cons item items ih => cases item <;> simp [cut, ih]

theorem length_cut_le (items : List (Item Q)) (item : Item Q) :
    (cut (items ++ [item])).length ≤ (cut items).length + 1 := by
  induction items with
  | nil => cases item <;> simp [cut]
  | cons item' items ih =>
    cases item' with
    | message q => simpa [cut] using ih
    | halfClose => simp [cut]

/-- Nothing is behind a half-close. -/
def ClosedLast (items : List (Item Q)) : Prop :=
  ∀ front, front <+: items → .halfClose ∈ front → front = items

theorem closedLast_cut (items : List (Item Q)) : ClosedLast (cut items) := by
  intro front hp hc
  induction items generalizing front with
  | nil => exact List.prefix_nil.mp hp
  | cons item items ih =>
    cases front with
    | nil => cases hc
    | cons item' front =>
      cases item with
      | halfClose =>
        obtain ⟨rfl, hnil⟩ := List.cons_prefix_cons.mp hp
        rw [List.prefix_nil.mp hnil]; rfl
      | message q =>
        obtain ⟨rfl, htl⟩ := List.cons_prefix_cons.mp hp
        exact congrArg (Item.message q :: ·) (ih front htl (by simpa using hc))

theorem closedLast_messages (qs : List Q) (b : Bool) :
    ClosedLast (qs.map Item.message ++ if b then [] else [Item.halfClose]) := by
  intro front hp hc
  obtain ⟨hall, rfl⟩ := prefix_with_halfClose hp hc
  exact hall

/-! ## The two ends -/

/-- `step` is told what the client sees of the end of the call; while it sees
nothing, responses delivered early change nothing. `deliver` puts responses behind
the inbox. -/
structure Client (σ ℓ Q R : Type) where
  step : Option Ending → σ → ℓ → Option σ
  uplink : σ → List (Item Q)
  deliver : List R → σ → σ
  deliver_nil : ∀ s, deliver [] s = s
  deliver_append : ∀ rs rs' s, deliver (rs ++ rs') s = deliver rs' (deliver rs s)
  uplink_deliver : ∀ rs s, uplink (deliver rs s) = uplink s
  uplink_step : ∀ {v s l s'}, step v s l = some s' → uplink s <+: uplink s'
  step_deliver : ∀ {s l s'} rs, step none s l = some s' →
    step none (deliver rs s) l = some (deliver rs s')

/-- `received`: what the server has taken in; `delivered`: the answers the client
can no longer lose; `inFlight`: those that have not reached it. -/
structure State (σ Q R : Type) where
  client : σ
  received : List (Item Q)
  delivered : List R
  inFlight : List R
  ended : Option Ending
  deriving DecidableEq, Repr

/-- What the server has answered. -/
def State.sent (s : State σ Q R) : List R := s.delivered ++ s.inFlight

/-- What the client sees of the end: its success only behind the last response. -/
def State.view (s : State σ Q R) : Option Ending :=
  if s.ended = some .ok ∧ s.inFlight ≠ [] then none else s.ended

inductive Lbl (ℓ R : Type) where
  | client (l : ℓ)
  | arrive
  | respond (r : R)
  | deliver
  | finish
  | fail
  deriving DecidableEq, Repr

def Lbl.isRespond : Lbl ℓ R → Bool
  | .respond _ => true
  | _ => false

section Model
variable (c : Client σ ℓ Q R)

/-- What was under way when a call failed may still arrive; a server that has
finished takes in nothing more. -/
def step (s : State σ Q R) : Lbl ℓ R → Option (State σ Q R)
  | .client l => (c.step s.view s.client l).map fun client => { s with client }
  | .arrive =>
    if s.ended = some .ok then none
    else match (c.uplink s.client)[s.received.length]? with
      | none => none
      | some item => some { s with received := s.received ++ [item] }
  | .respond r => if s.ended.isSome then none else some { s with inFlight := s.inFlight ++ [r] }
  | .deliver =>
    if s.ended = some .failed then none
    else match s.inFlight with
      | [] => none
      | r :: rs => some { s with client := c.deliver [r] s.client
                                 delivered := s.delivered ++ [r], inFlight := rs }
  | .finish => if s.ended.isSome then none else some { s with ended := some .ok }
  | .fail => if s.view.isSome then none else some { s with ended := some .failed }

def start (s₀ : σ) : State σ Q R :=
  { client := s₀, received := [], delivered := [], inFlight := [], ended := none }

def lts (s₀ : σ) : LTS (State σ Q R) (Lbl ℓ R) := LTS.ofFn (· = start s₀) (step c)

/-- The client by itself, told about the end from outside. -/
def Client.lts (s₀ : σ) : LTS σ (Option Ending × ℓ) := LTS.ofFn (· = s₀) fun s l => c.step l.1 s l.2

/-- Everything a step can do. -/
inductive Step (s : State σ Q R) : Lbl ℓ R → State σ Q R → Prop
  | client {l client} (hst : c.step s.view s.client l = some client) : Step s (.client l) { s with client }
  | arrive {item} (he : s.ended ≠ some .ok) (hi : (c.uplink s.client)[s.received.length]? = some item) :
      Step s .arrive { s with received := s.received ++ [item] }
  | respond (r) (he : s.ended = none) : Step s (.respond r) { s with inFlight := s.inFlight ++ [r] }
  | deliver {r rs} (he : s.ended ≠ some .failed) (hf : s.inFlight = r :: rs) :
      Step s .deliver { s with client := c.deliver [r] s.client
                               delivered := s.delivered ++ [r], inFlight := rs }
  | finish (he : s.ended = none) : Step s .finish { s with ended := some .ok }
  | fail (hv : s.view = none) : Step s .fail { s with ended := some .failed }

variable {c}

theorem step_cases {s s' : State σ Q R} {l : Lbl ℓ R} (h : step c s l = some s') : Step c s l s' := by
  cases l with
  | client l =>
    obtain ⟨client, hst, rfl⟩ := Option.map_eq_some_iff.mp h
    exact .client hst
  | arrive =>
    simp only [step] at h
    split at h
    · cases h
    · rename_i he
      split at h
      · cases h
      · rename_i item hi; cases h; exact .arrive he hi
  | respond r =>
    simp only [step] at h
    split at h
    · cases h
    · rename_i he; cases h; exact .respond r (by simpa using he)
  | deliver =>
    simp only [step] at h
    split at h
    · cases h
    · rename_i he
      split at h
      · cases h
      · rename_i r rs hf; cases h; exact .deliver he hf
  | finish =>
    simp only [step] at h
    split at h
    · cases h
    · rename_i he; cases h; exact .finish (by simpa using he)
  | fail =>
    simp only [step] at h
    split at h
    · cases h
    · rename_i hv; cases h; exact .fail (by simpa using hv)

end Model

/-! ## What the client sees of the end -/

section View
variable {s : State σ Q R}

theorem view_of_open (h : s.ended = none) : s.view = none := by simp [State.view, h]

theorem view_of_inFlight (he : s.ended ≠ some .failed) (hf : s.inFlight ≠ []) : s.view = none := by
  unfold State.view
  by_cases h : s.ended = some .ok
  · rw [if_pos ⟨h, hf⟩]
  · rw [if_neg fun hc => h hc.1]
    cases hd : s.ended with
    | none => rfl
    | some st => cases st <;> simp_all

/-- Behind its success nothing is under way, so the client has everything. -/
theorem view_cases {st : Ending} (h : s.view = some st) :
    s.ended = some st ∧ (st = .ok → s.inFlight = [] ∧ s.delivered = s.sent) := by
  unfold State.view at h
  split at h
  · cases h
  · rename_i hno
    refine ⟨h, ?_⟩
    rintro rfl
    have hnil : s.inFlight = [] := by_contra fun hf => hno ⟨h, hf⟩
    exact ⟨hnil, by rw [State.sent, hnil, List.append_nil]⟩

/-- Once the client has seen the end, it stays as it is. -/
theorem view_step {c : Client σ ℓ Q R} {s' : State σ Q R} {l : Lbl ℓ R} {st : Ending}
    (h : s.view = some st) (hst : Link.step c s l = some s') : s'.view = some st := by
  obtain ⟨he, hok⟩ := view_cases h
  cases step_cases hst with
  | client _ => exact h
  | arrive _ _ => exact h
  | respond r hno => rw [hno] at he; cases he
  | finish hno => rw [hno] at he; cases he
  | fail hv => rw [hv] at h; cases h
  | deliver hnf hf =>
    cases st with
    | failed => exact absurd he hnf
    | ok => rw [(hok rfl).1] at hf; cases hf

end View

/-! ## Safety -/

section Safety
variable {c : Client σ ℓ Q R} {s₀ : σ}

/-- The server has what was put on the stream first. -/
theorem received_le {ls : List (Lbl ℓ R)} {s : State σ Q R}
    (hr : (lts c s₀).Run (start s₀) ls s) : s.received <+: c.uplink s.client := by
  have hind : (lts c s₀).Inductive fun s => s.received <+: c.uplink s.client := by
    refine ⟨by rintro s rfl; exact List.nil_prefix, fun s l s' hi hst => ?_⟩
    cases step_cases hst with
    | client hcl => exact hi.trans (c.uplink_step hcl)
    | arrive _ hitem =>
      obtain ⟨tl, htl⟩ := hi
      rw [← htl, List.getElem?_append_right (Nat.le_refl _), Nat.sub_self] at hitem
      cases tl with
      | nil => cases hitem
      | cons i tl =>
        simp only [List.getElem?_cons_zero, Option.some.injEq] at hitem
        subst hitem
        exact ⟨tl, by rw [← htl, List.append_assoc]; rfl⟩
    | deliver _ _ => rw [c.uplink_deliver]; exact hi
    | respond _ _ | finish _ | fail _ => exact hi
  exact hind.run rfl hr

/-- **The client need not know of the network.** With everything delivered to it, and
whatever may still be if it has not seen the end, in its inbox from the start, the
client alone takes the same steps. -/
theorem alone {ls : List (Lbl ℓ R)} {s : State σ Q R} (hr : (lts c s₀).Run (start s₀) ls s)
    {later : List R} (hlater : s.view ≠ none → later = []) :
    ∃ steps, (c.lts (c.deliver (s.delivered ++ later) s₀)).Run (c.deliver (s.delivered ++ later) s₀)
      steps (c.deliver later s.client) := by
  suffices h : ∀ later, (s.view ≠ none → later = []) → ∀ init, ∃ steps,
      (LTS.ofFn init fun s (l : Option Ending × ℓ) => c.step l.1 s l.2).Run
        (c.deliver (s.delivered ++ later) s₀) steps (c.deliver later s.client) from h later hlater _
  clear hlater later
  induction hr with
  | nil => intro later _ init; exact ⟨[], .nil _⟩
  | @snoc s₂ s₃ ls l _ hst ih =>
    intro later hlater init
    cases step_cases hst with
    | @client l client hcl =>
      obtain ⟨steps, hsteps⟩ := ih later hlater init
      refine ⟨steps ++ [(s₂.view, l)], .snoc hsteps ?_⟩
      change c.step s₂.view (c.deliver later s₂.client) l = some (c.deliver later client)
      cases hv : s₂.view with
      | none => rw [hv] at hcl; exact c.step_deliver later hcl
      | some st =>
        -- the client has seen the end, so nothing is to come
        obtain rfl := hlater (by change s₂.view ≠ none; simp [hv])
        rw [c.deliver_nil, c.deliver_nil, ← hv, hcl]
    | arrive _ _ => exact ih later hlater init
    | respond r he => exact ih later (fun hv => absurd (view_of_open he) hv) init
    | @deliver r rs he hf =>
      have hv : s₂.view = none := view_of_inFlight he (by simp [hf])
      obtain ⟨steps, hsteps⟩ := ih (r :: later) (fun h => absurd hv h) init
      rw [← List.singleton_append, c.deliver_append [r], ← List.append_assoc] at hsteps
      exact ⟨steps, hsteps⟩
    | finish he => exact ih later (fun hv => absurd (view_of_open he) hv) init
    | fail hv => exact ih later (fun h => absurd hv h) init

/-- A fact about the client alone, for the responses delivered to it. -/
theorem invariant_of_run {I : List R → σ → Prop} (h₀ : ∀ rs, I rs (c.deliver rs s₀))
    (hstep : ∀ {rs v s l s'}, I rs s → c.step v s l = some s' → I rs s') {ls : List (Lbl ℓ R)}
    {s : State σ Q R} (hr : (lts c s₀).Run (start s₀) ls s) : I s.delivered s.client := by
  obtain ⟨steps, halone⟩ := alone hr (fun _ => (rfl : ([] : List R) = []))
  rw [List.append_nil, c.deliver_nil] at halone
  have hind : (c.lts (c.deliver s.delivered s₀)).Inductive (I s.delivered) := by
    refine ⟨?_, fun s₁ l s₂ hi hst => hstep hi hst⟩
    rintro _ rfl
    exact h₀ s.delivered
  exact hind.run rfl halone

/-- **What the client has noticed is so.** `P`: the client has seen an end as in `V`. -/
theorem view_of_seen {P : σ → Prop} {V : Ending → Prop} (h₀ : ¬ P s₀)
    (hstep : ∀ {v s l s'}, c.step v s l = some s' → P s' → P s ∨ ∃ st, v = some st ∧ V st)
    (hdeliver : ∀ {rs s}, P (c.deliver rs s) → P s) {ls : List (Lbl ℓ R)} {s : State σ Q R}
    (hr : (lts c s₀).Run (start s₀) ls s) (h : P s.client) : ∃ st, s.view = some st ∧ V st := by
  have hind : (lts c s₀).Inductive fun s => P s.client → ∃ st, s.view = some st ∧ V st := by
    refine ⟨by rintro s rfl hp; exact absurd hp h₀, fun s l s' hi hst hp => ?_⟩
    have hkeep : P s.client → ∃ st, s'.view = some st ∧ V st := fun hp =>
      let ⟨st, hv, hV⟩ := hi hp
      ⟨st, view_step hv hst, hV⟩
    cases step_cases hst with
    | client hcl =>
      rcases hstep hcl hp with hp | ⟨st, hv, hV⟩
      · exact hkeep hp
      · exact ⟨st, hv, hV⟩
    | deliver _ _ => exact hkeep (hdeliver hp)
    | arrive _ _ | respond _ _ | finish _ | fail _ => exact hkeep hp
  exact hind.run rfl hr h

end Safety

/-! ## Every call ends -/

/-- The server finishes the call when it has seen the half-close, and not before. -/
def Patient (s : State σ Q R) : Lbl ℓ R → Prop
  | .finish => .halfClose ∈ s.received
  | _ => True

/-- The runs of a server that has answered what it wants to answer, of a call that
does not fail. -/
def Quiet (s : State σ Q R) (l : Lbl ℓ R) : Prop := Patient s l ∧ l.isRespond = false ∧ l ≠ .fail

/-- The call has not been ended in front of the half-close. -/
def Uncut (s : State σ Q R) : Prop := s.ended = none ∨ .halfClose ∈ s.received

/-- A client that comes to its end: its steps lower `rank`, a response adds `d`, and
it waits for the server only after it has half-closed. `Seen`: it has noticed that
the call has ended. -/
structure Live (c : Client σ ℓ Q R) (I Done Seen : σ → Prop) (rank : σ → Nat) (d : Nat) : Prop where
  step : ∀ {v s l s'}, I s → c.step v s l = some s' → I s'
  deliver : ∀ {s} rs, I s → I (c.deliver rs s)
  rank_step : ∀ {v s l s'}, I s → c.step v s l = some s' → rank s' < rank s
  rank_deliver : ∀ s r, rank (c.deliver [r] s) ≤ rank s + d
  uplink_step : ∀ {v s l s'}, I s → c.step v s l = some s' →
    (c.uplink s').length ≤ (c.uplink s).length + 1
  closedLast : ∀ {s}, I s → ClosedLast (c.uplink s)
  seen_step : ∀ {v s l s'}, c.step v s l = some s' → Seen s' → Seen s ∨ v.isSome = true
  seen_deliver : ∀ {rs s}, Seen (c.deliver rs s) → Seen s
  waits : ∀ {s}, I s → ¬ Done s → ¬ Seen s → .halfClose ∉ c.uplink s →
    ∃ l s', c.step none s l = some s'
  ends : ∀ {s} st, I s → ¬ Done s → ∃ l s', c.step (some st) s l = some s'

section Live
variable {c : Client σ ℓ Q R} {s₀ : σ} {I Done Seen : σ → Prop} {rk : σ → Nat} {d : Nat}

/-- The steps the end of the call has in front of it. -/
def endRank : Option Ending → Nat
  | none => 2
  | some .ok => 1
  | some .failed => 0

/-- Each step of the client counts twice: what it sends has still to arrive. -/
def State.rank (c : Client σ ℓ Q R) (rk : σ → Nat) (d : Nat) (s : State σ Q R) : Nat :=
  2 * rk s.client + ((c.uplink s.client).length - s.received.length) +
    (2 * d + 1) * s.inFlight.length + endRank s.ended

theorem endRank_fail {s : State σ Q R} (hv : s.view = none) : endRank (some .failed) < endRank s.ended := by
  unfold State.view at hv
  split at hv
  · rename_i h; rw [h.1]; decide
  · rw [hv]; decide

theorem Live.rank_step_lt (hl : Live c I Done Seen rk d) {s s' : State σ Q R} {l : Lbl ℓ R}
    (hI : I s.client) (hst : Link.step c s l = some s') (hr : l.isRespond = false) :
    s'.rank c rk d < s.rank c rk d := by
  cases step_cases hst with
  | client hcl =>
    have h₁ := hl.rank_step hI hcl
    have h₂ := hl.uplink_step hI hcl
    simp only [State.rank]
    omega
  | arrive _ hi =>
    have hlt := (List.getElem?_eq_some_iff.mp hi).1
    simp only [State.rank, List.length_append, List.length_singleton]
    omega
  | respond r he => cases hr
  | @deliver r rs _ hf =>
    have hle := hl.rank_deliver s.client r
    simp only [State.rank, c.uplink_deliver, hf, List.length_cons, Nat.mul_succ]
    omega
  | finish he => simp [State.rank, he, endRank]
  | fail hv => exact Nat.add_lt_add_left (endRank_fail hv) _

theorem Live.invariant (hl : Live c I Done Seen rk d) (h₀ : I s₀) {ls : List (Lbl ℓ R)}
    {s : State σ Q R} (hr : (lts c s₀).Run (start s₀) ls s) : I s.client :=
  invariant_of_run (I := fun _ => I) (fun rs => hl.deliver rs h₀) (fun hi hst => hl.step hi hst) hr

/-- **A bound on every run**, in the number of responses. -/
theorem Live.steps_le (hl : Live c I Done Seen rk d) (h₀ : I s₀) (hu : c.uplink s₀ = [])
    {ls : List (Lbl ℓ R)} {s : State σ Q R} (hr : (lts c s₀).Run (start s₀) ls s) :
    ls.length + s.rank c rk d ≤ 2 * rk s₀ + 2 + (2 * d + 2) * s.sent.length := by
  induction hr with
  | nil => simp [State.rank, start, hu, endRank]
  | @snoc s₂ s₃ ls l hr hst ih =>
    have hI := hl.invariant h₀ hr
    rw [List.length_append, List.length_singleton]
    cases hl' : l.isRespond with
    | true =>
      cases step_cases hst with
      | respond r he =>
        simp only [State.rank, State.sent, List.length_append, List.length_singleton, Nat.mul_add] at ih ⊢
        omega
      | client _ | arrive _ _ | deliver _ _ | finish _ | fail _ => cases hl'
    | false =>
      have hlt := hl.rank_step_lt hI hst hl'
      have hsent : s₃.sent = s₂.sent := by
        cases step_cases hst with
        | respond _ _ => cases hl'
        | deliver _ hf => rw [State.sent, State.sent, hf, List.append_assoc]; rfl
        | client _ | arrive _ _ | finish _ | fail _ => rfl
      rw [hsent]
      omega

/-- What the server has with the half-close is all of the stream. -/
theorem Live.received_all (hl : Live c I Done Seen rk d) (h₀ : I s₀) {ls : List (Lbl ℓ R)}
    {s : State σ Q R} (hr : (lts c s₀).Run (start s₀) ls s) (hc : .halfClose ∈ s.received) :
    s.received = c.uplink s.client :=
  hl.closedLast (hl.invariant h₀ hr) _ (received_le hr) hc

/-- While the call goes on, nothing stays under way. -/
theorem arrived_of_stuck {ls : List (Lbl ℓ R)} {s : State σ Q R} (hr : (lts c s₀).Run (start s₀) ls s)
    (hstuck : ((lts c s₀).guard Quiet).Stuck s) (he : s.ended = none) : s.received = c.uplink s.client := by
  obtain ⟨tl, htl⟩ := received_le hr
  cases tl with
  | nil => rw [← htl, List.append_nil]
  | cons i tl =>
    refine absurd ⟨?_, trivial, rfl, by simp⟩ (hstuck .arrive { s with received := s.received ++ [i] })
    change Link.step c s .arrive = _
    simp only [Link.step, he, reduceCtorEq, if_false, ← htl, List.getElem?_append_right (Nat.le_refl _),
      Nat.sub_self, List.getElem?_cons_zero]

/-- Nothing is left to do: the client is done, and unless the call was cut off
everything it sent has arrived. -/
theorem Live.done_of_stuck (hl : Live c I Done Seen rk d) (h₀ : I s₀) (hseen : ¬ Seen s₀)
    {ls : List (Lbl ℓ R)} {s : State σ Q R} (hr : (lts c s₀).Run (start s₀) ls s)
    (hstuck : ((lts c s₀).guard Quiet).Stuck s) :
    Done s.client ∧ (Uncut s → s.received = c.uplink s.client) := by
  have hI := hl.invariant h₀ hr
  refine ⟨by_contra fun hdone => ?_, fun h => h.elim (arrived_of_stuck hr hstuck) (hl.received_all h₀ hr)⟩
  have hclient : ∀ l client, c.step s.view s.client l ≠ some client := by
    intro l client hst
    refine hstuck (.client l) { s with client } ⟨?_, trivial, rfl, by simp⟩
    change Link.step c s (.client l) = _
    rw [Link.step, hst, Option.map_some]
  cases hv : s.view with
  | some st =>
    obtain ⟨l, client, hst⟩ := hl.ends st hI hdone
    exact hclient l client (hv ▸ hst)
  | none =>
    have hnot : ¬ Seen s.client := fun h => by
      obtain ⟨st, hst, -⟩ := view_of_seen (V := fun _ => True) hseen
        (fun hst h => (hl.seen_step hst h).imp_right fun hv => by simpa [Option.isSome_iff_exists] using hv)
        hl.seen_deliver hr h
      rw [hv] at hst; cases hst
    have hclose : .halfClose ∈ c.uplink s.client := by_contra fun hno => by
      obtain ⟨l, client, hst⟩ := hl.waits hI hdone hnot hno
      exact hclient l client (hv ▸ hst)
    cases he : s.ended with
    | none =>
      -- the half-close has arrived, so the server could finish the call
      refine absurd ⟨?_, ?_, rfl, by simp⟩ (hstuck .finish { s with ended := some .ok })
      · change Link.step c s .finish = _
        rw [Link.step, he]; rfl
      · change Item.halfClose ∈ s.received
        rw [arrived_of_stuck hr hstuck he]; exact hclose
    | some st =>
      -- the client has not seen the end, so there are responses under way
      unfold State.view at hv
      split at hv
      · rename_i h
        obtain ⟨r, rs, hf⟩ := List.exists_cons_of_ne_nil h.2
        refine absurd ⟨?_, trivial, rfl, by simp⟩ (hstuck .deliver
          { s with client := c.deliver [r] s.client, delivered := s.delivered ++ [r], inFlight := rs })
        change Link.step c s .deliver = _
        simp only [Link.step, h.1, hf, reduceCtorEq, if_false, Option.some.injEq]
      · rw [he] at hv; cases hv

/-- A call that has not been cut off is not cut off by a patient server. -/
theorem uncut_run {s s' : State σ Q R} {ls : List (Lbl ℓ R)} (h : Uncut s)
    (hr : ((lts c s₀).guard Quiet).Run s ls s') : Uncut s' := by
  induction hr with
  | nil => exact h
  | snoc _ hst ih =>
    obtain ⟨hst, hpatient, -, hfail⟩ := hst
    cases step_cases hst with
    | arrive _ _ => exact ih.imp_right fun hc => List.mem_append_left _ hc
    | finish _ => exact .inr hpatient
    | fail _ => exact absurd rfl hfail
    | client _ | respond _ _ | deliver _ _ => exact ih

/-- **Every call can be brought to its end**, by a server that says no more and
finishes the call after the half-close; and unless the call has been cut off before,
the server then has everything. -/
theorem Live.completes (hl : Live c I Done Seen rk d) (h₀ : I s₀) (hseen : ¬ Seen s₀)
    {ls : List (Lbl ℓ R)} {s : State σ Q R} (hr : (lts c s₀).Run (start s₀) ls s) :
    ∃ ls' s', ((lts c s₀).guard Quiet).Run s ls' s' ∧ Done s'.client ∧
      (Uncut s → s'.received = c.uplink s'.client) := by
  have hstep : ∀ s l s', I s.client → ((lts c s₀).guard Quiet).step s l s' → I s'.client := by
    rintro s l s' hI ⟨hst, -⟩
    cases step_cases hst with
    | client hcl => exact hl.step hI hcl
    | deliver _ _ => exact hl.deliver _ hI
    | arrive _ _ | respond _ _ | finish _ | fail _ => exact hI
  have hrank : ∀ s l s', I s.client → ((lts c s₀).guard Quiet).step s l s' →
      s'.rank c rk d < s.rank c rk d :=
    fun s l s' hI hst => hl.rank_step_lt hI hst.1 hst.2.2.1
  obtain ⟨ls', s', hr', hstuck⟩ := LTS.exists_stuck hstep hrank (hl.invariant h₀ hr)
  obtain ⟨hdone, hall⟩ := hl.done_of_stuck h₀ hseen (hr.append hr'.unguarded) hstuck
  exact ⟨ls', s', hr', hdone, fun hu => hall (uncut_run hu hr')⟩

/-- Until it is done, the client can move, or the network or the server can, without
another response. -/
theorem Live.progress (hl : Live c I Done Seen rk d) (h₀ : I s₀) (hseen : ¬ Seen s₀)
    {ls : List (Lbl ℓ R)} {s : State σ Q R} (hr : (lts c s₀).Run (start s₀) ls s) :
    Done s.client ∨ ∃ l s', ((lts c s₀).guard Quiet).step s l s' := by
  by_cases hstuck : ((lts c s₀).guard Quiet).Stuck s
  · exact .inl (hl.done_of_stuck h₀ hseen hr hstuck).1
  · simp only [LTS.Stuck, not_forall, not_not] at hstuck
    exact .inr hstuck

end Live

end Link
end DictationClient
