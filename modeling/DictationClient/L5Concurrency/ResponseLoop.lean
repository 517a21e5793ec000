import DictationClient.Core.Link
import DictationClient.L4App.StreamingRecognizer

/-!
# The thread that walks the responses

`recognize_audio_content` reads the responses as they come in, and closes the audio
stream on an error or a speech event. `step` says what one turn does and whether it
closes the stream, which is up to the source of the audio. With no response to read
the loop waits; where the call has ended, it returns, or raises `grpc.RpcError` for a
call that has failed.

* `Looped`: the loop has done what `recognizeAudioContent` does.
* `outcome_cases`: how the call can end for its caller.
-/
namespace DictationClient.L5.ResponseLoop

open DictationClient.Api DictationClient.L3.PyConfig DictationClient.L4
open Link (Ending)

/-- `incoming`: the responses delivered and not yet read; `outcome`: what
`recognize_audio_content` has returned or raised. -/
structure State (F : Type) where
  incoming : List (StreamingRecognizeResponse F)
  loop : LoopState F
  outcome : Option (Except PyErr (List (Entry F)))

section Model
variable {F : Type} [One F] [LT F] [DecidableLT F] (settings : DictationSettings)

/-- One turn of `for recognition in recognitions`, or what is behind the last one;
`v` is what the iterator sees of the end of the call.
mirrors python/service/streaming_recognizer.py:76-129 -/
def step (v : Option Ending) (s : State F) : Option (State F × Bool) :=
  match s.outcome, s.incoming with
  | some _, _ => none
  | none, [] =>
    match v with
    | none => none
    | some .ok => some ({ s with outcome := some (.ok s.loop.results) }, false)
    | some .failed => some ({ s with outcome := some (.error .rpcError) }, false)
  | none, r :: rs =>
    match onResponse settings s.loop r with
    | .error e => some ({ s with incoming := rs, outcome := some (.error e) }, false)
    | .ok loop => some ({ s with incoming := rs, loop }, decide (loop.closes ≠ s.loop.closes))

def start : State F := { incoming := [], loop := { results := [], closes := 0 }, outcome := none }

def State.deliver (rs : List (StreamingRecognizeResponse F)) (s : State F) : State F :=
  { s with incoming := s.incoming ++ rs }

/-- How often the loop has called `close()`. -/
def State.closes (s : State F) : Nat := s.loop.closes

/-- Everything a step can do. -/
inductive Step (v : Option Ending) (s : State F) : State F × Bool → Prop
  | returns (ho : s.outcome = none) (hin : s.incoming = []) (hv : v = some .ok) :
      Step v s ({ s with outcome := some (.ok s.loop.results) }, false)
  | fails (ho : s.outcome = none) (hin : s.incoming = []) (hv : v = some .failed) :
      Step v s ({ s with outcome := some (.error .rpcError) }, false)
  | raises {r rs e} (ho : s.outcome = none) (hin : s.incoming = r :: rs)
      (hst : onResponse settings s.loop r = .error e) :
      Step v s ({ s with incoming := rs, outcome := some (.error e) }, false)
  | handles {r rs loop} (ho : s.outcome = none) (hin : s.incoming = r :: rs)
      (hst : onResponse settings s.loop r = .ok loop) :
      Step v s ({ s with incoming := rs, loop }, decide (loop.closes ≠ s.loop.closes))

variable {settings}

theorem step_cases {v : Option Ending} {s : State F} {out : State F × Bool}
    (h : step settings v s = some out) : Step settings v s out := by
  unfold step at h
  split at h
  · cases h
  · rename_i ho hin
    split at h
    · cases h
    · cases h; exact .returns ho hin rfl
    · cases h; exact .fails ho hin rfl
  · rename_i r rs ho hin
    split at h
    · rename_i e hst; cases h; exact .raises ho hin hst
    · rename_i loop hst; cases h; exact .handles ho hin hst

/-- Behind the end of the call the loop does not wait. -/
theorem isSome_step {s : State F} (ho : s.outcome = none) (st : Ending) :
    (step settings (some st) s).isSome = true := by
  unfold step
  rw [ho]
  cases s.incoming with
  | nil => cases st <;> rfl
  | cons r rs => simp only; split <;> rfl

theorem step_deliver {s s' : State F} {closes : Bool} (rs : List (StreamingRecognizeResponse F))
    (h : step settings none s = some (s', closes)) :
    step settings none (s.deliver rs) = some (s'.deliver rs, closes) := by
  cases step_cases h with
  | returns ho hin hv | fails ho hin hv => cases hv
  | raises ho hin hst | handles ho hin hst =>
    simp only [step, State.deliver, ho, hin, List.cons_append, hst]

/-- A step closes the stream, or has left the number of `close()` calls as it was. -/
theorem closes_step {v : Option Ending} {s s' : State F} {closes : Bool}
    (h : step settings v s = some (s', closes)) :
    (closes = false ∧ s'.closes = s.closes) ∨ (closes = true ∧ s'.closes ≠ s.closes) := by
  cases step_cases h with
  | returns ho hin hv | fails ho hin hv | raises ho hin hst => exact .inl ⟨rfl, rfl⟩
  | @handles r rs loop ho hin hst =>
    by_cases hc : loop.closes = s.loop.closes
    · exact .inl ⟨decide_eq_false (not_not.mpr hc), hc⟩
    · exact .inr ⟨decide_eq_true hc, hc⟩

/-- No response lowers the number of `close()` calls. -/
theorem closes_mono {v : Option Ending} {s s' : State F} {closes : Bool}
    (h : step settings v s = some (s', closes)) : s.closes ≤ s'.closes := by
  cases step_cases h with
  | returns ho hin hv | fails ho hin hv | raises ho hin hst => exact Nat.le_refl _
  | @handles r rs loop ho hin hst => exact closes_le_of_onResponse hst

def State.rank (s : State F) : Nat := s.incoming.length + s.outcome.isNone.toNat

theorem rank_step {v : Option Ending} {s s' : State F} {closes : Bool}
    (h : step settings v s = some (s', closes)) : s'.rank < s.rank := by
  cases step_cases h with
  | returns ho hin hv | fails ho hin hv => simp [State.rank, ho]
  | raises ho hin hst =>
    simp only [State.rank, ho, hin, List.length_cons, Option.isNone_none, Option.isNone_some,
      Bool.toNat_true, Bool.toNat_false]
    omega
  | handles ho hin hst => simp [State.rank, ho, hin]

omit [One F] [LT F] [DecidableLT F] in
theorem rank_deliver (s : State F) (r : StreamingRecognizeResponse F) :
    (s.deliver [r]).rank = s.rank + 1 := by
  simp only [State.rank, State.deliver, List.length_append, List.length_singleton]
  omega

/-! ## What the loop has done -/

/-- The responses up to the inbox have been handled; unless the call has failed, what
was returned or raised is what `recognizeAudioContent` returns or raises on all of
them. -/
def Looped (settings : DictationSettings) (responses : List (StreamingRecognizeResponse F))
    (s : State F) : Prop :=
  match s.outcome with
  | none => ∃ read, responses = read ++ s.incoming ∧
      read.foldlM (onResponse settings) { results := [], closes := 0 } = .ok s.loop
  | some out => out = .error .rpcError ∨ out = recognizeAudioContent (fun _ => responses) settings

variable {responses : List (StreamingRecognizeResponse F)}

theorem looped_start : Looped settings responses (start.deliver responses) := ⟨[], rfl, rfl⟩

theorem looped_step {v : Option Ending} {s s' : State F} {closes : Bool}
    (hi : Looped settings responses s) (h : step settings v s = some (s', closes)) :
    Looped settings responses s' := by
  unfold Looped at hi ⊢
  cases step_cases h with
  | returns ho hin hv =>
    rw [ho] at hi
    obtain ⟨read, hresp, hfold⟩ := hi
    rw [hin, List.append_nil] at hresp
    refine .inr ?_
    rw [recognizeAudioContent, hresp, hfold]; rfl
  | fails ho hin hv => exact .inl rfl
  | @raises r rs e ho hin hr =>
    rw [ho] at hi
    obtain ⟨read, hresp, hfold⟩ := hi
    refine .inr ?_
    rw [recognizeAudioContent, hresp, hin, List.foldlM_append, hfold]
    change _ = (List.foldlM (onResponse settings) s.loop (r :: rs)).bind _
    rw [List.foldlM_cons, hr]; rfl
  | @handles r rs loop ho hin hr =>
    rw [ho] at hi
    obtain ⟨read, hresp, hfold⟩ := hi
    simp only [ho]
    refine ⟨read ++ [r], by rw [hresp, hin, List.append_assoc]; rfl, ?_⟩
    rw [List.foldlM_append, hfold]
    change List.foldlM (onResponse settings) s.loop [r] = _
    rw [List.foldlM_cons, hr]; rfl

/-! ## How the call ends -/

/-- What a call that has ended can have returned or raised: the results of all that the
server has sent, if it has finished the call; an `RpcError`, if the call has failed; or
what one of the responses delivered made the loop raise. -/
def Outcome (settings : DictationSettings) (ended : Option Ending)
    (sent delivered : List (StreamingRecognizeResponse F)) (out : Except PyErr (List (Entry F))) : Prop :=
  (ended = some .ok ∧ out = recognizeAudioContent (fun _ => sent) settings) ∨
  (ended = some .failed ∧ out = .error .rpcError) ∨
  (∃ e, out = .error e) ∧ out = recognizeAudioContent (fun _ => delivered) settings

/-- A return shows the end of the call. -/
theorem returned_step {v : Option Ending} {s s' : State F} {closes : Bool}
    (h : step settings v s = some (s', closes)) {entries : List (Entry F)}
    (ho : s'.outcome = some (.ok entries)) : v = some .ok := by
  cases step_cases h with
  | returns ho hin hv => exact hv
  | fails ho' hin hv | raises ho' hin hst => cases ho
  | handles ho' hin hst => rw [show _ = none from ho'] at ho; cases ho

/-- So does an `RpcError`: no response makes the loop raise one. -/
theorem failed_step {v : Option Ending} {s s' : State F} {closes : Bool}
    (h : step settings v s = some (s', closes)) (ho : s'.outcome = some (.error .rpcError)) :
    v = some .failed := by
  cases step_cases h with
  | returns ho' hin hv => cases ho
  | fails ho hin hv => exact hv
  | raises ho' hin hst =>
    cases ho
    cases eq_of_onResponse_error hst
  | handles ho' hin hst => rw [show _ = none from ho'] at ho; cases ho

end Model

/-! ## In a client -/

section Client
variable {F : Type} [One F] [LT F] [DecidableLT F] {settings : DictationSettings}
  {σ ℓ Q : Type} {c : Link.Client σ ℓ Q (StreamingRecognizeResponse F)} {loop : σ → State F}

/-- The loop is a thread of the client `c`: its steps are those of `step`, and the
responses go to its inbox. -/
structure Runs (settings : DictationSettings) (c : Link.Client σ ℓ Q (StreamingRecognizeResponse F))
    (loop : σ → State F) (s₀ : σ) : Prop where
  start : loop s₀ = start
  step : ∀ {v s l s'}, c.step v s l = some s' →
    loop s' = loop s ∨ ∃ closes, ResponseLoop.step settings v (loop s) = some (loop s', closes)
  deliver : ∀ {rs s}, loop (c.deliver rs s) = (loop s).deliver rs

variable {s₀ : σ}

section Run
variable {ls : List (Link.Lbl ℓ (StreamingRecognizeResponse F))}
  {s : Link.State σ Q (StreamingRecognizeResponse F)}
  (h : Runs settings c loop s₀) (hr : (Link.lts c s₀).Run (Link.start s₀) ls s)

include h hr

theorem looped_of_run : Looped settings s.delivered (loop s.client) := by
  refine Link.invariant_of_run (I := fun rs s => Looped settings rs (loop s)) (fun rs => ?_)
    (fun hi hst => ?_) hr
  · rw [h.deliver, h.start]; exact looped_start
  · rcases h.step hst with heq | ⟨closes, hloop⟩
    · rw [heq]; exact hi
    · exact looped_step hi hloop

/-- An outcome that only comes with the end `st` has come with it. -/
theorem view_of_outcome {out : Except PyErr (List (Entry F))} {st : Ending}
    (hout : ∀ {v s s' closes}, ResponseLoop.step settings v s = some (s', closes) →
      s'.outcome = some out → v = some st)
    (ho : (loop s.client).outcome = some out) : s.view = some st := by
  have hstep : ∀ {v s l s'}, c.step v s l = some s' → (loop s').outcome = some out →
      (loop s).outcome = some out ∨ ∃ st', v = some st' ∧ st' = st := by
    intro v s l s' hst hp
    rcases h.step hst with heq | ⟨closes, hloop⟩
    · exact .inl (heq ▸ hp)
    · exact .inr ⟨st, hout hloop hp, rfl⟩
  obtain ⟨st', hv, rfl⟩ := Link.view_of_seen (P := fun s => (loop s).outcome = some out) (V := (· = st))
    (by rw [h.start]; simp [ResponseLoop.start]) hstep (fun hp => by rwa [h.deliver] at hp) hr ho
  exact hv

/-- **What the caller gets**, in any run. -/
theorem outcome_cases {out : Except PyErr (List (Entry F))} (ho : (loop s.client).outcome = some out) :
    Outcome settings s.ended s.sent s.delivered out := by
  have hlooped := looped_of_run h hr
  rw [Looped, ho] at hlooped
  cases out with
  | ok entries =>
    obtain ⟨he, hall⟩ := Link.view_cases (view_of_outcome h hr (fun hst ho => returned_step hst ho) ho)
    refine .inl ⟨he, ?_⟩
    rw [← (hall rfl).2]
    exact hlooped.resolve_left (by simp)
  | error e =>
    by_cases he : e = .rpcError
    · subst he
      exact .inr (.inl ⟨(Link.view_cases (view_of_outcome h hr failed_step ho)).1, rfl⟩)
    · exact .inr (.inr ⟨⟨e, rfl⟩, hlooped.resolve_left (by simpa using he)⟩)

end Run

end Client

end DictationClient.L5.ResponseLoop
