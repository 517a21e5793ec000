import DictationClient.Core.Mutex
import DictationClient.L3Protocol.RequestIterator
import DictationClient.L5Concurrency.CloseRace

/-!
# `RequestIterator` and its lock

"Thread-safe request iterator": `__next__` runs under a `threading.Lock`, from the
choice between the two builders to the return of the generator. Any number of
threads may call it; `close()` on the audio stream does not take the lock.

A step is a read or write of the shared state (`IterPc`), with the generator's
steps those of `CloseRace`, and the sleep in front of the `yield`, which can raise.

* `reached_of_at`, `next_of_returns`: what the body has done by each step; run
  without interference it is `RequestIterator.next`.
* `movers`: where `close()` can be moved aside. Between the test of a generator's
  loop condition and its store of the index it cannot.
* `atomic`: so every run whose `close()` calls stay out of there is explained by
  a list of whole operations.
* `audio_in_order`: what all threads together get is the protocol of one.
-/
namespace DictationClient.L5.LockedIterator

open DictationClient.Api DictationClient.L2 DictationClient.L3 DictationClient.L3.PyConfig
open CloseRace (GenPc)
open SharedCursor (sleep sleep_of_nonneg sleep_of_neg)
open RequestIterator (Reply)

/-- Where a call stands.
mirrors python/service/streaming_recognizer.py:31-48 -/
inductive IterPc where
  | dispatch
  | build
  | setFlag (req : StreamingRecognizeRequest)
  | resume
  | generator (pc : GenPc)
  deriving DecidableEq, Repr

/-- mirrors python/utils/audio_stream.py:60-68 -/
def generatorStep (it : RequestIterator) : GenPc → RequestIterator × (IterPc ⊕ Reply)
  | .test =>
    if it.audioStream.dataIndex < it.audioStream.audio.length then (it, .inl (.generator .readEnd))
    else ({ it with audioGenerator := { finished := true } }, .inr (.error .stopIteration))
  | .readEnd => (it, .inl (.generator (.slice (it.audioStream.endSample it.audioStream.dataIndex))))
  | .slice e =>
    (it, .inl (.generator (.store e (pySlice it.audioStream.audio it.audioStream.dataIndex e))))
  | .store e data =>
    ({ it with audioStream := { it.audioStream with dataIndex := e } }, .inl (.generator (.yield data)))
  | .yield data =>
    match sleep it.delay with
    | .ok () => (it, .inr (.ok (.audioContent data)))
    | .error e => ({ it with audioGenerator := { finished := true } }, .inr (.error e))
  | .done => (it, .inr (.error .stopIteration))

/-- mirrors python/service/streaming_recognizer.py:31-48 -/
def bodyStep (it : RequestIterator) : IterPc → RequestIterator × (IterPc ⊕ Reply)
  | .dispatch => (it, .inl (if it.isInitialRequest then .build else .resume))
  | .build =>
    match buildConfigurationRequest it.audioStream.frameRate it.settings with
    | .ok req => (it, .inl (.setFlag req))
    | .error e => (it, .inr (.error e))
  | .setFlag req => ({ it with isInitialRequest := false }, .inr (.ok req))
  | .resume =>
    if it.audioGenerator.finished then (it, .inr (.error .stopIteration))
    else (it, .inl (.generator .test))
  | .generator pc => generatorStep it pc

/-- `with self.lock: return self.request_builder[self.is_initial_request]()` -/
def body : Mutex.Body RequestIterator IterPc Reply where
  entry := .dispatch
  step := bodyStep

/-- `audio_stream.close()`, by a thread without the lock. -/
def close (_ : Unit) (it : RequestIterator) : RequestIterator := it.close

/-! ## The body without interference -/

/-- What a call on `it` has done when it stands at a step. -/
def Reached (it it' : RequestIterator) : IterPc → Prop
  | .dispatch => it' = it
  | .build => it' = it ∧ it.isInitialRequest = true
  | .setFlag req => it' = it ∧ it.isInitialRequest = true ∧
      buildConfigurationRequest it.audioStream.frameRate it.settings = .ok req
  | .resume => it' = it ∧ it.isInitialRequest = false
  | .generator pc => it.isInitialRequest = false ∧ it.audioGenerator.finished = false ∧
      (pc ≠ .test → it.audioStream.dataIndex < it.audioStream.audio.length) ∧
      match pc with
      | .test => it' = it
      | .readEnd => it' = it
      | .slice e => it' = it ∧ e = it.audioStream.endSample it.audioStream.dataIndex
      | .store e data => it' = it ∧ e = it.audioStream.endSample it.audioStream.dataIndex ∧
          data = pySlice it.audioStream.audio it.audioStream.dataIndex e
      | .yield data => it' = { it with audioStream := { it.audioStream with
            dataIndex := it.audioStream.endSample it.audioStream.dataIndex } } ∧
          data = pySlice it.audioStream.audio it.audioStream.dataIndex
            (it.audioStream.endSample it.audioStream.dataIndex)
      | .done => False

/-- At the `yield` a call returns. -/
theorem step_yield (it : RequestIterator) (data : Bytes) :
    (0 ≤ it.delay ∧ bodyStep it (.generator (.yield data)) = (it, .inr (.ok (.audioContent data)))) ∨
    (it.delay < 0 ∧ bodyStep it (.generator (.yield data)) =
      ({ it with audioGenerator := { finished := true } },
        .inr (.error (.valueError "sleep length must be non-negative")))) := by
  simp only [bodyStep, generatorStep]
  rcases Int.lt_or_le it.delay 0 with hd | hd
  · exact .inr ⟨hd, by rw [sleep_of_neg hd]⟩
  · exact .inl ⟨hd, by rw [sleep_of_nonneg hd]⟩

theorem reached_of_at {it it' : RequestIterator} {k : IterPc} (h : body.At it it' k) :
    Reached it it' k := by
  induction h with
  | entry => rfl
  | @next it₁ k₁ it₂ k₂ hat hst ih =>
    have hst' : bodyStep it₁ k₁ = (it₂, .inl k₂) := hst
    cases k₁ with
    | dispatch =>
      obtain rfl := ih
      cases hst'
      cases hi : it₁.isInitialRequest with
      | true => exact ⟨rfl, hi⟩
      | false => exact ⟨rfl, hi⟩
    | build =>
      obtain ⟨rfl, hi⟩ := ih
      cases hb : buildConfigurationRequest it₁.audioStream.frameRate it₁.settings with
      | error e => simp only [bodyStep, hb, Prod.mk.injEq, reduceCtorEq, and_false] at hst'
      | ok req => simp only [bodyStep, hb] at hst'; cases hst'; exact ⟨rfl, hi, hb⟩
    | setFlag req => simp only [bodyStep, Prod.mk.injEq, reduceCtorEq, and_false] at hst'
    | resume =>
      obtain ⟨rfl, hi⟩ := ih
      cases hg : it₁.audioGenerator.finished with
      | true => simp [bodyStep, hg] at hst'
      | false => simp [bodyStep, hg] at hst'; obtain ⟨rfl, rfl⟩ := hst'; exact ⟨hi, hg, by simp, rfl⟩
    | generator pc =>
      obtain ⟨hi, hg, hlt, hpc⟩ := ih
      cases pc with
      | test =>
        obtain rfl := hpc
        by_cases hin : it₁.audioStream.dataIndex < it₁.audioStream.audio.length
        · simp only [bodyStep, generatorStep, if_pos hin] at hst'
          cases hst'; exact ⟨hi, hg, fun _ => hin, rfl⟩
        · simp [bodyStep, generatorStep, if_neg hin] at hst'
      | readEnd => obtain rfl := hpc; cases hst'; exact ⟨hi, hg, fun _ => hlt (by simp), rfl, rfl⟩
      | slice e =>
        obtain ⟨rfl, rfl⟩ := hpc
        cases hst'; exact ⟨hi, hg, fun _ => hlt (by simp), rfl, rfl, rfl⟩
      | store e data =>
        obtain ⟨rfl, rfl, rfl⟩ := hpc
        cases hst'; exact ⟨hi, hg, fun _ => hlt (by simp), rfl, rfl⟩
      | yield data =>
        rcases step_yield it₁ data with ⟨-, hy⟩ | ⟨-, hy⟩ <;> rw [hy] at hst' <;> cases hst'
      | done => exact hpc.elim

/-- **Undisturbed, a call is one `next`.** -/
theorem next_of_returns {it it' : RequestIterator} {r : Reply} (h : body.Returns it it' r) :
    it.next = (r, it') := by
  obtain ⟨it₁, k, hat, hst⟩ := h
  have hk := reached_of_at hat
  have hst' : bodyStep it₁ k = (it', .inr r) := hst
  cases k with
  | dispatch => simp [bodyStep] at hst'
  | build =>
    obtain ⟨rfl, hi⟩ := hk
    cases hb : buildConfigurationRequest it₁.audioStream.frameRate it₁.settings with
    | error e =>
      simp only [bodyStep, hb] at hst'; cases hst'
      exact RequestIterator.next_rejected hb hi
    | ok req => simp [bodyStep, hb] at hst'
  | setFlag req =>
    obtain ⟨rfl, hi, hb⟩ := hk
    cases hst'
    unfold RequestIterator.next RequestIterator.initialRequest
    rw [if_pos hi, hb]
  | resume =>
    obtain ⟨rfl, hi⟩ := hk
    cases hg : it₁.audioGenerator.finished with
    | true =>
      simp only [bodyStep, hg, if_true] at hst'
      cases hst'
      rw [RequestIterator.next_over hi (.inl hg), ← hg]
    | false => simp [bodyStep, hg] at hst'
  | generator pc =>
    obtain ⟨hi, hg, hlt, hpc⟩ := hk
    cases pc with
    | test =>
      obtain rfl := hpc
      by_cases hin : it₁.audioStream.dataIndex < it₁.audioStream.audio.length
      · simp [bodyStep, generatorStep, if_pos hin] at hst'
      · simp only [bodyStep, generatorStep, if_neg hin] at hst'
        cases hst'
        exact RequestIterator.next_over hi (.inr (not_lt.mp hin))
    | readEnd => simp [bodyStep, generatorStep] at hst'
    | slice e => simp [bodyStep, generatorStep] at hst'
    | store e data => simp [bodyStep, generatorStep] at hst'
    | yield data =>
      obtain ⟨rfl, rfl⟩ := hpc
      have hno : ¬ AudioStream.Over it.audioGenerator it.audioStream := by
        rintro (hfin | hpast)
        · rw [hg] at hfin; cases hfin
        · exact absurd (hlt (by simp)) (not_lt.mpr hpast)
      rcases step_yield { it with audioStream := { it.audioStream with
          dataIndex := it.audioStream.endSample it.audioStream.dataIndex } } (pySlice it.audioStream.audio
            it.audioStream.dataIndex (it.audioStream.endSample it.audioStream.dataIndex)) with
        ⟨hd, hy⟩ | ⟨hd, hy⟩
      · rw [hy] at hst'
        cases hst'
        exact ((RequestIterator.next_normal hi (.inl hd)).resolve_right fun h => hno h.1).2
      · rw [hy] at hst'
        cases hst'
        exact RequestIterator.next_impatient hi hd hno
    | done => exact hpc.elim

/-! ## Where `close()` can be moved -/

/-- The index has not been read yet. -/
def IterPc.early : IterPc → Prop
  | .generator pc => pc = .test
  | _ => True

/-- The index is not read or written again. -/
def IterPc.late (k : IterPc) : Prop := ∃ data, k = .generator (.yield data)

/-- Until the index is read, a call has not noticed the `close()`. -/
theorem early_at {it it' : RequestIterator} {k : IterPc} (hk : k.early) (h : body.At it it' k) :
    body.At it.close it'.close k := by
  have hreached := reached_of_at h
  have hfirst : body.At it.close it.close (if it.isInitialRequest then .build else .resume) :=
    .next .entry rfl
  cases k with
  | dispatch => obtain rfl := hreached; exact .entry
  | build =>
    obtain ⟨rfl, hi⟩ := hreached
    rwa [if_pos hi] at hfirst
  | setFlag req =>
    obtain ⟨rfl, hi, hb⟩ := hreached
    rw [if_pos hi] at hfirst
    refine hfirst.next ?_
    change bodyStep it'.close .build = _
    simp only [bodyStep, RequestIterator.close, AudioStream.close, hb]
  | resume =>
    obtain ⟨rfl, hi⟩ := hreached
    rwa [if_neg (by simp [hi])] at hfirst
  | generator pc =>
    obtain rfl := hk
    obtain ⟨hi, hg, -, rfl⟩ := hreached
    rw [if_neg (by simp [hi])] at hfirst
    refine hfirst.next ?_
    change bodyStep it'.close .resume = _
    simp only [bodyStep, RequestIterator.close, hg, Bool.false_eq_true, if_false]

/-- Behind the store, `close()` does not change what the call does. -/
theorem late_step {it : RequestIterator} {k : IterPc} (hk : k.late) :
    bodyStep it.close k = ((bodyStep it k).1.close, (bodyStep it k).2) := by
  obtain ⟨data, rfl⟩ := hk
  rcases step_yield it data with ⟨hd, hy⟩ | ⟨hd, hy⟩
  · rw [hy]
    exact ((step_yield it.close data).resolve_right fun h => absurd h.1 (not_lt.mpr hd)).2
  · rw [hy]
    exact ((step_yield it.close data).resolve_left fun h => absurd hd (not_lt.mpr h.1)).2

/-- `close()` commutes with the steps in front of the reads of the index, and with
those behind the store. -/
def movers : Mutex.Movers body close where
  early := IterPc.early
  late := IterPc.late
  early_at hk h := early_at hk h
  late_step hk := late_step hk
  late_next := by
    rintro it _ it' _ ⟨data, rfl⟩ h
    have h' : bodyStep it (.generator (.yield data)) = (it', .inl _) := h
    rcases step_yield it data with ⟨-, hy⟩ | ⟨-, hy⟩ <;> rw [hy] at h' <;> cases h'

/-! ## Atomicity -/

open RequestIterator (new after trace payloads)

/-- A whole operation of the iterator. -/
def op : RequestIterator.Event → Mutex.Op Unit Reply
  | .called reply => .called reply
  | .closed => .outside ()

theorem ops_of_sequential {it₀ it : RequestIterator} {t : List (Mutex.Op Unit Reply)}
    (h : Mutex.Sequential body close it₀ t it) :
    ∃ ops, t = (trace it₀ ops).map op ∧ after it₀ ops = it := by
  induction h with
  | nil => exact ⟨[], rfl, rfl⟩
  | outside e h ih =>
    obtain ⟨ops, rfl, rfl⟩ := ih
    refine ⟨ops ++ [.close], ?_, ?_⟩
    · rw [RequestIterator.trace_append, List.map_append]; rfl
    · rw [RequestIterator.after_append]; rfl
  | @called t it it' r h hret ih =>
    obtain ⟨ops, rfl, rfl⟩ := ih
    have hn := next_of_returns hret
    refine ⟨ops ++ [.next], ?_, ?_⟩
    · rw [RequestIterator.trace_append, List.map_append, trace, hn]; rfl
    · rw [RequestIterator.after_append, after, hn]; rfl

section Threads
variable {ι : Type} [DecidableEq ι]

/-- The iterator and its threads. -/
abbrev State (ι : Type) := Mutex.State RequestIterator IterPc Reply Unit ι

def lts (it : RequestIterator) : LTS (State ι) (Mutex.Lbl Unit ι) := Mutex.lts body close it

def start (it : RequestIterator) : State ι := Mutex.start it

/-- No `close()` between the test of the loop condition of a generator and its
store of the index. -/
def Guard (s : State ι) (l : Mutex.Lbl Unit ι) : Prop := movers.Guard s l

/-- **Thread safety.** One thread at a time is in the body, so the generator is
never resumed while it runs; and whenever the lock is free, whole operations one
after the other explain what happened. -/
theorem atomic (it₀ : RequestIterator) {ls : List (Mutex.Lbl Unit ι)} {s : State ι}
    (hr : ((lts it₀).guard Guard).Run (start it₀) ls s) :
    (∀ i j, s.pc i ≠ .away → s.pc j ≠ .away → i = j) ∧
    (s.owner = none →
      ∃ ops, Mutex.Linearizes s.log ((trace it₀ ops).map op) ∧ after it₀ ops = s.shared) := by
  have hinv := (Mutex.lin_inductive movers).run rfl hr
  refine ⟨fun i j hi hj => hinv.1.unique hi hj, fun hfree => ?_⟩
  obtain ⟨t, hlin, hseq⟩ := Mutex.linearizable movers hr hfree
  obtain ⟨ops, rfl, hafter⟩ := ops_of_sequential hseq
  exact ⟨ops, hlin, hafter⟩

end Threads

/-! ## The protocol of all threads together -/

/-- One configuration request, the audio `frames`, and `n` times `StopIteration`. -/
def protocol (c : StreamingRecognitionConfig) (frames : List Bytes) (n : Nat) : List Reply :=
  .ok (.streamingConfig c) :: frames.map (fun data => .ok (.audioContent data)) ++
    List.replicate n (.error .stopIteration)

/-- The replies of the calls in `es`. -/
def replies (es : List RequestIterator.Event) : List Reply := Mutex.called (es.map op)

@[simp] theorem replies_called (es : List RequestIterator.Event) (r : Reply) :
    replies (es ++ [.called r]) = replies es ++ [r] := by
  rw [replies, List.map_append, Mutex.called_append]; rfl

@[simp] theorem replies_closed (es : List RequestIterator.Event) :
    replies (es ++ [.closed]) = replies es := by
  rw [replies, List.map_append, Mutex.called_append]; exact List.append_nil _

/-- What has been replied, and what the iterator is left to do. -/
def Shape (c : StreamingRecognitionConfig) (it : RequestIterator)
    (es : List RequestIterator.Event) : Prop :=
  (it.isInitialRequest = true ∧ replies es = [] ∧ payloads es = []) ∨
  (it.isInitialRequest = false ∧ ∃ n, replies es = protocol c (payloads es) n ∧
    (n ≠ 0 → AudioStream.Over it.audioGenerator it.audioStream))

theorem shape_run {st : AudioStream} {delay : Int} {settings : DictationSettings}
    {c : StreamingRecognitionConfig}
    (hcfg : buildConfigurationRequest st.frameRate settings = .ok (.streamingConfig c))
    (hd : RequestIterator.Paced (new st delay settings)) (ops : List RequestIterator.Op) :
    Shape c (after (new st delay settings) ops) (trace (new st delay settings) ops) := by
  refine RequestIterator.run_induction (.inl ⟨rfl, rfl, rfl⟩) ?_ ?_ ops
  · intro ops hshape
    obtain ⟨hst, hp, hset, -, -⟩ := RequestIterator.base_run hcfg hd ops
    generalize after (new st delay settings) ops = it, trace (new st delay settings) ops = es at *
    rcases hshape with ⟨hi, hr, hnil⟩ | ⟨hi, n, hr, hn⟩
    · rw [RequestIterator.next_initial (by rw [hst, hset]; exact hcfg) hi]
      refine .inr ⟨rfl, 0, ?_, fun h => absurd rfl h⟩
      rw [replies_called, hr, RequestIterator.payloads_config, hnil]; rfl
    · rcases RequestIterator.next_normal hi hp with ⟨hno, hnext⟩ | ⟨hov, hnext⟩
      · -- a frame: no call has been turned away yet
        obtain rfl : n = 0 := by_contra fun h => hno (hn h)
        rw [hnext]
        refine .inr ⟨hi, 0, ?_, fun h => absurd rfl h⟩
        rw [replies_called, hr, RequestIterator.payloads_audio]
        simp [protocol]
      · rw [hnext]
        refine .inr ⟨hi, n + 1, ?_, fun _ => .inl rfl⟩
        rw [replies_called, hr, RequestIterator.payloads_error, protocol, protocol, List.append_assoc,
          List.replicate_succ']
  · intro ops hshape
    generalize after (new st delay settings) ops = it, trace (new st delay settings) ops = es at *
    rcases hshape with ⟨hi, hr, hp⟩ | ⟨hi, n, hr, hn⟩
    · exact .inl ⟨hi, by rw [replies_closed, hr], by rw [RequestIterator.payloads_closed, hp]⟩
    · refine .inr ⟨hi, n, ?_, fun _ => RequestIterator.over_close _ _⟩
      rw [replies_closed, RequestIterator.payloads_closed, hr]

/-- **Any number of threads, one stream.** Whenever the lock is free, what the
threads were given, in the order of the lock, is one configuration request with
the rate of the stream, leading frames of the audio, and then `StopIteration`; if
no `close()` fell between a generator's test and its store. -/
theorem audio_in_order {ι : Type} [DecidableEq ι] {st : AudioStream} {delay : Int} (hd : 0 ≤ delay)
    {settings : DictationSettings} (hset : settings.Fits) (hrate : FitsInt32 st.frameRate)
    (hs : 0 < st.frameSamplesSize)
    {ls : List (Mutex.Lbl Unit ι)} {s : State ι}
    (hr : ((lts (new st.enter delay settings)).guard Guard).Run (start (new st.enter delay settings)) ls s)
    (hfree : s.owner = none) :
    Mutex.released s.log = [] ∨ ∃ c k n, c.config.sampleRateHertz.toInt = st.frameRate ∧
      Mutex.released s.log = protocol c ((chunks st.frameSamplesSize.toNat st.audio).take k) n := by
  obtain ⟨c, hcfg, hsent⟩ := buildConfigurationRequest_of_fits hrate hset
  obtain ⟨ops, hlin, -⟩ := (atomic _ hr).2 hfree
  have hcfg' : buildConfigurationRequest st.enter.frameRate settings = .ok (.streamingConfig c) := hcfg
  obtain ⟨k, hk, -⟩ := (RequestIterator.sent_run st.enter hcfg' hs rfl (.inl hd) ops).frames
  rw [hlin.released_eq]
  change replies (trace (new st.enter delay settings) ops) = [] ∨ _
  rcases shape_run hcfg' (.inl hd) ops with ⟨-, hnil, -⟩ | ⟨-, n, hreplies, -⟩
  · exact .inl hnil
  · rw [hk] at hreplies
    exact .inr ⟨c, k, n, hsent, hreplies⟩

/-- Three frames, a delay of 20. -/
def shortIterator : RequestIterator := new RequestIterator.shortStream.enter 20 {}

/-- What the first call returns. -/
def shortConfig : StreamingRecognitionConfig where
  config := {
    encoding := .linear16
    sampleRateHertz := 1000
    languageCode := "pl-PL"
    maxAlternatives := 1
    speechContexts := []
    enableWordTimeOffsets := false
    configFields := [⟨"no-input-timeout", "5000"⟩, ⟨"speech-complete-timeout", "2000"⟩,
      ⟨"speech-incomplete-timeout", "4000"⟩, ⟨"recognition-timeout", "10000"⟩] }
  singleUtterance := false
  interimResults := false

/-- One thread gets the configuration request; the other one reads the first frame
and stands in front of its `yield`. -/
def firstFrame : List (Mutex.Lbl Unit Bool) :=
  [.acquire true, .body true, .body true, .body true, .release true, .acquire false] ++
    List.replicate 6 (.body false)

/-- Behind a `close()` that frame is still returned, and the first thread is turned
away. -/
def behindClose : List (Mutex.Lbl Unit Bool) :=
  [.body false, .release false, .acquire true, .body true, .body true, .body true, .release true]

/-- Where that leaves the two threads. -/
def twoThreadsEnd : State Bool where
  shared := { shortIterator with
    isInitialRequest := false
    audioGenerator := { finished := true }
    audioStream := RequestIterator.shortStream.close }
  owner := none
  pc _ := .away
  log := [.acquired true, .released true (.ok (.streamingConfig shortConfig)), .acquired false,
    .outside (), .released false (.ok (.audioContent [1, 2])), .acquired true,
    .released true (.error .stopIteration)]

/-- Without a `close()` every step meets the guard. -/
theorem inside_guard {ls : List (Mutex.Lbl Unit Bool)} (h : .outside () ∉ ls) :
    ∀ l ∈ ls, ∀ s : State Bool, Guard s l := by
  intro l hl s
  cases l with
  | outside _ => exact absurd hl h
  | acquire _ | body _ | release _ => trivial

theorem twoThreads_run : ((lts shortIterator).guard Guard).Run (start shortIterator)
    (firstFrame ++ [.outside ()] ++ behindClose) twoThreadsEnd := by
  refine .append (.snoc (.guarded (LTS.run_of_exec rfl) (inside_guard (by decide))) ⟨rfl, ?closes⟩)
    (.guarded (LTS.run_of_exec ?ends) (inside_guard (by decide)))
  case closes =>
    intro i k hk
    cases i with
    | true => cases hk
    | false => cases hk; exact .inr ⟨_, rfl⟩
  case ends =>
    refine congrArg (fun pc => some { twoThreadsEnd with pc }) (funext fun i => ?_)
    cases i <;> rfl

/-- The three calls, one after the other, with the `close()` in front of the second
or behind it. -/
theorem atomic_at :
    (∀ i j, twoThreadsEnd.pc i ≠ .away → twoThreadsEnd.pc j ≠ .away → i = j) ∧
    ∃ ops, Mutex.Linearizes twoThreadsEnd.log ((trace shortIterator ops).map op) ∧
      after shortIterator ops = twoThreadsEnd.shared := by
  obtain ⟨hunique, hops⟩ := atomic shortIterator twoThreads_run
  exact ⟨hunique, hops rfl⟩

/-- One configuration request, one of three frames, and `StopIteration`. -/
theorem audio_in_order_at :
    Mutex.released twoThreadsEnd.log = protocol shortConfig [[1, 2]] 1 ∧
    (Mutex.released twoThreadsEnd.log = [] ∨ ∃ c k n,
      c.config.sampleRateHertz.toInt = RequestIterator.shortStream.frameRate ∧
      Mutex.released twoThreadsEnd.log = protocol c ((chunks 2 [1, 2, 3, 4, 5]).take k) n) :=
  ⟨rfl, audio_in_order (by decide) (by decide) (by decide) (by decide) twoThreads_run rfl⟩

end DictationClient.L5.LockedIterator
