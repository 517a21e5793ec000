import DictationClient.L2Framing.SharedCursor
import DictationClient.L3Protocol.PyConfig
import Mathlib.Data.List.Induction

/-!
# The request iterator of the Python streaming call

`RequestIterator` hands gRPC the configuration request and then what the
generator of the audio stream yields. Its lock makes each `next` one step; the
thread that reads the responses may call `close()` on the audio stream between
two of them.

The generator sleeps in front of its `yield`. A negative delay makes the first
frame raise (`next_impatient`): from then on the generator has finished, and the
frame is lost. An iterator that is `Paced` has no such delay or no frame left.

A run is a list of these operations (`trace`, `after`). In any run of a paced
iterator:

* `Base`: only the index of the stream moves, the first call is told from the
  later ones, and a closed stream or an ended generator stays so.
* `Sent`: what was sent is a number of leading frames of the audio.

Without `close()`, `trace_calls_frames` gives the results of `n` calls after the
first, and `trace_calls_endless` says that frames which do not advance go on
for ever. `StreamProtocol` puts these together.
-/
namespace DictationClient.L3

open DictationClient.Api DictationClient.L2 DictationClient.L2.AudioStream DictationClient.L3.PyConfig
open SharedCursor (resumeSlowly)

/-- `delay`: the one the audio stream was opened with, in milliseconds.
mirrors python/service/streaming_recognizer.py:15-28 -/
structure RequestIterator where
  audioStream : AudioStream
  delay : Int
  audioGenerator : Generator
  settings : DictationSettings
  isInitialRequest : Bool
  deriving DecidableEq, Repr

namespace RequestIterator

/-- What a call of `__next__` returns or raises. -/
abbrev Reply := Except PyErr StreamingRecognizeRequest

/-- mirrors python/service/streaming_recognizer.py:15-28 -/
def new (audioStream : AudioStream) (delay : Int) (settings : DictationSettings) : RequestIterator :=
  { audioStream, delay, audioGenerator := generator, settings, isInitialRequest := true }

/-- The flag keeps its value when building the request raises.
mirrors python/service/streaming_recognizer.py:31-34 -/
def initialRequest (it : RequestIterator) : Reply × RequestIterator :=
  match buildConfigurationRequest it.audioStream.frameRate it.settings with
  | .ok req => (.ok req, { it with isInitialRequest := false })
  | .error e => (.error e, it)

/-- A file stream never yields `None`; what the generator raises passes through.
mirrors python/service/streaming_recognizer.py:36-41 -/
def normalRequest (it : RequestIterator) : Reply × RequestIterator :=
  match resumeSlowly it.delay it.audioGenerator it.audioStream with
  | (.ok (some data), g, st) =>
    (.ok (.audioContent data), { it with audioGenerator := g, audioStream := st })
  | (.ok none, g, st) => (.error .stopIteration, { it with audioGenerator := g, audioStream := st })
  | (.error e, g, st) => (.error e, { it with audioGenerator := g, audioStream := st })

/-- mirrors python/service/streaming_recognizer.py:46-48 -/
def next (it : RequestIterator) : Reply × RequestIterator :=
  if it.isInitialRequest then initialRequest it else normalRequest it

/-- `audio_stream.close()`, called from outside.
mirrors python/service/streaming_recognizer.py:79,84 -/
def close (it : RequestIterator) : RequestIterator := { it with audioStream := it.audioStream.close }

inductive Op where
  | next
  | close
  deriving DecidableEq, Repr

inductive Event where
  | called (reply : Reply)
  | closed

/-- The iterator after the operations `ops`. -/
def after (it : RequestIterator) : List Op → RequestIterator
  | [] => it
  | .next :: ops => after (next it).2 ops
  | .close :: ops => after (close it) ops

/-- What happens in the operations `ops`. -/
def trace (it : RequestIterator) : List Op → List Event
  | [] => []
  | .next :: ops => .called (next it).1 :: trace (next it).2 ops
  | .close :: ops => .closed :: trace (close it) ops

/-- The audio sent, one entry for a request. -/
def payloads (events : List Event) : List Bytes :=
  events.filterMap fun
    | .called (.ok (.audioContent data)) => some data
    | _ => none

section Append
variable (it : RequestIterator) (ops ops' : List Op)

theorem after_append : after it (ops ++ ops') = after (after it ops) ops' := by
  induction ops generalizing it with
  | nil => rfl
  | cons op ops ih => cases op <;> exact ih _

theorem trace_append : trace it (ops ++ ops') = trace it ops ++ trace (after it ops) ops' := by
  induction ops generalizing it with
  | nil => rfl
  | cons op ops ih => cases op <;> exact congrArg _ (ih _)

end Append

/-- A fact about the iterator and what happened so far, kept by both operations,
holds after any of them. -/
theorem run_induction {it : RequestIterator} {P : RequestIterator → List Event → Prop} (h0 : P it [])
    (hnext : ∀ ops, P (after it ops) (trace it ops) →
      P (next (after it ops)).2 (trace it ops ++ [.called (next (after it ops)).1]))
    (hclose : ∀ ops, P (after it ops) (trace it ops) →
      P (close (after it ops)) (trace it ops ++ [.closed])) (ops : List Op) :
    P (after it ops) (trace it ops) := by
  induction ops using List.reverseRecOn with
  | nil => exact h0
  | append_singleton ops op ih =>
    rw [after_append, trace_append]
    cases op with
    | next => exact hnext ops ih
    | close => exact hclose ops ih

/-! ## Any run -/

section Run
variable {st : AudioStream} {delay : Int} {settings : DictationSettings} {c : StreamingRecognitionConfig}

/-- No sleep will raise: the delay is one, or no frame is left to sleep for. -/
def Paced (it : RequestIterator) : Prop := 0 ≤ it.delay ∨ Over it.audioGenerator it.audioStream

structure Base (st : AudioStream) (settings : DictationSettings) (it : RequestIterator)
    (es : List Event) : Prop where
  stream : it.audioStream = { st with dataIndex := it.audioStream.dataIndex }
  paced : Paced it
  settings_eq : it.settings = settings
  initial : it.isInitialRequest = true ↔ ∀ r, .called r ∉ es
  ended : .closed ∈ es ∨ .called (.error .stopIteration) ∈ es →
    Over it.audioGenerator it.audioStream

theorem next_initial {it : RequestIterator}
    (hcfg : buildConfigurationRequest it.audioStream.frameRate it.settings = .ok (.streamingConfig c))
    (hi : it.isInitialRequest = true) :
    next it = (.ok (.streamingConfig c), { it with isInitialRequest := false }) := by
  unfold next initialRequest
  rw [if_pos hi, hcfg]

/-- A request that cannot be built leaves the iterator where it was. -/
theorem next_rejected {it : RequestIterator} {e : PyErr}
    (hcfg : buildConfigurationRequest it.audioStream.frameRate it.settings = .error e)
    (hi : it.isInitialRequest = true) : next it = (.error e, it) := by
  unfold next initialRequest
  rw [if_pos hi, hcfg]

/-- A call that finds nothing left: `StopIteration`, for good. -/
theorem next_over {it : RequestIterator} (hi : it.isInitialRequest = false)
    (ho : Over it.audioGenerator it.audioStream) :
    next it = (.error .stopIteration, { it with audioGenerator := { finished := true } }) := by
  unfold next normalRequest
  rw [if_neg (by simp [hi])]
  rcases resume_cases it.audioGenerator it.audioStream with ⟨hno, -⟩ | ⟨-, hr⟩
  · exact absurd ho hno
  · rw [SharedCursor.resumeSlowly_of_none hr]

/-- A call after the first: an audio request, or `StopIteration` for good. -/
theorem next_normal {it : RequestIterator} (hi : it.isInitialRequest = false) (hd : Paced it) :
    (¬ Over it.audioGenerator it.audioStream ∧ next it =
      (.ok (.audioContent (pySlice it.audioStream.audio it.audioStream.dataIndex
          (it.audioStream.endSample it.audioStream.dataIndex))),
        { it with audioStream := { it.audioStream with
            dataIndex := it.audioStream.endSample it.audioStream.dataIndex } })) ∨
    (Over it.audioGenerator it.audioStream ∧ next it =
      (.error .stopIteration, { it with audioGenerator := { finished := true } })) := by
  rcases resume_cases it.audioGenerator it.audioStream with ⟨ho, hr⟩ | ⟨ho, -⟩
  · left
    unfold next normalRequest
    rw [if_neg (by simp [hi]), SharedCursor.resumeSlowly_of_nonneg (hd.resolve_right ho) hr]
    exact ⟨ho, rfl⟩
  · exact .inr ⟨ho, next_over hi ho⟩

/-- With a negative delay the frame is cut off the audio and never sent. -/
theorem next_impatient {it : RequestIterator} (hi : it.isInitialRequest = false)
    (hd : it.delay < 0) (ho : ¬ Over it.audioGenerator it.audioStream) :
    next it = (.error (.valueError "sleep length must be non-negative"),
      { it with audioGenerator := { finished := true }, audioStream := { it.audioStream with
        dataIndex := it.audioStream.endSample it.audioStream.dataIndex } }) := by
  rcases resume_cases it.audioGenerator it.audioStream with ⟨-, hr⟩ | ⟨hov, -⟩
  · unfold next normalRequest
    rw [if_neg (by simp [hi]), SharedCursor.resumeSlowly_of_neg hd hr]
  · exact absurd hov ho

theorem called_snoc (es : List Event) (r : Reply) : ¬ ∀ r', .called r' ∉ es ++ [.called r] :=
  fun h => h r (by simp)

theorem over_close (g : Generator) (st : AudioStream) : Over g st.close := by
  right; simp only [AudioStream.close]; omega

theorem base_run (hcfg : buildConfigurationRequest st.frameRate settings = .ok (.streamingConfig c))
    (hd : Paced (new st delay settings)) (ops : List Op) :
    Base st settings (after (new st delay settings) ops) (trace (new st delay settings) ops) := by
  refine run_induction ?_ ?_ ?_ ops
  · exact ⟨rfl, hd, rfl, by simp [new], by simp⟩
  · intro ops hb
    generalize after (new st delay settings) ops = it, trace (new st delay settings) ops = es at hb ⊢
    obtain ⟨hst, hp, hs, hi, ho⟩ := hb
    cases hinit : it.isInitialRequest with
    | true =>
      have hcfg' : buildConfigurationRequest it.audioStream.frameRate it.settings =
          .ok (.streamingConfig c) := by rw [hst, hs]; exact hcfg
      rw [next_initial hcfg' hinit]
      exact ⟨hst, hp, hs, iff_of_false Bool.false_ne_true (called_snoc _ _),
        fun h => ho (by simpa using h)⟩
    | false =>
      have hinit' : ¬ it.isInitialRequest = true := by simp [hinit]
      rcases next_normal hinit hp with ⟨hno, hn⟩ | ⟨hov, hn⟩
      · rw [hn]
        exact ⟨by simp only; rw [hst], .inl (hp.resolve_right hno), hs,
          iff_of_false hinit' (called_snoc _ _), fun h => absurd (ho (by simpa using h)) hno⟩
      · rw [hn]
        exact ⟨hst, .inr (.inl rfl), hs, iff_of_false hinit' (called_snoc _ _), fun _ => .inl rfl⟩
  · intro ops hb
    generalize after (new st delay settings) ops = it, trace (new st delay settings) ops = es at hb ⊢
    obtain ⟨hst, -, hs, hi, ho⟩ := hb
    refine ⟨by simp only [close, AudioStream.close]; rw [hst], .inr (over_close _ _), hs, ?_,
      fun _ => over_close _ _⟩
    simpa [close] using hi

/-- The reply `r` of a call made after the events `es`. -/
structure CallOk (rate : Int) (es : List Event) (r : Reply) : Prop where
  first : (∀ r', .called r' ∉ es) →
    ∃ c, r = .ok (.streamingConfig c) ∧ c.config.sampleRateHertz.toInt = rate
  later : (∃ r', .called r' ∈ es) → r = .error .stopIteration ∨ ∃ data, r = .ok (.audioContent data)
  ended : (∃ r', .called r' ∈ es) → .closed ∈ es ∨ .called (.error .stopIteration) ∈ es →
    r = .error .stopIteration

theorem callOk_run (st : AudioStream)
    (hcfg : buildConfigurationRequest st.frameRate settings = .ok (.streamingConfig c))
    (hrate : c.config.sampleRateHertz.toInt = st.frameRate) (hd : Paced (new st delay settings))
    (ops : List Op) :
    CallOk st.frameRate (trace (new st delay settings) ops)
      (next (after (new st delay settings) ops)).1 := by
  obtain ⟨hst, hp, hs, hi, ho⟩ := base_run hcfg hd ops
  cases hinit : (after (new st delay settings) ops).isInitialRequest with
  | true =>
    have hno := hi.mp hinit
    have hcfg' := hcfg
    rw [← hs, show st.frameRate = (after (new st delay settings) ops).audioStream.frameRate by rw [hst]]
      at hcfg'
    rw [next_initial hcfg' hinit]
    exact ⟨fun _ => ⟨c, rfl, hrate⟩, fun ⟨r, hr⟩ => absurd hr (hno r), fun ⟨r, hr⟩ => absurd hr (hno r)⟩
  | false =>
    have hcalled : ¬ ∀ r', .called r' ∉ trace (new st delay settings) ops := by
      intro h; have := hi.mpr h; rw [hinit] at this; cases this
    rcases next_normal hinit hp with ⟨hno, hn⟩ | ⟨hov, hn⟩
    · rw [hn]
      exact ⟨fun h => absurd h hcalled, fun _ => .inr ⟨_, rfl⟩, fun _ h => absurd (ho h) hno⟩
    · rw [hn]
      exact ⟨fun h => absurd h hcalled, fun _ => .inl rfl, fun _ _ => rfl⟩

@[simp] theorem payloads_closed (es : List Event) : payloads (es ++ [.closed]) = payloads es := by
  simp [payloads]

@[simp] theorem payloads_config (es : List Event) (c : StreamingRecognitionConfig) :
    payloads (es ++ [.called (.ok (.streamingConfig c))]) = payloads es := by
  simp [payloads]

@[simp] theorem payloads_error (es : List Event) (e : PyErr) :
    payloads (es ++ [.called (.error e)]) = payloads es := by
  simp [payloads]

@[simp] theorem payloads_audio (es : List Event) (data : Bytes) :
    payloads (es ++ [.called (.ok (.audioContent data))]) = payloads es ++ [data] := by
  simp [payloads]

/-- With frames that advance: the first `k` frames have been sent, and while the
stream is worth something, they are followed by the frames of what is left. -/
structure Sent (st : AudioStream) (it : RequestIterator) (es : List Event) : Prop where
  forward : it.audioStream.Forward
  size : it.audioStream.frameSamplesSize = st.frameSamplesSize
  fresh : it.audioStream.rest ≠ [] → it.audioGenerator.finished = false
  frames : ∃ k, payloads es = (chunks st.frameSamplesSize.toNat st.audio).take k ∧
    (it.audioStream.rest ≠ [] →
      chunks st.frameSamplesSize.toNat it.audioStream.rest =
        (chunks st.frameSamplesSize.toNat st.audio).drop k)

/-- The next frame is sent. -/
theorem Sent.frame {it : RequestIterator} {es : List Event} (h : Sent st it es)
    (hs : 0 < st.frameSamplesSize) (hno : ¬ Over it.audioGenerator it.audioStream) :
    Sent st
      { it with audioStream :=
          { it.audioStream with dataIndex := it.audioStream.endSample it.audioStream.dataIndex } }
      (es ++ [.called (.ok (.audioContent (pySlice it.audioStream.audio it.audioStream.dataIndex
        (it.audioStream.endSample it.audioStream.dataIndex))))]) := by
  obtain ⟨hf, hsz, hfresh, k, hk, hrest⟩ := h
  have hsize : 0 < st.frameSamplesSize.toNat := by omega
  have hlt : it.audioStream.dataIndex < it.audioStream.audio.length := by
    unfold Over at hno; omega
  have hne : it.audioStream.rest ≠ [] := by
    rw [ne_eq, rest_eq_nil_iff hf.index]; omega
  obtain ⟨st', hres, hf', hr', heq⟩ := resume_yields (hfresh hne) hf hne
  have hcut := hrest hne
  rw [chunks_of_ne_nil hsize hne] at hcut
  obtain ⟨htake, hdrop⟩ := take_drop_succ hcut
  rw [slice_eq_take hf hlt, hsz, ← heq]
  refine ⟨hf', by rw [heq]; exact hsz, fun _ => hfresh hne, k + 1, ?_, fun _ => ?_⟩
  · rw [payloads_audio, hk, htake]
  · simp only [hr', hsz, hdrop]

/-- A stream that is over has nothing left to send. -/
theorem Sent.rest_of_over {it : RequestIterator} {es : List Event} (h : Sent st it es)
    (hov : Over it.audioGenerator it.audioStream) : it.audioStream.rest = [] := by
  by_contra hne
  rcases hov with hfin | hpast
  · rw [h.fresh hne] at hfin; cases hfin
  · exact hne ((rest_eq_nil_iff h.forward.index).mpr hpast)

/-- With nothing left to send, nothing has to follow. -/
theorem Sent.spent {it it' : RequestIterator} {es es' : List Event} (h : Sent st it es)
    (hf : it'.audioStream.Forward) (hsz : it'.audioStream.frameSamplesSize = st.frameSamplesSize)
    (hnil : it'.audioStream.rest = []) (hp : payloads es' = payloads es) : Sent st it' es' := by
  obtain ⟨k, hk, -⟩ := h.frames
  exact ⟨hf, hsz, fun hne => absurd hnil hne, k, hp.trans hk, fun hne => absurd hnil hne⟩

theorem sent_run (st : AudioStream)
    (hcfg : buildConfigurationRequest st.frameRate settings = .ok (.streamingConfig c))
    (hs : 0 < st.frameSamplesSize) (h0 : st.dataIndex = 0) (hd : Paced (new st delay settings))
    (ops : List Op) :
    Sent st (after (new st delay settings) ops) (trace (new st delay settings) ops) := by
  refine run_induction ?_ ?_ ?_ ops
  · refine ⟨⟨hs, by simp [new, h0]⟩, rfl, fun _ => rfl, 0, rfl, fun _ => ?_⟩
    simp [new, rest, h0]
  · intro ops hi
    obtain ⟨hst, hp, hset, hinit, -⟩ := base_run hcfg hd ops
    generalize after (new st delay settings) ops = it, trace (new st delay settings) ops = es at *
    cases hb : it.isInitialRequest with
    | true =>
      obtain ⟨hf, hsz, hfresh, k, hk, hrest⟩ := hi
      rw [next_initial (by rw [hst, hset]; exact hcfg) hb]
      exact ⟨hf, hsz, hfresh, k, by simpa using hk, hrest⟩
    | false =>
      rcases next_normal hb hp with ⟨hno, hn⟩ | ⟨hov, hn⟩
      · rw [hn]
        exact hi.frame hs hno
      · rw [hn]
        exact hi.spent hi.forward hi.size (hi.rest_of_over hov) (payloads_error _ _)
  · intro ops hi
    exact hi.spent hi.forward.close hi.size (rest_close _) (payloads_closed _)

end Run

/-! ## Calls only -/

/-- `n` calls of an iterator that has `reqs` to return. -/
def replies (reqs : List StreamingRecognizeRequest) (n : Nat) : List Event :=
  (reqs.take n).map (fun req => .called (.ok req)) ++
    List.replicate (n - reqs.length) (.called (.error .stopIteration))

theorem replies_cons (req : StreamingRecognizeRequest) (reqs : List StreamingRecognizeRequest)
    (n : Nat) :
    replies (req :: reqs) (n + 1) = .called (.ok req) :: replies reqs n := by
  simp [replies]

/-- A call that returns a request, and the calls behind it. -/
theorem trace_calls_cons {it it' : RequestIterator} {req : StreamingRecognizeRequest}
    {reqs : List StreamingRecognizeRequest} (hn : next it = (.ok req, it'))
    (h : ∀ n, trace it' (List.replicate n .next) = replies reqs n) (n : Nat) :
    trace it (List.replicate n .next) = replies (req :: reqs) n := by
  cases n with
  | zero => simp [trace, replies]
  | succ n => rw [List.replicate_succ, trace, hn, replies_cons, h n]

theorem trace_calls_over (it : RequestIterator) (hi : it.isInitialRequest = false)
    (ho : Over it.audioGenerator it.audioStream) (n : Nat) :
    trace it (List.replicate n .next) = replies [] n := by
  induction n generalizing it with
  | zero => rfl
  | succ n ih =>
    rw [List.replicate_succ, trace, next_over hi ho,
      ih { it with audioGenerator := { finished := true } } hi (.inl rfl)]
    simp [replies, List.replicate_succ]

/-- The calls after the first: the frames of what is left, then `StopIteration`. -/
theorem trace_calls_frames {s : Nat} (hs : 0 < s) (rst : Bytes) :
    ∀ it : RequestIterator, it.isInitialRequest = false → it.audioGenerator.finished = false →
      Paced it → it.audioStream.Forward → it.audioStream.frameSamplesSize = s → it.audioStream.rest = rst →
      ∀ n, trace it (List.replicate n .next) = replies ((chunks s rst).map .audioContent) n := by
  induction rst using chunks_induction hs with
  | nil =>
    intro it hi hg _ hf hsz hr n
    have ho : Over it.audioGenerator it.audioStream := .inr ((rest_eq_nil_iff hf.index).mp hr)
    rw [trace_calls_over it hi ho, chunks_nil]; rfl
  | cut rst hne ih =>
    intro it hi hg hp hf hsz hr
    have hno : ¬ Over it.audioGenerator it.audioStream := by
      rintro (hfin | hpast)
      · rw [hg] at hfin; cases hfin
      · exact hne (hr ▸ (rest_eq_nil_iff hf.index).mpr hpast)
    obtain ⟨st', hres, hf', hr', heq⟩ := resume_yields hg hf (by rw [hr]; exact hne)
    rw [hsz, Int.toNat_natCast, hr] at hres hr'
    have hn : next it = (.ok (.audioContent (rst.take s)), { it with audioStream := st' }) := by
      unfold next normalRequest
      rw [if_neg (by simp [hi]),
        SharedCursor.resumeSlowly_of_nonneg (hp.resolve_right hno) hres]
    rw [chunks_of_ne_nil hs hne, List.map_cons]
    exact trace_calls_cons hn (ih _ hi hg (.inl (hp.resolve_right hno)) hf' (by rw [heq]; exact hsz) hr')

/-- With frames that do not advance, the index never reaches the end. -/
theorem trace_calls_endless (it : RequestIterator) (hi : it.isInitialRequest = false)
    (hg : it.audioGenerator.finished = false) (hs : it.audioStream.frameSamplesSize ≤ 0)
    (hlen : 0 < it.audioStream.audio.length) (hidx : it.audioStream.dataIndex ≤ 0) (hd : 0 ≤ it.delay)
    (n : Nat) :
    .called (.error .stopIteration) ∉ trace it (List.replicate n .next) := by
  induction n generalizing it with
  | zero => simp [trace]
  | succ n ih =>
    rcases next_normal hi (.inl hd) with ⟨-, hn⟩ | ⟨ho, -⟩
    · have hend : it.audioStream.endSample it.audioStream.dataIndex ≤ 0 := by
        unfold endSample; split <;> omega
      rw [List.replicate_succ, trace, hn]
      intro h
      rcases List.mem_cons.mp h with h | h
      · cases h
      · exact ih { it with audioStream := { it.audioStream with
          dataIndex := it.audioStream.endSample it.audioStream.dataIndex } } hi hg hs hlen hend hd h
    · rcases ho with h | h
      · rw [hg] at h; cases h
      · omega

/-! ## The protocol -/

/-- `1 + ⌈L / s⌉` requests, or one. -/
def requestCount (s : Int) (length : Nat) : Nat :=
  if length = 0 then 1 else 1 + (length + s.toNat - 1) / s.toNat

/-- The streaming protocol on the stream `st`, freshly entered, with frames of
`s` bytes. -/
structure StreamProtocol (s delay : Int) (st : AudioStream) (settings : DictationSettings) : Prop where
  calls : ∀ ops, CallOk st.frameRate (trace (new st.enter delay settings) ops)
    (next (after (new st.enter delay settings) ops)).1
  slices : 0 < s → ∀ ops, ∃ k,
    payloads (trace (new st.enter delay settings) ops) = (chunks s.toNat st.audio).take k ∧
    (payloads (trace (new st.enter delay settings) ops)).flatten = st.audio.take (k * s.toNat)
  ends : 0 < s ∨ st.audio = [] → ∃ (c : StreamingRecognitionConfig) (frames : List Bytes),
    1 + frames.length = requestCount s st.audio.length ∧ frames.flatten = st.audio ∧
    ∀ n, trace (new st.enter delay settings) (List.replicate n .next) =
      replies (.streamingConfig c :: frames.map .audioContent) n
  endless : ¬ (0 < s ∨ st.audio = []) → ∀ n,
    .called (.error .stopIteration) ∉ trace (new st.enter delay settings) (List.replicate n .next)

theorem over_of_nil {st : AudioStream} (h : st.audio = []) : Over generator st.enter :=
  .inr (by simp [enter, h])

theorem protocol_of_fits {st : AudioStream} {delay : Int} {settings : DictationSettings}
    (hd : 0 ≤ delay ∨ st.audio = []) (hset : settings.Fits) (hrate : FitsInt32 st.frameRate) :
    StreamProtocol st.frameSamplesSize delay st settings := by
  obtain ⟨c, hcfg, hsent⟩ := buildConfigurationRequest_of_fits hrate hset
  have hfirst : next (new st.enter delay settings) =
      (.ok (.streamingConfig c), { new st.enter delay settings with isInitialRequest := false }) :=
    next_initial hcfg rfl
  have hp : Paced (new st.enter delay settings) := hd.imp_right over_of_nil
  refine ⟨fun ops => callOk_run st.enter hcfg hsent hp ops, fun hs ops => ?_, fun h => ?_,
    fun h n => ?_⟩
  · have hsize : 0 < st.frameSamplesSize.toNat := by omega
    obtain ⟨k, hk, -⟩ := (sent_run st.enter hcfg hs rfl hp ops).frames
    exact ⟨k, hk, by rw [hk]; exact flatten_take_chunks hsize k _⟩
  · by_cases hnil : st.audio = []
    · refine ⟨c, [], by simp [requestCount, hnil], hnil.symm, trace_calls_cons hfirst ?_⟩
      exact trace_calls_over _ rfl (over_of_nil hnil)
    · have hs : 0 < st.frameSamplesSize := h.resolve_right hnil
      have hsize : 0 < st.frameSamplesSize.toNat := by omega
      refine ⟨c, chunks st.frameSamplesSize.toNat st.audio, ?_, flatten_chunks hsize _,
        trace_calls_cons hfirst ?_⟩
      · rw [length_chunks hsize, requestCount, if_neg (by simpa using hnil)]
      · exact trace_calls_frames hsize st.audio _ rfl rfl (.inl (hd.resolve_right hnil))
          ⟨hs, Int.le_refl 0⟩ (Int.toNat_of_nonneg (Int.le_of_lt hs)).symm rfl
  · cases n with
    | zero => simp [trace]
    | succ n =>
      rw [List.replicate_succ, trace, hfirst]
      intro hmem
      rcases List.mem_cons.mp hmem with hmem | hmem
      · cases hmem
      · have hnil : st.audio ≠ [] := fun he => h (.inr he)
        exact trace_calls_endless _ rfl rfl (by simp only [new, enter]; omega)
          (List.length_pos_iff.mpr hnil) (Int.le_refl 0) (hd.resolve_right hnil) n hmem

/-- **The streaming protocol.** For every file the stream accepts, every frame
length and all settings that fit, if the rate of the file fits too and the
generator can sleep. -/
theorem requestProtocol {files : String → Option AudioSegment} {audioPath : String} {frameLength : Int}
    {st : AudioStream} (hnew : AudioStream.new files audioPath frameLength = .ok st) {delay : Int}
    (hd : 0 ≤ delay ∨ st.audio = []) (settings : DictationSettings) (hset : settings.Fits)
    (hrate : FitsInt32 st.frameRate) :
    StreamProtocol (st.frameRate / 1000 * frameLength * 2) delay st settings := by
  rw [← frameSamplesSize_of_new hnew]
  exact protocol_of_fits hd hset hrate

/-- Five bytes at 1 kHz, in frames of two. -/
def shortStream : AudioStream :=
  { audioPath := "a.wav", audio := [1, 2, 3, 4, 5], frameRate := 1000, frameSamplesSize := 2,
    dataIndex := 0 }

theorem shortStream_opens :
    AudioStream.new (fun _ => some ⟨1, 2, 1000, [1, 2, 3, 4, 5]⟩) "a.wav" 1 = .ok shortStream := rfl

/-- Three frames, the last one of a single byte. -/
theorem requestProtocol_at : StreamProtocol (1000 / 1000 * 1 * 2) 20 shortStream {} :=
  requestProtocol shortStream_opens (.inl (by decide)) {} (by decide) (by decide)

/-- A rate of `2^31`, which a WAV header can hold and the request cannot, makes
the first call raise `ValueError`; a delay of `-1` makes the second call do so,
where the first of three frames was due. -/
theorem protocol_fails :
    (∃ st, AudioStream.new (fun _ => some ⟨1, 2, 2 ^ 31, [1, 2]⟩) "a.wav" 20 = .ok st ∧
      ({} : DictationSettings).Fits ∧ ¬ StreamProtocol (st.frameRate / 1000 * 20 * 2) 20 st {}) ∧
    ({} : DictationSettings).Fits ∧ FitsInt32 shortStream.frameRate ∧
      ¬ StreamProtocol (1000 / 1000 * 1 * 2) (-1) shortStream {} := by
  refine ⟨⟨_, rfl, by decide, fun h => ?_⟩, by decide, by decide, fun h => ?_⟩
  · obtain ⟨c, hc, -⟩ := (h.calls []).first (by simp [trace])
    have hnot : ¬ (FitsInt32 (2 ^ 31) ∧ ({} : DictationSettings).Fits) := by decide
    obtain ⟨msg, hm⟩ := buildConfigurationRequest_of_not_fits hnot
    rw [after, next_rejected hm rfl] at hc
    cases hc
  · obtain ⟨c, frames, hcount, -, htrace⟩ := h.ends (.inl (by decide))
    have hraised : (trace (new shortStream.enter (-1) {}) (List.replicate 2 .next))[1]? =
        some (.called (.error (.valueError "sleep length must be non-negative"))) := rfl
    rw [htrace 2] at hraised
    cases frames with
    | nil => exact absurd hcount (by decide)
    | cons frame frames => cases hraised

end RequestIterator
end DictationClient.L3
