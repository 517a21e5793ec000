import DictationClient.Api
import DictationClient.Core.CInt
import DictationClient.Core.LTS
import Mathlib.Tactic.Ring

/-!
# The two threads of `DictationClient::StreamingRecognize`

The calling thread writes the configuration request, starts the writer thread
and reads responses; the writer sends the audio requests. Either may half-close
the stream (`WritesDone`), the writer when it has left its loop, the reader on an
error or an end of utterance. They share one flag,

    std::atomic<bool> half_closed_stream{false};

which both test and set in two separate atomic operations. A step of the model
is one load or store of the flag or one call on the stream; the rest of a
thread's code is local. A label says which thread moves and, for a `Write`,
whether the stream accepts it; once a `Write` has failed all later ones fail.
The log keeps what happened on the stream and the stores to the flag.

* `Step`, `step_cases`: everything a step can do.
* `Phase`: nothing runs next to the calling thread before the writer is started.
* `HalfClosed`: a set flag means that `WritesDone` was called or is next.
-/
namespace DictationClient.L5.StreamingRecognize

open DictationClient.Api

variable {F : Type}

/-- mirrors cpp/libdictation-client/dictation_client.cpp:243-252 -/
def errorResponse (response : StreamingRecognizeResponse F) : Bool := response.error.isSome

/-- mirrors cpp/libdictation-client/dictation_client.cpp:254-262 -/
def endOfUtterance (response : StreamingRecognizeResponse F) : Bool :=
  response.speechEventType == endOfSingleUtterance

/-- The condition under which the reader half-closes. -/
def stops (response : StreamingRecognizeResponse F) : Bool :=
  errorResponse response || endOfUtterance response

/-- Where the writer stands: in front of the load in the loop condition, of the
`Write` it guards, of the load, the store and the `WritesDone` after the loop.
mirrors cpp/libdictation-client/dictation_client.cpp:128-146 -/
inductive WriterPc where
  | notStarted
  | loopLoad (i : Int32)
  | write (i : Int32)
  | guardLoad
  | guardStore
  | writesDone
  | finished
  deriving DecidableEq, Repr

/-- Where the calling thread stands; `r` is the response it is handling.
mirrors cpp/libdictation-client/dictation_client.cpp:123-175 -/
inductive ReaderPc (F : Type) where
  | writeConfig
  | spawn
  | read
  | load (r : StreamingRecognizeResponse F)
  | store (r : StreamingRecognizeResponse F)
  | writesDone (r : StreamingRecognizeResponse F)
  | join
  | finish
  | returned
  deriving DecidableEq, Repr

inductive Thread where
  | writer
  | reader
  deriving DecidableEq, Repr

inductive Event (F : Type) where
  | write (request : StreamingRecognizeRequest) (ok : Bool)
  | store (t : Thread)
  | writesDone (t : Thread)
  | read (r : StreamingRecognizeResponse F)
  deriving DecidableEq, Repr

section Event

def Event.isWrite : Event F → Bool
  | .write _ _ => true
  | _ => false

def Event.isWritesDone : Event F → Bool
  | .writesDone _ => true
  | _ => false

def Event.isReaderStore : Event F → Bool
  | .store .reader => true
  | _ => false

def Event.request? : Event F → Option StreamingRecognizeRequest
  | .write m _ => some m
  | _ => none

def Event.response? : Event F → Option (StreamingRecognizeResponse F)
  | .read r => some r
  | _ => none

/-- The requests passed to `Write`, in order. -/
def written (log : List (Event F)) : List StreamingRecognizeRequest := log.filterMap Event.request?

/-- The responses read, in order. -/
def reads (log : List (Event F)) : List (StreamingRecognizeResponse F) :=
  log.filterMap Event.response?

@[simp] theorem written_nil : written ([] : List (Event F)) = [] := rfl

@[simp] theorem reads_nil : reads ([] : List (Event F)) = [] := rfl

@[simp] theorem written_snoc (log : List (Event F)) (e : Event F) :
    written (log ++ [e]) = written log ++ e.request?.toList := by
  cases e <;> simp [written, Event.request?]

@[simp] theorem reads_snoc (log : List (Event F)) (e : Event F) :
    reads (log ++ [e]) = reads log ++ e.response?.toList := by
  cases e <;> simp [reads, Event.response?]

end Event

/-- `incoming`: the responses the server will still deliver; `broken`: a `Write`
has failed; `received`: `streaming_received_responses`. -/
structure State (F : Type) where
  halfClosedStream : Bool
  broken : Bool
  incoming : List (StreamingRecognizeResponse F)
  writer : WriterPc
  reader : ReaderPc F
  received : List (StreamingRecognizeResponse F)
  log : List (Event F)
  deriving DecidableEq, Repr

inductive Lbl where
  | writer (ok : Bool)
  | reader (ok : Bool)
  deriving DecidableEq, Repr

section Model
variable (requests : List StreamingRecognizeRequest)

/-- The loop test `i < requests.size()`. -/
def enterLoop (i : Int32) : WriterPc := if sizeT i < requests.length then .loopLoad i else .guardLoad

/-- A `Write` of `m`, accepted if `ok` and none has failed before. -/
def doWrite (s : State F) (m : StreamingRecognizeRequest) (ok : Bool) : State F :=
  { s with broken := !(ok && !s.broken), log := s.log ++ [.write m (ok && !s.broken)] }

/-- mirrors cpp/libdictation-client/dictation_client.cpp:132-145 -/
def writerStep (s : State F) (ok : Bool) : Option (State F) :=
  match s.writer with
  | .notStarted => none
  | .loopLoad i => some { s with writer := if s.halfClosedStream then .guardLoad else .write i }
  | .write i =>
    match requests[sizeT i]? with
    | none => none
    | some m => some { doWrite s m ok with
        writer := if ok && !s.broken then enterLoop requests (i + 1) else .guardLoad }
  | .guardLoad => some { s with writer := if s.halfClosedStream then .finished else .guardStore }
  | .guardStore =>
    some { s with halfClosedStream := true, writer := .writesDone, log := s.log ++ [.store .writer] }
  | .writesDone => some { s with writer := .finished, log := s.log ++ [.writesDone .writer] }
  | .finished => none

/-- mirrors cpp/libdictation-client/dictation_client.cpp:123-124,148-175 -/
def readerStep (s : State F) (ok : Bool) : Option (State F) :=
  match s.reader with
  | .writeConfig =>
    match requests.head? with
    | none => none
    | some m => some { doWrite s m ok with reader := .spawn }
  | .spawn => some { s with writer := enterLoop requests 1, reader := .read }
  | .read =>
    match s.incoming with
    | [] => some { s with reader := .join }
    | r :: rs =>
      if stops r then some { s with incoming := rs, reader := .load r, log := s.log ++ [.read r] }
      else some { s with incoming := rs, received := s.received ++ [r], log := s.log ++ [.read r] }
  | .load r =>
    if s.halfClosedStream then some { s with reader := .read, received := s.received ++ [r] }
    else some { s with reader := .store r }
  | .store r =>
    some { s with halfClosedStream := true, reader := .writesDone r, log := s.log ++ [.store .reader] }
  | .writesDone r =>
    some { s with reader := .read, received := s.received ++ [r], log := s.log ++ [.writesDone .reader] }
  | .join => if s.writer = .finished then some { s with reader := .finish } else none
  | .finish => some { s with reader := .returned }
  | .returned => none

def step (s : State F) : Lbl → Option (State F)
  | .writer ok => writerStep requests s ok
  | .reader ok => readerStep requests s ok

def start (responses : List (StreamingRecognizeResponse F)) : State F :=
  { halfClosedStream := false, broken := false, incoming := responses, writer := .notStarted,
    reader := .writeConfig, received := [], log := [] }

def lts (responses : List (StreamingRecognizeResponse F)) : LTS (State F) Lbl :=
  LTS.ofFn (· = start responses) (step requests)

end Model

/-- Both threads have finished. -/
def State.Finished (s : State F) : Prop := s.writer = .finished ∧ s.reader = .returned

/-! ## Everything a step can do -/

/-- The steps, one constructor for each. -/
inductive Step (requests : List StreamingRecognizeRequest) (s : State F) : Lbl → State F → Prop
  | loopOpen {ok i} (hw : s.writer = .loopLoad i) (hf : s.halfClosedStream = false) :
      Step requests s (.writer ok) { s with writer := .write i }
  | loopClosed {ok i} (hw : s.writer = .loopLoad i) (hf : s.halfClosedStream = true) :
      Step requests s (.writer ok) { s with writer := .guardLoad }
  | writeOk {ok i m} (hw : s.writer = .write i) (hm : requests[sizeT i]? = some m)
      (hok : (ok && !s.broken) = true) :
      Step requests s (.writer ok)
        { s with broken := false, writer := enterLoop requests (i + 1), log := s.log ++ [.write m true] }
  | writeFail {ok i m} (hw : s.writer = .write i) (hm : requests[sizeT i]? = some m)
      (hok : (ok && !s.broken) = false) :
      Step requests s (.writer ok)
        { s with broken := true, writer := .guardLoad, log := s.log ++ [.write m false] }
  | guardOpen {ok} (hw : s.writer = .guardLoad) (hf : s.halfClosedStream = false) :
      Step requests s (.writer ok) { s with writer := .guardStore }
  | guardClosed {ok} (hw : s.writer = .guardLoad) (hf : s.halfClosedStream = true) :
      Step requests s (.writer ok) { s with writer := .finished }
  | writerStore {ok} (hw : s.writer = .guardStore) :
      Step requests s (.writer ok)
        { s with halfClosedStream := true, writer := .writesDone, log := s.log ++ [.store .writer] }
  | writerDone {ok} (hw : s.writer = .writesDone) :
      Step requests s (.writer ok) { s with writer := .finished, log := s.log ++ [.writesDone .writer] }
  | config {ok m} (hr : s.reader = .writeConfig) (hm : requests.head? = some m) :
      Step requests s (.reader ok)
        { s with broken := !(ok && !s.broken), reader := .spawn,
                 log := s.log ++ [.write m (ok && !s.broken)] }
  | spawn {ok} (hr : s.reader = .spawn) :
      Step requests s (.reader ok) { s with writer := enterLoop requests 1, reader := .read }
  | readEnd {ok} (hr : s.reader = .read) (hi : s.incoming = []) :
      Step requests s (.reader ok) { s with reader := .join }
  | readResult {ok r rs} (hr : s.reader = .read) (hi : s.incoming = r :: rs) (hs : stops r = false) :
      Step requests s (.reader ok)
        { s with incoming := rs, received := s.received ++ [r], log := s.log ++ [.read r] }
  | readStop {ok r rs} (hr : s.reader = .read) (hi : s.incoming = r :: rs) (hs : stops r = true) :
      Step requests s (.reader ok)
        { s with incoming := rs, reader := .load r, log := s.log ++ [.read r] }
  | loadOpen {ok r} (hr : s.reader = .load r) (hf : s.halfClosedStream = false) :
      Step requests s (.reader ok) { s with reader := .store r }
  | loadClosed {ok r} (hr : s.reader = .load r) (hf : s.halfClosedStream = true) :
      Step requests s (.reader ok) { s with reader := .read, received := s.received ++ [r] }
  | readerStore {ok r} (hr : s.reader = .store r) :
      Step requests s (.reader ok)
        { s with halfClosedStream := true, reader := .writesDone r, log := s.log ++ [.store .reader] }
  | readerDone {ok r} (hr : s.reader = .writesDone r) :
      Step requests s (.reader ok)
        { s with reader := .read, received := s.received ++ [r], log := s.log ++ [.writesDone .reader] }
  | join {ok} (hr : s.reader = .join) (hw : s.writer = .finished) :
      Step requests s (.reader ok) { s with reader := .finish }
  | finish {ok} (hr : s.reader = .finish) :
      Step requests s (.reader ok) { s with reader := .returned }

theorem step_cases {requests : List StreamingRecognizeRequest} {s s' : State F} {l : Lbl}
    (h : step requests s l = some s') : Step requests s l s' := by
  cases l with
  | writer ok =>
    simp only [step, writerStep] at h
    split at h
    · cases h
    · rename_i i hw
      by_cases hf : s.halfClosedStream = true
      · cases (if_pos hf ▸ h); exact .loopClosed hw hf
      · cases (if_neg hf ▸ h); exact .loopOpen hw (Bool.eq_false_iff.mpr hf)
    · rename_i i hw
      split at h
      · cases h
      · rename_i m hm
        cases hok : ok && !s.broken <;> simp only [doWrite, hok, Option.some.injEq] at h <;> subst h
        · exact .writeFail hw hm hok
        · exact .writeOk hw hm hok
    · rename_i hw
      by_cases hf : s.halfClosedStream = true
      · cases (if_pos hf ▸ h); exact .guardClosed hw hf
      · cases (if_neg hf ▸ h); exact .guardOpen hw (Bool.eq_false_iff.mpr hf)
    · rename_i hw; cases h; exact .writerStore hw
    · rename_i hw; cases h; exact .writerDone hw
    · cases h
  | reader ok =>
    simp only [step, readerStep] at h
    split at h
    · rename_i hr
      split at h
      · cases h
      · rename_i m hm; cases h; exact .config hr hm
    · rename_i hr; cases h; exact .spawn hr
    · rename_i hr
      split at h
      · rename_i hi; cases h; exact .readEnd hr hi
      · rename_i r rs hi
        by_cases hs : stops r = true
        · cases (if_pos hs ▸ h); exact .readStop hr hi hs
        · cases (if_neg hs ▸ h); exact .readResult hr hi (Bool.eq_false_iff.mpr hs)
    · rename_i r hr
      by_cases hf : s.halfClosedStream = true
      · cases (if_pos hf ▸ h); exact .loadClosed hr hf
      · cases (if_neg hf ▸ h); exact .loadOpen hr (Bool.eq_false_iff.mpr hf)
    · rename_i r hr; cases h; exact .readerStore hr
    · rename_i r hr; cases h; exact .readerDone hr
    · rename_i hr
      split at h
      · rename_i hw; cases h; exact .join hr hw
      · cases h
    · rename_i hr; cases h; exact .finish hr
    · cases h

/-- A step adds at most one event. -/
theorem step_log_le {requests : List StreamingRecognizeRequest} {s s' : State F} {l : Lbl}
    (h : step requests s l = some s') : s.log <+: s'.log := by
  cases step_cases h <;>
    first | exact List.prefix_rfl | exact List.prefix_append _ _

/-! ## Start-up -/

/-- Until it starts the writer, the calling thread is alone, and before its
first `Write` nothing has happened. -/
structure Phase (s : State F) : Prop where
  notStarted : s.writer = .notStarted ↔ s.reader = .writeConfig ∨ s.reader = .spawn
  silent : s.reader = .writeConfig → s.log = []
  halfOpen : s.writer = .notStarted → s.halfClosedStream = false

theorem Phase.reader_started {s : State F} (h : Phase s) (hw : s.writer ≠ .notStarted) :
    s.reader ≠ .writeConfig ∧ s.reader ≠ .spawn :=
  ⟨fun hr => hw (h.notStarted.mpr (.inl hr)), fun hr => hw (h.notStarted.mpr (.inr hr))⟩

theorem Phase.writer_started {s : State F} (h : Phase s)
    (hr : s.reader ≠ .writeConfig ∧ s.reader ≠ .spawn) : s.writer ≠ .notStarted :=
  fun hw => (h.notStarted.mp hw).elim hr.1 hr.2

/-- With both threads running nothing is left to say. -/
theorem Phase.running {s : State F} (hw : s.writer ≠ .notStarted)
    (hr : s.reader ≠ .writeConfig ∧ s.reader ≠ .spawn) : Phase s where
  notStarted := iff_of_false hw fun h => h.elim hr.1 hr.2
  silent h := absurd h hr.1
  halfOpen h := absurd h hw

theorem enterLoop_ne_notStarted (requests : List StreamingRecognizeRequest) (i : Int32) :
    enterLoop requests i ≠ .notStarted := by
  unfold enterLoop; split <;> simp

theorem phase_step {requests : List StreamingRecognizeRequest} {s s' : State F} {l : Lbl}
    (hi : Phase s) (hst : step requests s l = some s') : Phase s' := by
  cases step_cases hst with
  | loopOpen hw hf => exact .running (by simp) (hi.reader_started (by simp [hw]))
  | loopClosed hw hf => exact .running (by simp) (hi.reader_started (by simp [hw]))
  | writeOk hw hm hok =>
    exact .running (enterLoop_ne_notStarted _ _) (hi.reader_started (by simp [hw]))
  | writeFail hw hm hok => exact .running (by simp) (hi.reader_started (by simp [hw]))
  | guardOpen hw hf => exact .running (by simp) (hi.reader_started (by simp [hw]))
  | guardClosed hw hf => exact .running (by simp) (hi.reader_started (by simp [hw]))
  | writerStore hw => exact .running (by simp) (hi.reader_started (by simp [hw]))
  | writerDone hw => exact .running (by simp) (hi.reader_started (by simp [hw]))
  | config hr hm =>
    have hn := hi.notStarted.mpr (.inl hr)
    exact ⟨iff_of_true hn (.inr rfl), by simp, hi.halfOpen⟩
  | spawn hr => exact .running (enterLoop_ne_notStarted _ _) (by simp)
  | readEnd hr hin => exact .running (hi.writer_started (by simp [hr])) (by simp)
  | readResult hr hin hs => exact .running (hi.writer_started (by simp [hr])) (by simp [hr])
  | readStop hr hin hs => exact .running (hi.writer_started (by simp [hr])) (by simp)
  | loadOpen hr hf => exact .running (hi.writer_started (by simp [hr])) (by simp)
  | loadClosed hr hf => exact .running (hi.writer_started (by simp [hr])) (by simp)
  | readerStore hr => exact .running (hi.writer_started (by simp [hr])) (by simp)
  | readerDone hr => exact .running (hi.writer_started (by simp [hr])) (by simp)
  | join hr hw => exact .running (hi.writer_started (by simp [hr])) (by simp)
  | finish hr => exact .running (hi.writer_started (by simp [hr])) (by simp)

theorem phase_start (responses : List (StreamingRecognizeResponse F)) : Phase (start responses) where
  notStarted := iff_of_true rfl (.inl rfl)
  silent _ := rfl
  halfOpen _ := rfl

/-! ## The flag -/

/-- Whoever has set the flag calls `WritesDone` next. -/
structure HalfClosed (s : State F) : Prop where
  done : s.halfClosedStream = true → s.log.any Event.isWritesDone = true ∨
    s.writer = .writesDone ∨ ∃ r, s.reader = .writesDone r
  writer : s.writer = .writesDone ∨ s.writer = .finished → s.halfClosedStream = true

theorem enterLoop_ne_done (requests : List StreamingRecognizeRequest) (i : Int32) :
    ¬ (enterLoop requests i = .writesDone ∨ enterLoop requests i = .finished) := by
  unfold enterLoop; split <;> simp

/-- The writer moves on in front of its half-close. -/
theorem HalfClosed.writer_moves {s s' : State F} (hi : HalfClosed s) (hw : s.writer ≠ .writesDone)
    (hw' : ¬ (s'.writer = .writesDone ∨ s'.writer = .finished))
    (hf : s'.halfClosedStream = s.halfClosedStream) (hr : s'.reader = s.reader)
    (hl : s'.log.any Event.isWritesDone = s.log.any Event.isWritesDone) : HalfClosed s' where
  done h := by
    rw [hf] at h
    rw [hl, hr]
    exact (hi.done h).imp_right fun h => .inr (h.resolve_left hw)
  writer h := absurd h hw'

/-- The reader moves on, away from its half-close. -/
theorem HalfClosed.reader_moves {s s' : State F} (hi : HalfClosed s) (hr : ∀ r, s.reader ≠ .writesDone r)
    (hf : s'.halfClosedStream = s.halfClosedStream) (hw : s'.writer = s.writer)
    (hl : s'.log.any Event.isWritesDone = s.log.any Event.isWritesDone) : HalfClosed s' where
  done h := by
    rw [hf] at h
    rw [hl, hw]
    exact (hi.done h).imp_right fun h => .inl (h.resolve_right fun ⟨r, h⟩ => hr r h)
  writer h := by rw [hf]; rw [hw] at h; exact hi.writer h

theorem halfClosed_step {requests : List StreamingRecognizeRequest} {s s' : State F} {l : Lbl}
    (hp : Phase s) (hi : HalfClosed s) (hst : step requests s l = some s') : HalfClosed s' := by
  cases step_cases hst with
  | loopOpen hw hf => exact hi.writer_moves (by simp [hw]) (by simp) rfl rfl rfl
  | loopClosed hw hf => exact hi.writer_moves (by simp [hw]) (by simp) rfl rfl rfl
  | writeOk hw hm hok =>
    exact hi.writer_moves (by simp [hw]) (enterLoop_ne_done _ _) rfl rfl (any_snoc_of_not _ rfl)
  | writeFail hw hm hok =>
    exact hi.writer_moves (by simp [hw]) (by simp) rfl rfl (any_snoc_of_not _ rfl)
  | guardOpen hw hf => exact hi.writer_moves (by simp [hw]) (by simp) rfl rfl rfl
  | guardClosed hw hf =>
    refine ⟨fun h => ?_, fun _ => hf⟩
    exact (hi.done h).imp_right fun h => .inr (h.resolve_left (by simp [hw]))
  | writerStore hw => exact ⟨fun _ => .inr (.inl rfl), fun _ => rfl⟩
  | writerDone hw => exact ⟨fun _ => .inl (any_snoc_self _ rfl), fun _ => hi.writer (.inl hw)⟩
  | config hr hm => exact hi.reader_moves (by simp [hr]) rfl rfl (any_snoc_of_not _ rfl)
  | spawn hr =>
    have hn := hp.notStarted.mpr (.inr hr)
    exact ⟨fun h => absurd (hp.halfOpen hn) (by simpa using h),
      fun h => absurd h (enterLoop_ne_done _ _)⟩
  | readEnd hr hin => exact hi.reader_moves (by simp [hr]) rfl rfl rfl
  | readResult hr hin hs => exact hi.reader_moves (by simp [hr]) rfl rfl (any_snoc_of_not _ rfl)
  | readStop hr hin hs => exact hi.reader_moves (by simp [hr]) rfl rfl (any_snoc_of_not _ rfl)
  | loadOpen hr hf => exact hi.reader_moves (by simp [hr]) rfl rfl rfl
  | loadClosed hr hf => exact hi.reader_moves (by simp [hr]) rfl rfl rfl
  | readerStore hr => exact ⟨fun _ => .inr (.inr ⟨_, rfl⟩), fun _ => rfl⟩
  | readerDone hr => exact ⟨fun _ => .inl (any_snoc_self _ rfl), hi.writer⟩
  | join hr hw => exact hi.reader_moves (by simp [hr]) rfl rfl rfl
  | finish hr => exact hi.reader_moves (by simp [hr]) rfl rfl rfl

/-! ## A session -/

/-- Two frames of one byte behind their configuration. -/
def twoFrames : List StreamingRecognizeRequest :=
  [.streamingConfig
    { config := { encoding := .linear16, sampleRateHertz := 8000, languageCode := "pl-PL",
                  maxAlternatives := 1, speechContexts := [], enableWordTimeOffsets := false,
                  configFields := [] },
      singleUtterance := true, interimResults := false },
   .audioContent [1], .audioContent [2]]

def utteranceEnd : StreamingRecognizeResponse F :=
  { error := none, results := [], speechEventType := endOfSingleUtterance }

/-- The utterance ends after the first frame; the second is not sent. -/
def endedEarly : State Nat :=
  { halfClosedStream := true, broken := false, incoming := [], writer := .finished, reader := .returned,
    received := [utteranceEnd],
    log := (twoFrames.take 2).map (.write · true) ++
      [.read utteranceEnd, .store .reader, .writesDone .reader] }

theorem endedEarly_run : (lts twoFrames [utteranceEnd]).Run (start [utteranceEnd])
    [.reader true, .reader true, .writer true, .writer true, .reader true, .reader true, .reader true,
      .reader true, .writer true, .writer true, .reader true, .reader true, .reader true]
    endedEarly :=
  LTS.run_of_exec rfl

end DictationClient.L5.StreamingRecognize
