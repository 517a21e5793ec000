import DictationClient.Core.CheckThenSet
import DictationClient.L5Concurrency.StreamingRecognize

/-!
# Half-closing the stream

`WritesDone` is meant to be called once and to be the last call on the writing
side: both threads ask `half_closed_stream` before they half-close, and the
writer asks it before every `Write`. The flag does not protect what follows the
question:

* both threads can find it down before either sets it, and both call
  `WritesDone`;
* the writer can find it down, the reader then sets it and calls `WritesDone`,
  and the writer goes on to its `Write`.

`Guard` forbids just these steps. `halfClose_of_guarded`: under it the stream is
half-closed correctly in every interleaving, and a finished run that was
half-closed correctly has met it.
-/
namespace DictationClient.L5.StreamingRecognize

open DictationClient.Api

variable {F : Type} {requests : List StreamingRecognizeRequest}
  {responses : List (StreamingRecognizeResponse F)}

/-- Once when both threads have finished, and no `Write` behind it. -/
structure HalfClose (s : State F) : Prop where
  once : s.Finished → s.log.countP Event.isWritesDone = 1
  noWriteAfter : countAfter Event.isWritesDone Event.isWrite s.log = 0

/-- A thread does not find the flag down and decide to half-close while the other
has decided so and not yet stored, and the reader does not call `WritesDone`
while the writer stands between the loop test and its `Write`. -/
def Guard (s : State F) : Lbl → Prop
  | .writer _ => s.writer = .guardLoad → s.halfClosedStream = false → ∀ r, s.reader ≠ .store r
  | .reader _ => (∀ r, s.reader = .load r → s.halfClosedStream = false → s.writer ≠ .guardStore) ∧
      (∀ r i, s.reader = .writesDone r → s.writer ≠ .write i)

/-! ## The two threads as parties of a check-then-set flag -/

def WriterPc.role : WriterPc → CheckThenSet.Role
  | .notStarted => .away
  | .loopLoad _ => .away
  | .write _ => .acting
  | .guardLoad => .away
  | .guardStore => .asked
  | .writesDone => .closing
  | .finished => .away

def ReaderPc.role : ReaderPc F → CheckThenSet.Role
  | .writeConfig => .away
  | .spawn => .away
  | .read => .away
  | .load _ => .away
  | .store _ => .asked
  | .writesDone _ => .closing
  | .join => .away
  | .finish => .away
  | .returned => .away

/-- Writing is acting, `WritesDone` is closing. -/
def abs (s : State F) : CheckThenSet.State Thread where
  flag := s.halfClosedStream
  role := fun | .writer => s.writer.role | .reader => s.reader.role
  closes := s.log.countP Event.isWritesDone
  late := countAfter Event.isWritesDone Event.isWrite s.log

@[simp] theorem abs_writer (s : State F) : (abs s).role .writer = s.writer.role := rfl

@[simp] theorem abs_reader (s : State F) : (abs s).role .reader = s.reader.role := rfl

theorem WriterPc.role_eq_asked {pc : WriterPc} : pc.role = .asked ↔ pc = .guardStore := by
  cases pc <;> simp [WriterPc.role]

theorem WriterPc.role_eq_acting {pc : WriterPc} : pc.role = .acting ↔ ∃ i, pc = .write i := by
  cases pc <;> simp [WriterPc.role]

theorem ReaderPc.role_eq_asked {pc : ReaderPc F} : pc.role = .asked ↔ ∃ r, pc = .store r := by
  cases pc <;> simp [ReaderPc.role]

theorem ReaderPc.role_ne_acting (pc : ReaderPc F) : pc.role ≠ .acting := by
  cases pc <;> simp [ReaderPc.role]

theorem enterLoop_role (requests : List StreamingRecognizeRequest) (i : Int32) :
    (enterLoop requests i).role = .away := by
  unfold enterLoop; split <;> rfl

theorem forall_thread {p : Thread → Prop} : (∀ t, p t) ↔ p .writer ∧ p .reader :=
  ⟨fun h => ⟨h _, h _⟩, fun h t => by cases t; exacts [h.1, h.2]⟩

theorem abs_eq {s : State F} {t : CheckThenSet.State Thread} (hf : s.halfClosedStream = t.flag)
    (hw : s.writer.role = t.role .writer) (hr : s.reader.role = t.role .reader)
    (hc : s.log.countP Event.isWritesDone = t.closes)
    (hl : countAfter Event.isWritesDone Event.isWrite s.log = t.late) : abs s = t := by
  refine CheckThenSet.State.ext hf (funext fun th => ?_) hc hl
  cases th with
  | writer => exact hw
  | reader => exact hr

theorem closes_snoc (log : List (Event F)) {e : Event F} (h : e.isWritesDone = false) :
    (log ++ [e]).countP Event.isWritesDone = log.countP Event.isWritesDone := by
  simp [h]

theorem late_write (log : List (Event F)) (m : StreamingRecognizeRequest) (ok : Bool) :
    countAfter Event.isWritesDone Event.isWrite (log ++ [.write m ok]) =
      countAfter Event.isWritesDone Event.isWrite log +
        if log.countP Event.isWritesDone = 0 then 0 else 1 := by
  rw [countAfter_snoc]
  by_cases h : log.countP Event.isWritesDone = 0
  · have hany : log.any Event.isWritesDone = false := by
      rw [List.any_eq_false]; exact List.countP_eq_zero.mp h
    rw [hany, if_pos h]; rfl
  · have hany : log.any Event.isWritesDone = true := by
      rw [List.any_eq_true]; exact List.countP_pos_iff.mp (Nat.pos_of_ne_zero h)
    rw [hany, if_neg h]; rfl

/-- `l` leads from `s` to `s'` as a step of the parties does, and the guard is theirs. -/
def Simulates (s : State F) (l : Lbl) (s' : State F) : Prop :=
  ∃ a, CheckThenSet.Step (abs s) a (abs s') ∧ (Guard s l ↔ CheckThenSet.Allowed (abs s) a)

theorem Simulates.intro {s s' : State F} {l : Lbl} {a : CheckThenSet.Act Thread}
    {t : CheckThenSet.State Thread} (h : CheckThenSet.Step (abs s) a t)
    (hg : Guard s l ↔ CheckThenSet.Allowed (abs s) a) (he : abs s' = t) : Simulates s l s' :=
  ⟨a, he ▸ h, hg⟩

/-- A step on the side: no role changes and nothing that counts happens. -/
theorem Simulates.skip {s s' : State F} {l : Lbl} (hg : Guard s l)
    (hf : s'.halfClosedStream = s.halfClosedStream)
    (hw : s'.writer.role = s.writer.role) (hr : s'.reader.role = s.reader.role)
    (hc : s'.log.countP Event.isWritesDone = s.log.countP Event.isWritesDone)
    (hl : countAfter Event.isWritesDone Event.isWrite s'.log =
      countAfter Event.isWritesDone Event.isWrite s.log) : Simulates s l s' :=
  .intro .skip (by simp [hg, CheckThenSet.Allowed]) (abs_eq hf hw hr hc hl)

theorem simulated {s s' : State F} {l : Lbl} (hp : Phase s) (hst : step requests s l = some s') :
    Simulates s l s' := by
  cases step_cases hst with
  | loopOpen hw hf =>
    refine .intro (.test (i := .writer) (by simp [hw, WriterPc.role]) hf) ?_ ?_
    · simp [Guard, hw, CheckThenSet.Allowed]
    · exact abs_eq rfl rfl rfl rfl rfl
  | loopClosed hw hf =>
    exact .skip (by simp [Guard, hw]) rfl (by rw [hw]; rfl) rfl rfl rfl
  | writeOk hw hm hok =>
    refine .intro (.act (i := .writer) (by simp [hw, WriterPc.role])) ?_ ?_
    · simp [Guard, hw, CheckThenSet.Allowed]
    · exact abs_eq rfl (enterLoop_role _ _) rfl (closes_snoc _ rfl) (late_write _ _ _)
  | writeFail hw hm hok =>
    refine .intro (.act (i := .writer) (by simp [hw, WriterPc.role])) ?_ ?_
    · simp [Guard, hw, CheckThenSet.Allowed]
    · exact abs_eq rfl rfl rfl (closes_snoc _ rfl) (late_write _ _ _)
  | guardOpen hw hf =>
    refine .intro (.ask (i := .writer) (by simp [hw, WriterPc.role]) hf) ?_ ?_
    · simp [Guard, hw, hf, CheckThenSet.Allowed, forall_thread, ReaderPc.role_eq_asked, WriterPc.role]
    · exact abs_eq rfl rfl rfl rfl rfl
  | guardClosed hw hf =>
    exact .skip (by simp [Guard, hf]) rfl (by rw [hw]; rfl) rfl rfl rfl
  | writerStore hw =>
    refine .intro (.set (i := .writer) (by simp [hw, WriterPc.role])) ?_ ?_
    · simp [Guard, hw, CheckThenSet.Allowed]
    · exact abs_eq rfl rfl rfl (closes_snoc _ rfl) (countAfter_snoc_of_not _ _ rfl)
  | writerDone hw =>
    refine .intro (.close (i := .writer) (by simp [hw, WriterPc.role])) ?_ ?_
    · simp [Guard, hw, CheckThenSet.Allowed, forall_thread, ReaderPc.role_ne_acting, WriterPc.role]
    · exact abs_eq rfl rfl rfl (by simp [Event.isWritesDone, abs]) (countAfter_snoc_of_not _ _ rfl)
  | config hr hm =>
    refine .skip (by simp [Guard, hr]) rfl rfl (by rw [hr]; rfl) (closes_snoc _ rfl) ?_
    simp only [hp.silent hr]; rfl
  | spawn hr =>
    have hw := hp.notStarted.mpr (.inr hr)
    refine .skip (by simp [Guard, hr]) rfl ?_ (by rw [hr]; rfl) rfl rfl
    rw [enterLoop_role, hw]; rfl
  | readEnd hr hin => exact .skip (by simp [Guard, hr]) rfl rfl (by rw [hr]; rfl) rfl rfl
  | readResult hr hin hs =>
    exact .skip (by simp [Guard, hr]) rfl rfl rfl (closes_snoc _ rfl) (countAfter_snoc_of_not _ _ rfl)
  | readStop hr hin hs =>
    exact .skip (by simp [Guard, hr]) rfl rfl (by rw [hr]; rfl) (closes_snoc _ rfl)
      (countAfter_snoc_of_not _ _ rfl)
  | loadOpen hr hf =>
    refine .intro (.ask (i := .reader) (by simp [hr, ReaderPc.role]) hf) ?_ ?_
    · simp [Guard, hr, hf, CheckThenSet.Allowed, forall_thread, WriterPc.role_eq_asked, ReaderPc.role]
    · exact abs_eq rfl rfl rfl rfl rfl
  | loadClosed hr hf =>
    exact .skip (by simp [Guard, hr, hf]) rfl rfl (by rw [hr]; rfl) rfl rfl
  | readerStore hr =>
    refine .intro (.set (i := .reader) (by simp [hr, ReaderPc.role])) ?_ ?_
    · simp [Guard, hr, CheckThenSet.Allowed]
    · exact abs_eq rfl rfl rfl (closes_snoc _ rfl) (countAfter_snoc_of_not _ _ rfl)
  | readerDone hr =>
    refine .intro (.close (i := .reader) (by simp [hr, ReaderPc.role])) ?_ ?_
    · simp only [Guard, hr, CheckThenSet.Allowed, forall_thread, abs_writer, abs_reader, ne_eq,
        WriterPc.role_eq_acting, ReaderPc.role_ne_acting, not_exists]
      exact ⟨fun h => ⟨fun i => h.2 _ i rfl, id⟩, fun h => ⟨by simp, fun r i _ => h.1 i⟩⟩
    · exact abs_eq rfl rfl rfl (by simp [Event.isWritesDone, abs]) (countAfter_snoc_of_not _ _ rfl)
  | join hr hw => exact .skip (by simp [Guard, hr]) rfl rfl (by rw [hr]; rfl) rfl rfl
  | finish hr => exact .skip (by simp [Guard, hr]) rfl rfl (by rw [hr]; rfl) rfl rfl

/-! ## Half-close -/

theorem role_of_finished {s : State F} (h : s.Finished) (t : Thread) : (abs s).role t = .away := by
  cases t with
  | writer => rw [abs_writer, h.1]; rfl
  | reader => rw [abs_reader, h.2]; rfl

theorem halfClose_of_kept {s : State F} (hf : HalfClosed s) (hk : CheckThenSet.Kept (abs s)) :
    HalfClose s := by
  refine ⟨fun hfin => ?_, hk.late⟩
  exact (hk.rest (hf.writer (.inr hfin.1)) (role_of_finished hfin)).1

theorem not_halfClose_of_spoilt {s : State F} (hs : CheckThenSet.Spoilt (abs s)) (hfin : s.Finished) :
    ¬ HalfClose s := by
  intro h
  rcases hs.rest (role_of_finished hfin) with h1 | h1
  · exact h1 (h.once hfin)
  · exact h1 h.noWriteAfter

/-- What holds while the guard is met. -/
structure InsideGuard (s : State F) : Prop where
  phase : Phase s
  flag : HalfClosed s
  kept : CheckThenSet.Kept (abs s)

theorem insideGuard_inductive (requests : List StreamingRecognizeRequest)
    (responses : List (StreamingRecognizeResponse F)) :
    ((lts requests responses).guard Guard).Inductive InsideGuard where
  init := by
    intro s hs; cases hs
    refine ⟨phase_start responses, ⟨by simp [start], by simp [start]⟩, ?_⟩
    constructor <;> simp [abs, start, forall_thread, WriterPc.role, ReaderPc.role]
  step := by
    intro s l s' hi hst
    obtain ⟨hp, hf, hk⟩ := hi
    obtain ⟨hst, hg⟩ := hst
    obtain ⟨a, ha, hiff⟩ := simulated hp hst
    exact ⟨phase_step hp hst, halfClosed_step hp hf hst,
      CheckThenSet.kept_step hk ha (hiff.mp hg)⟩

/-- What holds from the first step on that does not meet it. -/
structure OutsideGuard (s : State F) : Prop where
  phase : Phase s
  spoilt : CheckThenSet.Spoilt (abs s)

theorem InsideGuard.leave {s s' : State F} {l : Lbl} (hi : InsideGuard s)
    (hst : step requests s l = some s') (hg : ¬ Guard s l) : OutsideGuard s' := by
  obtain ⟨a, ha, hiff⟩ := simulated hi.phase hst
  exact ⟨phase_step hi.phase hst, CheckThenSet.spoilt_of_not_allowed ha fun h => hg (hiff.mpr h)⟩

theorem OutsideGuard.stays {s s' : State F} {l : Lbl} (hi : OutsideGuard s)
    (hst : step requests s l = some s') : OutsideGuard s' := by
  obtain ⟨a, ha, -⟩ := simulated hi.phase hst
  exact ⟨phase_step hi.phase hst, CheckThenSet.spoilt_step hi.spoilt ha⟩

/-- **When the stream is half-closed once.** In every run whose steps all meet
the guard, `WritesDone` has been called exactly once when both threads have
finished, and at no moment has a `Write` followed it. In a finished run with a
step that does not meet it, one of the two fails. -/
theorem halfClose_of_guarded (requests : List StreamingRecognizeRequest)
    (responses : List (StreamingRecognizeResponse F)) :
    (∀ ls s, ((lts requests responses).guard Guard).Run (start responses) ls s → HalfClose s) ∧
    (∀ ls s, (lts requests responses).Run (start responses) ls s → s.Finished → HalfClose s →
      ((lts requests responses).guard Guard).Run (start responses) ls s) := by
  have hinv := insideGuard_inductive requests responses
  refine ⟨fun ls s hr => ?_, fun ls s hr hfin hh => ?_⟩
  · have hi := hinv.run rfl hr
    exact halfClose_of_kept hi.flag hi.kept
  · have hdich := LTS.run_dichotomy hinv (fun _ _ _ hi hst hg => hi.leave hst hg)
      (fun _ _ _ hi hst => OutsideGuard.stays hi hst) rfl hr
    rcases hdich with hg | hd
    · exact hg
    · exact absurd hh (not_halfClose_of_spoilt hd.spoilt hfin)

theorem halfClose_of_guarded_at : HalfClose endedEarly ∧ ∃ ls,
    ((lts twoFrames [utteranceEnd]).guard Guard).Run (start [utteranceEnd]) ls endedEarly := by
  have hrun := (halfClose_of_guarded twoFrames [utteranceEnd]).2 _ _ endedEarly_run ⟨rfl, rfl⟩
    ⟨fun _ => rfl, rfl⟩
  exact ⟨(halfClose_of_guarded twoFrames [utteranceEnd]).1 _ _ hrun, _, hrun⟩

/-- Both threads find the flag down: the writer behind its last frame, the
reader on the end of the utterance. -/
def closedTwice : State Nat :=
  { halfClosedStream := true, broken := false, incoming := [], writer := .finished, reader := .returned,
    received := [utteranceEnd],
    log := twoFrames.map (.write · true) ++ [.read utteranceEnd, .store .writer, .writesDone .writer,
      .store .reader, .writesDone .reader] }

/-- The writer finds the flag down in front of the first frame and writes it
after the reader has half-closed. -/
def wroteLate : State Nat :=
  { halfClosedStream := true, broken := false, incoming := [], writer := .loopLoad 2, reader := .read,
    received := [utteranceEnd],
    log := (twoFrames.take 1).map (.write · true) ++ [.read utteranceEnd, .store .reader,
      .writesDone .reader] ++ ((twoFrames.drop 1).take 1).map (.write · true) }

/-- Neither half of the discipline holds in every interleaving. -/
theorem halfClose_fails :
    (¬ ∀ ls s, (lts twoFrames [utteranceEnd]).Run (start [utteranceEnd]) ls (s : State Nat) →
      s.Finished → s.log.countP Event.isWritesDone = 1) ∧
    (¬ ∀ ls s, (lts twoFrames [utteranceEnd]).Run (start [utteranceEnd]) ls (s : State Nat) →
      countAfter Event.isWritesDone Event.isWrite s.log = 0) := by
  refine ⟨fun h => ?_, fun h => ?_⟩
  · have hrun : (lts twoFrames [utteranceEnd]).Run (start [utteranceEnd])
        [.reader true, .reader true, .writer true, .writer true, .writer true, .writer true,
          .writer true, .reader true, .reader true, .writer true, .writer true, .reader true,
          .reader true, .reader true, .reader true, .reader true] closedTwice := LTS.run_of_exec rfl
    exact absurd (h _ _ hrun ⟨rfl, rfl⟩) (by decide)
  · have hrun : (lts twoFrames [utteranceEnd]).Run (start [utteranceEnd])
        [.reader true, .reader true, .writer true, .reader true, .reader true, .reader true,
          .reader true, .writer true] wroteLate := LTS.run_of_exec rfl
    exact absurd (h _ _ hrun) (by decide)

end DictationClient.L5.StreamingRecognize
