import DictationClient.L5Concurrency.StreamingRecognize

/-!
# What `StreamingRecognize` sends and returns

Holds in every interleaving of the writer and the calling thread, for every
pattern of failed `Write`s.

* `Position`: the requests written are the first ones, and the writer's index
  says how many.
* `Steady`: while no `Write` fails and no response asks to stop, only the writer
  half-closes, and only when everything has been written.
* `Stopped`: what may still be written once the reader has set the flag.
* `Handed`: the responses read are those pushed back, and the one in hand.
* `delivered`: the five facts together.
-/
namespace DictationClient.L5.StreamingRecognize

open DictationClient.Api

variable {F : Type} {requests : List StreamingRecognizeRequest}
  {responses : List (StreamingRecognizeResponse F)}

/-! ## The writer's index -/

/-- The first `k` requests have been written and `i` is the next one. -/
def AtIndex (requests : List StreamingRecognizeRequest) (s : State F) (i : Int32) : Prop :=
  ∃ k, 1 ≤ k ∧ k < requests.length ∧ i = Int32.ofNat k ∧ written s.log = requests.take k

def Position (requests : List StreamingRecognizeRequest) (s : State F) : Prop :=
  match s.writer with
  | .notStarted => s.reader = .spawn → written s.log = requests.take 1
  | .loopLoad i => AtIndex requests s i
  | .write i => AtIndex requests s i
  | _ => written s.log <+: requests

theorem Position.written_prefix {s : State F} (hp : Phase s) (h : Position requests s) :
    written s.log <+: requests := by
  unfold Position at h
  split at h
  · rename_i hn
    rcases hp.notStarted.mp hn with hr | hr
    · rw [hp.silent hr]; exact List.nil_prefix
    · rw [h hr]; exact List.take_prefix _ _
  · obtain ⟨k, -, -, -, hw⟩ := h; rw [hw]; exact List.take_prefix _ _
  · obtain ⟨k, -, -, -, hw⟩ := h; rw [hw]; exact List.take_prefix _ _
  · exact h

/-- The loop test, for an index that has not wrapped. -/
theorem enterLoop_ofNat (requests : List StreamingRecognizeRequest) {k : Nat} (hk : k < 2 ^ 31) :
    enterLoop requests (Int32.ofNat k) =
      if k < requests.length then .loopLoad (Int32.ofNat k) else .guardLoad := by
  unfold enterLoop; rw [sizeT_ofNat hk]

/-- Entering the loop with `k` requests written. -/
theorem position_enterLoop {s : State F} {k : Nat} (hk : 1 ≤ k) (hlt : k < 2 ^ 31)
    (hw : written s.log = requests.take k) (hs : s.writer = enterLoop requests (Int32.ofNat k)) :
    Position requests s := by
  rw [enterLoop_ofNat requests hlt] at hs
  unfold Position
  by_cases h : k < requests.length
  · rw [hs, if_pos h]; exact ⟨k, hk, h, rfl, hw⟩
  · rw [hs, if_neg h]; simp only [hw]; exact List.take_prefix _ _

/-- The request at the writer's index is the next one. -/
theorem AtIndex.snoc {s : State F} {i : Int32} {m : StreamingRecognizeRequest}
    (hlen : requests.length < 2 ^ 31) (h : AtIndex requests s i) (hm : requests[sizeT i]? = some m) :
    ∃ k, 1 ≤ k ∧ k < 2 ^ 31 ∧ i + 1 = Int32.ofNat k ∧ written s.log ++ [m] = requests.take k := by
  obtain ⟨k, hk, hlt, rfl, hw⟩ := h
  rw [sizeT_ofNat (by omega)] at hm
  refine ⟨k + 1, by omega, by omega, ?_, ?_⟩
  · rw [Int32.ofNat_add]; rfl
  · rw [hw, List.take_add_one, hm]; rfl

/-- The reader's own steps leave the writer and what was written alone. -/
theorem Position.frame {s s' : State F} (hi : Position requests s) (hw : s'.writer = s.writer)
    (hl : written s'.log = written s.log) (hr : s'.reader ≠ .spawn) : Position requests s' := by
  unfold Position at hi ⊢
  rw [hw]
  cases hpc : s.writer <;> simp only [hpc, AtIndex, hl] at hi ⊢ <;> try exact hi
  intro h; exact absurd h hr

theorem position_step {s s' : State F} {l : Lbl} (hlen : requests.length < 2 ^ 31)
    (hp : Phase s) (hi : Position requests s) (hst : step requests s l = some s') :
    Position requests s' := by
  have hi' := hi
  have hpre := hi.written_prefix hp
  unfold Position at hi
  cases step_cases hst with
  | loopOpen hw hf => rw [hw] at hi; exact hi
  | loopClosed hw hf => exact hpre
  | writeOk hw hm hok =>
    rw [hw] at hi
    obtain ⟨k, hk, hlt, hik, hwr⟩ := hi.snoc hlen hm
    refine position_enterLoop hk hlt ?_ (by rw [hik])
    simpa [Event.request?] using hwr
  | writeFail hw hm hok =>
    rw [hw] at hi
    obtain ⟨k, hk, hlt, hik, hwr⟩ := hi.snoc hlen hm
    unfold Position
    simp only [written_snoc, Event.request?, Option.toList, hwr]
    exact List.take_prefix _ _
  | guardOpen hw hf => exact hpre
  | guardClosed hw hf => exact hpre
  | writerStore hw => simpa [Position, Event.request?] using hpre
  | writerDone hw => simpa [Position, Event.request?] using hpre
  | config hr hm =>
    have hn := hp.notStarted.mpr (.inl hr)
    unfold Position
    rw [hn, hp.silent hr]
    intro _
    cases requests with
    | nil => simp at hm
    | cons m' ms => simp only [List.head?_cons, Option.some.injEq] at hm; subst hm; rfl
  | spawn hr =>
    have hn := hp.notStarted.mpr (.inr hr)
    rw [hn] at hi
    exact position_enterLoop (Nat.le_refl 1) (by omega) (hi hr) rfl
  | readEnd hr hin => exact hi'.frame rfl rfl (by simp)
  | readResult hr hin hs => exact hi'.frame rfl (by simp [Event.request?]) (by simp [hr])
  | readStop hr hin hs => exact hi'.frame rfl (by simp [Event.request?]) (by simp)
  | loadOpen hr hf => exact hi'.frame rfl rfl (by simp)
  | loadClosed hr hf => exact hi'.frame rfl rfl (by simp)
  | readerStore hr => exact hi'.frame rfl (by simp [Event.request?]) (by simp)
  | readerDone hr => exact hi'.frame rfl (by simp [Event.request?]) (by simp)
  | join hr hw => exact hi'.frame rfl rfl (by simp)
  | finish hr => exact hi'.frame rfl rfl (by simp)

/-! ## Nothing fails and nothing asks to stop -/

/-- A `Write` that was accepted, a response that does not ask to stop, or an
event of another kind. -/
def Event.isSteady : Event F → Bool
  | .write _ ok => ok
  | .read r => !stops r
  | _ => true

def WriterPc.pastLoop : WriterPc → Bool
  | .notStarted => false
  | .loopLoad _ => false
  | .write _ => false
  | _ => true

/-- The response the reader is handling because it asks to stop. -/
def ReaderPc.inHand : ReaderPc F → Option (StreamingRecognizeResponse F)
  | .load r => some r
  | .store r => some r
  | .writesDone r => some r
  | _ => none

structure Steady (requests : List StreamingRecognizeRequest) (s : State F) : Prop where
  flag : s.halfClosedStream = true → s.writer = .writesDone ∨ s.writer = .finished
  reader : s.reader.inHand = none
  accepted : s.broken = false
  all : s.writer.pastLoop = true → written s.log = requests

/-- When the loop test fails, everything has been written. -/
theorem enterLoop_pastLoop {k : Nat} {log : List (Event F)} (hlt : k < 2 ^ 31)
    (hw : written log = requests.take k)
    (h : (enterLoop requests (Int32.ofNat k)).pastLoop = true) : written log = requests := by
  rw [enterLoop_ofNat requests hlt] at h
  by_cases hk : k < requests.length
  · rw [if_pos hk] at h; cases h
  · rw [hw, List.take_of_length_le (by omega)]

theorem steady_step {s s' : State F} {l : Lbl} (hlen : requests.length < 2 ^ 31)
    (hp : Phase s) (hpos : Position requests s)
    (hi : s.log.all Event.isSteady = true → Steady requests s)
    (hst : step requests s l = some s') (hs' : s'.log.all Event.isSteady = true) :
    Steady requests s' := by
  have hlog : s.log.all Event.isSteady = true := by
    obtain ⟨tl, htl⟩ := step_log_le hst
    rw [← htl, List.all_append, Bool.and_eq_true] at hs'
    exact hs'.1
  obtain ⟨hfl, hr, hb, hall⟩ := hi hlog
  cases step_cases hst with
  | loopOpen hw hf => exact ⟨by simp [hf], hr, hb, by simp [WriterPc.pastLoop]⟩
  | loopClosed hw hf => simpa [hw] using hfl hf
  | @writeOk _ i m hw hm hok =>
    rw [Position, hw] at hpos
    obtain ⟨k, -, hlt, hik, hwr⟩ := AtIndex.snoc hlen hpos hm
    rw [← show written (s.log ++ [.write m true]) = written s.log ++ [m] by simp [Event.request?]]
      at hwr
    refine ⟨fun hf => ?_, hr, rfl, ?_⟩
    · simpa [hw] using hfl hf
    · simp only [hik]; exact enterLoop_pastLoop hlt hwr
  | writeFail hw hm hok => simp [Event.isSteady] at hs'
  | guardOpen hw hf =>
    exact ⟨by simp [hf], hr, hb, fun _ => hall (by simp [hw, WriterPc.pastLoop])⟩
  | guardClosed hw hf =>
    exact ⟨fun _ => .inr rfl, hr, hb, fun _ => hall (by simp [hw, WriterPc.pastLoop])⟩
  | writerStore hw =>
    exact ⟨fun _ => .inl rfl, hr, hb, fun _ => by
      simpa [Event.request?] using hall (by simp [hw, WriterPc.pastLoop])⟩
  | writerDone hw =>
    exact ⟨fun _ => .inr rfl, hr, hb, fun _ => by
      simpa [Event.request?] using hall (by simp [hw, WriterPc.pastLoop])⟩
  | config hr' hm =>
    have hn := hp.notStarted.mpr (.inl hr')
    refine ⟨fun hf => ?_, rfl, ?_, by simp [hn, WriterPc.pastLoop]⟩
    · exact absurd (hp.halfOpen hn) (by simpa using hf)
    · simpa [Event.isSteady, hlog] using hs'
  | spawn hr' =>
    have hn := hp.notStarted.mpr (.inr hr')
    rw [Position, hn] at hpos
    refine ⟨fun hf => ?_, rfl, hb, ?_⟩
    · exact absurd (hp.halfOpen hn) (by simpa using hf)
    · exact enterLoop_pastLoop (k := 1) (by omega) (hpos hr')
  | readEnd hr' hin => exact ⟨hfl, rfl, hb, hall⟩
  | readResult hr' hin hs => exact ⟨hfl, hr, hb, fun h => by simpa [Event.request?] using hall h⟩
  | readStop hr' hin hs => simp [Event.isSteady, hs] at hs'
  | loadOpen hr' hf => rw [hr'] at hr; cases hr
  | loadClosed hr' hf => rw [hr'] at hr; cases hr
  | readerStore hr' => rw [hr'] at hr; cases hr
  | readerDone hr' => rw [hr'] at hr; cases hr
  | join hr' hw => exact ⟨hfl, rfl, hb, hall⟩
  | finish hr' => exact ⟨hfl, rfl, hb, hall⟩

/-! ## After the reader has set the flag -/

/-- The `Write` the writer may already have decided on is the last one. -/
structure Stopped (s : State F) : Prop where
  closed : s.log.any Event.isReaderStore = true → s.halfClosedStream = true
  atMostOne : countAfter Event.isReaderStore Event.isWrite s.log ≤ 1
  pending : ∀ i, s.writer = .write i → countAfter Event.isReaderStore Event.isWrite s.log = 0

/-- A step that neither writes nor is the reader's store, and does not decide on
a `Write`. -/
theorem Stopped.frame {s s' : State F} (hi : Stopped s)
    (hf : s.halfClosedStream = true → s'.halfClosedStream = true)
    (hany : s'.log.any Event.isReaderStore = s.log.any Event.isReaderStore)
    (hcount : countAfter Event.isReaderStore Event.isWrite s'.log =
      countAfter Event.isReaderStore Event.isWrite s.log)
    (hw : ∀ i, s'.writer = .write i → s.writer = .write i) : Stopped s' where
  closed h := by rw [hany] at h; exact hf (hi.closed h)
  atMostOne := by rw [hcount]; exact hi.atMostOne
  pending i h := by rw [hcount]; exact hi.pending i (hw i h)

theorem enterLoop_ne_write (requests : List StreamingRecognizeRequest) (i j : Int32) :
    enterLoop requests i ≠ .write j := by
  unfold enterLoop; split <;> simp

/-- The pending `Write`, accepted or not. -/
theorem stopped_write {s s' : State F} {m : StreamingRecognizeRequest} {ok : Bool} {i : Int32}
    (hi : Stopped s) (hw : s.writer = .write i) (hf : s'.halfClosedStream = s.halfClosedStream)
    (hl : s'.log = s.log ++ [.write m ok]) (hw' : ∀ j, s'.writer ≠ .write j) : Stopped s' where
  closed h := by
    rw [hl, any_snoc_of_not Event.isReaderStore rfl] at h
    rw [hf]; exact hi.closed h
  atMostOne := by
    have h0 := hi.pending i hw
    rw [hl, countAfter_snoc, h0]; split <;> omega
  pending j h := absurd h (hw' j)

theorem stopped_step {s s' : State F} {l : Lbl} (hp : Phase s) (hi : Stopped s)
    (hst : step requests s l = some s') : Stopped s' := by
  cases step_cases hst with
  | loopOpen hw hf =>
    -- the flag is down, so the reader has not stored yet
    have hany : s.log.any Event.isReaderStore = false :=
      Bool.eq_false_iff.mpr fun h => absurd (hi.closed h) (by simp [hf])
    exact ⟨hi.closed, hi.atMostOne, fun _ _ => countAfter_of_any_eq_false _ _ hany⟩
  | loopClosed hw hf => exact hi.frame id rfl rfl (by simp)
  | writeOk hw hm hok => exact stopped_write hi hw rfl rfl (enterLoop_ne_write _ _)
  | writeFail hw hm hok => exact stopped_write hi hw rfl rfl (by simp)
  | guardOpen hw hf => exact hi.frame id rfl rfl (by simp)
  | guardClosed hw hf => exact hi.frame id rfl rfl (by simp)
  | writerStore hw =>
    exact hi.frame (fun _ => rfl) (any_snoc_of_not _ rfl) (countAfter_snoc_of_not _ _ rfl) (by simp)
  | writerDone hw =>
    exact hi.frame id (any_snoc_of_not _ rfl) (countAfter_snoc_of_not _ _ rfl) (by simp)
  | config hr hm =>
    have hn := hp.notStarted.mpr (.inl hr)
    rw [hp.silent hr]
    exact ⟨by simp [Event.isReaderStore], Nat.zero_le 1, by simp [hn]⟩
  | spawn hr => exact hi.frame id rfl rfl fun i h => absurd h (enterLoop_ne_write _ _ i)
  | readEnd hr hin => exact hi.frame id rfl rfl fun _ h => h
  | readResult hr hin hs =>
    exact hi.frame id (any_snoc_of_not _ rfl) (countAfter_snoc_of_not _ _ rfl) fun _ h => h
  | readStop hr hin hs =>
    exact hi.frame id (any_snoc_of_not _ rfl) (countAfter_snoc_of_not _ _ rfl) fun _ h => h
  | loadOpen hr hf => exact hi.frame id rfl rfl fun _ h => h
  | loadClosed hr hf => exact hi.frame id rfl rfl fun _ h => h
  | readerStore hr =>
    have hc := countAfter_snoc_of_not Event.isReaderStore Event.isWrite (l := s.log)
      (a := .store .reader) rfl
    exact ⟨fun _ => rfl, by simp only [hc]; exact hi.atMostOne,
      fun i h => by simp only [hc]; exact hi.pending i h⟩
  | readerDone hr =>
    exact hi.frame id (any_snoc_of_not _ rfl) (countAfter_snoc_of_not _ _ rfl) fun _ h => h
  | join hr hw => exact hi.frame id rfl rfl fun _ h => h
  | finish hr => exact hi.frame id rfl rfl fun _ h => h

/-- What was read is what was pushed back, with the response in hand last. -/
structure Handed (responses : List (StreamingRecognizeResponse F)) (s : State F) : Prop where
  pushed : s.received ++ s.reader.inHand.toList = reads s.log
  all : reads s.log ++ s.incoming = responses
  ended : s.reader = .join ∨ s.reader = .finish ∨ s.reader = .returned → s.incoming = []

/-- Steps that neither read nor push back. -/
theorem Handed.frame {s s' : State F} (hi : Handed responses s) (hrec : s'.received = s.received)
    (hhand : s'.reader.inHand = s.reader.inHand) (hlog : reads s'.log = reads s.log)
    (hin : s'.incoming = s.incoming)
    (hend : s'.reader = .join ∨ s'.reader = .finish ∨ s'.reader = .returned → s.incoming = []) :
    Handed responses s' where
  pushed := by rw [hrec, hhand, hlog]; exact hi.pushed
  all := by rw [hlog, hin]; exact hi.all
  ended h := by rw [hin]; exact hend h

theorem handed_step {s s' : State F} {l : Lbl} (hi : Handed responses s)
    (hst : step requests s l = some s') : Handed responses s' := by
  have hpush := hi.pushed
  have hall := hi.all
  cases step_cases hst with
  | loopOpen hw hf => exact hi.frame rfl rfl rfl rfl hi.ended
  | loopClosed hw hf => exact hi.frame rfl rfl rfl rfl hi.ended
  | writeOk hw hm hok => exact hi.frame rfl rfl (by simp [Event.response?]) rfl hi.ended
  | writeFail hw hm hok => exact hi.frame rfl rfl (by simp [Event.response?]) rfl hi.ended
  | guardOpen hw hf => exact hi.frame rfl rfl rfl rfl hi.ended
  | guardClosed hw hf => exact hi.frame rfl rfl rfl rfl hi.ended
  | writerStore hw => exact hi.frame rfl rfl (by simp [Event.response?]) rfl hi.ended
  | writerDone hw => exact hi.frame rfl rfl (by simp [Event.response?]) rfl hi.ended
  | config hr hm => exact hi.frame rfl (by rw [hr]; rfl) (by simp [Event.response?]) rfl (by simp)
  | spawn hr => exact hi.frame rfl (by rw [hr]; rfl) rfl rfl (by simp)
  | readEnd hr hin => exact hi.frame rfl (by rw [hr]; rfl) rfl rfl fun _ => hin
  | readResult hr hin hs =>
    rw [hr] at hpush
    rw [hin] at hall
    refine ⟨?_, ?_, by simp [hr]⟩
    · simpa [hr, ReaderPc.inHand, Event.response?] using hpush
    · simpa [Event.response?] using hall
  | readStop hr hin hs =>
    rw [hr] at hpush
    rw [hin] at hall
    refine ⟨?_, ?_, by simp⟩
    · simpa [ReaderPc.inHand, Event.response?] using hpush
    · simpa [Event.response?] using hall
  | loadOpen hr hf => exact hi.frame rfl (by rw [hr]; rfl) rfl rfl (by simp)
  | loadClosed hr hf =>
    rw [hr] at hpush
    exact ⟨by simpa [ReaderPc.inHand] using hpush, hall, by simp⟩
  | readerStore hr => exact hi.frame rfl (by rw [hr]; rfl) (by simp [Event.response?]) rfl (by simp)
  | readerDone hr =>
    rw [hr] at hpush
    refine ⟨?_, by simpa [Event.response?] using hall, by simp⟩
    simpa [ReaderPc.inHand, Event.response?] using hpush
  | join hr hw =>
    exact hi.frame rfl (by rw [hr]; rfl) rfl rfl fun _ => hi.ended (.inl hr)
  | finish hr =>
    exact hi.frame rfl (by rw [hr]; rfl) rfl rfl fun _ => hi.ended (.inr (.inl hr))

/-! ## Delivery -/

structure Inv (requests : List StreamingRecognizeRequest)
    (responses : List (StreamingRecognizeResponse F)) (s : State F) : Prop where
  phase : Phase s
  position : Position requests s
  steady : s.log.all Event.isSteady = true → Steady requests s
  flag : HalfClosed s
  stopped : Stopped s
  handed : Handed responses s

theorem inv_start : Inv requests responses (start responses) where
  phase := phase_start responses
  position := by simp [Position, start]
  steady _ := ⟨by simp [start], rfl, rfl, by simp [start, WriterPc.pastLoop]⟩
  flag := ⟨by simp [start], by simp [start]⟩
  stopped := ⟨by simp [start], by simp [start], by simp [start]⟩
  handed := ⟨by simp [start, ReaderPc.inHand], by simp [start], by simp [start]⟩

theorem inv_inductive (hlen : requests.length < 2 ^ 31) :
    (lts requests responses).Inductive (Inv requests responses) where
  init := by intro s hs; cases hs; exact inv_start
  step := by
    intro s l s' hi hst
    obtain ⟨hp, hpos, hs, hf, hst', hh⟩ := hi
    exact ⟨phase_step hp hst, position_step hlen hp hpos hst,
      steady_step hlen hp hpos hs hst, halfClosed_step hp hf hst, stopped_step hp hst' hst,
      handed_step hh hst⟩

/-- Where nothing failed and nothing asked to stop, all requests have been written. -/
theorem Inv.all_written {s : State F} (hi : Inv requests responses s) (hfin : s.Finished)
    (hread : ∀ r, .read r ∈ s.log → stops r = false)
    (hwrite : ∀ m ok, .write m ok ∈ s.log → ok = true) : written s.log = requests := by
  refine (hi.steady ?_).all (by rw [hfin.1]; rfl)
  rw [List.all_eq_true]
  intro e he
  cases e with
  | write m ok => exact hwrite m ok he
  | read r => simpa [Event.isSteady] using hread r he
  | store t => rfl
  | writesDone t => rfl

theorem HalfClosed.writesDone_mem {s : State F} (hi : HalfClosed s) (hfin : s.Finished) :
    ∃ t, .writesDone t ∈ s.log := by
  obtain ⟨hw, hrd⟩ := hfin
  rcases hi.done (hi.writer (.inr hw)) with h | h | ⟨r, h⟩
  · obtain ⟨e, he, hd⟩ := List.any_eq_true.mp h
    cases e <;> simp only [Event.isWritesDone, reduceCtorEq] at hd
    exact ⟨_, he⟩
  · rw [hw] at h; cases h
  · rw [hrd] at h; cases h

/-- The result is what was read, which is what the server sent. -/
theorem Handed.result {s : State F} (hi : Handed responses s) (hfin : s.Finished) :
    s.received = reads s.log ∧ s.received = responses := by
  have hrec := hi.pushed
  have hall := hi.all
  rw [hfin.2] at hrec
  rw [hi.ended (.inr (.inr hfin.2)), List.append_nil] at hall
  have hrec' : s.received = reads s.log := by simpa [ReaderPc.inHand] using hrec
  exact ⟨hrec', hrec'.trans hall⟩

/-- **Delivery.** At every moment the requests written are a prefix of the list,
and at most one is written after the reader has set the flag. When both threads
have finished, everything has been written if no `Write` failed and no response
asked to stop, the stream has been half-closed, and the result is what was
read, which is what the server sent. -/
theorem delivered (requests : List StreamingRecognizeRequest)
    (responses : List (StreamingRecognizeResponse F)) (hlen : requests.length < 2 ^ 31)
    {ls : List Lbl} {s : State F} (hr : (lts requests responses).Run (start responses) ls s) :
    written s.log <+: requests ∧
    countAfter Event.isReaderStore Event.isWrite s.log ≤ 1 ∧
    (s.Finished → (∀ r, .read r ∈ s.log → stops r = false) → (∀ m ok, .write m ok ∈ s.log → ok = true) →
      written s.log = requests) ∧
    (s.Finished → ∃ t, .writesDone t ∈ s.log) ∧
    (s.Finished → s.received = reads s.log ∧ s.received = responses) := by
  have hi : Inv requests responses s := (inv_inductive hlen).run rfl hr
  refine ⟨hi.position.written_prefix hi.phase, hi.stopped.atMostOne, ?_, ?_, ?_⟩
  · exact hi.all_written
  · exact hi.flag.writesDone_mem
  · exact hi.handed.result

theorem delivered_at :
    written endedEarly.log <+: twoFrames ∧
    countAfter Event.isReaderStore Event.isWrite endedEarly.log ≤ 1 ∧
    (endedEarly.Finished → (∀ r, .read r ∈ endedEarly.log → stops r = false) →
      (∀ m ok, .write m ok ∈ endedEarly.log → ok = true) → written endedEarly.log = twoFrames) ∧
    (endedEarly.Finished → ∃ t, .writesDone t ∈ endedEarly.log) ∧
    (endedEarly.Finished → endedEarly.received = reads endedEarly.log ∧
      endedEarly.received = [utteranceEnd]) :=
  delivered twoFrames [utteranceEnd] (by decide) endedEarly_run

end DictationClient.L5.StreamingRecognize
