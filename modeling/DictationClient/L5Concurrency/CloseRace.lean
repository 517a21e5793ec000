import DictationClient.Core.LTS
import DictationClient.L2Framing.AudioStream

/-!
# `AudioStream.close()` against a running generator

gRPC draws requests on its own thread, so `AudioStream.generator()` runs there,
while the thread that reads the responses calls `close()` on an error or a
speech event (python/service/streaming_recognizer.py:77-84). Nothing orders the
two: `RequestIterator` holds its lock around `next(audio_generator)`, `close()`
does not take it. For one frame the generator reads `data_index` for the loop
test, for `end_sample` and for the slice, and then writes it; `close()` writes
it once.

Each read and write is one step here (`GenPc`). A `close()` that falls between
the read for `end_sample` and the write of the frame's end is overwritten by
that write, unless the frame ends the audio: the generator goes on, and when
the slice was not taken yet it has also skipped the frame.

The sleep between the store and the `yield` touches nothing shared and is no step
of its own. It is taken to return, which it does unless the delay is negative; then
the first frame raises there and no chunk is ever yielded (`SharedCursor`,
`LockedIterator.step_yield`).

* `micro_yields`, `micro_stops`: without interference the steps of one
  resumption are `AudioStream.resume`.
* `closeKept_of_guarded`: if no `close()` falls into that window, what was
  yielded is a prefix of the audio and at most one chunk follows a `close()`.
* `lost_update`: a `close()` in the window can be followed by two chunks.
-/
namespace DictationClient.L5.CloseRace

open DictationClient.L2 AudioStream

/-- Where the generator stands; the arguments are its local variables.
mirrors python/utils/audio_stream.py:60-68 -/
inductive GenPc where
  | test
  | readEnd
  | slice (endSample : Int)
  | store (endSample : Int) (data : Bytes)
  | yield (data : Bytes)
  | done
  deriving DecidableEq, Repr

inductive Event where
  | yield (data : Bytes)
  | close
  deriving DecidableEq, Repr

def Event.isYield : Event → Bool
  | .yield _ => true
  | .close => false

def Event.isClose : Event → Bool
  | .yield _ => false
  | .close => true

/-- The chunks yielded, in order. -/
def yielded (log : List Event) : List Bytes :=
  log.filterMap fun | .yield data => some data | .close => none

structure State where
  dataIndex : Int
  pc : GenPc
  log : List Event
  deriving DecidableEq, Repr

inductive Lbl where
  | generator
  | close
  deriving DecidableEq, Repr

section Model
variable (src : AudioStream)

/-- The generator's next read or write of `data_index`; `src` gives the audio
and the frame size, which do not change.
mirrors python/utils/audio_stream.py:60-68 -/
def genStep (s : State) : Option State :=
  match s.pc with
  | .test => some { s with pc := if s.dataIndex < src.audio.length then .readEnd else .done }
  | .readEnd => some { s with pc := .slice (src.endSample s.dataIndex) }
  | .slice e => some { s with pc := .store e (pySlice src.audio s.dataIndex e) }
  | .store e data => some { s with dataIndex := e, pc := .yield data }
  | .yield data => some { s with pc := .test, log := s.log ++ [.yield data] }
  | .done => none

def step (s : State) : Lbl → Option State
  | .generator => genStep src s
  | .close => some { s with dataIndex := src.close.dataIndex, log := s.log ++ [.close] }

/-- A stream freshly entered, and a generator nobody has resumed. -/
def start : State := { dataIndex := 0, pc := .test, log := [] }

def lts : LTS State Lbl := LTS.ofFn (· = start) (step src)

/-- What `close()` is for. -/
structure CloseKept (s : State) : Prop where
  isPrefix : (yielded s.log).flatten <+: src.audio
  atMostOne : countAfter Event.isClose Event.isYield s.log ≤ 1

/-- `close()` does not fall between the read for `end_sample` and the write of
it, the last frame of the audio apart. -/
def Guard (s : State) : Lbl → Prop
  | .generator => True
  | .close =>
    match s.pc with
    | .slice e => ¬ e < src.audio.length
    | .store e _ => ¬ e < src.audio.length
    | _ => True

end Model

/-! ## One resumption -/

section Micro
variable (src : AudioStream) (i : Int) (log : List Event)

/-- Five undisturbed steps take one frame. -/
theorem exec_frame {i : Int} (hi : i < src.audio.length) :
    LTS.exec (step src) ⟨i, .test, log⟩ (List.replicate 5 .generator) =
      some ⟨src.endSample i, .test, log ++ [.yield (pySlice src.audio i (src.endSample i))]⟩ := by
  simp only [List.replicate, LTS.exec, step, genStep, if_pos hi, Option.bind_some]

/-- Five undisturbed steps of a suspended generator are one `next`. -/
theorem micro_yields {data : Bytes} {st' : AudioStream}
    (h : resume generator { src with dataIndex := i } = (some data, generator, st')) :
    LTS.exec (step src) ⟨i, .test, log⟩ (List.replicate 5 .generator) =
      some ⟨st'.dataIndex, .test, log ++ [.yield data]⟩ := by
  rw [resume, if_neg (by simp [generator])] at h
  split at h
  · rename_i hi
    simp only [Prod.mk.injEq, Option.some.injEq, true_and] at h
    obtain ⟨rfl, rfl⟩ := h
    exact exec_frame src log hi
  · simp at h

theorem micro_stops {g : Generator} {st' : AudioStream}
    (h : resume generator { src with dataIndex := i } = (none, g, st')) :
    LTS.exec (step src) ⟨i, .test, log⟩ [.generator] = some ⟨st'.dataIndex, .done, log⟩ := by
  rw [resume, if_neg (by simp [generator])] at h
  split at h
  · simp at h
  · rename_i hi
    simp only [Prod.mk.injEq, true_and] at h
    obtain ⟨-, rfl⟩ := h
    have hi' : ¬ i < src.audio.length := hi
    simp [LTS.exec, step, genStep, hi']

end Micro

/-! ## Log lemmas -/

@[simp] theorem yielded_close (log : List Event) : yielded (log ++ [.close]) = yielded log := by
  simp [yielded]

@[simp] theorem flatten_yielded_yield (log : List Event) (data : Bytes) :
    (yielded (log ++ [.yield data])).flatten = (yielded log).flatten ++ data := by
  simp [yielded]

@[simp] theorem countAfter_close (log : List Event) :
    countAfter Event.isClose Event.isYield (log ++ [.close]) =
      countAfter Event.isClose Event.isYield log := by
  simp [countAfter_snoc, Event.isYield]

/-! ## Invariant -/

/-- Before any `close()`: the index is the number of bytes yielded, plus the
chunk in the generator's hands once it has been stored. -/
def InvLive (src : AudioStream) (out : Bytes) (s : State) : Prop :=
  match s.pc with
  | .test => s.dataIndex = out.length
  | .readEnd => s.dataIndex = out.length ∧ s.dataIndex < src.audio.length
  | .slice e => s.dataIndex = out.length ∧ s.dataIndex < src.audio.length ∧ e = src.endSample s.dataIndex
  | .store e data => out ++ data <+: src.audio ∧ e = (out ++ data).length
  | .yield data => out ++ data <+: src.audio ∧ s.dataIndex = (out ++ data).length
  | .done => True

/-- After a `close()`, with `n` chunks yielded since: the index is past the end
or about to be stored there. -/
def InvClosed (src : AudioStream) (out : Bytes) (n : Nat) (s : State) : Prop :=
  match s.pc with
  | .test => n ≤ 1 ∧ src.audio.length ≤ s.dataIndex
  | .readEnd => n = 0 ∧ src.audio.length ≤ s.dataIndex
  | .slice e => n = 0 ∧ src.audio.length ≤ s.dataIndex ∧ e = src.audio.length
  | .store e data => n = 0 ∧ e = src.audio.length ∧ out ++ data <+: src.audio
  | .yield data => n = 0 ∧ src.audio.length ≤ s.dataIndex ∧ out ++ data <+: src.audio
  | .done => n ≤ 1

structure Inv (src : AudioStream) (s : State) : Prop where
  isPrefix : (yielded s.log).flatten <+: src.audio
  live : s.log.any Event.isClose = false → InvLive src (yielded s.log).flatten s
  closed : s.log.any Event.isClose = true →
    InvClosed src (yielded s.log).flatten (countAfter Event.isClose Event.isYield s.log) s

/-- The frame behind a prefix extends it. -/
theorem prefix_append_slice {src : AudioStream} {out : Bytes} (hs : 0 < src.frameSamplesSize)
    (h : out <+: src.audio) (hlt : (out.length : Int) < src.audio.length) :
    out ++ pySlice src.audio out.length (src.endSample out.length) <+: src.audio ∧
      src.endSample out.length =
        ((out ++ pySlice src.audio out.length (src.endSample out.length)).length : Nat) := by
  obtain ⟨tl, htl⟩ := h
  obtain ⟨h1, h2, h3, h4⟩ := endSample_bounds hs hlt
  have hdrop : src.audio.drop out.length = tl := by rw [← htl, List.drop_left]
  rw [pySlice_of_nonneg _ (by omega) (by omega), Int.toNat_natCast, hdrop]
  refine ⟨?_, ?_⟩
  · rw [← htl]
    exact (List.prefix_append_right_inj out).mpr (List.take_prefix _ tl)
  · have hl : src.audio.length = out.length + tl.length := by rw [← htl, List.length_append]
    rw [List.length_append, List.length_take]
    omega

/-- A slice from behind the end is empty. -/
theorem slice_past_end {src : AudioStream} {i : Int} (h : src.audio.length ≤ i) (e : Int) :
    pySlice src.audio i e = [] := by
  rw [pySlice, sliceBound, if_neg (by omega)]
  refine List.drop_eq_nil_of_le ?_
  rw [List.length_take]; omega

theorem endSample_past_end {src : AudioStream} {i : Int} (hs : 0 < src.frameSamplesSize)
    (h : src.audio.length ≤ i) : src.endSample i = src.audio.length := by
  rw [endSample, if_pos (by omega)]

theorem inv_start (src : AudioStream) : Inv src start where
  isPrefix := by simp [start, yielded]
  live _ := by simp [InvLive, start, yielded]
  closed h := by simp [start] at h

/-- The first `close()`, if the guard allows it, leaves nothing to be overwritten. -/
theorem InvLive.close {src : AudioStream} {out : Bytes} {s : State} (hs : 0 < src.frameSamplesSize)
    (hI : InvLive src out s) (hg : Guard src s .close) {i : Int} (hpast : src.audio.length ≤ i)
    (log : List Event) : InvClosed src out 0 { s with dataIndex := i, log } := by
  unfold InvLive at hI
  unfold Guard at hg
  unfold InvClosed
  cases hpc : s.pc <;> simp only [hpc] at hI hg ⊢
  case test => exact ⟨Nat.zero_le 1, hpast⟩
  case readEnd => exact ⟨trivial, hpast⟩
  case slice e =>
    obtain ⟨-, hlt, rfl⟩ := hI
    have := endSample_bounds hs hlt
    exact ⟨trivial, hpast, by omega⟩
  case store e data =>
    have := hI.1.length_le
    exact ⟨trivial, by omega, hI.1⟩
  case yield data => exact ⟨trivial, hpast, hI.1⟩
  case done => exact Nat.zero_le 1

/-- A further `close()` changes nothing. -/
theorem InvClosed.close {src : AudioStream} {out : Bytes} {n : Nat} {s : State}
    (hI : InvClosed src out n s) {i : Int} (hpast : src.audio.length ≤ i) (log : List Event) :
    InvClosed src out n { s with dataIndex := i, log } := by
  unfold InvClosed at hI ⊢
  cases hpc : s.pc <;> simp only [hpc] at hI ⊢
  case test => exact ⟨hI.1, hpast⟩
  case readEnd => exact ⟨hI.1, hpast⟩
  case slice e => exact ⟨hI.1, hpast, hI.2.2⟩
  case store e data => exact hI
  case yield data => exact ⟨hI.1, hpast, hI.2.2⟩
  case done => exact hI

theorem inv_close {src : AudioStream} {s s' : State} (hs : 0 < src.frameSamplesSize)
    (hi : Inv src s) (hg : Guard src s .close) (hst : step src s .close = some s') : Inv src s' := by
  obtain ⟨hp, hlive, hclosed⟩ := hi
  simp only [step, Option.some.injEq] at hst; subst hst
  refine ⟨by simpa using hp, fun h => by simp [Event.isClose] at h, fun _ => ?_⟩
  have hpast : (src.audio.length : Int) ≤ src.close.dataIndex := by simp only [AudioStream.close]; omega
  rw [countAfter_close, yielded_close]
  cases hc : s.log.any Event.isClose with
  | false =>
    rw [countAfter_of_any_eq_false Event.isClose Event.isYield hc]
    exact (hlive hc).close hs hg hpast _
  | true => exact (hclosed hc).close hpast _

theorem inv_genStep {src : AudioStream} {s s' : State} (hs : 0 < src.frameSamplesSize)
    (hi : Inv src s) (hst : genStep src s = some s') : Inv src s' := by
  obtain ⟨hp, hlive, hclosed⟩ := hi
  unfold InvLive at hlive
  unfold InvClosed at hclosed
  unfold genStep at hst
  cases hpc : s.pc <;> simp only [hpc, Option.some.injEq, reduceCtorEq] at hst hlive hclosed <;> subst hst
  case test =>
    refine ⟨hp, fun h => ?_, fun h => ?_⟩
    · have := hlive h
      by_cases hlt : s.dataIndex < src.audio.length <;> simp only [InvLive, hlt, if_true, if_false]
      exact ⟨this, trivial⟩
    · obtain ⟨hn, hpast⟩ := hclosed h
      simp only [InvClosed, if_neg (show ¬ s.dataIndex < src.audio.length by omega)]
      exact hn
  case readEnd =>
    refine ⟨hp, fun h => ⟨(hlive h).1, (hlive h).2, rfl⟩, fun h => ?_⟩
    obtain ⟨hn, hpast⟩ := hclosed h
    exact ⟨hn, hpast, endSample_past_end hs hpast⟩
  case slice e =>
    refine ⟨hp, fun h => ?_, fun h => ?_⟩
    · obtain ⟨hidx, hlt, rfl⟩ := hlive h
      simp only [InvLive, hidx]
      exact prefix_append_slice hs hp (by omega)
    · obtain ⟨hn, hpast, rfl⟩ := hclosed h
      simp only [InvClosed, slice_past_end hpast, List.append_nil]
      exact ⟨hn, trivial, hp⟩
  case store e data =>
    refine ⟨hp, fun h => ⟨(hlive h).1, (hlive h).2⟩, fun h => ?_⟩
    obtain ⟨hn, rfl, hd⟩ := hclosed h
    exact ⟨hn, Int.le_refl _, hd⟩
  case yield data =>
    have hd : (yielded s.log).flatten ++ data <+: src.audio := by
      cases hc : s.log.any Event.isClose with
      | false => exact (hlive hc).1
      | true => exact (hclosed hc).2.2
    have hany : (s.log ++ [Event.yield data]).any Event.isClose = s.log.any Event.isClose :=
      any_snoc_of_not _ rfl
    refine ⟨by simpa using hd, fun h => ?_, fun h => ?_⟩
    · rw [hany] at h
      simpa [InvLive] using (hlive h).2
    · rw [hany] at h
      obtain ⟨hn, hpast, -⟩ := hclosed h
      simp only [InvClosed, countAfter_snoc, hn, h, Event.isYield]
      exact ⟨by decide, hpast⟩

theorem inv_inductive {src : AudioStream} (hs : 0 < src.frameSamplesSize) :
    ((lts src).guard (Guard src)).Inductive (Inv src) where
  init := by rintro s rfl; exact inv_start src
  step := by
    intro s l s' hi hst
    obtain ⟨hst, hg⟩ := hst
    cases l with
    | generator => exact inv_genStep hs hi hst
    | close => exact inv_close hs hi hg hst

theorem Inv.closeKept {src : AudioStream} {s : State} (hi : Inv src s) : CloseKept src s := by
  refine ⟨hi.isPrefix, ?_⟩
  cases hc : s.log.any Event.isClose with
  | false => rw [countAfter_of_any_eq_false _ _ hc]; exact Nat.zero_le 1
  | true =>
    have hI := hi.closed hc
    unfold InvClosed at hI
    split at hI <;> omega

/-! ## The window -/

/-- **Lost update.** A `close()` the guard does not allow is followed by two
chunks if the generator is left to run. -/
theorem lost_update {src : AudioStream} {s : State} (hg : ¬ Guard src s .close) :
    ∃ ls s', (lts src).Run s (.close :: ls) s' ∧
      2 ≤ countAfter Event.isClose Event.isYield s'.log := by
  have two : ∀ d d' : Bytes, 2 ≤ countAfter Event.isClose Event.isYield
      (s.log ++ [.close, .yield d, .yield d']) := by
    intro d d'
    have h : [Event.yield d, .yield d'].countP Event.isYield ≤
        countAfter Event.isClose Event.isYield (s.log ++ .close :: [.yield d, .yield d']) :=
      countP_le_countAfter Event.isClose Event.isYield rfl
    exact h
  obtain ⟨i, pc, log⟩ := s
  unfold Guard at hg
  cases pc <;> simp only [not_true_eq_false, not_not] at hg
  case slice e =>
    have hstore : (lts src).Run ⟨i, .slice e, log⟩ (.close :: List.replicate 3 .generator)
        ⟨e, .test, log ++ [.close] ++ [.yield (pySlice src.audio src.close.dataIndex e)]⟩ :=
      LTS.run_of_exec rfl
    have hrun := hstore.append (LTS.run_of_exec (exec_frame src _ hg))
    rw [List.append_assoc, List.append_assoc] at hrun
    exact ⟨_, _, hrun, two _ _⟩
  case store e data =>
    have hstore : (lts src).Run ⟨i, .store e data, log⟩ (.close :: List.replicate 2 .generator)
        ⟨e, .test, log ++ [.close] ++ [.yield data]⟩ := LTS.run_of_exec rfl
    have hrun := hstore.append (LTS.run_of_exec (exec_frame src _ hg))
    rw [List.append_assoc, List.append_assoc] at hrun
    exact ⟨_, _, hrun, two _ _⟩

/-- **When `close()` is kept.** In every run whose `close()` calls all meet the
guard, at every moment what was yielded is a prefix of the audio and at most one
chunk was yielded after the first `close()`. The guard asks no more than that:
where a `close()` does not meet it, the run can go on to yield two chunks. -/
theorem closeKept_of_guarded (src : AudioStream) (hs : 0 < src.frameSamplesSize) :
    (∀ ls s, ((lts src).guard (Guard src)).Run start ls s → CloseKept src s) ∧
    (∀ ls s, ((lts src).guard (Guard src)).Run start ls s → ¬ Guard src s .close →
      ∃ ls' s', (lts src).Run s (.close :: ls') s' ∧ ¬ CloseKept src s') := by
  refine ⟨fun ls s hr => ?_, fun ls s _ hg => ?_⟩
  · exact ((inv_inductive hs).run rfl hr).closeKept
  · obtain ⟨ls', s', hr, h2⟩ := lost_update hg
    exact ⟨ls', s', hr, fun hk => by have := hk.atMostOne; omega⟩

/-- Three bytes in frames of one byte. -/
def threeFrames : AudioStream :=
  { audioPath := "a.wav", audio := [1, 2, 3], frameRate := 16000, frameSamplesSize := 1, dataIndex := 0 }

/-- Steps of the generator meet the guard. -/
theorem generator_run (n : Nat) {s s' : State}
    (h : LTS.exec (step threeFrames) s (List.replicate n .generator) = some s') :
    ((lts threeFrames).guard (Guard threeFrames)).Run s (List.replicate n .generator) s' := by
  refine LTS.Run.guarded (LTS.run_of_exec h) fun l hl s => ?_
  rw [List.eq_of_mem_replicate hl]
  trivial

/-- A `close()` behind the store of the first frame: that frame is yielded, and the
generator ends. In front of the slice it would have been lost. -/
theorem closeKept_of_guarded_at :
    CloseKept threeFrames ⟨4, .done, [.close, .yield [1]]⟩ ∧
    ∃ ls' s', (lts threeFrames).Run ⟨0, .slice 1, []⟩ (.close :: ls') s' ∧ ¬ CloseKept threeFrames s' := by
  obtain ⟨hkept, hlost⟩ := closeKept_of_guarded threeFrames (by decide)
  have hdone : ((lts threeFrames).guard (Guard threeFrames)).Run start
      (List.replicate 4 .generator ++ [.close] ++ List.replicate 2 .generator)
      ⟨4, .done, [.close, .yield [1]]⟩ :=
    .append (.snoc (generator_run 4 rfl) ⟨rfl, trivial⟩) (generator_run 2 rfl)
  have hsliced : ((lts threeFrames).guard (Guard threeFrames)).Run start (List.replicate 2 .generator)
      ⟨0, .slice 1, []⟩ := generator_run 2 rfl
  exact ⟨hkept _ _ hdone, hlost _ _ hsliced (fun h => h (by decide))⟩

/-- `close()` right after the read for `end_sample`: the first frame is skipped,
the stream goes on with the second, and two chunks follow the `close()`. -/
theorem close_lost : ¬ ∀ ls s, (lts threeFrames).Run start ls s → CloseKept threeFrames s := by
  intro h
  have hrun : (lts threeFrames).Run start
      [.generator, .generator, .close, .generator, .generator, .generator, .generator, .generator,
        .generator, .generator, .generator] ⟨2, .test, [.close, .yield [], .yield [2]]⟩ :=
    LTS.run_of_exec (by decide)
  exact absurd (h _ _ hrun).atMostOne (by decide)

end DictationClient.L5.CloseRace
