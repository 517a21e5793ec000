import DictationClient.Core.FixedCodec
import DictationClient.Core.Chunks
import DictationClient.Core.Loop
import DictationClient.Core.Py

/-!
# The audio file source of the Python client (`AudioStream`)

`AudioStream` keeps the whole audio and one mutable index into it. Its
`generator()` yields `frame_samples_size` bytes at a time and moves the index, as
`__next__` does (`resume_eq_next`); `close()` moves the index past the end, which
ends every generator at its next test of the loop condition.

Python integers are unbounded and the frame size is computed from a command
line argument, so index and frame size are `Int`: with a negative frame size
the index runs below 0 and the slices use Python's negative indexing.

While the index is not negative and the frame size is positive, a stream is
worth the bytes it has not delivered (`rest`):

* `resume_yields`, `resume_stops`: a generator delivers the next frame of
  `rest`, or ends when `rest` is empty; `rest_close`: `close()` empties it.
* `yields_chunks`: a generator run to its end yields `chunks s rest`.
-/
namespace DictationClient.L2

/-- What `pydub.AudioSegment` tells about a file. -/
structure AudioSegment where
  channels : Int
  sampleWidth : Int
  frameRate : Int
  rawData : Bytes
  deriving DecidableEq, Repr

structure AudioStream where
  audioPath : String
  audio : Bytes
  frameRate : Int
  frameSamplesSize : Int
  dataIndex : Int
  deriving DecidableEq, Repr

namespace AudioStream

/-- `AudioStream(audio_path, frame_length, delay)`; `files` is `none` where no
file exists. Floor division by a positive number is `Int` division.
mirrors python/utils/audio_stream.py:7-25 -/
def new (files : String → Option AudioSegment) (audioPath : String) (frameLength : Int) :
    Except PyErr AudioStream :=
  match files audioPath with
  | none => .error (.valueError ("Wave file does not exist at: " ++ audioPath))
  | some segment =>
    if segment.channels ≠ 1 then
      .error (.valueError ("Only mono waves are allowed. " ++ audioPath ++ " contains: " ++
        toString segment.channels ++ " channels"))
    else if segment.sampleWidth ≠ 2 then
      .error (.valueError ("Only 16bit samples are allowed. " ++ audioPath ++ " has: " ++
        toString (segment.sampleWidth * 8) ++ " bit samples"))
    else
      .ok { audioPath
            audio := segment.rawData
            frameRate := segment.frameRate
            frameSamplesSize := segment.frameRate / 1000 * frameLength * 2
            dataIndex := 0 }

/-- Only 16-bit mono files are opened, at their beginning. -/
theorem new_ok {files : String → Option AudioSegment} {audioPath : String} {frameLength : Int}
    {st : AudioStream} (h : new files audioPath frameLength = .ok st) :
    ∃ segment, files audioPath = some segment ∧ segment.channels = 1 ∧ segment.sampleWidth = 2 ∧
      st = { audioPath
             audio := segment.rawData
             frameRate := segment.frameRate
             frameSamplesSize := segment.frameRate / 1000 * frameLength * 2
             dataIndex := 0 } := by
  unfold new at h
  cases hfile : files audioPath with
  | none => rw [hfile] at h; cases h
  | some segment =>
    simp only [hfile] at h
    by_cases hc : segment.channels = 1
    · by_cases hw : segment.sampleWidth = 2
      · rw [if_neg (not_not.mpr hc), if_neg (not_not.mpr hw), Except.ok.injEq] at h
        exact ⟨segment, rfl, hc, hw, h.symm⟩
      · rw [if_neg (not_not.mpr hc), if_pos hw] at h; cases h
    · rw [if_pos hc] at h; cases h

theorem frameSamplesSize_of_new {files : String → Option AudioSegment} {audioPath : String}
    {frameLength : Int} {st : AudioStream} (h : new files audioPath frameLength = .ok st) :
    st.frameSamplesSize = st.frameRate / 1000 * frameLength * 2 := by
  obtain ⟨segment, -, -, -, rfl⟩ := new_ok h
  rfl

/-- mirrors python/utils/audio_stream.py:43-45 -/
def enter (st : AudioStream) : AudioStream := { st with dataIndex := 0 }

/-- mirrors python/utils/audio_stream.py:56-57 -/
def close (st : AudioStream) : AudioStream := { st with dataIndex := st.audio.length + 1 }

/-- `end_sample` for the index `i`, after the clamp.
mirrors python/utils/audio_stream.py:34-36,61-63 -/
def endSample (st : AudioStream) (i : Int) : Int :=
  if i + st.frameSamplesSize ≥ st.audio.length then st.audio.length else i + st.frameSamplesSize

/-- `next(stream)`: the data returned, or `none` for `StopIteration`.
mirrors python/utils/audio_stream.py:30-41 -/
def next (st : AudioStream) : Option Bytes × AudioStream :=
  if st.dataIndex ≥ st.audio.length then (none, st)
  else
    let endSample := st.endSample st.dataIndex
    (some (pySlice st.audio st.dataIndex endSample), { st with dataIndex := endSample })

/-- A generator object: suspended in front of the loop test, or finished. -/
structure Generator where
  finished : Bool
  deriving DecidableEq, Repr

/-- mirrors python/utils/audio_stream.py:59 -/
def generator : Generator := { finished := false }

/-- `next(g)` run without interruption: the data yielded, or `none` for
`StopIteration`.
mirrors python/utils/audio_stream.py:60-68 -/
def resume (g : Generator) (st : AudioStream) : Option Bytes × Generator × AudioStream :=
  if g.finished then (none, g, st)
  else if st.dataIndex < st.audio.length then
    let endSample := st.endSample st.dataIndex
    (some (pySlice st.audio st.dataIndex endSample), g, { st with dataIndex := endSample })
  else (none, { finished := true }, st)

/-- The loop is written twice: a generator that has not finished does what
`__next__` does. -/
theorem resume_eq_next {g : Generator} (hg : g.finished = false) (st : AudioStream) :
    ∃ g', resume g st = ((next st).1, g', (next st).2) := by
  unfold resume next
  rw [if_neg (by simp [hg])]
  by_cases hi : st.dataIndex < st.audio.length
  · rw [if_pos hi, if_neg (not_le.mpr hi)]
    exact ⟨g, rfl⟩
  · rw [if_neg hi, if_pos (not_lt.mp hi)]
    exact ⟨_, rfl⟩

theorem next_of_resume {g g' : Generator} (hg : g.finished = false) {st st' : AudioStream}
    {out : Option Bytes} (h : resume g st = (out, g', st')) : next st = (out, st') := by
  obtain ⟨g'', heq⟩ := resume_eq_next hg st
  rw [heq] at h
  cases h; rfl

/-- One turn of `for data in g`, collecting the chunks. -/
def forLoop (x : Generator × AudioStream × List Bytes) :
    (Generator × AudioStream × List Bytes) ⊕ List Bytes :=
  match resume x.1 x.2.1 with
  | (some data, g, st) => .inl (g, st, x.2.2 ++ [data])
  | (none, _, _) => .inr x.2.2

/-- A new generator, run to its end, yields `datas`. -/
def Yields (st : AudioStream) (datas : List Bytes) : Prop :=
  Loop.Returns forLoop (generator, st, []) datas

/-! ## The bytes not yet delivered -/

/-- The bytes behind the index. -/
def rest (st : AudioStream) : Bytes := st.audio.drop st.dataIndex.toNat

/-- The index has not run below 0, and frames are not empty. -/
structure Forward (st : AudioStream) : Prop where
  size : 0 < st.frameSamplesSize
  index : 0 ≤ st.dataIndex

theorem rest_eq_nil_iff {st : AudioStream} (h : 0 ≤ st.dataIndex) :
    st.rest = [] ↔ (st.audio.length : Int) ≤ st.dataIndex := by
  rw [rest, List.drop_eq_nil_iff]; omega

@[simp] theorem rest_close (st : AudioStream) : st.close.rest = [] := by
  rw [rest_eq_nil_iff] <;> simp only [close] <;> omega

theorem Forward.close {st : AudioStream} (h : st.Forward) : st.close.Forward where
  size := h.size
  index := by simp only [AudioStream.close]; omega

/-- Whether a resumption finds its generator finished or the audio used up. -/
def Over (g : Generator) (st : AudioStream) : Prop :=
  g.finished = true ∨ (st.audio.length : Int) ≤ st.dataIndex

/-- The two ways a resumption ends, for any index and frame size. -/
theorem resume_cases (g : Generator) (st : AudioStream) :
    (¬ Over g st ∧ resume g st = (some (pySlice st.audio st.dataIndex (st.endSample st.dataIndex)), g,
      { st with dataIndex := st.endSample st.dataIndex })) ∨
    (Over g st ∧ resume g st = (none, { finished := true }, st)) := by
  unfold resume Over
  by_cases hg : g.finished = true
  · right
    rw [if_pos hg]
    exact ⟨.inl hg, by rw [← hg]⟩
  · rw [if_neg hg]
    by_cases hi : st.dataIndex < st.audio.length
    · left
      rw [if_pos hi]
      exact ⟨fun h => h.elim hg (by omega), rfl⟩
    · right
      rw [if_neg hi]
      exact ⟨.inr (by omega), rfl⟩

/-- The clamped end of a frame that starts inside the audio. -/
theorem endSample_bounds {st : AudioStream} {i : Int} (hs : 0 < st.frameSamplesSize)
    (hi : i < st.audio.length) :
    st.endSample i ≤ st.audio.length ∧ i < st.endSample i ∧
      st.endSample i ≤ i + st.frameSamplesSize ∧
      (st.endSample i = i + st.frameSamplesSize ∨ st.endSample i = st.audio.length) := by
  simp only [endSample]
  split <;> omega

/-- The slice of one iteration is the next frame. -/
theorem slice_eq_take {st : AudioStream} (h : st.Forward) (hi : st.dataIndex < st.audio.length) :
    pySlice st.audio st.dataIndex (st.endSample st.dataIndex) =
      st.rest.take st.frameSamplesSize.toNat := by
  obtain ⟨h1, h2, h3, h4⟩ := endSample_bounds h.size hi
  have h0 := h.index
  rw [pySlice_of_nonneg _ h0 (by omega), rest, List.take_eq_take_iff, List.length_drop]
  omega

theorem drop_endSample {st : AudioStream} (h : st.Forward) (hi : st.dataIndex < st.audio.length) :
    st.audio.drop (st.endSample st.dataIndex).toNat = st.rest.drop st.frameSamplesSize.toNat := by
  obtain ⟨h1, h2, h3, h4⟩ := endSample_bounds h.size hi
  have h0 := h.index
  rw [rest, List.drop_drop]
  rcases h4 with h4 | h4
  · rw [h4]; congr 1; have := h.size; omega
  · rw [List.drop_eq_nil_of_le (by omega), List.drop_eq_nil_of_le (by omega)]

/-- **A resumption delivers the next frame.** -/
theorem resume_yields {g : Generator} {st : AudioStream} (hg : g.finished = false) (h : st.Forward)
    (hne : st.rest ≠ []) :
    ∃ st', resume g st = (some (st.rest.take st.frameSamplesSize.toNat), g, st') ∧ st'.Forward ∧
      st'.rest = st.rest.drop st.frameSamplesSize.toNat ∧
      st' = { st with dataIndex := st.endSample st.dataIndex } := by
  have hi : st.dataIndex < st.audio.length := by
    rw [ne_eq, rest_eq_nil_iff h.index] at hne; omega
  refine ⟨{ st with dataIndex := st.endSample st.dataIndex }, ?_, ⟨h.size, ?_⟩,
    drop_endSample h hi, rfl⟩
  · rw [← slice_eq_take h hi, resume, if_neg (by simp [hg]), if_pos hi]
  · have := endSample_bounds h.size hi
    have := h.index
    simp only; omega

/-- A resumption with nothing left ends the generator. -/
theorem resume_stops {g : Generator} {st : AudioStream} (hg : g.finished = false)
    (hi : (st.audio.length : Int) ≤ st.dataIndex) :
    resume g st = (none, { finished := true }, st) := by
  rw [resume, if_neg (by simp [hg]), if_neg (by omega)]

theorem forLoop_returns {s : Nat} (hs : 0 < s) (rst : Bytes) :
    ∀ (st : AudioStream) (acc : List Bytes), st.Forward → st.frameSamplesSize = s → st.rest = rst →
      Loop.Returns forLoop (generator, st, acc) (acc ++ chunks s rst) := by
  induction rst using chunks_induction hs with
  | nil =>
    intro st acc h hsz hr
    have hstop := resume_stops (g := generator) rfl ((rest_eq_nil_iff h.index).mp hr)
    have hbody : forLoop (generator, st, acc) = .inr acc := by simp only [forLoop, hstop]
    rw [Loop.returns_inr hbody, chunks_nil, List.append_nil]
  | cut rst hne ih =>
    intro st acc h hsz hr
    obtain ⟨st', hres, hf', hr', heq⟩ := resume_yields (g := generator) rfl h (by rw [hr]; exact hne)
    rw [hsz, Int.toNat_natCast, hr] at hres hr'
    have hbody : forLoop (generator, st, acc) = .inl (generator, st', acc ++ [rst.take s]) := by
      simp only [forLoop, hres]
    rw [Loop.returns_inl hbody, chunks_of_ne_nil hs hne]
    simpa using ih st' (acc ++ [rst.take s]) hf' (by rw [heq]; exact hsz) hr'

/-- **A generator run to its end** yields the frames of what is left. -/
theorem yields_chunks {st : AudioStream} (h : st.Forward) :
    st.Yields (chunks st.frameSamplesSize.toNat st.rest) := by
  have hs := h.size
  simpa [Yields] using forLoop_returns (s := st.frameSamplesSize.toNat) (by omega) st.rest st [] h
    (by omega) rfl

end AudioStream
end DictationClient.L2
