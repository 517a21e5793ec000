import DictationClient.Api
import DictationClient.Core.CInt
import DictationClient.Core.Chunks
import DictationClient.Core.Loop
import DictationClient.Core.StdMap

/-!
# Requests of the C++ client (`build_streaming_request`)

`build_streaming_request` puts one configuration request in front of audio
requests of `frame_size = 20 * bytes_per_sec / 1000` bytes. The loop

    for (auto i = 0; i < audio_byte_content.length(); i += frame_size)

has an `int` index, an `unsigned int` step and a `size_t` bound (`sizeT`,
`addUnsigned`). While the index is below `2^31` it is the byte offset of the
next frame. Once it passes `2^31 - 1` it is negative, compares as a huge size
and the loop is left: the audio requests are the frames that start below
`2^31`, and no others.

* `frameLoop_returns`: from the `k`-th byte the loop sends
  `(chunks f (audio.drop k)).take (slots f k)`.
* `buildStreamingRequest_returns`: the whole function, for every audio the
  process can hold; `builds_iff`: when it ends.
-/
namespace DictationClient.L2.StreamingRequest

open DictationClient.Api

/-- mirrors cpp/libdictation-client/dictation_client.h:16-31 -/
structure DictationSessionConfig where
  sessionId : String := ""
  grpcTimeout : Int32 := 0
  serviceSettings : StdMap String String := .empty
  timeOffsets : Bool := false
  singleUtterance : Bool := true
  interimResults : Bool := false
  encoding : AudioEncoding := .linear16
  audioSampleRateHz : UInt32 := 0
  bytesPerSec : UInt32 := 0
  languageCode : String := "pl-PL"
  maxAlternatives : Int32 := 1
  contextPhrase : String := ""

/-- mirrors cpp/libdictation-client/dictation_client.cpp:188-194 -/
def fillAdditionalSettings (config : DictationSessionConfig) : List ConfigField :=
  config.serviceSettings.entries.map fun entry => { key := entry.1, value := entry.2 }

/-- `set_sample_rate_hertz` takes an `int32`, the config holds an `unsigned int`.
mirrors cpp/libdictation-client/dictation_client.cpp:196-209 -/
def buildRecognitionConfig (config : DictationSessionConfig) : RecognitionConfig where
  sampleRateHertz := config.audioSampleRateHz.toInt32
  maxAlternatives := config.maxAlternatives
  encoding := config.encoding
  languageCode := config.languageCode
  enableWordTimeOffsets := config.timeOffsets
  configFields := if config.serviceSettings.entries.isEmpty then [] else fillAdditionalSettings config
  speechContexts := if config.contextPhrase.isEmpty then [] else [{ phrases := [config.contextPhrase] }]

/-- mirrors cpp/libdictation-client/dictation_client.cpp:211-217 -/
def buildSyncRequest (config : DictationSessionConfig) (audioByteContent : Bytes) : RecognizeRequest where
  config := buildRecognitionConfig config
  audio := { content := audioByteContent }

/-- What the C++ library functions called here throw. -/
inductive Fault where
  | outOfRange
  deriving DecidableEq, Repr

/-- `std::string::substr(pos, n)`. -/
def substr (s : Bytes) (pos n : Nat) : Except Fault Bytes :=
  if s.length < pos then .error .outOfRange else .ok ((s.drop pos).take n)

/-- `frame_length * config.bytes_per_sec / 1000` in `unsigned int`.
mirrors cpp/libdictation-client/dictation_client.cpp:230-231 -/
def frameSize (bytesPerSec : UInt32) : UInt32 := 20 * bytesPerSec / 1000

/-- One test of the loop condition and, when it holds, one iteration. The state
is the index and the requests pushed so far.
mirrors cpp/libdictation-client/dictation_client.cpp:232-238 -/
def frameLoop (audio : Bytes) (f : UInt32) (st : Int32 × List StreamingRecognizeRequest) :
    (Int32 × List StreamingRecognizeRequest) ⊕ Except Fault (List StreamingRecognizeRequest) :=
  if sizeT st.1 < audio.length then
    match substr audio (sizeT st.1) f.toNat with
    | .error e => .inr (.error e)
    | .ok content => .inl (addUnsigned st.1 f, st.2 ++ [.audioContent content])
  else .inr (.ok st.2)

/-- The request pushed before the loop.
mirrors cpp/libdictation-client/dictation_client.cpp:221-228 -/
def configRequest (config : DictationSessionConfig) : StreamingRecognizeRequest :=
  .streamingConfig
    { config := buildRecognitionConfig config
      singleUtterance := config.singleUtterance
      interimResults := config.interimResults }

/-- `build_streaming_request` with at most `fuel` tests of the loop condition.
mirrors cpp/libdictation-client/dictation_client.cpp:219-241 -/
def buildStreamingRequest (fuel : Nat) (config : DictationSessionConfig) (audio : Bytes) :
    Option (Except Fault (List StreamingRecognizeRequest)) :=
  Loop.run (frameLoop audio (frameSize config.bytesPerSec)) fuel (0, [configRequest config])

/-- `build_streaming_request` ends, and with `r`. -/
def Builds (config : DictationSessionConfig) (audio : Bytes)
    (r : Except Fault (List StreamingRecognizeRequest)) : Prop :=
  ∃ fuel, buildStreamingRequest fuel config audio = some r

/-! ## The loop -/

/-- How many frame starts `k, k + f, …` are below `2^31`. -/
def slots (f k : Nat) : Nat := (2 ^ 31 - k + f - 1) / f

theorem slots_of_lt {f k : Nat} (hf : 0 < f) (hk : k < 2 ^ 31) : slots f k = slots f (k + f) + 1 := by
  rw [slots, slots, ceil_div_step hf (by omega), Nat.sub_sub]

theorem slots_of_le {f k : Nat} (hf : 0 < f) (hk : 2 ^ 31 ≤ k) : slots f k = 0 := by
  unfold slots
  rw [show 2 ^ 31 - k + f - 1 = f - 1 by omega, Nat.div_eq_of_lt (by omega)]

/-- A frame is at most `(2^32 - 1) / 1000` bytes, so the index never wraps all
the way round. -/
theorem frameSize_lt (bytesPerSec : UInt32) : (frameSize bytesPerSec).toNat < 2 ^ 31 := by
  have h := (20 * bytesPerSec).toNat_lt
  rw [frameSize, UInt32.toNat_div]
  exact lt_of_le_of_lt (Nat.div_le_div_right (c := 1000) (Nat.le_of_lt h)) (by decide)

theorem frameSize_pos {bytesPerSec : UInt32} (hf : frameSize bytesPerSec ≠ 0) :
    0 < (frameSize bytesPerSec).toNat := by
  rw [Nat.pos_iff_ne_zero]
  exact fun h => hf (UInt32.toNat_inj.mp h)

theorem frameLoop_continue {audio : Bytes} {f : UInt32} {k : Nat}
    (reqs : List StreamingRecognizeRequest) (hk : k < 2 ^ 31) (hlen : k < audio.length) :
    frameLoop audio f (Int32.ofNat k, reqs) =
      .inl (Int32.ofNat (k + f.toNat), reqs ++ [.audioContent ((audio.drop k).take f.toNat)]) := by
  simp only [frameLoop, sizeT_ofNat hk, if_pos hlen, substr, if_neg (show ¬ audio.length < k by omega),
    addUnsigned_ofNat]

/-- The loop is left at the end of the audio, and as soon as the index has
passed `2^31 - 1`. -/
theorem frameLoop_exit {audio : Bytes} {f : UInt32} {k : Nat} (reqs : List StreamingRecognizeRequest)
    (hk : k < 2 ^ 32) (hlen : audio.length < 2 ^ 63) (h : 2 ^ 31 ≤ k ∨ audio.length ≤ k) :
    frameLoop audio f (Int32.ofNat k, reqs) = .inr (.ok reqs) := by
  have hs : ¬ sizeT (Int32.ofNat k) < audio.length := by
    by_cases hk' : k < 2 ^ 31
    · rw [sizeT_ofNat hk']; omega
    · have := sizeT_of_wrapped (show 2 ^ 31 ≤ k by omega) hk
      omega
  simp only [frameLoop, if_neg hs]

theorem frameLoop_returns {audio : Bytes} {f : UInt32} (hf : 0 < f.toNat) (hf' : f.toNat < 2 ^ 31)
    (hlen : audio.length < 2 ^ 63) (k : Nat) (hk : k < 2 ^ 31 + f.toNat)
    (reqs : List StreamingRecognizeRequest) :
    Loop.Returns (frameLoop audio f) (Int32.ofNat k, reqs)
      (.ok (reqs ++ ((chunks f.toNat (audio.drop k)).take (slots f.toNat k)).map .audioContent)) := by
  induction h : 2 ^ 31 + f.toNat - k using Nat.strongRecOn generalizing k reqs with
  | ind d ih =>
    by_cases hgo : k < 2 ^ 31 ∧ k < audio.length
    · obtain ⟨hk1, hk2⟩ := hgo
      have hne : audio.drop k ≠ [] := by
        rw [ne_eq, List.drop_eq_nil_iff]; omega
      rw [Loop.returns_inl (frameLoop_continue reqs hk1 hk2)]
      have hrec := ih (2 ^ 31 + f.toNat - (k + f.toNat)) (by omega) (k + f.toNat) (by omega)
        (reqs ++ [.audioContent ((audio.drop k).take f.toNat)]) rfl
      rw [chunks_of_ne_nil hf hne, slots_of_lt hf hk1, List.take_succ_cons, List.map_cons,
        List.drop_drop]
      simpa using hrec
    · have hnil : (chunks f.toNat (audio.drop k)).take (slots f.toNat k) = [] := by
        by_cases hk1 : k < 2 ^ 31
        · rw [List.drop_eq_nil_of_le (by omega), chunks_nil, List.take_nil]
        · rw [slots_of_le hf (by omega), List.take_zero]
      rw [hnil, List.map_nil, List.append_nil,
        Loop.returns_inr (frameLoop_exit reqs (by omega) hlen (by omega))]

/-- The audio payloads of the requests, frames of the audio that start below
`2^31`. -/
def payloads (bytesPerSec : UInt32) (audio : Bytes) : List Bytes :=
  (chunks (frameSize bytesPerSec).toNat audio).take (slots (frameSize bytesPerSec).toNat 0)

/-- **`build_streaming_request` ends** for every frame size but 0. -/
theorem buildStreamingRequest_returns {config : DictationSessionConfig} {audio : Bytes}
    (hf : frameSize config.bytesPerSec ≠ 0) (hlen : audio.length < 2 ^ 63) :
    Builds config audio
      (.ok (configRequest config :: (payloads config.bytesPerSec audio).map .audioContent)) := by
  exact frameLoop_returns (frameSize_pos hf) (frameSize_lt _) hlen 0 (by omega) [configRequest config]

theorem Builds.unique {config : DictationSessionConfig} {audio : Bytes}
    {r r' : Except Fault (List StreamingRecognizeRequest)} (h : Builds config audio r)
    (h' : Builds config audio r') : r = r' :=
  Loop.Returns.unique h h'

/-- Whatever the loop returns, its only configuration request is the one pushed
before it. -/
theorem Builds.streamingConfig_mem {config : DictationSessionConfig} {audio : Bytes}
    {requests : List StreamingRecognizeRequest} (h : Builds config audio (.ok requests))
    {c : StreamingRecognitionConfig} (hc : .streamingConfig c ∈ requests) :
    .streamingConfig c = configRequest config := by
  let I : Int32 × List StreamingRecognizeRequest → Prop := fun st =>
    ∀ c, .streamingConfig c ∈ st.2 → .streamingConfig c = configRequest config
  refine Loop.Returns.rule I (fun r => ∀ reqs, r = .ok reqs → ∀ c, .streamingConfig c ∈ reqs →
    .streamingConfig c = configRequest config) ?_ ?_ ?_ h requests rfl c hc
  · intro st st' hI hst c' hc'
    simp only [frameLoop] at hst
    split at hst
    · split at hst
      · cases hst
      · simp only [Sum.inl.injEq] at hst; subst hst
        simp only [List.mem_append, List.mem_singleton, reduceCtorEq, or_false] at hc'
        exact hI c' hc'
    · cases hst
  · intro st r hI hst reqs hr
    simp only [frameLoop] at hst
    split at hst
    · split at hst
      · simp only [Sum.inr.injEq] at hst; subst hst; cases hr
      · cases hst
    · simp only [Sum.inr.injEq] at hst; subst hst
      simp only [Except.ok.injEq] at hr; subst hr; exact hI
  · intro c' hc'
    simpa using hc'

/-! ## When the loop ends -/

theorem frameSize_eq_zero_iff (bytesPerSec : UInt32) :
    frameSize bytesPerSec = 0 ↔ 20 * bytesPerSec.toNat % 2 ^ 32 < 1000 := by
  have hmul : (20 * bytesPerSec).toNat = 20 * bytesPerSec.toNat % 2 ^ 32 := UInt32.toNat_mul _ _
  rw [← UInt32.toNat_inj, frameSize, UInt32.toNat_div, hmul]
  exact Nat.div_eq_zero_iff_lt (by decide)

/-- A step of 0 leaves the index at 0, where the next empty frame is cut. -/
theorem not_builds_of_frameSize_zero {config : DictationSessionConfig} {audio : Bytes}
    (hf : frameSize config.bytesPerSec = 0) (hne : audio ≠ [])
    (r : Except Fault (List StreamingRecognizeRequest)) : ¬ Builds config audio r := by
  have hlen := List.length_pos_iff.mpr hne
  apply Loop.not_returns (fun st => st.1 = Int32.ofNat 0)
  · rintro ⟨i, reqs⟩ rfl
    rw [hf]
    exact ⟨_, frameLoop_continue reqs (by decide) hlen, rfl⟩
  · rfl

/-- Without audio the loop is left at once, whatever the step. -/
theorem builds_nil (config : DictationSessionConfig) : Builds config [] (.ok [configRequest config]) := by
  have hexit : frameLoop [] (frameSize config.bytesPerSec) (Int32.ofNat 0, [configRequest config]) =
      .inr (.ok [configRequest config]) :=
    frameLoop_exit _ (by decide) (by decide) (.inr (Nat.le_refl 0))
  exact (Loop.returns_inr hexit _).mpr rfl

/-- **When `build_streaming_request` ends**: exactly for no audio and for a frame
of at least one byte; and then no `substr` was out of range. -/
theorem builds_iff (config : DictationSessionConfig) (audio : Bytes) (hlen : audio.length < 2 ^ 63) :
    ((∃ r, Builds config audio r) ↔
      audio.length = 0 ∨ 1000 ≤ 20 * config.bytesPerSec.toNat % 2 ^ 32) ∧
    ∀ r, Builds config audio r → ∃ requests, r = .ok requests := by
  by_cases hnil : audio = []
  · subst hnil
    exact ⟨iff_of_true ⟨_, builds_nil config⟩ (.inl rfl), fun r hr => ⟨_, hr.unique (builds_nil config)⟩⟩
  · by_cases hf : frameSize config.bytesPerSec = 0
    · have hnot := not_builds_of_frameSize_zero hf hnil
      have hsmall := (frameSize_eq_zero_iff _).mp hf
      have hpos := List.length_pos_iff.mpr hnil
      exact ⟨iff_of_false (fun ⟨r, hr⟩ => hnot r hr) (by omega), fun r hr => absurd hr (hnot r)⟩
    · have hbuilds := buildStreamingRequest_returns hf hlen
      have hlarge := mt (frameSize_eq_zero_iff _).mpr hf
      exact ⟨iff_of_true ⟨_, hbuilds⟩ (.inr (by omega)), fun r hr => ⟨_, hr.unique hbuilds⟩⟩

theorem builds_iff_at : ((∃ r, Builds { bytesPerSec := 214748365 } [1] r) ↔
      [(1 : UInt8)].length = 0 ∨
        1000 ≤ 20 * ({ bytesPerSec := 214748365 } : DictationSessionConfig).bytesPerSec.toNat % 2 ^ 32) ∧
    ∀ r, Builds { bytesPerSec := 214748365 } [1] r → ∃ requests, r = .ok requests :=
  builds_iff { bytesPerSec := 214748365 } [1] (by decide)

theorem frameSize_le (bytesPerSec : UInt32) : (frameSize bytesPerSec).toNat ≤ 4294967 := by
  have h := (20 * bytesPerSec).toNat_lt
  rw [frameSize, UInt32.toNat_div]
  exact Nat.div_le_div_right (c := 1000) (Nat.le_of_lt_succ h)

/-- One configuration request, then the frames; of audio whose offsets are `int`s,
all of them. -/
theorem Builds.frames {config : DictationSessionConfig} {audio : Bytes}
    {requests : List StreamingRecognizeRequest} (h : Builds config audio (.ok requests))
    (hlen : audio.length < 2 ^ 31) :
    ∃ frames : List Bytes, requests = configRequest config :: frames.map .audioContent ∧
      (∀ frame ∈ frames, frame.length ≤ 4294967) ∧ frames.length ≤ audio.length ∧
        frames.flatten = audio := by
  by_cases hnil : audio = []
  · subst hnil
    have heq := h.unique (builds_nil config)
    simp only [Except.ok.injEq] at heq
    exact ⟨[], heq, by simp, Nat.le_refl 0, rfl⟩
  · have hf : frameSize config.bytesPerSec ≠ 0 := fun hf => not_builds_of_frameSize_zero hf hnil _ h
    have hpos := frameSize_pos hf
    have heq := h.unique (buildStreamingRequest_returns hf (by omega))
    simp only [Except.ok.injEq] at heq
    have hall : payloads config.bytesPerSec audio = chunks (frameSize config.bytesPerSec).toNat audio := by
      refine List.take_of_length_le ?_
      rw [length_chunks hpos, slots, Nat.sub_zero]
      exact Nat.div_le_div_right (by omega)
    rw [hall] at heq
    refine ⟨_, heq, fun frame hframe => ?_, length_chunks_le hpos audio, flatten_chunks hpos audio⟩
    exact ((framed_chunks hpos audio).le frame hframe).trans (frameSize_le _)

/-! ## What is sent -/

/-- The whole audio is sent: one configuration request, then audio requests,
none empty and all but the last of `frame_size` bytes, whose payloads make up
the audio. -/
def NoAudioLost (config : DictationSessionConfig) (audio : Bytes) : Prop :=
  ∃ (c : StreamingRecognitionConfig) (frames : List Bytes),
    Builds config audio (.ok (.streamingConfig c :: frames.map .audioContent)) ∧
    (∀ frame ∈ frames, frame ≠ []) ∧
    (∀ frame ∈ frames.dropLast, frame.length = (frameSize config.bytesPerSec).toNat) ∧
    frames.flatten = audio

section Sent
variable {config : DictationSessionConfig} {audio : Bytes}
  (hf : frameSize config.bytesPerSec ≠ 0) (hlen : audio.length < 2 ^ 63)

include hf

theorem flatten_payloads : (payloads config.bytesPerSec audio).flatten =
    audio.take (slots (frameSize config.bytesPerSec).toNat 0 * (frameSize config.bytesPerSec).toNat) :=
  flatten_take_chunks (frameSize_pos hf) _ audio

include hlen

/-- The requests returned are determined, so their payloads are `payloads`. -/
theorem frames_eq_payloads {c : StreamingRecognitionConfig} {frames : List Bytes}
    (h : Builds config audio (.ok (.streamingConfig c :: frames.map .audioContent))) :
    frames = payloads config.bytesPerSec audio := by
  have he := h.unique (buildStreamingRequest_returns hf hlen)
  simp only [Except.ok.injEq, List.cons.injEq] at he
  exact List.map_injective_iff.mpr (fun a b e => by injection e) he.2

theorem length_le_of_noAudioLost (h : NoAudioLost config audio) :
    audio.length ≤ (frameSize config.bytesPerSec).toNat *
      ((2 ^ 31 + (frameSize config.bytesPerSec).toNat - 1) / (frameSize config.bytesPerSec).toNat) := by
  obtain ⟨c, frames, hb, -, -, hcat⟩ := h
  rw [frames_eq_payloads hf hlen hb, flatten_payloads hf] at hcat
  have := congrArg List.length hcat
  rw [List.length_take, slots, Nat.sub_zero, Nat.mul_comm] at this
  omega

end Sent

/-- **When no audio is lost**: exactly when the recording ends no later than
the first frame boundary at or behind byte `2^31`. -/
theorem noAudioLost_iff (config : DictationSessionConfig) (audio : Bytes)
    (hf : frameSize config.bytesPerSec ≠ 0) (hlen : audio.length < 2 ^ 32) :
    NoAudioLost config audio ↔ audio.length ≤ (frameSize config.bytesPerSec).toNat *
      ((2 ^ 31 + (frameSize config.bytesPerSec).toNat - 1) / (frameSize config.bytesPerSec).toNat) := by
  have hlen' : audio.length < 2 ^ 63 := by omega
  refine ⟨length_le_of_noAudioLost hf hlen', fun h => ?_⟩
  have hframed : Framed (frameSize config.bytesPerSec).toNat (payloads config.bytesPerSec audio) :=
    (framed_chunks (frameSize_pos hf) audio).take _
  refine ⟨_, _, buildStreamingRequest_returns hf hlen', hframed.nonempty, hframed.full, ?_⟩
  rw [flatten_payloads hf, slots, Nat.sub_zero, Nat.mul_comm]
  exact List.take_of_length_le h

theorem noAudioLost_iff_at :
    NoAudioLost { bytesPerSec := 100 } [1, 2, 3] ↔ 3 ≤ (frameSize 100).toNat *
      ((2 ^ 31 + (frameSize 100).toNat - 1) / (frameSize 100).toNat) :=
  noAudioLost_iff { bytesPerSec := 100 } [1, 2, 3] (by decide) (by decide)

/-- 16 kHz, 16 bits, mono: frames of 640 bytes. -/
def wideband : DictationSessionConfig := { bytesPerSec := 32000 }

/-- The longest recording a WAVE header can declare. -/
def longRecording : Bytes := List.replicate (2 ^ 32 - 1) 0

theorem length_longRecording : longRecording.length = 2 ^ 32 - 1 := List.length_replicate

/-- The tail of a long recording is not sent: of its `2^32 - 1` bytes only the
first 2147484160 go out. -/
theorem longRecording_truncated :
    frameSize wideband.bytesPerSec ≠ 0 ∧ longRecording.length < 2 ^ 32 ∧
      ¬ NoAudioLost wideband longRecording := by
  have hf : frameSize wideband.bytesPerSec ≠ 0 := by decide
  have hlen := length_longRecording
  refine ⟨hf, by omega, fun h => ?_⟩
  have hle := length_le_of_noAudioLost hf (by omega) h
  rw [hlen, show (frameSize wideband.bytesPerSec).toNat = 640 from rfl] at hle
  omega

end DictationClient.L2.StreamingRequest
