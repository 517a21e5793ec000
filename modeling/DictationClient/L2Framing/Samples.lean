import DictationClient.L1Encoding.Wave
import DictationClient.L2Framing.SameFrames

/-!
# Frames and samples

`LINEAR16` is "16-bit signed little-endian samples"
(proto/dictation_asr.proto:176-177), so a request whose payload has an odd
number of bytes ends inside a sample. For 16-bit mono audio at `r` samples per
second the C++ client cuts frames of `r / 25` bytes, which is odd for half of
the rates (11025 Hz among them); the Python client multiplies whole samples by
the two bytes of a sample.

* `samplesKept_iff`: when no audio request of the C++ client splits a sample.
* `python_samples`: no frame of the Python client does.
-/
namespace DictationClient.L2.Samples

open DictationClient.Api DictationClient.L1.Wave StreamingRequest SameFrames

/-- The samples of `LINEAR16` audio. -/
def samples (audio : Bytes) : List Int16 := FixedCodec.i16.decodeAll audio

/-- Every audio request holds whole samples, and together they hold the samples
of the audio. -/
def SamplesKept (config : DictationSessionConfig) (audio : Bytes) : Prop :=
  ∃ frames : List Bytes, Builds config audio (.ok (configRequest config :: frames.map .audioContent)) ∧
    (∀ frame ∈ frames, 2 ∣ frame.length) ∧ frames.flatMap samples = samples audio

/-- Decoding whole samples piece by piece. -/
theorem flatMap_samples {frames : List Bytes} (h : ∀ frame ∈ frames, 2 ∣ frame.length) :
    frames.flatMap samples = samples frames.flatten :=
  (FixedCodec.i16.decodeAll_flatten (by decide) h).symm

/-- The byte rate `CreateWaveHeader` computes does not wrap for the rates of the
API. -/
theorem bytesPerSec_createWaveHeader {r : Nat} (hr : r ≤ 48000) (audio : Bytes) :
    (createWaveHeader (UInt32.ofNat r) audio).bytesPerSec = UInt32.ofNat (2 * r) := by
  have h1 : (UInt32.ofNat r).toNat = r := UInt32.toNat_ofNat_of_lt' (show r < 2 ^ 32 by omega)
  have h2 : (UInt32.ofNat (2 * r)).toNat = 2 * r := UInt32.toNat_ofNat_of_lt' (show 2 * r < 2 ^ 32 by omega)
  apply UInt32.toNat_inj.mp
  rw [toNat_bytesPerSec_createWaveHeader, h1, h2]
  omega

section Rate
variable {r : Nat} (hr : 8000 ≤ r) (hr' : r ≤ 48000) {config : DictationSessionConfig} {audio : Bytes}
  (hconfig : config.bytesPerSec = (createWaveHeader (UInt32.ofNat r) audio).bytesPerSec)

include hr hr' hconfig

theorem frameSize_of_rate :
    (frameSize config.bytesPerSec).toNat = r / 25 ∧ frameSize config.bytesPerSec ≠ 0 := by
  have hsize : (frameSize config.bytesPerSec).toNat = r / 25 := by
    rw [hconfig, bytesPerSec_createWaveHeader hr', toNat_frameSize (by omega)]; omega
  refine ⟨hsize, fun h0 => ?_⟩
  rw [h0, show (0 : UInt32).toNat = 0 from rfl] at hsize
  omega

/-- The audio requests are the frames of `r / 25` bytes. -/
theorem builds_of_rate (hlen : audio.length < 2 ^ 31) :
    Builds config audio (.ok (configRequest config :: (chunks (r / 25) audio).map .audioContent)) := by
  obtain ⟨hsize, hf⟩ := frameSize_of_rate hr hr' hconfig
  have hbuilds := buildStreamingRequest_returns hf (show audio.length < 2 ^ 63 by omega)
  rwa [payloads_eq_chunks hf hlen, hsize] at hbuilds

/-- Whatever the frames of a request list without split samples are, they are
the frames of `r / 25` bytes. -/
theorem even_of_samplesKept (hlen : audio.length < 2 ^ 31) (h : SamplesKept config audio) :
    ∀ frame ∈ chunks (r / 25) audio, 2 ∣ frame.length := by
  obtain ⟨hsize, hf⟩ := frameSize_of_rate hr hr' hconfig
  obtain ⟨frames, hb, heven, -⟩ := h
  have hframes := frames_eq_payloads hf (show audio.length < 2 ^ 63 by omega) hb
  rw [payloads_eq_chunks hf hlen, hsize] at hframes
  rwa [← hframes]

end Rate

/-- **When no request splits a sample.** For a recording of whole samples at a
rate of the API: exactly when the frame size `r / 25` is even, or the recording
fits in one frame. -/
theorem samplesKept_iff (r : Nat) (hr : 8000 ≤ r) (hr' : r ≤ 48000) (audio : Bytes)
    (heven : 2 ∣ audio.length) (hlen : audio.length < 2 ^ 31) (config : DictationSessionConfig)
    (hconfig : config.bytesPerSec = (createWaveHeader (UInt32.ofNat r) audio).bytesPerSec) :
    SamplesKept config audio ↔ 2 ∣ r / 25 ∨ audio.length ≤ r / 25 := by
  have hpos : 0 < r / 25 := by omega
  rw [← dvd_length_chunks_iff hpos heven]
  constructor
  · exact even_of_samplesKept hr hr' hconfig hlen
  · intro h
    refine ⟨chunks (r / 25) audio, builds_of_rate hr hr' hconfig hlen, h, ?_⟩
    rw [flatMap_samples h, flatten_chunks hpos]

/-- Three frames at 8 kHz, the last one of 60 bytes. -/
theorem samplesKept_iff_at : SamplesKept { bytesPerSec := 16000 } (List.replicate 700 0) := by
  have hlen : (List.replicate 700 (0 : UInt8)).length = 700 := List.length_replicate
  have hdvd : 2 ∣ (List.replicate 700 (0 : UInt8)).length := by rw [hlen]; decide
  have hlt : (List.replicate 700 (0 : UInt8)).length < 2 ^ 31 := by rw [hlen]; decide
  rw [samplesKept_iff 8000 (by decide) (by decide) (List.replicate 700 0) hdvd hlt _ rfl]
  exact .inl (by decide)

/-- At 11025 samples per second a frame has 441 bytes. -/
def cdQuarter : DictationSessionConfig := { bytesPerSec := 22050 }

/-- At that rate the first of two frames ends inside the 221st sample. -/
theorem sample_split : ¬ ∀ (r : Nat) (audio : Bytes) (config : DictationSessionConfig),
    8000 ≤ r → r ≤ 48000 → 2 ∣ audio.length → audio.length < 2 ^ 31 →
      config.bytesPerSec = (createWaveHeader (UInt32.ofNat r) audio).bytesPerSec →
        SamplesKept config audio := by
  intro h
  have hlen : (List.replicate 442 (0 : UInt8)).length = 442 := List.length_replicate
  have hdvd : 2 ∣ (List.replicate 442 (0 : UInt8)).length := by rw [hlen]; decide
  have hlt : (List.replicate 442 (0 : UInt8)).length < 2 ^ 31 := by rw [hlen]; decide
  have hkept := h 11025 (List.replicate 442 0) cdQuarter (by decide) (by decide) hdvd hlt rfl
  have heven := even_of_samplesKept (r := 11025) (by decide) (by decide) rfl hlt hkept
  rw [dvd_length_chunks_iff (by decide) hdvd, hlen] at heven
  exact absurd heven (by decide)

/-! ## The Python client -/

/-- **No frame of the Python client splits a sample**, whatever the rate and the
frame length. -/
theorem python_samples {files : String → Option AudioSegment} {audioPath : String} {frameLength : Int}
    {st : AudioStream} (hnew : AudioStream.new files audioPath frameLength = .ok st)
    (hsize : 0 < st.frameSamplesSize) (heven : 2 ∣ st.audio.length) :
    ∃ frames, st.Yields frames ∧ (∀ frame ∈ frames, 2 ∣ frame.length) ∧
      frames.flatMap samples = samples st.audio := by
  have hf : 2 ∣ st.frameSamplesSize.toNat := by
    rw [AudioStream.frameSamplesSize_of_new hnew] at hsize ⊢
    omega
  have hrest : st.rest = st.audio := by
    obtain ⟨segment, -, -, -, rfl⟩ := AudioStream.new_ok hnew
    rfl
  have hforward : st.Forward := by
    obtain ⟨segment, -, -, -, rfl⟩ := AudioStream.new_ok hnew
    exact ⟨hsize, Int.le_refl 0⟩
  have hyields := AudioStream.yields_chunks hforward
  rw [hrest] at hyields
  have hwhole : ∀ frame ∈ chunks st.frameSamplesSize.toNat st.audio, 2 ∣ frame.length :=
    (dvd_length_chunks_iff (by omega) heven).mpr (.inl hf)
  refine ⟨_, hyields, hwhole, ?_⟩
  rw [flatMap_samples hwhole, flatten_chunks (by omega)]

end DictationClient.L2.Samples
