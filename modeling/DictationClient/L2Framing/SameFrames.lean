import DictationClient.L2Framing.StreamingRequest
import DictationClient.L2Framing.AudioStream

/-!
# The two clients' frames of one recording

For 16-bit mono audio at `r` samples per second the C++ client multiplies
before it divides (`20 * (2 * r) / 1000` bytes a frame), the Python client
divides before it multiplies (`r // 1000 * 20 * 2`). The frame sizes differ as
soon as `r % 1000` is worth a byte, which is at 25; the frames of a recording
then differ unless it fits in one frame.
-/
namespace DictationClient.L2.SameFrames

open DictationClient.Api StreamingRequest

/-- Without a wrap-around the frame is `40 * r / 1000` bytes. -/
theorem toNat_frameSize {r : Nat} (h : 40 * r < 2 ^ 32) :
    (frameSize (UInt32.ofNat (2 * r))).toNat = 40 * r / 1000 := by
  have h2 : (UInt32.ofNat (2 * r)).toNat = 2 * r := UInt32.toNat_ofNat_of_lt' (show 2 * r < 2 ^ 32 by omega)
  have hmul : (20 * UInt32.ofNat (2 * r)).toNat = 40 * r := by
    rw [UInt32.toNat_mul, h2, show (20 : UInt32).toNat = 20 from rfl]; omega
  rw [frameSize, UInt32.toNat_div, hmul]; rfl

/-- Below `2^31` bytes the index never wraps, so every frame is sent. -/
theorem payloads_eq_chunks {bytesPerSec : UInt32} {audio : Bytes} (hf : frameSize bytesPerSec ≠ 0)
    (hlen : audio.length < 2 ^ 31) :
    payloads bytesPerSec audio = chunks (frameSize bytesPerSec).toNat audio := by
  refine List.take_of_length_le ?_
  rw [length_chunks (frameSize_pos hf), slots]
  exact Nat.div_le_div_right (by omega)

/-- **Where the clients' rate arithmetic agrees.** Both cut the recording
without loss, and into the same frames exactly when `r` is less than 25 above a
whole number of kilohertz or the recording fits in one frame of each. -/
theorem sameFrames_iff (r : Nat) (hr : 1000 ≤ r) (hr' : 40 * r < 2 ^ 32) (audio : Bytes)
    (hlen : audio.length < 2 ^ 31) (config : DictationSessionConfig)
    (hconfig : config.bytesPerSec = UInt32.ofNat (2 * r)) (files : String → Option AudioSegment)
    (audioPath : String)
    (hfile : files audioPath =
      some { channels := 1, sampleWidth := 2, frameRate := r, rawData := audio }) :
    ∃ (st : AudioStream) (sent yielded : List Bytes),
      Builds config audio (.ok (configRequest config :: sent.map .audioContent)) ∧
      AudioStream.new files audioPath 20 = .ok st ∧ st.Yields yielded ∧
      (sent = yielded ↔ r % 1000 < 25 ∨ audio.length ≤ 40 * (r / 1000)) ∧
      sent.flatten = audio ∧ yielded.flatten = audio := by
  have hsize := toNat_frameSize hr'
  have hf : frameSize config.bytesPerSec ≠ 0 := by
    intro h0
    rw [← hconfig, h0] at hsize
    have : (0 : UInt32).toNat = 0 := rfl
    omega
  have hbuilds := buildStreamingRequest_returns hf (show audio.length < 2 ^ 63 by omega)
  rw [payloads_eq_chunks hf hlen, hconfig, hsize] at hbuilds
  let st : AudioStream :=
    { audioPath, audio, frameRate := r, frameSamplesSize := (r : Int) / 1000 * 20 * 2, dataIndex := 0 }
  have hst : st.Forward := ⟨by simp only [st]; omega, Int.le_refl 0⟩
  have hsamples : st.frameSamplesSize.toNat = 40 * (r / 1000) := by simp only [st]; omega
  have hyields := AudioStream.yields_chunks hst
  rw [hsamples, show st.rest = audio from rfl] at hyields
  have hfpos : 0 < 40 * r / 1000 := by omega
  have hspos : 0 < 40 * (r / 1000) := by omega
  refine ⟨st, _, _, hbuilds, by simp [AudioStream.new, hfile, st], hyields, ?_,
    flatten_chunks hfpos audio, flatten_chunks hspos audio⟩
  rw [chunks_eq_iff hfpos hspos]
  omega

/-- A hundred bytes: three frames of 40 bytes, or of 42. -/
def hundredBytes : Bytes := List.replicate 100 7

/-- The same three frames at 1000 samples per second; at 1050 only the C++ client
cuts frames of 42 bytes. -/
theorem sameFrames_iff_at :
    (∃ (st : AudioStream) (sent yielded : List Bytes),
      Builds { bytesPerSec := 2000 } hundredBytes (.ok (configRequest { bytesPerSec := 2000 } ::
        sent.map .audioContent)) ∧
      AudioStream.new (fun _ => some ⟨1, 2, 1000, hundredBytes⟩) "a.wav" 20 = .ok st ∧
      st.Yields yielded ∧ sent = yielded ∧ sent.flatten = hundredBytes ∧ yielded.flatten = hundredBytes) ∧
    (∃ (st : AudioStream) (sent yielded : List Bytes),
      Builds { bytesPerSec := 2100 } hundredBytes (.ok (configRequest { bytesPerSec := 2100 } ::
        sent.map .audioContent)) ∧
      AudioStream.new (fun _ => some ⟨1, 2, 1050, hundredBytes⟩) "a.wav" 20 = .ok st ∧
      st.Yields yielded ∧ sent ≠ yielded ∧ sent.flatten = hundredBytes ∧
        yielded.flatten = hundredBytes) := by
  have hlen : hundredBytes.length = 100 := List.length_replicate
  constructor
  · obtain ⟨st, sent, yielded, hbuilds, hnew, hyields, hsame, hsent, hyielded⟩ :=
      sameFrames_iff 1000 (by decide) (by decide) hundredBytes (by rw [hlen]; decide)
        { bytesPerSec := 2000 } rfl (fun _ => some ⟨1, 2, 1000, hundredBytes⟩) "a.wav" rfl
    exact ⟨st, sent, yielded, hbuilds, hnew, hyields, hsame.mpr (.inl (by decide)), hsent, hyielded⟩
  · obtain ⟨st, sent, yielded, hbuilds, hnew, hyields, hsame, hsent, hyielded⟩ :=
      sameFrames_iff 1050 (by decide) (by decide) hundredBytes (by rw [hlen]; decide)
        { bytesPerSec := 2100 } rfl (fun _ => some ⟨1, 2, 1050, hundredBytes⟩) "a.wav" rfl
    rw [hlen] at hsame
    exact ⟨st, sent, yielded, hbuilds, hnew, hyields, fun h => absurd (hsame.mp h) (by decide), hsent,
      hyielded⟩

end DictationClient.L2.SameFrames
