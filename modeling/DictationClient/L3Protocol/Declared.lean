import DictationClient.L1Encoding.Wave
import DictationClient.L2Framing.StreamingRequest

/-!
# What the C++ client declares about a WAVE file

`DictationClient::Recognize` and `StreamingRecognize` copy `samplesPerSec` into
the session config; `build_recognition_config` sends it as an `int32` next to
the encoding, which is `LINEAR16` unless a caller of the library changes it.
The reader checks only the channel count and the `data` tag, so nothing stops a
file of another format (the header field `audioFormat` says "1=PCM, 6=mulaw,
7=alaw") or with 8-bit samples from being declared as 16-bit PCM. The Python
client refuses every sample width but two bytes
(python/utils/audio_stream.py:18-20, python/utils/audio_loader.py:33-36).

* `declares_iff`: the declaration is true, or the file is rejected, exactly
  when the reader's two checks fail or the fields it does not look at are right.
* `muLaw_declared_linear16`: a mu-law file that is sent as `LINEAR16`.
-/
namespace DictationClient.L3.Declared

open DictationClient.Api DictationClient.L1.Wave DictationClient.L2.StreamingRequest

/-- The session config from which `Recognize` builds its request.
mirrors cpp/libdictation-client/dictation_client.cpp:91 -/
def syncSession (config : DictationSessionConfig) (wav : WavData) : DictationSessionConfig :=
  { config with audioSampleRateHz := wav.header.samplesPerSec }

/-- The session config from which `StreamingRecognize` builds its requests.
mirrors cpp/libdictation-client/dictation_client.cpp:119-121 -/
def streamingSession (config : DictationSessionConfig) (wav : WavData) : DictationSessionConfig :=
  { config with audioSampleRateHz := wav.header.samplesPerSec, bytesPerSec := wav.header.bytesPerSec }

/-- The config describes audio with this header: 16-bit mono PCM at the rate
that is sent. -/
structure Describes (c : RecognitionConfig) (h : WavHeader) : Prop where
  riff : h.riff = tag 'R' 'I' 'F' 'F'
  wave : h.wave = tag 'W' 'A' 'V' 'E'
  fmt : h.fmt = tag 'f' 'm' 't' ' '
  pcm : h.audioFormat = 1
  mono : h.numOfChan = 1
  bits : h.bitsPerSample = 16
  encoding : c.encoding = .linear16
  rate : c.sampleRateHertz.toInt = h.samplesPerSec.toNat

/-- The file is rejected, or it has a whole header and every config built from
it, for the synchronous and for the streaming call, describes it. -/
def DeclaredTruly (config : DictationSessionConfig) (content : Bytes)
    (result : Except String WavData) : Prop :=
  (∃ e, result = .error e) ∨
  ∃ wav, result = .ok wav ∧ 44 ≤ content.length ∧
    Describes (buildSyncRequest (syncSession config wav) wav.audioBytes).config wav.header ∧
    ∀ requests c, Builds (streamingSession config wav) wav.audioBytes (.ok requests) →
      .streamingConfig c ∈ requests → Describes c.config wav.header

/-- What the reader does not check, and a sample rate that fits an `int32`. -/
structure UncheckedFieldsRight (h : WavHeader) : Prop where
  riff : h.riff = tag 'R' 'I' 'F' 'F'
  wave : h.wave = tag 'W' 'A' 'V' 'E'
  fmt : h.fmt = tag 'f' 'm' 't' ' '
  pcm : h.audioFormat = 1
  bits : h.bitsPerSample = 16
  rate : h.samplesPerSec.toNat < 2 ^ 31

theorem toInt_toInt32_eq_iff (r : UInt32) : r.toInt32.toInt = (r.toNat : Int) ↔ r.toNat < 2 ^ 31 := by
  have hr := r.toNat_lt
  have h : r.toInt32.toInt = (r.toNat : Int).bmod (2 ^ 32) := by
    rw [← UInt32.ofNat_toNat (x := r), UInt32.toInt32_ofNat', Int32.toInt_ofNat']; simp
  rw [h, Int.bmod_def]
  constructor
  · intro he; split at he <;> omega
  · intro hlt; split <;> omega

/-- A config built from the header of an accepted file describes it exactly
when the fields the reader does not check are right. -/
theorem describes_iff (config : DictationSessionConfig) (henc : config.encoding = .linear16)
    {h : WavHeader} (hrate : config.audioSampleRateHz = h.samplesPerSec) (ha : Accepted h) :
    Describes (buildRecognitionConfig config) h ↔ UncheckedFieldsRight h := by
  have hsent : (buildRecognitionConfig config).sampleRateHertz.toInt = (h.samplesPerSec.toNat : Int) ↔
      h.samplesPerSec.toNat < 2 ^ 31 := by
    simp only [buildRecognitionConfig, hrate]; exact toInt_toInt32_eq_iff _
  refine ⟨fun d => ?_, fun u => ?_⟩
  · exact ⟨d.riff, d.wave, d.fmt, d.pcm, d.bits, hsent.mp d.rate⟩
  · exact ⟨u.riff, u.wave, u.fmt, u.pcm, ha.1, u.bits, henc, hsent.mpr u.rate⟩

theorem right_of_declaredTruly {files : Files} {uninit : WavHeader} {audioPath : String}
    {content : Bytes} {config : DictationSessionConfig} (henc : config.encoding = .linear16)
    (hfile : files audioPath = some content) (ha : Accepted (headerRead uninit content))
    (hd : DeclaredTruly config content (readWaveFile files uninit audioPath)) :
    44 ≤ content.length ∧ UncheckedFieldsRight (headerRead uninit content) := by
  rcases readWaveFile_cases uninit hfile with ⟨hn, -⟩ | ⟨-, audioBytes, hok⟩
  · exact absurd ha hn
  · rw [hok] at hd
    rcases hd with ⟨e, he⟩ | ⟨wav, hwav, hlen, hsync, -⟩
    · cases he
    · simp only [Except.ok.injEq] at hwav; subst hwav
      exact ⟨hlen, (describes_iff (syncSession config _) henc rfl ha).mp hsync⟩

/-- **When the declaration is true.** For every file that can be opened, of any
length, and whatever the uninitialised header variable held. -/
theorem declares_iff (files : Files) (uninit : WavHeader) (audioPath : String) (content : Bytes)
    (config : DictationSessionConfig) (hfile : files audioPath = some content)
    (henc : config.encoding = .linear16) :
    DeclaredTruly config content (readWaveFile files uninit audioPath) ↔
      ¬ Accepted (headerRead uninit content) ∨
        (44 ≤ content.length ∧ UncheckedFieldsRight (headerRead uninit content)) := by
  refine ⟨fun hd => ?_, fun h => ?_⟩
  · by_cases ha : Accepted (headerRead uninit content)
    · exact .inr (right_of_declaredTruly henc hfile ha hd)
    · exact .inl ha
  · rcases readWaveFile_cases uninit hfile with ⟨-, e, he⟩ | ⟨ha, audioBytes, hok⟩
    · exact .inl ⟨e, he⟩
    · rcases h with hn | ⟨hlen, hu⟩
      · exact absurd ha hn
      · refine .inr ⟨_, hok, hlen, (describes_iff (syncSession config _) henc rfl ha).mpr hu,
          fun requests c hb hc => ?_⟩
        have hcfg := hb.streamingConfig_mem hc
        simp only [configRequest, StreamingRecognizeRequest.streamingConfig.injEq] at hcfg
        subst hcfg
        exact (describes_iff (streamingSession config _) henc rfl ha).mpr hu

/-- The header of a mu-law file with 8-bit samples. -/
def muLawHeader : WavHeader := { createWaveHeader 8000 [] with audioFormat := 6, bitsPerSample := 8 }

theorem declares_iff_at :
    DeclaredTruly {} (headerCodec.encode muLawHeader)
        (readWaveFile (fun _ => some (headerCodec.encode muLawHeader)) muLawHeader "a.wav") ↔
      ¬ Accepted (headerRead muLawHeader (headerCodec.encode muLawHeader)) ∨
        (44 ≤ (headerCodec.encode muLawHeader).length ∧
          UncheckedFieldsRight (headerRead muLawHeader (headerCodec.encode muLawHeader))) :=
  declares_iff _ _ _ _ _ rfl rfl

/-- A mu-law file is not rejected, and it is declared as `LINEAR16`. -/
theorem muLaw_declared_linear16 :
    ¬ ∃ uninit, DeclaredTruly {} (headerCodec.encode muLawHeader)
      (readWaveFile (fun _ => some (headerCodec.encode muLawHeader)) uninit "a.wav") := by
  rintro ⟨uninit, hd⟩
  have hlen : 44 ≤ (headerCodec.encode muLawHeader).length := by rw [headerCodec.length_encode]; decide
  have hread : headerRead uninit (headerCodec.encode muLawHeader) = muLawHeader := by
    rw [headerRead_eq uninit hlen, List.take_of_length_le (by rw [headerCodec.length_encode]; decide)]
    exact headerCodec.decode_encode_self muLawHeader
  have ha : Accepted (headerRead uninit (headerCodec.encode muLawHeader)) := by rw [hread]; decide
  have hu := (right_of_declaredTruly rfl rfl ha hd).2
  rw [hread] at hu
  exact absurd hu.pcm (by decide)

end DictationClient.L3.Declared
