import DictationClient.Core.FixedCodec

/-!
# WAVE files (`audio-utils.cpp`)

`ReadWaveFile` reads the 44 bytes of the packed `WAV_HEADER` into a header
variable, checks the channel count and the `data` tag, and reads
`subchunk2Size` bytes behind it. `WriteWaveFile` writes the image of
`CreateWaveHeader` and the audio.

The stream is modelled with its failure bit: a read that runs into the end of
the file stores what there is and leaves the rest of the buffer as it was, and
a failed stream stores nothing. So the header of a file shorter than 44 bytes
ends in whatever the uninitialised `WAV_DATA wave` held (`uninit`), and audio
bytes the file does not have stay the spaces the string was filled with.

* `readWaveFile_cases`: what one call can do.
* `readWaveFile_eq`: on a file with a whole header.
* `readWaveFile_writeWaveFile`: the reader returns what the writer was given.
* `audioFromFile_iff`: when the audio returned is the file's; a file that ends
  before its header says is padded (`truncated_padded`).
-/
namespace DictationClient.L1.Wave

open DictationClient

/-- mirrors cpp/dictation-client/audio-utils.h:10-25 -/
structure WavHeader where
  riff : Vector UInt8 4
  chunkSize : UInt32
  wave : Vector UInt8 4
  fmt : Vector UInt8 4
  subchunk1Size : UInt32
  audioFormat : UInt16
  numOfChan : UInt16
  samplesPerSec : UInt32
  bytesPerSec : UInt32
  blockAlign : UInt16
  bitsPerSample : UInt16
  subchunk2ID : Vector UInt8 4
  subchunk2Size : UInt32
  deriving DecidableEq, Repr

/-- mirrors cpp/dictation-client/audio-utils.h:28-32 -/
structure WavData where
  header : WavHeader
  audioBytes : Bytes
  deriving DecidableEq, Repr

/-- Four `char`s of a string literal. -/
def tag (a b c d : Char) : Vector UInt8 4 := #v[a.toUInt8, b.toUInt8, c.toUInt8, d.toUInt8]

open FixedCodec in
/-- The little-endian image of `WAV_HEADER`, which has no padding. -/
def headerCodec : FixedCodec WavHeader :=
  ((chars 4).pair (u32.pair ((chars 4).pair ((chars 4).pair (u32.pair (u16.pair (u16.pair
    (u32.pair (u32.pair (u16.pair (u16.pair ((chars 4).pair u32)))))))))))).map
    (fun (riff, chunkSize, wave, fmt, subchunk1Size, audioFormat, numOfChan, samplesPerSec,
        bytesPerSec, blockAlign, bitsPerSample, subchunk2ID, subchunk2Size) =>
      { riff, chunkSize, wave, fmt, subchunk1Size, audioFormat, numOfChan, samplesPerSec,
        bytesPerSec, blockAlign, bitsPerSample, subchunk2ID, subchunk2Size })
    (fun h => (h.riff, h.chunkSize, h.wave, h.fmt, h.subchunk1Size, h.audioFormat, h.numOfChan,
      h.samplesPerSec, h.bytesPerSec, h.blockAlign, h.bitsPerSample, h.subchunk2ID,
      h.subchunk2Size))
    (fun _ => rfl)

/-- The `static_assert` on `sizeof(WAV_HEADER)`.
mirrors cpp/dictation-client/audio-utils.cpp:14 -/
theorem headerCodec_size : headerCodec.size = 44 := rfl

/-! ## Files -/

/-- `none`: the path cannot be opened. -/
abbrev Files := String → Option Bytes

/-- An input stream: what is left of the file, and whether no read failed. -/
structure IStream where
  rest : Bytes
  good : Bool

/-- `read(mem, sizeof mem)`: the new contents of the buffer and the stream. -/
def IStream.read (s : IStream) (mem : Bytes) : Bytes × IStream :=
  if s.good then
    (s.rest.take mem.length ++ mem.drop s.rest.length,
      { rest := s.rest.drop mem.length, good := decide (mem.length ≤ s.rest.length) })
  else (mem, s)

def monoError : String :=
  "Error: not supported audio file. Only waves with single channel (mono) are supported."

def metadataError : String := "Error: not supported audio file. Waves with metadata are not supported."

/-- mirrors cpp/dictation-client/audio-utils.cpp:12-30 -/
def readWaveFile (files : Files) (uninit : WavHeader) (audioPath : String) : Except String WavData :=
  match files audioPath with
  | none => .error ("Could not open file " ++ audioPath ++ " !")
  | some content =>
    let (image, wavFile) := IStream.read ⟨content, true⟩ (headerCodec.encode uninit)
    let header := headerCodec.decode image
    if header.numOfChan ≠ 1 then .error monoError
    else if header.subchunk2ID[0] ≠ 'd'.toUInt8 ∨ header.subchunk2ID[1] ≠ 'a'.toUInt8 ∨
        header.subchunk2ID[2] ≠ 't'.toUInt8 ∨ header.subchunk2ID[3] ≠ 'a'.toUInt8 then
      .error metadataError
    else
      let blank : Bytes := List.replicate header.subchunk2Size.toNat ' '.toUInt8
      .ok { header, audioBytes := (wavFile.read blank).1 }

/-- mirrors cpp/dictation-client/audio-utils.cpp:83-102 -/
def createWaveHeader (sampleRate : UInt32) (audioBytes : Bytes) : WavHeader where
  riff := tag 'R' 'I' 'F' 'F'
  wave := tag 'W' 'A' 'V' 'E'
  fmt := tag 'f' 'm' 't' ' '
  subchunk1Size := 16
  audioFormat := 1
  numOfChan := 1
  samplesPerSec := sampleRate
  bytesPerSec := sampleRate * 1 * 16 / 8
  blockAlign := 1 * 16 / 8
  bitsPerSample := 16
  subchunk2ID := tag 'd' 'a' 't' 'a'
  subchunk2Size := UInt32.ofNat audioBytes.length
  chunkSize := 36 + UInt32.ofNat audioBytes.length

/-- The files after a write that succeeds.
mirrors cpp/dictation-client/audio-utils.cpp:105-114 -/
def writeWaveFile (files : Files) (audioPath : String) (sampleRate : UInt32) (audioBytes : Bytes) :
    Files := fun p =>
  if p = audioPath then some (headerCodec.encode (createWaveHeader sampleRate audioBytes) ++ audioBytes)
  else files p

/-! ## The reader -/

/-- The header variable after the first read. -/
def headerRead (uninit : WavHeader) (content : Bytes) : WavHeader :=
  headerCodec.decode (IStream.read ⟨content, true⟩ (headerCodec.encode uninit)).1

/-- The reader's two checks. -/
def Accepted (h : WavHeader) : Prop := h.numOfChan = 1 ∧ h.subchunk2ID = tag 'd' 'a' 't' 'a'

instance (h : WavHeader) : Decidable (Accepted h) := inferInstanceAs (Decidable (_ ∧ _))

theorem tag_checks (v : Vector UInt8 4) (a b c d : Char) :
    (v[0] ≠ a.toUInt8 ∨ v[1] ≠ b.toUInt8 ∨ v[2] ≠ c.toUInt8 ∨ v[3] ≠ d.toUInt8) ↔ v ≠ tag a b c d := by
  constructor
  · rintro h rfl
    simp [tag] at h
  · intro h
    by_contra hc
    simp only [not_or, not_not] at hc
    obtain ⟨h0, h1, h2, h3⟩ := hc
    apply h
    ext i hi
    have : i = 0 ∨ i = 1 ∨ i = 2 ∨ i = 3 := by omega
    rcases this with rfl | rfl | rfl | rfl <;> simp [tag, h0, h1, h2, h3]

/-- **What `ReadWaveFile` can do** with a file it can open: it throws exactly
when one of its two checks fails, and otherwise returns the header it read. -/
theorem readWaveFile_cases {files : Files} {audioPath : String} {content : Bytes}
    (uninit : WavHeader) (h : files audioPath = some content) :
    (¬ Accepted (headerRead uninit content) ∧
      ∃ e, readWaveFile files uninit audioPath = .error e) ∨
    (Accepted (headerRead uninit content) ∧ ∃ audioBytes,
      readWaveFile files uninit audioPath = .ok ⟨headerRead uninit content, audioBytes⟩) := by
  simp only [readWaveFile, h, tag_checks, Accepted, headerRead]
  generalize headerCodec.decode (IStream.read ⟨content, true⟩ (headerCodec.encode uninit)).1 = hd
  by_cases hc : hd.numOfChan = 1
  · by_cases ht : hd.subchunk2ID = tag 'd' 'a' 't' 'a'
    · right; simp [hc, ht]
    · left; simp [hc, ht]
  · left; simp [hc]

theorem read_of_length_le {rest mem : Bytes} (h : mem.length ≤ rest.length) :
    IStream.read ⟨rest, true⟩ mem = (rest.take mem.length, ⟨rest.drop mem.length, true⟩) := by
  rw [IStream.read, if_pos rfl, List.drop_eq_nil_of_le h, List.append_nil]
  simp [h]

theorem headerRead_eq (uninit : WavHeader) {content : Bytes} (h : 44 ≤ content.length) :
    headerRead uninit content = headerCodec.decode (content.take 44) := by
  have hlen : (headerCodec.encode uninit).length = 44 := headerCodec.length_encode uninit
  rw [headerRead, read_of_length_le (by rw [hlen]; exact h), hlen]

/-- On a file with a whole header the uninitialised memory is gone. -/
theorem readWaveFile_eq {files : Files} {audioPath : String} {content : Bytes} (uninit : WavHeader)
    (h : files audioPath = some content) (hlen : 44 ≤ content.length)
    (ha : Accepted (headerCodec.decode (content.take 44))) :
    readWaveFile files uninit audioPath = .ok
      { header := headerCodec.decode (content.take 44)
        audioBytes := (IStream.read ⟨content.drop 44, true⟩
          (List.replicate (headerCodec.decode (content.take 44)).subchunk2Size.toNat ' '.toUInt8)).1 } := by
  have henc : (headerCodec.encode uninit).length = 44 := headerCodec.length_encode uninit
  obtain ⟨hc, ht⟩ := ha
  simp only [readWaveFile, h, tag_checks]
  rw [read_of_length_le (by rw [henc]; exact hlen), henc]
  simp [hc, ht]

/-- So it is for a file that is refused. -/
theorem readWaveFile_uninit {files : Files} {audioPath : String} (uninit uninit' : WavHeader)
    (h : ∀ content, files audioPath = some content → 44 ≤ content.length) :
    readWaveFile files uninit audioPath = readWaveFile files uninit' audioPath := by
  cases hfile : files audioPath with
  | none => simp only [readWaveFile, hfile]
  | some content =>
    have hread : ∀ mem, IStream.read ⟨content, true⟩ (headerCodec.encode mem) =
        (content.take 44, ⟨content.drop 44, true⟩) := by
      intro mem
      have henc : (headerCodec.encode mem).length = 44 := headerCodec.length_encode mem
      rw [read_of_length_le (by rw [henc]; exact h content hfile), henc]
    simp only [readWaveFile, hfile, hread]

/-- A file that is as long as its header says. -/
theorem audioBytes_of_readWaveFile {files : Files} {uninit : WavHeader} {audioPath : String}
    {content : Bytes} {wav : WavData} (h : files audioPath = some content)
    (hsize : 44 + (headerCodec.decode (content.take 44)).subchunk2Size.toNat ≤ content.length)
    (hread : readWaveFile files uninit audioPath = .ok wav) :
    wav.audioBytes = (content.drop 44).take (headerCodec.decode (content.take 44)).subchunk2Size.toNat := by
  have ha : Accepted (headerCodec.decode (content.take 44)) := by
    rw [← headerRead_eq uninit (by omega)]
    rcases readWaveFile_cases uninit h with ⟨-, e, he⟩ | ⟨ha, -⟩
    · rw [he] at hread; cases hread
    · exact ha
  rw [readWaveFile_eq uninit h (by omega) ha, Except.ok.injEq] at hread
  rw [← hread, read_of_length_le (by rw [List.length_replicate, List.length_drop]; omega),
    List.length_replicate]

/-! ## Round trip -/

theorem accepted_createWaveHeader (sampleRate : UInt32) (audioBytes : Bytes) :
    Accepted (createWaveHeader sampleRate audioBytes) := ⟨rfl, rfl⟩

/-- The byte rate is computed modulo `2 ^ 32`. -/
theorem toNat_bytesPerSec_createWaveHeader (sampleRate : UInt32) (audioBytes : Bytes) :
    (createWaveHeader sampleRate audioBytes).bytesPerSec.toNat = sampleRate.toNat * 16 % 2 ^ 32 / 8 := by
  rw [createWaveHeader, UInt32.toNat_div, UInt32.mul_one, UInt32.toNat_mul]
  rfl

/-- **WAV round trip.** Whatever was at the path before and whatever the header
variable held, the reader returns the header and the audio that were written. -/
theorem readWaveFile_writeWaveFile (files : Files) (uninit : WavHeader) (audioPath : String)
    (sampleRate : UInt32) (audioBytes : Bytes) (hlen : audioBytes.length < 2 ^ 32) :
    readWaveFile (writeWaveFile files audioPath sampleRate audioBytes) uninit audioPath =
      .ok { header := createWaveHeader sampleRate audioBytes, audioBytes } := by
  generalize hh : createWaveHeader sampleRate audioBytes = header
  have hopen : writeWaveFile files audioPath sampleRate audioBytes audioPath =
      some (headerCodec.encode header ++ audioBytes) := by simp [writeWaveFile, hh]
  have htake : (headerCodec.encode header ++ audioBytes).take 44 = headerCodec.encode header :=
    headerCodec.take_encode header audioBytes
  have hdrop : (headerCodec.encode header ++ audioBytes).drop 44 = audioBytes :=
    headerCodec.drop_encode header audioBytes
  have hdec : headerCodec.decode (headerCodec.encode header) = header :=
    headerCodec.decode_encode_self header
  have hsize : header.subchunk2Size.toNat = audioBytes.length := by
    rw [← hh]; exact UInt32.toNat_ofNat_of_lt' hlen
  have h44 : 44 ≤ (headerCodec.encode header ++ audioBytes).length := by
    rw [List.length_append, headerCodec.length_encode, headerCodec_size]; omega
  rw [readWaveFile_eq uninit hopen h44 (by
      rw [htake, hdec, ← hh]; exact accepted_createWaveHeader sampleRate audioBytes),
    htake, hdrop, hdec, read_of_length_le (by simp [hsize]),
    List.length_replicate, hsize, List.take_length]

theorem readWaveFile_writeWaveFile_at :
    readWaveFile (writeWaveFile (fun _ => none) "a.wav" 16000 [1, 2, 3, 4])
      (createWaveHeader 0 []) "a.wav" =
        .ok { header := createWaveHeader 16000 [1, 2, 3, 4], audioBytes := [1, 2, 3, 4] } :=
  readWaveFile_writeWaveFile _ _ _ _ _ (by decide)

/-! ## Files that end early -/

/-- The size of the audio by the file's header. -/
def declaredSize (content : Bytes) : Nat := (headerCodec.decode (content.take 44)).subchunk2Size.toNat

/-- The reader returns only audio that is in the file, and rejects a file with
less audio than it declares. -/
structure AudioFromFile (content : Bytes) (result : Except String WavData) : Prop where
  present : ∀ wav, result = .ok wav → 44 + wav.header.subchunk2Size.toNat ≤ content.length ∧
    wav.audioBytes = (content.drop 44).take wav.header.subchunk2Size.toNat
  rejected : content.length < 44 + declaredSize content → ∃ e, result = .error e

/-- **When the audio returned is the file's**: exactly when a check fails or the
file is as long as its header says. -/
theorem audioFromFile_iff (files : Files) (uninit : WavHeader) (audioPath : String) (content : Bytes)
    (hfile : files audioPath = some content) (hlen : 44 ≤ content.length) :
    AudioFromFile content (readWaveFile files uninit audioPath) ↔
      ¬ Accepted (headerCodec.decode (content.take 44)) ∨ 44 + declaredSize content ≤ content.length := by
  by_cases ha : Accepted (headerCodec.decode (content.take 44))
  · have hok := readWaveFile_eq uninit hfile hlen ha
    rw [hok]
    refine ⟨fun h => ?_, fun h => ?_⟩
    · exact .inr (h.present _ rfl).1
    · have hsize : 44 + declaredSize content ≤ content.length := h.resolve_left (not_not.mpr ha)
      refine ⟨fun wav hwav => ?_, fun hshort => absurd hsize (by omega)⟩
      simp only [Except.ok.injEq] at hwav; subst hwav
      unfold declaredSize at hsize
      refine ⟨hsize, ?_⟩
      rw [read_of_length_le (by rw [List.length_replicate, List.length_drop]; omega),
        List.length_replicate]
  · have hread := headerRead_eq uninit hlen
    rcases readWaveFile_cases uninit hfile with ⟨-, e, he⟩ | ⟨ha', -⟩
    · rw [he]
      exact iff_of_true ⟨fun wav hwav => (by cases hwav), fun _ => ⟨e, rfl⟩⟩ (.inl ha)
    · exact absurd (hread ▸ ha') ha

/-- A header that declares two bytes of audio, and nothing behind it. -/
def truncated : Bytes := headerCodec.encode (createWaveHeader 16000 [1, 2])

theorem length_truncated : truncated.length = 44 := headerCodec.length_encode _

theorem audioFromFile_iff_at :
    AudioFromFile truncated (readWaveFile (fun _ => some truncated) (createWaveHeader 0 []) "a.wav") ↔
      ¬ Accepted (headerCodec.decode (truncated.take 44)) ∨
        44 + declaredSize truncated ≤ truncated.length :=
  audioFromFile_iff _ _ _ _ rfl length_truncated.ge

/-- The reader returns two spaces as the audio of the truncated file. -/
theorem truncated_padded (uninit : WavHeader) :
    readWaveFile (fun _ => some truncated) uninit "a.wav" =
      .ok { header := createWaveHeader 16000 [1, 2], audioBytes := [32, 32] } := by
  have htake : truncated.take 44 = truncated := List.take_of_length_le length_truncated.le
  have hdrop : truncated.drop 44 = [] := List.drop_eq_nil_of_le length_truncated.le
  have hdec : headerCodec.decode truncated = createWaveHeader 16000 [1, 2] :=
    headerCodec.decode_encode_self _
  have hfile : (fun _ : String => some truncated) "a.wav" = some truncated := rfl
  have haccepted : Accepted (headerCodec.decode (truncated.take 44)) := by
    rw [htake, hdec]; exact accepted_createWaveHeader _ _
  rw [readWaveFile_eq uninit hfile length_truncated.ge haccepted, htake, hdrop, hdec]
  rfl

theorem audio_invented : ¬ ∀ files uninit audioPath content, files audioPath = some content →
    44 ≤ content.length → AudioFromFile content (readWaveFile files uninit audioPath) := by
  intro h
  have hfile := h (fun _ => some truncated) (createWaveHeader 0 []) "a.wav" truncated rfl
    length_truncated.ge
  rw [truncated_padded] at hfile
  have hpresent := (hfile.present _ rfl).1
  rw [length_truncated] at hpresent
  exact absurd hpresent (by decide)

end DictationClient.L1.Wave
