import DictationClient.Core.Loop
import DictationClient.L1Encoding.Wave

/-!
# Ogg Vorbis files (`ReadOggFile`)

`ReadOggFile` opens the file with libvorbisfile, checks that it has one channel,
and collects what `ov_read` decodes until it returns 0. The header is made behind
the loop, with the rate of the `vorbis_info` it asked for in front of it.

An Ogg file may be a chain of logical sections with parameters of their own.
`ov_read` tells the section of each block (`current_section`), but the loop does
not look at it: channels and rate of the other sections are never checked, and
the byte rate is computed in 32 bits.

libvorbisfile is a parameter (`Vorbisfile`), and what it presents of a file is an
`OggFile`.

* `readsOgg_of_presents`: what the call does, in closed form.
* `oggDescribed_iff`: when the header is right for all the audio returned.
-/
namespace DictationClient.L1.Ogg

open Wave

/-- `vorbis_info`, the fields read. The `long rate` holds the 32 bits of the
stream's identification header; converted to `unsigned int` they are the same. -/
structure VorbisInfo where
  channels : Int
  rate : UInt32
  deriving DecidableEq, Repr

/-- The functions of libvorbisfile that are called; `σ` is an `OggVorbis_File`
with the memory it refers to.
`fopen`: `ov_fopen`, `none` for a negative result. `info`: what the pointer shows
that `ov_info(&vf, -1)` returned when the file had just been opened. `read`:
`ov_read`, with its result and the contents of the buffer. -/
structure Vorbisfile (σ : Type) where
  fopen : String → Option σ
  info : σ → VorbisInfo
  read : σ → (Int × Bytes) × σ

section Read
variable {σ : Type} (lib : Vorbisfile σ)

def channelError : String :=
  "Error: not supported audio file. Only single channel (mono) audio is supported."

def readError : String := "Invalid Ogg file! Error while reading audio data."

/-- One turn of the loop, on the file and `audio_data`.
mirrors cpp/dictation-client/audio-utils.cpp:53-62 -/
def readTurn (x : σ × Bytes) : (σ × Bytes) ⊕ Except String (σ × Bytes) :=
  let ((bytes, buffer), vf) := lib.read x.1
  if bytes < 0 then .inr (.error readError)
  else
    let audioData := x.2 ++ buffer.take bytes.toNat
    if bytes > 0 then .inl (vf, audioData) else .inr (.ok (vf, audioData))

/-- `ReadOggFile(audioPath)` throws or returns `result`.
mirrors cpp/dictation-client/audio-utils.cpp:33-80 -/
def ReadsOgg (audioPath : String) (result : Except String WavData) : Prop :=
  match lib.fopen audioPath with
  | none => result = .error "Invalid Ogg file!"
  | some vf =>
    if (lib.info vf).channels ≠ 1 then result = .error channelError
    else ∃ r, Loop.Returns (readTurn lib) (vf, []) r ∧
      result = r.map fun (vf, audioData) =>
        { header := createWaveHeader (lib.info vf).rate audioData, audioBytes := audioData }

/-- The function has one result. -/
theorem ReadsOgg.unique {audioPath : String} {result result' : Except String WavData}
    (h : ReadsOgg lib audioPath result) (h' : ReadsOgg lib audioPath result') : result = result' := by
  unfold ReadsOgg at h h'
  cases hopen : lib.fopen audioPath with
  | none => rw [hopen] at h h'; rw [h, h']
  | some vf =>
    simp only [hopen] at h h'
    by_cases hc : (lib.info vf).channels ≠ 1
    · rw [if_pos hc] at h h'
      rw [h, h']
    · rw [if_neg hc] at h h'
      obtain ⟨r, hr, rfl⟩ := h
      obtain ⟨r', hr', rfl⟩ := h'
      rw [hr.unique hr']

end Read

/-! ## What the library presents -/

/-- A logical section: its parameters, and the blocks decoded from it. -/
structure Section where
  info : VorbisInfo
  blocks : List Bytes
  nonempty : ∀ block ∈ blocks, block ≠ []

/-- An Ogg file up to its end, or up to the first error (`failure`). `closing`:
what the `vorbis_info` shows behind the last read; a seekable file has one for
each section, so these are the parameters of the first. -/
structure OggFile where
  first : Section
  others : List Section
  failure : Option Int
  negative : ∀ code ∈ failure, code < 0
  closing : VorbisInfo

def OggFile.sections (f : OggFile) : List Section := f.first :: f.others

/-- The blocks of all sections, in order. -/
def OggFile.blocks (f : OggFile) : List Bytes := f.sections.flatMap Section.blocks

section Present
variable {σ : Type} {lib : Vorbisfile σ} {f : OggFile}

/-- `ov_read` delivers the blocks one by one, and then 0 or the error. -/
def Delivers (lib : Vorbisfile σ) (f : OggFile) : σ → List Bytes → Prop
  | vf, [] => (lib.read vf).1.1 = f.failure.getD 0 ∧ lib.info (lib.read vf).2 = f.closing
  | vf, block :: blocks =>
    (lib.read vf).1.1 = block.length ∧ (lib.read vf).1.2.take block.length = block ∧
      Delivers lib f (lib.read vf).2 blocks

/-- The library can open the file at the path, and presents it as `f`. -/
def Presents (lib : Vorbisfile σ) (audioPath : String) (f : OggFile) : Prop :=
  ∃ vf, lib.fopen audioPath = some vf ∧ lib.info vf = f.first.info ∧ Delivers lib f vf f.blocks

theorem OggFile.nonempty (f : OggFile) : ∀ block ∈ f.blocks, block ≠ [] := by
  intro block hb
  obtain ⟨s, -, hs⟩ := List.mem_flatMap.mp hb
  exact s.nonempty block hs

/-- The loop collects the blocks, or throws at the error behind them. -/
theorem loop_returns {vf : σ} {blocks : List Bytes} (h : Delivers lib f vf blocks)
    (hne : ∀ block ∈ blocks, block ≠ []) (acc : Bytes) :
    ∃ vf', lib.info vf' = f.closing ∧ Loop.Returns (readTurn lib) (vf, acc)
      (if f.failure.isSome then .error readError else .ok (vf', acc ++ blocks.flatten)) := by
  induction blocks generalizing vf acc with
  | nil =>
    obtain ⟨hbytes, hclosing⟩ := h
    refine ⟨(lib.read vf).2, hclosing, ?_⟩
    cases hfail : f.failure with
    | some code =>
      have hneg := f.negative code hfail
      rw [hfail, Option.getD_some] at hbytes
      have hturn : readTurn lib (vf, acc) = .inr (.error readError) := by
        simp only [readTurn, hbytes, if_pos hneg]
      exact (Loop.returns_inr hturn _).mpr rfl
    | none =>
      rw [hfail, Option.getD_none] at hbytes
      have hturn : readTurn lib (vf, acc) = .inr (.ok ((lib.read vf).2, acc)) := by
        simp [readTurn, hbytes]
      rw [List.flatten_nil, List.append_nil]
      exact (Loop.returns_inr hturn _).mpr rfl
  | cons block blocks ih =>
    obtain ⟨hbytes, hbuffer, hrest⟩ := h
    rw [List.forall_mem_cons] at hne
    have hpos : (0 : Int) < block.length := by
      have := List.length_pos_iff.mpr hne.1; omega
    have hturn : readTurn lib (vf, acc) = .inl ((lib.read vf).2, acc ++ block) := by
      simp only [readTurn, hbytes, Int.toNat_natCast, hbuffer,
        if_neg (show ¬ (block.length : Int) < 0 by omega),
        if_pos hpos]
    obtain ⟨vf', hclosing, hret⟩ := ih hrest hne.2 (acc ++ block)
    refine ⟨vf', hclosing, (Loop.returns_inl hturn _).mpr ?_⟩
    rwa [List.flatten_cons, ← List.append_assoc]

/-- **The call in closed form.** -/
theorem readsOgg_of_presents {audioPath : String} (h : Presents lib audioPath f) :
    ReadsOgg lib audioPath
      (if f.first.info.channels ≠ 1 then .error channelError
      else if f.failure.isSome then .error readError
      else .ok { header := createWaveHeader f.closing.rate f.blocks.flatten
                 audioBytes := f.blocks.flatten }) := by
  obtain ⟨vf, hopen, hinfo, hdel⟩ := h
  unfold ReadsOgg
  simp only [hopen, hinfo]
  by_cases hc : f.first.info.channels ≠ 1
  · rw [if_pos hc, if_pos hc]
  · rw [if_neg hc, if_neg hc]
    obtain ⟨vf', hclosing, hret⟩ := loop_returns hdel f.nonempty []
    refine ⟨_, hret, ?_⟩
    cases f.failure.isSome with
    | true => rfl
    | false => rw [← hclosing]; rfl

theorem audioBytes_of_readsOgg {audioPath : String} {wav : WavData} (h : Presents lib audioPath f)
    (hr : ReadsOgg lib audioPath (.ok wav)) : wav.audioBytes = f.blocks.flatten := by
  have heq := hr.unique lib (readsOgg_of_presents h)
  split at heq
  · cases heq
  · split at heq
    · cases heq
    · cases heq; rfl

/-! ## Audio and header -/

/-- The header tells the channels, the rate and the byte rate of the section. -/
structure RightFor (header : WavHeader) (s : Section) : Prop where
  channels : (header.numOfChan.toNat : Int) = s.info.channels
  rate : header.samplesPerSec = s.info.rate
  byteRate : header.bytesPerSec.toNat = 2 * s.info.rate.toNat

/-- The audio is that of the file, and the header is right for every section that
contributed to it. -/
structure Describes (wav : WavData) (f : OggFile) : Prop where
  audio : wav.audioBytes = f.blocks.flatten
  header : ∀ s ∈ f.sections, s.blocks ≠ [] → RightFor wav.header s

/-- The call throws, or returns what describes the file. -/
def OggDescribed (lib : Vorbisfile σ) (audioPath : String) (f : OggFile) : Prop :=
  ∃ result, ReadsOgg lib audioPath result ∧ ∀ wav, result = .ok wav → Describes wav f

/-- From `2 ^ 28` on the byte rate wraps. -/
theorem rightFor_iff {rate : UInt32} {audio : Bytes} {s : Section} :
    RightFor (createWaveHeader rate audio) s ↔
      s.info.channels = 1 ∧ s.info.rate = rate ∧ s.info.rate.toNat < 2 ^ 28 := by
  have hbytes := toNat_bytesPerSec_createWaveHeader rate audio
  refine ⟨fun h => ?_, fun h => ?_⟩
  · have hrate : rate = s.info.rate := h.rate
    have hwide := h.byteRate
    rw [hbytes, hrate] at hwide
    exact ⟨h.channels.symm, hrate.symm, by omega⟩
  · obtain ⟨hchannels, hrate, hlt⟩ := h
    refine ⟨hchannels.symm, hrate.symm, ?_⟩
    rw [hbytes, ← hrate]
    omega

/-- **When the header is right for all the audio**: exactly when the call throws,
or every section with audio has one channel, the rate of the `vorbis_info`, and a
byte rate that does not wrap. -/
theorem oggDescribed_iff (lib : Vorbisfile σ) (audioPath : String) (f : OggFile)
    (h : Presents lib audioPath f) :
    OggDescribed lib audioPath f ↔
      f.first.info.channels ≠ 1 ∨ f.failure.isSome ∨
        ∀ s ∈ f.sections, s.blocks ≠ [] →
          s.info.channels = 1 ∧ s.info.rate = f.closing.rate ∧ s.info.rate.toNat < 2 ^ 28 := by
  have hreads := readsOgg_of_presents h
  by_cases hc : f.first.info.channels ≠ 1
  · rw [if_pos hc] at hreads
    exact iff_of_true ⟨_, hreads, fun wav hwav => (by cases hwav)⟩ (.inl hc)
  · rw [if_neg hc] at hreads
    by_cases hfail : f.failure.isSome = true
    · rw [if_pos hfail] at hreads
      exact iff_of_true ⟨_, hreads, fun wav hwav => (by cases hwav)⟩ (.inr (.inl hfail))
    · rw [if_neg hfail] at hreads
      refine ⟨fun ⟨result, hr, hd⟩ => .inr (.inr fun s hs hne => ?_), fun hcond => ?_⟩
      · exact rightFor_iff.mp ((hd _ (hr.unique lib hreads)).header s hs hne)
      · have hall := (hcond.resolve_left hc).resolve_left hfail
        refine ⟨_, hreads, fun wav hwav => ?_⟩
        cases hwav
        exact ⟨rfl, fun s hs hne => rightFor_iff.mpr (hall s hs hne)⟩

end Present

/-! ## A chained file -/

/-- A library that has opened a seekable file; the state is what is still to be
read. -/
def presenting (f : OggFile) : Vorbisfile (List Bytes) where
  fopen _ := some f.blocks
  info _ := f.first.info
  read
    | [] => ((f.failure.getD 0, []), [])
    | block :: blocks => ((block.length, block), blocks)

theorem presents_presenting {f : OggFile} (hseekable : f.closing = f.first.info) (audioPath : String) :
    Presents (presenting f) audioPath f := by
  have hdel : ∀ blocks, Delivers (presenting f) f blocks blocks := by
    intro blocks
    induction blocks with
    | nil => exact ⟨rfl, hseekable.symm⟩
    | cons block blocks ih => exact ⟨rfl, List.take_length, ih⟩
  exact ⟨f.blocks, rfl, rfl, hdel f.blocks⟩

/-- One sample at 8 kHz, and one at 16 kHz behind it. -/
def chained : OggFile where
  first := { info := ⟨1, 8000⟩, blocks := [[1, 2]], nonempty := by decide }
  others := [{ info := ⟨1, 16000⟩, blocks := [[3, 4]], nonempty := by decide }]
  failure := none
  negative := by simp
  closing := ⟨1, 8000⟩

theorem oggDescribed_iff_at : OggDescribed (presenting chained) "a.ogg" chained ↔
    chained.first.info.channels ≠ 1 ∨ chained.failure.isSome ∨
      ∀ s ∈ chained.sections, s.blocks ≠ [] →
        s.info.channels = 1 ∧ s.info.rate = chained.closing.rate ∧ s.info.rate.toNat < 2 ^ 28 :=
  oggDescribed_iff (presenting chained) "a.ogg" chained (presents_presenting rfl "a.ogg")

/-- Both samples are returned under a header of 8 kHz. -/
theorem second_rate_lost : ¬ ∀ (lib : Vorbisfile (List Bytes)) (audioPath : String) (f : OggFile),
    Presents lib audioPath f → OggDescribed lib audioPath f := by
  intro h
  have hpresents := presents_presenting (f := chained) rfl "a.ogg"
  obtain ⟨result, hr, hd⟩ := h (presenting chained) "a.ogg" chained hpresents
  have hresult : result =
      .ok { header := createWaveHeader 8000 [1, 2, 3, 4], audioBytes := [1, 2, 3, 4] } :=
    hr.unique _ (readsOgg_of_presents hpresents)
  have hright := (hd _ hresult).header ⟨⟨1, 16000⟩, [[3, 4]], by decide⟩
    (by simp [OggFile.sections, chained])
    (by simp)
  exact absurd hright.rate (by decide)

end DictationClient.L1.Ogg
