import DictationClient.L1Encoding.Ogg
import DictationClient.L4App.SameRequests
import DictationClient.L4App.SameSettings
import Mathlib.Data.List.TakeWhile

/-!
# The two programs (`main`)

From what `boost::program_options` and `argparse` make of the command line to the
recognition call. The C++ program picks the reader by what stands behind the last `.`
of the path, which without a `.` is the whole path. An uncaught exception ends either
program with code 1. What the call returns is printed and does not change the code of
the C++ program, which is 0.

* `extension_eq_iff`: which paths have an extension.
* `Cpp.main_iff`: when the C++ program calls the recognizer, and how it ends if not.
* `same_programs`: one recording and the same settings, given to both programs.
-/
namespace DictationClient.L4

open DictationClient.Api DictationClient.L2 DictationClient.L2.StreamingRequest DictationClient.L3
open L1.Wave (Files WavData WavHeader createWaveHeader readWaveFile writeWaveFile)
open L3.Declared (syncSession streamingSession)
open L3.PyConfig (DictationSettings)

/-- `path.substr(path.find_last_of(".") + 1)`. -/
def extension (path : String) : String := String.ofList ((path.toList.reverse.takeWhile (· ≠ '.')).reverse)

theorem takeWhile_reverse_eq_iff {α : Type} [DecidableEq α] {a : α} {l ext : List α} :
    (l.reverse.takeWhile (· ≠ a)).reverse = ext ↔ a ∉ ext ∧ (l = ext ∨ ∃ stem, l = stem ++ a :: ext) := by
  constructor
  · rintro rfl
    refine ⟨fun h => by simpa using List.mem_takeWhile_imp (List.mem_reverse.mp h), ?_⟩
    have hsplit := congrArg List.reverse (l.reverse.takeWhile_append_dropWhile (p := (· ≠ a)))
    rw [List.reverse_append, List.reverse_reverse] at hsplit
    cases hd : l.reverse.dropWhile (· ≠ a) with
    | nil => rw [hd] at hsplit; exact .inl hsplit.symm
    | cons b back =>
      have hnot := List.head?_dropWhile_not (· ≠ a) l.reverse
      rw [hd] at hnot
      have hb : b = a := by simpa using hnot
      rw [hd, List.reverse_cons, hb] at hsplit
      exact .inr ⟨back.reverse, by simpa using hsplit.symm⟩
  · rintro ⟨hmem, rfl | ⟨stem, rfl⟩⟩
    · have hall : l.reverse.takeWhile (· ≠ a) = l.reverse :=
        List.takeWhile_eq_self_iff.mpr (by simpa using fun x hx => ne_of_mem_of_not_mem hx hmem)
      rw [hall, List.reverse_reverse]
    · rw [List.reverse_append, List.reverse_cons, List.append_assoc, List.takeWhile_append_of_pos]
      · simp
      · simpa using fun x hx => ne_of_mem_of_not_mem hx hmem

/-- **The extension of a path**: the path, or what stands behind a `.`. -/
theorem extension_eq_iff {path ext : String} : extension path = ext ↔
    '.' ∉ ext.toList ∧ (path = ext ∨ ∃ stem, path = stem ++ ("." ++ ext)) := by
  have hlist : extension path = ext ↔ (path.toList.reverse.takeWhile (· ≠ '.')).reverse = ext.toList := by
    rw [extension, ← String.toList_inj, String.toList_ofList]
  rw [hlist, takeWhile_reverse_eq_iff, String.toList_inj]
  refine and_congr_right fun _ => or_congr_right
    ⟨fun ⟨stem, h⟩ => ⟨String.ofList stem, ?_⟩, fun ⟨stem, h⟩ => ?_⟩
  · rw [← String.toList_inj]
    simpa using h
  · exact ⟨stem.toList, by rw [h]; simp⟩

/-! ## The C++ program -/

namespace Cpp

/-- mirrors cpp/dictation-client/main.cpp:71-104 -/
structure Options extends UserOptions where
  tlsDir : String := ""
  audioPath : String := ""
  waitForServiceStart : Int32 := 0
  sync : Bool := false

/-- What `userOptions` holds of a command line that can be parsed; `serviceAddress` is the
one option without a default. Whether the map is empty is left open: `po::store` puts
the defaults of the other options into it.
mirrors cpp/dictation-client/main.cpp:74-76 -/
structure CommandLine extends Options where
  empty : Bool := false
  help : Bool := false
  serviceAddress : Option String := none

/-- `ogg`: what `ReadOggFile` does with a path. `health`: the status the health
service replies, `none` if the call fails. -/
structure Env where
  files : Files
  uninit : WavHeader
  ogg : String → Except String WavData
  health : Option Int32

inductive Call where
  | recognize (options : CallOptions) (request : RecognizeRequest)
  | streamingRecognize (options : CallOptions) (config : DictationSessionConfig) (audio : Bytes)

def serving : Int32 := 1

def notServing : Int32 := 2

/-- Whether `create_channel_credentials` returns.
mirrors cpp/libdictation-client/dictation_client.cpp:12-41 -/
def credentialsRead (files : Files) (tlsDir : String) : Bool :=
  tlsDir.isEmpty || ["/client.crt", "/client.key", "/ca.crt"].all fun name =>
    (files (tlsDir ++ name)).isSome

/-- mirrors cpp/libdictation-client/dictation_client.cpp:56-93 -/
def checkHealth (env : Env) : Int32 := env.health.getD 0

/-- The reader that is called, and what it does; `none`: no reader.
mirrors cpp/dictation-client/main.cpp:156-165 -/
def readAudio (env : Env) (audioPath : String) : Option (Except String WavData) :=
  if extension audioPath = "wav" then some (readWaveFile env.files env.uninit audioPath)
  else if extension audioPath = "ogg" then some (env.ogg audioPath)
  else none

/-- mirrors cpp/dictation-client/main.cpp:136-145 -/
def waitForService (env : Env) (o : Options) : Except Nat Unit :=
  if o.waitForServiceStart > 0 then
    if credentialsRead env.files o.tlsDir then
      if checkHealth env = notServing then .error 2
      else if checkHealth env ≠ serving then .error 3
      else .ok ()
    else .error 1
  else .ok ()

/-- The call for the audio that has been read.
mirrors cpp/dictation-client/main.cpp:167-178 -/
def callFor (o : Options) (config : DictationSessionConfig) (wav : WavData) : Call :=
  if o.sync then
    let config := syncSession config wav
    .recognize (prepareContext config) (buildSyncRequest config wav.audioBytes)
  else
    let config := streamingSession config wav
    .streamingRecognize (prepareContext config) config wav.audioBytes

/-- mirrors cpp/dictation-client/main.cpp:147-178 -/
def recognition (env : Env) (o : Options) (config : DictationSessionConfig) : Except Nat Call :=
  if o.audioPath.isEmpty then .error 0
  else
    match readAudio env o.audioPath with
    | some (.ok wav) =>
      if credentialsRead env.files o.tlsDir then .ok (callFor o config wav) else .error 1
    | _ => .error 1

/-- mirrors cpp/dictation-client/main.cpp:128-185 -/
def run (env : Env) (o : Options) : Except Nat Call := do
  let config := createDictationSessionConfig o.toUserOptions
  waitForService env o
  recognition env o config

/-- The exit code, or the call that is made; `userOptions` is `none` if `po::store` throws.
mirrors cpp/dictation-client/main.cpp:107-185 -/
def main (env : Env) (userOptions : Option CommandLine) : Except Nat Call :=
  match userOptions with
  | none => .error 1
  | some userOptions =>
    if userOptions.empty || userOptions.help then .error 0
    -- `po::notify` throws for an option that is required
    else if userOptions.serviceAddress.isNone then .error 1
    else run env userOptions.toOptions

/-- The command line asks for no help and names the service. -/
def Started (userOptions : Option CommandLine) (o : Options) : Prop :=
  ∃ line, userOptions = some line ∧ line.empty = false ∧ line.help = false ∧
    line.serviceAddress.isSome = true ∧ line.toOptions = o

/-- The health check has not been asked for, or has found the service serving. -/
def Healthy (env : Env) (o : Options) : Prop :=
  o.waitForServiceStart > 0 → credentialsRead env.files o.tlsDir = true ∧ env.health = some serving

/-- The path names a file that a reader accepts. -/
def Reads (env : Env) (audioPath : String) (wav : WavData) : Prop :=
  ((audioPath = "wav" ∨ ∃ stem, audioPath = stem ++ ".wav") ∧
    readWaveFile env.files env.uninit audioPath = .ok wav) ∨
  ((audioPath = "ogg" ∨ ∃ stem, audioPath = stem ++ ".ogg") ∧ env.ogg audioPath = .ok wav)

theorem readAudio_eq_iff {env : Env} {audioPath : String} {wav : WavData} :
    readAudio env audioPath = some (.ok wav) ↔ Reads env audioPath wav := by
  have hwav : extension audioPath = "wav" ↔ audioPath = "wav" ∨ ∃ stem, audioPath = stem ++ ".wav" := by
    rw [extension_eq_iff, and_iff_right (by decide)]
    rfl
  have hogg : extension audioPath = "ogg" ↔ audioPath = "ogg" ∨ ∃ stem, audioPath = stem ++ ".ogg" := by
    rw [extension_eq_iff, and_iff_right (by decide)]
    rfl
  rw [Reads, ← hwav, ← hogg, readAudio]
  by_cases h : extension audioPath = "wav"
  · simp [h]
  · by_cases h' : extension audioPath = "ogg" <;> simp [h, h']

section Cases
variable {env : Env} {o : Options}

/-- The health check lets the program go on, or ends it. -/
theorem waitForService_cases : (waitForService env o = .ok () ∧ Healthy env o) ∨
    (¬ Healthy env o ∧ o.waitForServiceStart > 0 ∧
      ((waitForService env o = .error 1 ∧ credentialsRead env.files o.tlsDir = false) ∨
        (credentialsRead env.files o.tlsDir = true ∧
          ((waitForService env o = .error 2 ∧ env.health = some notServing) ∨
            (waitForService env o = .error 3 ∧ env.health ≠ some notServing ∧
              env.health ≠ some serving))))) := by
  have hstatus : ∀ {status : Int32}, status ≠ 0 →
      (checkHealth env = status ↔ env.health = some status) := by
    intro status hne
    unfold checkHealth
    cases env.health with
    | none => simpa using hne.symm
    | some reply => simp
  unfold waitForService Healthy
  by_cases hw : o.waitForServiceStart > 0
  · by_cases hc : credentialsRead env.files o.tlsDir = true
    · simp only [if_pos hw, if_pos hc, ne_eq, hstatus (show notServing ≠ 0 by decide),
        hstatus (show serving ≠ 0 by decide)]
      by_cases h2 : env.health = some notServing
      · have h1 : env.health ≠ some serving := by rw [h2]; decide
        exact .inr ⟨fun h => h1 (h hw).2, hw, .inr ⟨hc, .inl ⟨if_pos h2, h2⟩⟩⟩
      · by_cases h1 : env.health = some serving
        · exact .inl ⟨by rw [if_neg h2, if_neg (not_not.mpr h1)], fun _ => ⟨hc, h1⟩⟩
        · exact .inr ⟨fun h => h1 (h hw).2, hw, .inr ⟨hc, .inr ⟨by rw [if_neg h2, if_pos h1], h2, h1⟩⟩⟩
    · rw [if_pos hw, if_neg hc]
      exact .inr ⟨fun h => hc (h hw).1, hw, .inl ⟨rfl, by simpa using hc⟩⟩
  · rw [if_neg hw]
    exact .inl ⟨rfl, fun h => absurd h hw⟩

theorem recognition_cases (config : DictationSessionConfig) :
    (recognition env o config = .error 0 ∧ o.audioPath = "") ∨
    (o.audioPath ≠ "" ∧
      ((∃ wav, Reads env o.audioPath wav ∧ credentialsRead env.files o.tlsDir = true ∧
          recognition env o config = .ok (callFor o config wav)) ∨
        (recognition env o config = .error 1 ∧
          ¬ ∃ wav, Reads env o.audioPath wav ∧ credentialsRead env.files o.tlsDir = true))) := by
  simp only [← readAudio_eq_iff]
  unfold recognition
  by_cases hp : o.audioPath = ""
  · exact .inl ⟨by simp [hp], hp⟩
  · rw [if_neg (by simpa using hp)]
    refine .inr ⟨hp, ?_⟩
    rcases hr : readAudio env o.audioPath with _ | ⟨e | wav⟩
    · exact .inr ⟨rfl, by simp⟩
    · exact .inr ⟨rfl, by simp⟩
    · by_cases hc : credentialsRead env.files o.tlsDir = true
      · exact .inl ⟨wav, rfl, hc, if_pos hc⟩
      · exact .inr ⟨if_neg hc, by simp [hc]⟩

end Cases

/-- Behind the command line. -/
theorem run_iff (env : Env) (o : Options) :
    (∀ call, run env o = .ok call ↔ Healthy env o ∧ o.audioPath ≠ "" ∧
      credentialsRead env.files o.tlsDir = true ∧ ∃ wav, Reads env o.audioPath wav ∧
      call = callFor o (createDictationSessionConfig o.toUserOptions) wav) ∧
    (run env o = .error 0 ↔ Healthy env o ∧ o.audioPath = "") ∧
    (run env o = .error 2 ↔ o.waitForServiceStart > 0 ∧ credentialsRead env.files o.tlsDir = true ∧
      env.health = some notServing) ∧
    (run env o = .error 3 ↔ o.waitForServiceStart > 0 ∧ credentialsRead env.files o.tlsDir = true ∧
      env.health ≠ some notServing ∧ env.health ≠ some serving) := by
  have hrun : run env o = (waitForService env o).bind fun _ =>
    recognition env o (createDictationSessionConfig o.toUserOptions) := rfl
  have hunique : ∀ {wav wav'}, Reads env o.audioPath wav → Reads env o.audioPath wav' → wav = wav' := by
    intro wav wav' h h'
    rw [← readAudio_eq_iff] at h h'
    rw [h] at h'
    cases h'; rfl
  rcases @waitForService_cases env o with ⟨hwait, hh⟩ | ⟨hh, hw, hcases⟩
  · rw [hrun, hwait]
    have h2 : ¬ (o.waitForServiceStart > 0 ∧ credentialsRead env.files o.tlsDir = true ∧
        env.health = some notServing) := fun ⟨hw, _, h⟩ => by
      rw [(hh hw).2] at h; exact absurd h (by decide)
    have h3 : ¬ (o.waitForServiceStart > 0 ∧ credentialsRead env.files o.tlsDir = true ∧
        env.health ≠ some notServing ∧ env.health ≠ some serving) := fun ⟨hw, _, _, h⟩ => h (hh hw).2
    simp only [Except.bind]
    rcases @recognition_cases env o (createDictationSessionConfig o.toUserOptions) with
      ⟨hrec, hp⟩ | ⟨hp, ⟨wav, hreads, hc, hrec⟩ | ⟨hrec, hno⟩⟩
    · rw [hrec]
      exact ⟨fun call => iff_of_false (by simp) fun h => h.2.1 hp, iff_of_true rfl ⟨hh, hp⟩,
        iff_of_false (by simp) h2, iff_of_false (by simp) h3⟩
    · rw [hrec]
      refine ⟨fun call => ⟨fun h => ⟨hh, hp, hc, wav, hreads, (Except.ok.inj h).symm⟩, ?_⟩,
        iff_of_false (by simp) fun h => hp h.2, iff_of_false (by simp) h2, iff_of_false (by simp) h3⟩
      rintro ⟨-, -, -, wav', hreads', rfl⟩
      rw [hunique hreads hreads']
    · rw [hrec]
      exact ⟨fun call => iff_of_false (by simp) fun ⟨_, _, hc, wav, hreads, _⟩ => hno ⟨wav, hreads, hc⟩,
        iff_of_false (by simp) fun h => hp h.2, iff_of_false (by simp) h2, iff_of_false (by simp) h3⟩
  · rw [hrun]
    rcases hcases with ⟨hwait, hc⟩ | ⟨hc, ⟨hwait, h2⟩ | ⟨hwait, h2, h3⟩⟩
    · rw [hwait]
      simp [Except.bind, hh, hc]
    · rw [hwait]
      simp [Except.bind, hh, hc, hw, h2]
    · rw [hwait]
      simp [Except.bind, hh, hc, hw, h2, h3]

/-- What the command line leads to. -/
theorem main_cases (env : Env) (userOptions : Option CommandLine) :
    (main env userOptions = .error 1 ∧
      (∀ line, userOptions = some line → line.empty = false ∧ line.help = false) ∧
      ∀ o, ¬ Started userOptions o) ∨
    (main env userOptions = .error 0 ∧
      (∃ line, userOptions = some line ∧ (line.empty = true ∨ line.help = true)) ∧
      ∀ o, ¬ Started userOptions o) ∨
    ∃ line, userOptions = some line ∧ main env userOptions = run env line.toOptions ∧
      line.empty = false ∧ line.help = false ∧ ∀ o, Started userOptions o ↔ o = line.toOptions := by
  cases userOptions with
  | none => exact .inl ⟨rfl, fun _ h => by (cases h), by rintro o ⟨line, h, -⟩; cases h⟩
  | some line =>
    unfold main Started
    cases he : line.empty with
    | true =>
      exact .inr (.inl ⟨by simp [he], ⟨line, rfl, .inl he⟩,
        by rintro o ⟨_, ⟨⟩, h, -⟩; rw [he] at h; cases h⟩)
    | false =>
      cases hh : line.help with
      | true =>
        exact .inr (.inl ⟨by simp [hh], ⟨line, rfl, .inr hh⟩,
          by rintro o ⟨_, ⟨⟩, -, h, -⟩; rw [hh] at h; cases h⟩)
      | false =>
        cases ha : line.serviceAddress with
        | none =>
          refine .inl ⟨by simp [he, hh, ha], by rintro _ ⟨⟩; exact ⟨he, hh⟩, ?_⟩
          rintro o ⟨_, ⟨⟩, -, -, h, -⟩
          rw [ha] at h; cases h
        | some address =>
          refine .inr (.inr ⟨line, rfl, by simp [he, hh, ha], he, hh, fun o => ⟨?_, ?_⟩⟩)
          · rintro ⟨_, ⟨⟩, -, -, -, rfl⟩; rfl
          · rintro rfl; exact ⟨line, rfl, he, hh, by rw [ha]; rfl, rfl⟩

/-- On WAVE files with a whole header the uninitialised memory is gone. -/
theorem main_uninit {env : Env} {userOptions : Option CommandLine} (uninit : WavHeader)
    (h : ∀ line content, userOptions = some line → extension line.audioPath = "wav" →
      env.files line.audioPath = some content → 44 ≤ content.length) :
    main { env with uninit } userOptions = main env userOptions := by
  cases userOptions with
  | none => rfl
  | some line =>
    have hread : readAudio { env with uninit } line.audioPath = readAudio env line.audioPath := by
      unfold readAudio
      split
      · rename_i hwav
        rw [L1.Wave.readWaveFile_uninit uninit env.uninit fun content => h line content rfl hwav]
      · rfl
    have hrun : run { env with uninit } line.toOptions = run env line.toOptions := by
      simp only [run, recognition, hread]
      rfl
    simp only [main, hrun]

/-- **What the program does.** It calls the recognizer exactly if the command line names
the service and asks for no help, the service is healthy, as far as it was asked to
find out, the path is that of a file one of its readers accepts, and the credentials
can be read; what it sends is then made from the options and that file, and of a
WAVE file shorter than its header from uninitialised memory. It ends with 2 or 3 only
for the health check, and with 0 before a call only for help or without a path. -/
theorem main_iff (env : Env) (userOptions : Option CommandLine) :
    (∀ call, main env userOptions = .ok call ↔ ∃ o, Started userOptions o ∧ Healthy env o ∧
      o.audioPath ≠ "" ∧
      credentialsRead env.files o.tlsDir = true ∧ ∃ wav, Reads env o.audioPath wav ∧
      call = callFor o (createDictationSessionConfig o.toUserOptions) wav) ∧
    (main env userOptions = .error 0 ↔
      (∃ line, userOptions = some line ∧ (line.empty = true ∨ line.help = true)) ∨
        ∃ o, Started userOptions o ∧ Healthy env o ∧ o.audioPath = "") ∧
    (main env userOptions = .error 2 ↔ ∃ o, Started userOptions o ∧ o.waitForServiceStart > 0 ∧
      credentialsRead env.files o.tlsDir = true ∧ env.health = some notServing) ∧
    (main env userOptions = .error 3 ↔ ∃ o, Started userOptions o ∧ o.waitForServiceStart > 0 ∧
      credentialsRead env.files o.tlsDir = true ∧ env.health ≠ some notServing ∧
        env.health ≠ some serving) ∧
    ∀ uninit, (∀ line content, userOptions = some line → extension line.audioPath = "wav" →
      env.files line.audioPath = some content → 44 ≤ content.length) →
      main { env with uninit } userOptions = main env userOptions := by
  refine and_assoc.mp (and_assoc.mp (and_assoc.mp ⟨?_, fun uninit h => main_uninit uninit h⟩))
  rcases main_cases env userOptions with
    ⟨hmain, hline, hno⟩ | ⟨hmain, hline, hno⟩ | ⟨line, rfl, hmain, he, hh, hstarted⟩
  · have hhelp : ¬ ∃ line, userOptions = some line ∧ (line.empty = true ∨ line.help = true) := by
      rintro ⟨line, hsome, h⟩
      simp [hline line hsome] at h
    simp [hmain, hhelp, hno]
  · simp [hmain, hline, hno]
  · simp only [hmain, hstarted, exists_eq_left, Option.some.injEq, exists_eq_left', he, hh,
      Bool.false_eq_true,
      or_self, false_or]
    obtain ⟨hcall, h0, h2, h3⟩ := run_iff env line.toOptions
    exact ⟨⟨⟨hcall, h0⟩, h2⟩, h3⟩

end Cpp

/-! ## The Python program -/

namespace Py

/-- What `argparse` makes of the options the settings do not hold.
mirrors python/dictation_client.py:45-82 -/
structure Args where
  audio : Option String := none
  mic : Bool := false
  tlsDirectory : String := ""
  waitForServiceStart : Int := 0
  frameLength : Int := 20
  sync : Bool := false
  delay : Int := 0

inductive Call where
  | recognize (options : CallOptions) (request : RecognizeRequest)
  | streamingRecognize (options : CallOptions) (requests : RequestIterator)
  | streamingMicrophone (options : CallOptions)

/-- `pydub.AudioSegment.from_wav` is `files`, as in `AudioStream.new`; a path that does not
exist raises an exception of `pydub`'s own, which ends the program the same way.
mirrors python/utils/audio_loader.py:21-40 -/
def loadAudio (files : String → Option AudioSegment) (audioFilePath : String) : Except String AudioLoader :=
  match files audioFilePath with
  | none => .error (audioFilePath ++ " has an unknown format: only mono, 16 bit PCM audio files are allowed")
  | some segment =>
    if segment.channels ≠ 1 then
      .error (audioFilePath ++ " has " ++ toString segment.channels ++
        " channels: only mono, 16 bit PCM audio files are allowed")
    else if segment.sampleWidth * 8 ≠ 16 then
      .error (audioFilePath ++ " has " ++ toString (segment.sampleWidth * 8) ++
        " bit depth: only mono, 16 bit PCM audio files are allowed")
    else .ok { samplingRateHz := segment.frameRate, audioData := segment.rawData }

/-- mirrors python/dictation_client.py:96-103 -/
def syncCall (files : String → Option AudioSegment) (args : Args) (settings : DictationSettings) :
    Except Nat Call :=
  match args.audio with
  | none => .error 0
  | some path =>
    match loadAudio files path with
    | .error _ => .error 1
    | .ok audio =>
      match SyncRecognizer.call settings audio with
      | .error _ => .error 1
      | .ok (options, request) => .ok (.recognize options request)

/-- mirrors python/dictation_client.py:105-117 and 27-39 -/
def streamingCall (files : String → Option AudioSegment) (args : Args) (settings : DictationSettings) :
    Except Nat Call :=
  if settings.maxAlternatives > 1 ∧ settings.singleUtterance = false then .error 1
  else
    match args.audio, args.mic with
    | some path, _ =>
      match AudioStream.new files path args.frameLength with
      | .error _ => .error 1
      | .ok stream =>
        .ok (.streamingRecognize (callOptions settings)
          (RequestIterator.new stream.enter args.delay settings))
    | none, true => .ok (.streamingMicrophone (callOptions settings))
    | none, false => .error 0

/-- `service_utils.py` imports neither `os` nor the health messages, so credentials
and the health check raise a `NameError`.
mirrors python/dictation_client.py:88-117 -/
def main (files : String → Option AudioSegment) (args : Args) (settings : DictationSettings) :
    Except Nat Call :=
  if args.tlsDirectory ≠ "" then .error 1
  else if args.waitForServiceStart > 0 then .error 1
  else if args.sync then syncCall files args settings
  else streamingCall files args settings

end Py

/-! ## Both programs -/

/-- Both programs are given a service and a file; the Python program may be asked to wait
between the requests. -/
def commandLine (settings : DictationSettings) (address path : String) : Option Cpp.CommandLine :=
  some { toUserOptions := askingFor settings, audioPath := path, serviceAddress := some address }

def args (path : String) (delay : Int) : Py.Args := { audio := some path, delay }

/-- The C++ program with a WAVE file. -/
theorem cpp_main_wave {settings : DictationSettings} (hg : FitsInt32 settings.grpcTimeout) {wav : WavData}
    {address stem : String} {env : Cpp.Env}
    (hread : readWaveFile env.files env.uninit (stem ++ ".wav") = .ok wav) :
    Cpp.main env (commandLine settings address (stem ++ ".wav")) =
      .ok (.streamingRecognize (callOptions settings)
        (streamingSession (createDictationSessionConfig (askingFor settings)) wav) wav.audioBytes) := by
  have hreads : Cpp.readAudio env (stem ++ ".wav") = some (.ok wav) :=
    Cpp.readAudio_eq_iff.mpr (.inl ⟨.inr ⟨stem, rfl⟩, hread⟩)
  have hwait : ∀ o : Cpp.Options, o.waitForServiceStart = 0 → Cpp.waitForService env o = .ok () :=
    fun o ho => if_neg (by rw [ho]; decide)
  have hcredentials : Cpp.credentialsRead env.files "" = true := rfl
  simp [Cpp.main, commandLine, Cpp.run, hwait, Cpp.recognition, hreads, hcredentials, Cpp.callFor,
    sameOptions hg,
    bind, Except.bind]

/-- What `AudioStream` holds of a mono 16-bit file, with frames of 20 ms. -/
def opened (path : String) (r : Nat) (audio : Bytes) : AudioStream where
  audioPath := path
  audio := audio
  frameRate := r
  frameSamplesSize := (r : Int) / 1000 * 20 * 2
  dataIndex := 0

/-- The Python program with the same file. -/
theorem py_main_wave {settings : DictationSettings}
    (hone : ¬ (settings.maxAlternatives > 1 ∧ settings.singleUtterance = false)) {path : String} {r : Nat}
    {audio : Bytes} (delay : Int) {segments : String → Option AudioSegment}
    (hsegment : segments path =
      some { channels := 1, sampleWidth := 2, frameRate := r, rawData := audio }) :
    Py.main segments (args path delay) settings =
      .ok (.streamingRecognize (callOptions settings)
        (RequestIterator.new (opened path r audio).enter delay settings)) := by
  have hnew : AudioStream.new segments path 20 = .ok (opened path r audio) := by
    simp [AudioStream.new, hsegment, opened]
  simp [Py.main, args, Py.streamingCall, hone, hnew]

/-- **One recording and the same settings.** Both programs open a streaming call with
the same metadata and deadline, only that the Python program refuses alternatives
without `--single-utterance`; and the requests are the same, up to the order of the
config fields, exactly when the clients cut the same frames. -/
theorem same_programs {settings : DictationSettings} (hset : settings.Fits)
    (hg : FitsInt32 settings.grpcTimeout) {r : Nat} (hr : 1000 ≤ r) (hr' : 40 * r < 2 ^ 32) {wav : WavData}
    (hwav : HasRate wav r) (hlen : wav.audioBytes.length < 2 ^ 31) {address stem : String} {env : Cpp.Env}
    (hread : readWaveFile env.files env.uninit (stem ++ ".wav") = .ok wav)
    {segments : String → Option AudioSegment}
    (hsegment : segments (stem ++ ".wav") =
      some { channels := 1, sampleWidth := 2, frameRate := r, rawData := wav.audioBytes })
    {delay : Int} (hd : 0 ≤ delay) :
    ∃ config, Cpp.main env (commandLine settings address (stem ++ ".wav")) =
        .ok (.streamingRecognize (callOptions settings) config wav.audioBytes) ∧
      if settings.maxAlternatives > 1 ∧ settings.singleUtterance = false then
        Py.main segments (args (stem ++ ".wav") delay) settings = .error 1
      else ∃ iterator, Py.main segments (args (stem ++ ".wav") delay) settings =
          .ok (.streamingRecognize (callOptions settings) iterator) ∧
        ∃ requests requests', Builds config wav.audioBytes (.ok requests) ∧
          (∀ n, iterator.trace (List.replicate n .next) = RequestIterator.replies requests' n) ∧
          (List.Forall₂ SameRequest requests requests' ↔
            r % 1000 < 25 ∨ wav.audioBytes.length ≤ 40 * (r / 1000)) := by
  refine ⟨_, cpp_main_wave hg hread, ?_⟩
  split
  · next h => simp [Py.main, args, Py.streamingCall, h]
  · next h => exact ⟨_, py_main_wave h delay hsegment,
      sameRequests_iff hset hr hr' hwav hlen rfl rfl rfl hd⟩

/-- Two bytes at 16 kHz in a file. -/
def twoBytesFile : Bytes := L1.Wave.headerCodec.encode (createWaveHeader 16000 [1, 2]) ++ [1, 2]

def twoBytesEnv : Cpp.Env where
  files _ := some twoBytesFile
  uninit := createWaveHeader 0 []
  ogg _ := .error "Invalid Ogg file!"
  health := none

/-- The same file, as `pydub` reads it. -/
def twoBytesSegments : String → Option AudioSegment := fun _ => some ⟨1, 2, 16000, [1, 2]⟩

theorem same_programs_at :
    ∃ config, Cpp.main twoBytesEnv (commandLine {} "localhost:4321" ("a" ++ ".wav")) =
        .ok (.streamingRecognize (callOptions {}) config [1, 2]) ∧
      ∃ iterator, Py.main twoBytesSegments (args ("a" ++ ".wav") 20) {} =
          .ok (.streamingRecognize (callOptions {}) iterator) ∧
        ∃ requests requests', Builds config [1, 2] (.ok requests) ∧
          (∀ n, iterator.trace (List.replicate n .next) = RequestIterator.replies requests' n) ∧
          List.Forall₂ SameRequest requests requests' := by
  have hread : readWaveFile twoBytesEnv.files twoBytesEnv.uninit ("a" ++ ".wav") =
    .ok ⟨createWaveHeader 16000 [1, 2], [1, 2]⟩ := rfl
  have hsegment : twoBytesSegments ("a" ++ ".wav") = some ⟨1, 2, (16000 : Nat), [1, 2]⟩ := rfl
  have hset : ({} : DictationSettings).Fits := by decide
  obtain ⟨config, hcpp, hpy⟩ := same_programs hset (by decide) (by decide) (by decide) ⟨rfl, rfl⟩
    (by decide)
    hread hsegment (show (0 : Int) ≤ 20 by decide)
  rw [if_neg (by decide)] at hpy
  obtain ⟨iterator, hiterator, requests, requests', hbuild, hdraws, hsame⟩ := hpy
  exact ⟨config, hcpp, iterator, hiterator, requests, requests', hbuild, hdraws, hsame.mpr (by decide)⟩

end DictationClient.L4
