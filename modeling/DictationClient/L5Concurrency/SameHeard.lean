import DictationClient.L4App.Main
import DictationClient.L5Concurrency.Recording

/-!
# One recording, two programs, two servers

Each program is given the same WAVE file and the same settings, and calls a server of
its own. The frames may differ; the threads, the networks and the servers do as they
like. Of the Python program a frame can be lost where a `close()` falls between the test
of the loop condition and the store of the index (`PyCall.State.raced`).

* `length_wire_eq`: the order of the config fields does not change the length of the
  first message.
* `programs_heard`: what the two servers hear.
-/
namespace DictationClient.L5.SameHeard

open DictationClient.Api DictationClient.L1 DictationClient.L4
open L1.Wave (WavData readWaveFile)
open L2 (AudioSegment AudioStream)
open L2.StreamingRequest (Builds DictationSessionConfig configRequest)
open L3 (RequestIterator)
open L3.Declared (streamingSession)
open L3.PyConfig (DictationSettings)
open Recording (heard audioHeard Steady)

/-! ## The first message -/

theorem byteSizeLong_eq (w : WireFormat) {c c' : RecognitionConfig}
    (hfields : c.configFields.Perm c'.configFields)
    (hrest : { c with configFields := [] } = { c' with configFields := [] }) :
    (Proto.RecognitionConfig.ofApi c).byteSizeLong w =
    (Proto.RecognitionConfig.ofApi c').byteSizeLong w := by
  simp only [RecognitionConfig.mk.injEq, and_true] at hrest
  obtain ⟨hencoding, hrate, hlanguage, halternatives, hcontexts, htimes⟩ := hrest
  have hlength := hfields.length_eq
  have hsizes := ((hfields.map Proto.ConfigField.ofApi).map fun f =>
    w.delimitedSize (f.byteSizeLong w)).sum_nat
  simp only [Proto.RecognitionConfig.ofApi, Proto.RecognitionConfig.byteSizeLong, List.length_map]
  rw [hencoding, hrate, hlanguage, halternatives, hcontexts, htimes, hlength, hsizes]

theorem length_wire_eq (w : WireFormat) {c c' : StreamingRecognitionConfig} (h : SameConfig c c') :
    (Proto.StreamingRecognizeRequest.wire w (.streamingConfig c)).length =
      (Proto.StreamingRecognizeRequest.wire w (.streamingConfig c')).length := by
  have hrest := h.rest
  simp only [StreamingRecognitionConfig.mk.injEq] at hrest
  obtain ⟨hconfig, hsingle, hinterim⟩ := hrest
  have hsize := byteSizeLong_eq w h.configFields hconfig
  rw [Proto.StreamingRecognizeRequest.wire, Proto.StreamingRecognizeRequest.wire,
    Proto.StreamingRecognizeRequest.length_serialize, Proto.StreamingRecognizeRequest.length_serialize]
  simp only [Proto.StreamingRecognizeRequest.ofApi, Proto.StreamingRecognizeRequest.byteSizeLong,
    Proto.StreamingRecognitionConfig.byteSizeLong, Option.elim_some, hsize, hsingle, hinterim]

/-! ## The two calls -/

/-- What the C++ program calls the recognizer with. -/
def session (settings : DictationSettings) (wav : WavData) : DictationSessionConfig :=
  streamingSession (createDictationSessionConfig (askingFor settings)) wav

/-- **What the two servers hear.** Both programs open a streaming call with the same
metadata and deadline. At any moments of any two runs both servers have heard parts of
the recording in order, and unless a `close()` has overtaken a frame of the Python
program, one has heard the beginning of what the other has. Once both calls are
half-closed, no write of the one has failed and nothing has asked either to stop, both
have heard the recording, behind the same configuration up to the order of the config
fields, whether or not the clients have cut the same frames. -/
theorem programs_heard (w : WireFormat) {settings : DictationSettings} (hset : settings.Fits)
    (hg : FitsInt32 settings.grpcTimeout)
    (hone : ¬ (settings.maxAlternatives > 1 ∧ settings.singleUtterance = false))
    {r : Nat} (hr : 1000 ≤ r) (hr' : 40 * r < 2 ^ 32) {wav : WavData} (hwav : HasRate wav r)
    (hlen : wav.audioBytes.length + 1 < 2 ^ 31) {address stem : String} {env : Cpp.Env}
    (hread : readWaveFile env.files env.uninit (stem ++ ".wav") = .ok wav)
    {segments : String → Option AudioSegment}
    (hsegment : segments (stem ++ ".wav") =
      some { channels := 1, sampleWidth := 2, frameRate := r, rawData := wav.audioBytes })
    {delay : Int} (hd : 0 ≤ delay)
    (hopening : (Proto.StreamingRecognizeRequest.wire w
      (configRequest (session settings wav))).length < sizeLimit) :
    ∃ requests,
      Cpp.main env (commandLine settings address (stem ++ ".wav")) =
        .ok (.streamingRecognize (callOptions settings) (session settings wav) wav.audioBytes) ∧
      Builds (session settings wav) wav.audioBytes (.ok requests) ∧
      Py.main segments (args (stem ++ ".wav") delay) settings =
        .ok (.streamingRecognize (callOptions settings)
          (RequestIterator.new (opened (stem ++ ".wav") r wav.audioBytes).enter delay settings)) ∧
      ∀ (F : Type) [One F] [LT F] [DecidableLT F] (ls : List (StreamingRecognize.NetLbl F))
        (s : StreamingRecognize.Net F) (ls' : List (PyCall.NetLbl F)) (s' : PyCall.Net F),
        (StreamingRecognize.net F requests).Run StreamingRecognize.netStart ls s →
        (PyCall.net F (opened (stem ++ ".wav") r wav.audioBytes) delay settings).Run
          (PyCall.netStart (opened (stem ++ ".wav") r wav.audioBytes) delay settings) ls' s' →
        (audioHeard w s.received <+: wav.audioBytes ∧ (audioHeard w s'.received).Sublist wav.audioBytes) ∧
        (s'.client.raced = false → audioHeard w s.received <+: audioHeard w s'.received ∨
          audioHeard w s'.received <+: audioHeard w s.received) ∧
        (Steady s → .halfClose ∈ s.received → s'.client.reader.closes = 0 → .halfClose ∈ s'.received →
          (audioHeard w s.received = wav.audioBytes ∧ audioHeard w s'.received = wav.audioBytes) ∧
          ∃ c c', (heard w s.received).head? = some (some (.ofApi (.streamingConfig c))) ∧
            (heard w s'.received).head? = some (some (.ofApi (.streamingConfig c'))) ∧
              SameConfig c c') := by
  obtain ⟨c, c', hc, hc', hsame⟩ := sameConfig hset (show r < 2 ^ 31 by omega) hwav.samplesPerSec
  have hopening' : (Proto.StreamingRecognizeRequest.wire w (.streamingConfig c')).length < sizeLimit := by
    rw [← length_wire_eq w hsame, ← hc]
    exact hopening
  have hpy := py_main_wave hone delay hsegment
  have haudio : (opened (stem ++ ".wav") r wav.audioBytes).audio = wav.audioBytes := rfl
  have hrate : (opened (stem ++ ".wav") r wav.audioBytes).frameRate = r := rfl
  have hsize : (opened (stem ++ ".wav") r wav.audioBytes).frameSamplesSize =
      (r : Int) / 1000 * 20 * 2 := rfl
  generalize opened (stem ++ ".wav") r wav.audioBytes = stream at hpy haudio hrate hsize ⊢
  obtain ⟨requests, -, hbuild, -⟩ := sameRequests_iff hset hr hr' hwav (by omega) haudio hrate hsize hd
  have hframe : stream.frameSamplesSize.toNat + 11 < sizeLimit := by
    rw [sizeLimit]
    omega
  refine ⟨requests, cpp_main_wave hg hread, hbuild, hpy, ?_⟩
  intro F _ _ _ ls s ls' s' hrun hrun'
  obtain ⟨-, hpre, hall⟩ := Recording.audioBytes_heard hbuild hopening hrun hlen
  obtain ⟨-, hsub, hpre', hall'⟩ := Recording.stream_heard w (hrate ▸ hc') hd
    (by omega) hframe hopening' hrun'
  rw [haudio] at hsub hpre' hall'
  refine ⟨⟨hpre, hsub⟩, fun hraced => List.prefix_or_prefix_of_prefix hpre (hpre' hraced),
    fun hsteady hclose hopen hclose' => ?_⟩
  obtain ⟨hhead, hheard⟩ := hall hsteady hclose
  obtain ⟨hhead', hheard'⟩ := hall' hopen hclose'
  exact ⟨⟨hheard, hheard'⟩, c, c', hc ▸ hhead, hhead', hsame⟩

/-! ## Two calls -/

/-- 22 samples at 1025 Hz: the C++ client cuts 41 bytes, the Python client 40. -/
def slowAudio : Bytes := List.replicate 40 0 ++ [1, 2, 3, 4]

def slowWave : WavData := ⟨L1.Wave.createWaveHeader 1025 slowAudio, slowAudio⟩

def slowEnv : Cpp.Env where
  files _ := some (L1.Wave.headerCodec.encode slowWave.header ++ slowAudio)
  uninit := L1.Wave.createWaveHeader 0 []
  ogg _ := .error "Invalid Ogg file!"
  health := none

def slowSegments : String → Option AudioSegment := fun _ => some ⟨1, 2, 1025, slowAudio⟩

def slowRequests : List StreamingRecognizeRequest :=
  configRequest (session {} slowWave) :: [List.replicate 40 0 ++ [1], [2, 3, 4]].map .audioContent

def cppSteps : List (StreamingRecognize.NetLbl Nat) :=
  [.client (.reader true), .client (.reader true)] ++ List.replicate 7 (.client (.writer true)) ++
    List.replicate 4 .arrive

theorem cpp_run : ∃ s : StreamingRecognize.Net Nat,
    (StreamingRecognize.net Nat slowRequests).Run StreamingRecognize.netStart cppSteps s ∧
      s.client.log = slowRequests.map (.write · true) ++ [.store .writer, .writesDone .writer] ∧
      s.received = slowRequests.map .message ++ [.halfClose] :=
  ⟨_, LTS.run_of_exec rfl, rfl, rfl⟩

def pySteps : List (PyCall.NetLbl Nat) :=
  List.replicate 24 (.client .consumer) ++ List.replicate 4 .arrive

theorem py_run : ∃ s : PyCall.Net Nat, (PyCall.net Nat (opened "a.wav" 1025 slowAudio) 20 {}).Run
    (PyCall.netStart (opened "a.wav" 1025 slowAudio) 20 {}) pySteps s ∧
      s.client.reader.closes = 0 ∧ s.client.raced = false ∧ .halfClose ∈ s.received :=
  ⟨_, LTS.run_of_exec rfl, rfl, rfl, by simp⟩

theorem programs_heard_at :
    Cpp.main slowEnv (commandLine {} "localhost:4321" ("a" ++ ".wav")) =
      .ok (.streamingRecognize (callOptions {}) (session {} slowWave) slowAudio) ∧
    Py.main slowSegments (args ("a" ++ ".wav") 20) {} =
      .ok (.streamingRecognize (callOptions {})
        (RequestIterator.new (opened ("a" ++ ".wav") 1025 slowAudio).enter 20 {})) ∧
    ∃ (s : StreamingRecognize.Net Nat) (s' : PyCall.Net Nat),
      (audioHeard .standard s.received <+: audioHeard .standard s'.received ∨
        audioHeard .standard s'.received <+: audioHeard .standard s.received) ∧
      (audioHeard .standard s.received = slowAudio ∧ audioHeard .standard s'.received = slowAudio) ∧
      ∃ c c', (heard .standard s.received).head? = some (some (.ofApi (.streamingConfig c))) ∧
        (heard .standard s'.received).head? = some (some (.ofApi (.streamingConfig c'))) ∧
          SameConfig c c' := by
  have hset : ({} : DictationSettings).Fits := by decide
  have hread : readWaveFile slowEnv.files slowEnv.uninit ("a" ++ ".wav") = .ok slowWave := rfl
  have hsegment : slowSegments ("a" ++ ".wav") = some ⟨1, 2, (1025 : Nat), slowAudio⟩ := rfl
  have hopening : (Proto.StreamingRecognizeRequest.wire .standard
      (configRequest (session {} slowWave))).length < sizeLimit := by decide +kernel
  obtain ⟨requests, hcpp, hbuild, hpy, hheard⟩ := programs_heard .standard hset (by decide) (by decide)
    (by decide) (by decide) ⟨rfl, rfl⟩ (by decide) hread hsegment (show (0 : Int) ≤ 20 by decide) hopening
  have hslow : Builds (session {} slowWave) slowAudio (.ok slowRequests) := ⟨4, rfl⟩
  cases hbuild.unique hslow
  obtain ⟨s, hrun, hlog, hreceived⟩ := cpp_run
  obtain ⟨s', hrun', hcloses, hraced, hclose'⟩ := py_run
  have hsteady : Steady s := by
    rw [Steady, hlog]
    constructor <;> simp [slowRequests]
  obtain ⟨-, hprefix, hall⟩ := hheard Nat _ s _ s' hrun hrun'
  exact ⟨hcpp, hpy, s, s', hprefix hraced, hall hsteady (by rw [hreceived]; simp) hcloses hclose'⟩

end DictationClient.L5.SameHeard
