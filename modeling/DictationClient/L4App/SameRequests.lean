import DictationClient.L1Encoding.Wave
import DictationClient.L2Framing.SameFrames
import DictationClient.L3Protocol.Declared
import DictationClient.L3Protocol.RequestIterator
import DictationClient.L3Protocol.ServiceSettings
import DictationClient.L4App.StreamingRecognizer
import Mathlib.Data.List.Forall2

/-!
# The two clients' requests

Both command lines can ask for the same: the timeouts the Python client always sends
are service settings to the C++ client. A `std::map` hands them out by key, the
dictionary in the order it was written in.

* `createDictationSessionConfig`: the options of the C++ client.
* `sameConfig`: given the same settings the configurations are the same, up to the
  order of the config fields.
* `sameRequests_iff`: the whole sequences are, exactly when the frames are.
-/
namespace DictationClient.L4

open DictationClient.Api DictationClient.L2 DictationClient.L2.StreamingRequest DictationClient.L3
open L1.Wave (WavData)
open L3.Declared (streamingSession)
open L3.PyConfig (DictationSettings)
open L3.ServiceSettings (readServiceSettingsOption Segment settingsText)

/-! ## The options of the C++ client -/

/-- The options a session config is made of, with their defaults.
mirrors cpp/dictation-client/main.cpp:82-102 -/
structure UserOptions where
  sessionId : String := ""
  grpcTimeout : Int32 := 0
  timeOffsets : Bool := false
  singleUtterance : Bool := true
  interimResults : Bool := false
  serviceSettings : String := ""
  maxAlternatives : Int32 := 1
  contextPhrase : String := ""

/-- mirrors cpp/dictation-client/main.cpp:58-69 -/
def createDictationSessionConfig (userOptions : UserOptions) : DictationSessionConfig where
  sessionId := userOptions.sessionId
  grpcTimeout := userOptions.grpcTimeout
  serviceSettings := readServiceSettingsOption userOptions.serviceSettings
  timeOffsets := userOptions.timeOffsets
  singleUtterance := userOptions.singleUtterance
  interimResults := userOptions.interimResults
  maxAlternatives := userOptions.maxAlternatives
  contextPhrase := userOptions.contextPhrase

/-! ## Asking for the same -/

theorem mem_toString_int {n : Int} {c : Char} (h : c ∈ (toString n).toList) :
    c = '-' ∨ c.isDigit = true := by
  rw [Int.toString_eq_repr, Int.repr_eq_if] at h
  have hdigit : ∀ k : Nat, c ∈ k.repr.toList → c.isDigit = true := fun k hk => by
    rw [Nat.toList_repr] at hk
    exact Nat.isDigit_of_mem_toDigits (by decide) (by decide) hk
  split at h
  · exact .inr (hdigit _ h)
  · rw [String.toList_append, List.mem_append] at h
    rcases h with h | h
    · exact .inl (by simpa using h)
    · exact .inr (hdigit _ h)

theorem toString_int_ne_empty (n : Int) : toString n ≠ "" := by
  rw [Int.toString_eq_repr, Int.repr_eq_if]
  split
  · exact Nat.repr_ne_empty
  · simp

theorem not_mem_toString_int (n : Int) : ';' ∉ (toString n).toList ∧ '=' ∉ (toString n).toList := by
  constructor <;> intro h <;> rcases mem_toString_int h with h | h <;> exact absurd h (by decide)

/-- The four timeouts as the C++ client's option has them. -/
def timeoutSegments (settings : DictationSettings) : List Segment :=
  [.pair "no-input-timeout" (toString settings.noInputTimeout) (by decide) (not_mem_toString_int _)
     (toString_int_ne_empty _),
   .pair "speech-complete-timeout" (toString settings.speechCompleteTimeout) (by decide)
     (not_mem_toString_int _) (toString_int_ne_empty _),
   .pair "speech-incomplete-timeout" (toString settings.speechIncompleteTimeout) (by decide)
     (not_mem_toString_int _) (toString_int_ne_empty _),
   .pair "recognition-timeout" (toString settings.recognitionTimeout) (by decide) (not_mem_toString_int _)
     (toString_int_ne_empty _)]

/-- The options that ask the C++ client for what `settings` ask the Python client for. -/
def askingFor (settings : DictationSettings) : UserOptions where
  sessionId := settings.sessionId
  grpcTimeout := Int32.ofInt settings.grpcTimeout
  timeOffsets := settings.timeOffsets
  singleUtterance := settings.singleUtterance
  interimResults := settings.interimResults
  serviceSettings := settingsText (timeoutSegments settings) false
  maxAlternatives := Int32.ofInt settings.maxAlternatives
  contextPhrase := settings.contextPhrase

example : (askingFor {}).serviceSettings = "no-input-timeout=5000;speech-complete-timeout=2000;" ++
    "speech-incomplete-timeout=4000;recognition-timeout=10000" := by decide

/-- Up to the order of the config fields. -/
structure SameConfig (c c' : StreamingRecognitionConfig) : Prop where
  configFields : c.config.configFields.Perm c'.config.configFields
  rest : { c with config := { c.config with configFields := [] } } =
    { c' with config := { c'.config with configFields := [] } }

theorem serviceSettings_perm (settings : DictationSettings) :
    (readServiceSettingsOption (askingFor settings).serviceSettings).entries.Perm settings.timeoutsMap := by
  have hpairs : (timeoutSegments settings).filterMap Segment.pair? = settings.timeoutsMap := rfl
  rw [askingFor, ServiceSettings.readServiceSettingsOption_eq, ServiceSettings.filterMap_segments, hpairs]
  exact StdMap.insertAll_perm (m := .empty) (by simp [DictationSettings.timeoutsMap, StdMap.empty])

/-- The rate of the C++ client is that of the file's header. -/
theorem sameConfig {settings : DictationSettings} (hset : settings.Fits) {r : Nat} (hr : r < 2 ^ 31)
    {wav : WavData} (hwav : wav.header.samplesPerSec = UInt32.ofNat r) :
    ∃ c c' : StreamingRecognitionConfig,
      configRequest (streamingSession (createDictationSessionConfig (askingFor settings)) wav) =
        .streamingConfig c ∧
      PyConfig.buildConfigurationRequest r settings = .ok (.streamingConfig c') ∧ SameConfig c c' := by
  have hrate : FitsInt32 r := ⟨by omega, by omega⟩
  have hpy : PyConfig.buildConfigurationRequest r settings = .ok (.streamingConfig
      { config :=
          { encoding := .linear16
            sampleRateHertz := Int32.ofInt r
            languageCode := "pl-PL"
            maxAlternatives := Int32.ofInt settings.maxAlternatives
            speechContexts := if settings.contextPhrase ≠ "" then [{ phrases := [settings.contextPhrase] }]
              else []
            enableWordTimeOffsets := settings.timeOffsets
            configFields := settings.timeoutsMap.map fun entry => { key := entry.1, value := entry.2 } }
        singleUtterance := settings.singleUtterance
        interimResults := settings.interimResults }) := by
    rw [PyConfig.buildConfigurationRequest, PyConfig.buildRecognitionConfig, toInt32Field_of_fits hrate,
      toInt32Field_of_fits hset]
    rfl
  refine ⟨_, _, rfl, hpy, ?_, ?_⟩
  · rw [ServiceSettings.configFields_eq]
    exact (serviceSettings_perm settings).map _
  · have hrate' : wav.header.samplesPerSec.toInt32 = Int32.ofInt r := by
      rw [hwav, UInt32.toInt32_ofNat']; rfl
    have hphrase : (if settings.contextPhrase.isEmpty then [] else [⟨[settings.contextPhrase]⟩]) =
        if settings.contextPhrase ≠ "" then [SpeechContext.mk [settings.contextPhrase]] else [] := by
      by_cases h : settings.contextPhrase = "" <;> simp [h]
    simp only [StreamingRecognitionConfig.mk.injEq, RecognitionConfig.mk.injEq]
    exact ⟨⟨rfl, hrate', rfl, rfl, hphrase, rfl, trivial⟩, rfl, rfl⟩

/-! ## The calls -/

/-- mirrors cpp/libdictation-client/dictation_client.cpp:179-186 -/
def prepareContext (config : DictationSessionConfig) : CallOptions where
  timeout := if config.grpcTimeout > 0 then some config.grpcTimeout.toInt else none
  metadata := if config.sessionId.isEmpty then [] else [("session_id", config.sessionId)]

theorem sameOptions {settings : DictationSettings} (hg : FitsInt32 settings.grpcTimeout) (wav : WavData) :
    prepareContext (streamingSession (createDictationSessionConfig (askingFor settings)) wav) =
      callOptions settings := by
  have htoInt : (Int32.ofInt settings.grpcTimeout).toInt = settings.grpcTimeout :=
    Int32.toInt_ofInt_of_le hg.1 hg.2
  have hpos : Int32.ofInt settings.grpcTimeout > 0 ↔ settings.grpcTimeout > 0 := by
    rw [gt_iff_lt, Int32.lt_iff_toInt_lt, htoInt]; rfl
  simp only [prepareContext, callOptions, streamingSession, createDictationSessionConfig,
    askingFor, hpos, htoInt]
  by_cases h : settings.sessionId = "" <;> simp [h]

/-- The same requests, up to the order of the config fields. -/
inductive SameRequest : StreamingRecognizeRequest → StreamingRecognizeRequest → Prop
  | streamingConfig {c c'} (h : SameConfig c c') : SameRequest (.streamingConfig c) (.streamingConfig c')
  | audioContent (data) : SameRequest (.audioContent data) (.audioContent data)

theorem sameRequest_iff {c c' : StreamingRecognitionConfig} (h : SameConfig c c')
    {sent sent' : List Bytes} :
    List.Forall₂ SameRequest (.streamingConfig c :: sent.map .audioContent)
      (.streamingConfig c' :: sent'.map .audioContent) ↔ sent = sent' := by
  rw [List.forall₂_cons, List.forall₂_map_left_iff, List.forall₂_map_right_iff, ← List.forall₂_eq_eq_eq]
  refine ⟨fun hr => hr.2.imp fun _ _ hd => ?_, fun hr => ⟨.streamingConfig h, hr.imp fun _ _ hd => ?_⟩⟩
  · cases hd; rfl
  · rw [hd]; exact .audioContent _

/-- What the iterator returns, and no more. -/
def Draws (st : AudioStream) (delay : Int) (settings : DictationSettings)
    (requests : List StreamingRecognizeRequest) : Prop :=
  ∀ n, RequestIterator.trace (RequestIterator.new st.enter delay settings) (List.replicate n .next) =
    RequestIterator.replies requests n

theorem draws_chunks {st : AudioStream} {delay : Int} (hd : 0 ≤ delay) {settings : DictationSettings}
    {c : StreamingRecognitionConfig}
    (hcfg : PyConfig.buildConfigurationRequest st.frameRate settings = .ok (.streamingConfig c))
    (hs : 0 < st.frameSamplesSize) :
    Draws st delay settings
      (.streamingConfig c :: (chunks st.frameSamplesSize.toNat st.audio).map .audioContent) := by
  have hsize : 0 < st.frameSamplesSize.toNat := by omega
  refine RequestIterator.trace_calls_cons (RequestIterator.next_initial hcfg rfl) ?_
  exact RequestIterator.trace_calls_frames hsize st.audio _ rfl rfl (.inl hd) ⟨hs, Int.le_refl 0⟩
    (Int.toNat_of_nonneg (Int.le_of_lt hs)).symm rfl

/-- The header of 16-bit mono audio with `r` samples per second, as far as it is used. -/
structure HasRate (wav : WavData) (r : Nat) : Prop where
  samplesPerSec : wav.header.samplesPerSec = UInt32.ofNat r
  bytesPerSec : wav.header.bytesPerSec = UInt32.ofNat (2 * r)

/-- The two sequences of requests, for the stream the Python client opens. -/
theorem sameRequests_iff {settings : DictationSettings} (hset : settings.Fits) {r : Nat} (hr : 1000 ≤ r)
    (hr' : 40 * r < 2 ^ 32) {wav : WavData} (hwav : HasRate wav r) (hlen : wav.audioBytes.length < 2 ^ 31)
    {st : AudioStream} (haudio : st.audio = wav.audioBytes) (hrate : st.frameRate = r)
    (hs : st.frameSamplesSize = (r : Int) / 1000 * 20 * 2) {delay : Int} (hd : 0 ≤ delay) :
    ∃ requests requests', Builds (streamingSession (createDictationSessionConfig (askingFor settings)) wav)
        wav.audioBytes (.ok requests) ∧
      Draws st delay settings requests' ∧
      (List.Forall₂ SameRequest requests requests' ↔
        r % 1000 < 25 ∨ wav.audioBytes.length ≤ 40 * (r / 1000)) := by
  obtain ⟨c, c', hc, hc', hsame⟩ := sameConfig hset (show r < 2 ^ 31 by omega) hwav.samplesPerSec
  have hbytes : (streamingSession (createDictationSessionConfig (askingFor settings)) wav).bytesPerSec =
      UInt32.ofNat (2 * r) := hwav.bytesPerSec
  generalize streamingSession (createDictationSessionConfig (askingFor settings)) wav = config at *
  have hsize := SameFrames.toNat_frameSize hr'
  have hf : frameSize config.bytesPerSec ≠ 0 := by
    intro h0
    rw [← hbytes, h0] at hsize
    have : (0 : UInt32).toNat = 0 := rfl
    omega
  have hbuilds := buildStreamingRequest_returns hf (show wav.audioBytes.length < 2 ^ 63 by omega)
  rw [SameFrames.payloads_eq_chunks hf hlen, hbytes, hsize, hc] at hbuilds
  have hsamples : st.frameSamplesSize.toNat = 40 * (r / 1000) := by omega
  have hdraws := draws_chunks hd (hrate ▸ hc') (show 0 < st.frameSamplesSize by omega)
  rw [hsamples, haudio] at hdraws
  refine ⟨_, _, hbuilds, hdraws, ?_⟩
  rw [sameRequest_iff hsame, chunks_eq_iff (by omega) (by omega)]
  omega

end DictationClient.L4
