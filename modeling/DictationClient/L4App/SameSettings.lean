import DictationClient.L3Protocol.RequestIterator
import DictationClient.L4App.SyncRecognizer

/-!
# The settings in the two calls of the Python client

The command line offers the same settings with and without `--sync`. A streaming
call carries the session id as metadata, the gRPC timeout as its deadline, and
the four timeouts of the recognizer as config fields of its first request. The
synchronous call is made without metadata and deadline, and nothing adds the
config fields: `build_recognition_config` leaves them to its caller.

* `recognize_eq_call` (of both recognizers): what the service is called with.
* `settings_dropped`: the two calls compared, setting by setting.
* `honoursSettings_iff`: the calls carry the same settings only where no
  synchronous call is made.
-/
namespace DictationClient.L4

open DictationClient.Api DictationClient.L2 DictationClient.L3 DictationClient.L3.PyConfig

/-! ## The calls -/

/-- What `Recognize` is called with.
mirrors python/service/sync_recognizer.py:26-34 -/
def SyncRecognizer.call (settings : DictationSettings) (audio : AudioLoader) :
    Except PyErr (CallOptions × RecognizeRequest) := do
  let config ← buildRecognitionConfig audio.samplingRateHz settings
  return ({}, { config, audio := { content := audio.audioData } })

/-- What `StreamingRecognize` is called with: the options, and the iterator that
it draws the requests from.
mirrors python/service/streaming_recognizer.py:56-72 -/
def StreamingRecognizer.call (settings : DictationSettings) (audio : AudioStream) (delay : Int) :
    CallOptions × RequestIterator :=
  (callOptions settings, RequestIterator.new audio delay settings)

section Calls
variable {F : Type} [One F] [LT F] [DecidableLT F]

/-- mirrors python/service/streaming_recognizer.py:56-59 -/
def StreamingRecognizer.recognize
    (service : CallOptions → RequestIterator → List (StreamingRecognizeResponse F))
    (settings : DictationSettings) (audio : AudioStream) (delay : Int) :
    Except PyErr (List (Entry F)) :=
  let requestsIterator := RequestIterator.new audio delay settings
  recognizeAudioContent (fun options => service options requestsIterator) settings

theorem SyncRecognizer.recognize_eq_call
    (service : CallOptions → RecognizeRequest → Except PyErr (RecognizeResponse F))
    (settings : DictationSettings) (audio : AudioLoader) :
    SyncRecognizer.recognize service settings audio = (do
      let (options, request) ← SyncRecognizer.call settings audio
      SyncRecognizer.recognize (fun _ _ => service options request) settings audio) := by
  unfold SyncRecognizer.call SyncRecognizer.recognize
  cases buildRecognitionConfig audio.samplingRateHz settings with
  | error e => rfl
  | ok config => rfl

theorem StreamingRecognizer.recognize_eq_call
    (service : CallOptions → RequestIterator → List (StreamingRecognizeResponse F))
    (settings : DictationSettings) (audio : AudioStream) (delay : Int) :
    StreamingRecognizer.recognize service settings audio delay =
      let (options, requests) := StreamingRecognizer.call settings audio delay
      recognizeAudioContent (fun _ => service options requests) settings := rfl

end Calls

/-! ## Setting by setting -/

/-- A synchronous and a streaming call carry the same settings. -/
structure SameSettings (options : CallOptions) (request : RecognizeRequest) (options' : CallOptions)
    (first : StreamingRecognitionConfig) : Prop where
  config : request.config = first.config
  metadata : options.metadata = options'.metadata
  timeout : options.timeout = options'.timeout

/-- The synchronous call, if it is made, carries what the streaming call carries
in its options and its first request. -/
def HonoursSettings (settings : DictationSettings) (audio : AudioLoader) (stream : AudioStream)
    (delay : Int) : Prop :=
  ∀ options request, SyncRecognizer.call settings audio = .ok (options, request) →
    ∃ first, (StreamingRecognizer.call settings stream delay).2.next.1 = .ok (.streamingConfig first) ∧
      SameSettings options request (StreamingRecognizer.call settings stream delay).1 first

/-- The config fields of the streaming call. -/
def timeoutFields (settings : DictationSettings) : List ConfigField :=
  settings.timeoutsMap.map fun (key, value) => { key := key, value := value }

/-- **What the synchronous call drops**: the config fields always, the session id
and the timeout unless they are not set. The rest of the config is the same. -/
structure Dropped (settings : DictationSettings) (options : CallOptions) (request : RecognizeRequest)
    (options' : CallOptions) (first : StreamingRecognitionConfig) : Prop where
  fields : first.config = { request.config with configFields := timeoutFields settings }
  noFields : request.config.configFields = []
  metadata : options.metadata = options'.metadata ↔ settings.sessionId = ""
  timeout : options.timeout = options'.timeout ↔ settings.grpcTimeout ≤ 0

/-- What a streaming call opens with. -/
def opening (settings : DictationSettings) (config : RecognitionConfig) : StreamingRecognitionConfig where
  config := { config with configFields := config.configFields ++ timeoutFields settings }
  singleUtterance := settings.singleUtterance
  interimResults := settings.interimResults

theorem first_request {settings : DictationSettings} {stream : AudioStream} {config : RecognitionConfig}
    (h : buildRecognitionConfig stream.frameRate settings = .ok config) (delay : Int) :
    (StreamingRecognizer.call settings stream delay).2.next.1 =
      .ok (.streamingConfig (opening settings config)) := by
  have hreq : buildConfigurationRequest stream.frameRate settings =
      .ok (.streamingConfig (opening settings config)) := by
    unfold buildConfigurationRequest
    rw [h]; rfl
  exact congrArg Prod.fst (RequestIterator.next_initial (c := opening settings config) hreq rfl)

theorem metadata_callOptions {settings : DictationSettings} :
    (callOptions settings).metadata = [] ↔ settings.sessionId = "" := by
  unfold callOptions
  by_cases h : settings.sessionId = ""
  · simp [h]
  · simp [h]

theorem timeout_callOptions {settings : DictationSettings} :
    (callOptions settings).timeout = none ↔ settings.grpcTimeout ≤ 0 := by
  unfold callOptions
  by_cases h : settings.grpcTimeout > 0
  · simp [h]
  · simp [h]; omega

/-- **Setting by setting.** Where the synchronous call is made, so is the
streaming call, and this is what is missing. -/
theorem settings_dropped {settings : DictationSettings} {audio : AudioLoader} {stream : AudioStream}
    (delay : Int) (hrate : stream.frameRate = audio.samplingRateHz) {options : CallOptions}
    {request : RecognizeRequest} (h : SyncRecognizer.call settings audio = .ok (options, request)) :
    ∃ first, (StreamingRecognizer.call settings stream delay).2.next.1 = .ok (.streamingConfig first) ∧
      Dropped settings options request (StreamingRecognizer.call settings stream delay).1 first := by
  unfold SyncRecognizer.call at h
  cases hconfig : buildRecognitionConfig audio.samplingRateHz settings with
  | error e => rw [hconfig] at h; cases h
  | ok config =>
    rw [hconfig] at h
    cases h
    have hnone := configFields_of_buildRecognitionConfig hconfig
    refine ⟨opening settings config, first_request (hrate ▸ hconfig) delay, ?_⟩
    refine ⟨?_, hnone, eq_comm.trans metadata_callOptions, eq_comm.trans timeout_callOptions⟩
    simp only [opening, hnone, List.nil_append]

/-- There are always timeouts to be sent. -/
theorem timeoutFields_ne_nil (settings : DictationSettings) : timeoutFields settings ≠ [] := by
  simp [timeoutFields, DictationSettings.timeoutsMap]

theorem Dropped.not_same {settings : DictationSettings} {options options' : CallOptions}
    {request : RecognizeRequest} {first : StreamingRecognitionConfig}
    (h : Dropped settings options request options' first) :
    ¬ SameSettings options request options' first := by
  intro hsame
  have hfields := congrArg RecognitionConfig.configFields (hsame.config.trans h.fields)
  rw [h.noFields] at hfields
  exact timeoutFields_ne_nil settings hfields.symm

/-- **When the synchronous call honours the settings**: only where it is not made,
because the rate or the number of alternatives does not fit its field. -/
theorem honoursSettings_iff (settings : DictationSettings) (audio : AudioLoader) (stream : AudioStream)
    (delay : Int) (hrate : stream.frameRate = audio.samplingRateHz) :
    HonoursSettings settings audio stream delay ↔ ¬ (FitsInt32 audio.samplingRateHz ∧ settings.Fits) := by
  refine ⟨fun h hfits => ?_, fun hfits options request hcall => ?_⟩
  · obtain ⟨config, hconfig, -⟩ := buildRecognitionConfig_of_fits hfits.1 hfits.2
    have hcall : SyncRecognizer.call settings audio =
        .ok ({}, { config, audio := { content := audio.audioData } }) := by
      unfold SyncRecognizer.call
      rw [hconfig]; rfl
    obtain ⟨first, hfirst, hsame⟩ := h _ _ hcall
    obtain ⟨first', hfirst', hdropped⟩ := settings_dropped delay hrate hcall
    rw [hfirst] at hfirst'
    cases hfirst'
    exact hdropped.not_same hsame
  · obtain ⟨msg, hm⟩ := buildRecognitionConfig_of_not_fits hfits
    unfold SyncRecognizer.call at hcall
    rw [hm] at hcall
    cases hcall

/-- Two bytes at 16 kHz, as a stream. -/
def twoBytesStream : AudioStream :=
  { audioPath := "a.wav", audio := [1, 2], frameRate := 16000, frameSamplesSize := 640, dataIndex := 0 }

/-- A session id, a deadline of a second, a context and the default timeouts. -/
def traced : DictationSettings := { sessionId := "s1", grpcTimeout := 1000, contextPhrase := "names" }

/-- With one alternative the synchronous call is made, with `2^31` it is not. -/
theorem honoursSettings_iff_at : ¬ HonoursSettings traced twoBytes twoBytesStream 20 ∧
    HonoursSettings { traced with maxAlternatives := 2 ^ 31 } twoBytes twoBytesStream 20 := by
  constructor
  · rw [honoursSettings_iff traced twoBytes twoBytesStream 20 rfl]
    decide
  · rw [honoursSettings_iff { traced with maxAlternatives := 2 ^ 31 } twoBytes twoBytesStream 20 rfl]
    decide

/-- All of them are missing from the synchronous call. -/
theorem sync_drops_settings : ¬ ∀ (settings : DictationSettings) (audio : AudioLoader)
    (stream : AudioStream) (delay : Int), stream.frameRate = audio.samplingRateHz →
      HonoursSettings settings audio stream delay := by
  intro h
  have hcall : SyncRecognizer.call traced twoBytes = .ok ({},
      { config := { encoding := .linear16, sampleRateHertz := 16000, languageCode := "pl-PL",
                    maxAlternatives := 1, speechContexts := [{ phrases := ["names"] }],
                    enableWordTimeOffsets := false,
                    configFields := [] },
        audio := { content := [1, 2] } }) := rfl
  obtain ⟨first, -, hsame⟩ := h traced twoBytes twoBytesStream 20 rfl _ _ hcall
  have hoptions : (StreamingRecognizer.call traced twoBytesStream 20).1 =
      { timeout := some 1000, metadata := [("session_id", "s1")] } := rfl
  have hmetadata := hsame.metadata
  rw [hoptions] at hmetadata
  cases hmetadata

end DictationClient.L4
