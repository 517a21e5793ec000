import DictationClient.Api
import DictationClient.Core.Py

/-!
# Configuration requests of the Python client

`DictationSettings` hands out the command line arguments; the recognizers build
their requests from them. The assignment of an `int` to an `int32` field is the
only thing that can go wrong (`toInt32Field`).

* `buildRecognitionConfig_of_fits`, `buildConfigurationRequest_of_fits`: a request
  is built, with the given rate, when the rate and the number of alternatives
  fit; `…_of_not_fits`: otherwise a `ValueError` is raised.
-/
namespace DictationClient.L3.PyConfig

open DictationClient.Api

/-- mirrors python/service/dictation_settings.py:1-35, defaults of
python/dictation_client.py:53-82 -/
structure DictationSettings where
  sessionId : String := ""
  grpcTimeout : Int := 0
  maxAlternatives : Int := 1
  timeOffsets : Bool := false
  singleUtterance : Bool := false
  interimResults : Bool := false
  contextPhrase : String := ""
  noInputTimeout : Int := 5000
  speechCompleteTimeout : Int := 2000
  speechIncompleteTimeout : Int := 4000
  recognitionTimeout : Int := 10000
  deriving DecidableEq, Repr

/-- In the order of the dictionary.
mirrors python/service/dictation_settings.py:26-32 -/
def DictationSettings.timeoutsMap (settings : DictationSettings) : List (String × String) :=
  [("no-input-timeout", toString settings.noInputTimeout),
   ("speech-complete-timeout", toString settings.speechCompleteTimeout),
   ("speech-incomplete-timeout", toString settings.speechIncompleteTimeout),
   ("recognition-timeout", toString settings.recognitionTimeout)]

/-- mirrors python/utils/service_utils.py:40-54 -/
def buildRecognitionConfig (samplingRate : Int) (settings : DictationSettings) :
    Except PyErr RecognitionConfig := do
  let sampleRateHertz ← toInt32Field samplingRate
  let maxAlternatives ← toInt32Field settings.maxAlternatives
  return { encoding := .linear16
           sampleRateHertz := sampleRateHertz
           languageCode := "pl-PL"
           maxAlternatives := maxAlternatives
           speechContexts := if settings.contextPhrase ≠ "" then [{ phrases := [settings.contextPhrase] }]
             else []
           enableWordTimeOffsets := settings.timeOffsets
           configFields := [] }

/-- The config a streaming call opens with.
mirrors python/service/streaming_recognizer.py:131-148 -/
def buildConfigurationRequest (samplingRate : Int) (settings : DictationSettings) :
    Except PyErr StreamingRecognizeRequest := do
  let config ← buildRecognitionConfig samplingRate settings
  let timeouts := settings.timeoutsMap.map fun (key, value) => { key := key, value := value : ConfigField }
  return .streamingConfig
    { config := { config with configFields := config.configFields ++ timeouts }
      singleUtterance := settings.singleUtterance
      interimResults := settings.interimResults }

/-- The values of the settings that go into `int32` fields are in range. -/
def DictationSettings.Fits (settings : DictationSettings) : Prop := FitsInt32 settings.maxAlternatives

instance (settings : DictationSettings) : Decidable settings.Fits :=
  inferInstanceAs (Decidable (FitsInt32 _))

theorem buildRecognitionConfig_of_fits {samplingRate : Int} {settings : DictationSettings}
    (hr : FitsInt32 samplingRate) (hs : settings.Fits) :
    ∃ config, buildRecognitionConfig samplingRate settings = .ok config ∧
      config.sampleRateHertz.toInt = samplingRate := by
  unfold buildRecognitionConfig
  rw [toInt32Field_of_fits hr, toInt32Field_of_fits hs]
  refine ⟨_, rfl, ?_⟩
  exact Int32.toInt_ofInt_of_le hr.1 hr.2

/-- The timeouts are left to the caller. -/
theorem configFields_of_buildRecognitionConfig {samplingRate : Int} {settings : DictationSettings}
    {config : RecognitionConfig} (h : buildRecognitionConfig samplingRate settings = .ok config) :
    config.configFields = [] := by
  unfold buildRecognitionConfig at h
  cases hr : toInt32Field samplingRate with
  | error e => rw [hr] at h; cases h
  | ok sampleRateHertz =>
    rw [hr] at h
    cases hm : toInt32Field settings.maxAlternatives with
    | error e => rw [hm] at h; cases h
    | ok maxAlternatives => rw [hm] at h; cases h; rfl

theorem buildRecognitionConfig_of_not_fits {samplingRate : Int} {settings : DictationSettings}
    (h : ¬ (FitsInt32 samplingRate ∧ settings.Fits)) :
    ∃ msg, buildRecognitionConfig samplingRate settings = .error (.valueError msg) := by
  unfold buildRecognitionConfig
  by_cases hr : FitsInt32 samplingRate
  · rw [toInt32Field_of_fits hr, toInt32Field_of_not_fits fun hs => h ⟨hr, hs⟩]
    exact ⟨_, rfl⟩
  · rw [toInt32Field_of_not_fits hr]
    exact ⟨_, rfl⟩

/-- The error is that of the first value that does not fit. -/
theorem buildRecognitionConfig_eq_error_iff {samplingRate : Int} {settings : DictationSettings}
    {e : PyErr} : buildRecognitionConfig samplingRate settings = .error e ↔
      toInt32Field samplingRate = .error e ∨
        (FitsInt32 samplingRate ∧ toInt32Field settings.maxAlternatives = .error e) := by
  unfold buildRecognitionConfig
  by_cases hr : FitsInt32 samplingRate
  · rw [toInt32Field_of_fits hr]
    cases toInt32Field settings.maxAlternatives with
    | ok n => simp [bind, Except.bind, pure, Except.pure]
    | error e' => simp [bind, Except.bind, hr]
  · rw [toInt32Field_of_not_fits hr]
    simp [bind, Except.bind, hr]

theorem buildConfigurationRequest_of_fits {samplingRate : Int} {settings : DictationSettings}
    (hr : FitsInt32 samplingRate) (hs : settings.Fits) :
    ∃ c, buildConfigurationRequest samplingRate settings = .ok (.streamingConfig c) ∧
      c.config.sampleRateHertz.toInt = samplingRate := by
  obtain ⟨config, hc, hrate⟩ := buildRecognitionConfig_of_fits hr hs
  unfold buildConfigurationRequest
  rw [hc]
  exact ⟨_, rfl, hrate⟩

theorem buildConfigurationRequest_of_not_fits {samplingRate : Int} {settings : DictationSettings}
    (h : ¬ (FitsInt32 samplingRate ∧ settings.Fits)) :
    ∃ msg, buildConfigurationRequest samplingRate settings = .error (.valueError msg) := by
  obtain ⟨msg, hm⟩ := buildRecognitionConfig_of_not_fits h
  unfold buildConfigurationRequest
  rw [hm]
  exact ⟨msg, rfl⟩

end DictationClient.L3.PyConfig
