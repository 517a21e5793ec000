import DictationClient.L4App.StreamingRecognizer

/-!
# The synchronous call of the Python client

`SyncRecognizer.recognize` sends the whole audio in one request and assembles
the entries of `response.results[0]` as the streaming call does for a final
result. The response may have any number of results, "corresponding to
sequential portions of audio" (proto/dictation_asr.proto:411-418); the others
are dropped, and none at all raises.

* `recognize_answering`: what it returns from a service that answers.
* `sync_agrees_iff`: when it returns what the streaming call returns for the
  same portions.
-/
namespace DictationClient.L4

open DictationClient.Api DictationClient.L3.PyConfig

/-- What `AudioLoader` hands out.
mirrors python/utils/audio_loader.py:42-52 -/
structure AudioLoader where
  samplingRateHz : Int
  audioData : Bytes
  deriving DecidableEq, Repr

section Sync
variable {F : Type} [One F] [LT F] [DecidableLT F]

/-- The call has neither a timeout nor metadata.
mirrors python/service/sync_recognizer.py:20-77 -/
def SyncRecognizer.recognize
    (service : CallOptions → RecognizeRequest → Except PyErr (RecognizeResponse F))
    (settings : DictationSettings) (audio : AudioLoader) : Except PyErr (List (Entry F)) := do
  let config ← buildRecognitionConfig audio.samplingRateHz settings
  let response ← service {} { config, audio := { content := audio.audioData } }
  match response.results with
  | [] => throw (.indexError "list index out of range")
  | recognition :: _ =>
    return (taken settings recognition.alternatives).map (singleResult settings.timeOffsets)

/-- A service that answers with the portions, whatever it is asked. -/
def answering (portions : List (SpeechRecognitionResult F)) :
    CallOptions → RecognizeRequest → Except PyErr (RecognizeResponse F) :=
  fun _ _ => .ok { results := portions }

/-- The response that streams a portion as its only, final result. -/
def finalResponse (portion : SpeechRecognitionResult F) : StreamingRecognizeResponse F :=
  { error := none
    results := [{ alternatives := portion.alternatives, isFinal := true }]
    speechEventType := speechEventUnspecified }

/-- The entries of a portion. -/
def portionEntries (settings : DictationSettings) (portion : SpeechRecognitionResult F) :
    List (Entry F) :=
  (taken settings portion.alternatives).map (singleResult settings.timeOffsets)

theorem entriesOf_finalResponse (settings : DictationSettings) (portion : SpeechRecognitionResult F) :
    entriesOf settings (finalResponse portion) = portionEntries settings portion := by
  unfold entriesOf finalResponse portionEntries
  rw [if_pos ⟨rfl, rfl⟩]
  rfl

/-- Streamed one by one, all portions are returned. -/
theorem streaming_finalResponses (settings : DictationSettings)
    (portions : List (SpeechRecognitionResult F)) :
    recognizeAudioContent (fun _ => portions.map finalResponse) settings =
      .ok (portions.flatMap (portionEntries settings)) := by
  have hnone : (portions.map finalResponse).find? unnamedEvent = none := by
    rw [List.find?_eq_none]
    intro r hr
    obtain ⟨p, -, rfl⟩ := List.mem_map.mp hr
    simp [unnamedEvent, finalResponse]
  rw [recognizeAudioContent_eq, hnone, List.flatMap_map]
  simp only [entriesOf_finalResponse]

/-- The synchronous call returns the first portion. -/
theorem recognize_answering {settings : DictationSettings} {audio : AudioLoader}
    (hr : FitsInt32 audio.samplingRateHz) (hs : settings.Fits)
    (portions : List (SpeechRecognitionResult F)) :
    SyncRecognizer.recognize (answering portions) settings audio =
      match portions with
      | [] => .error (.indexError "list index out of range")
      | p :: _ => .ok (portionEntries settings p) := by
  obtain ⟨config, hc, -⟩ := buildRecognitionConfig_of_fits hr hs
  unfold SyncRecognizer.recognize answering
  rw [hc]
  cases portions with
  | nil => rfl
  | cons p ps => rfl

/-- Nothing is sent when the request cannot be built. -/
theorem recognize_of_error {settings : DictationSettings} {audio : AudioLoader} {e : PyErr}
    (h : buildRecognitionConfig audio.samplingRateHz settings = .error e)
    (service : CallOptions → RecognizeRequest → Except PyErr (RecognizeResponse F)) :
    SyncRecognizer.recognize service settings audio = .error e := by
  unfold SyncRecognizer.recognize
  rw [h]
  rfl

theorem recognize_of_not_fits {settings : DictationSettings} {audio : AudioLoader}
    (h : ¬ (FitsInt32 audio.samplingRateHz ∧ settings.Fits))
    (service : CallOptions → RecognizeRequest → Except PyErr (RecognizeResponse F)) :
    ∃ msg, SyncRecognizer.recognize service settings audio = .error (.valueError msg) := by
  obtain ⟨msg, hm⟩ := buildRecognitionConfig_of_not_fits h
  exact ⟨msg, recognize_of_error hm service⟩

theorem portionEntries_eq_nil_iff {settings : DictationSettings} {portion : SpeechRecognitionResult F} :
    portionEntries settings portion = [] ↔ settings.maxAlternatives ≤ 0 ∨ portion.alternatives = [] := by
  unfold portionEntries
  rw [List.map_eq_nil_iff]
  exact taken_eq_nil_iff

/-- Portions behind the first one contribute nothing. -/
theorem portions_add_nothing_iff {settings : DictationSettings} {es : List (Entry F)}
    {portions : List (SpeechRecognitionResult F)} :
    es ++ portions.flatMap (portionEntries settings) = es ↔
      settings.maxAlternatives ≤ 0 ∨ ∀ q ∈ portions, q.alternatives = [] := by
  rw [List.append_right_eq_self, List.flatMap_eq_nil_iff]
  refine ⟨fun h => ?_, fun h q hq => ?_⟩
  · by_cases hm : settings.maxAlternatives ≤ 0
    · exact .inl hm
    · exact .inr fun q hq => (portionEntries_eq_nil_iff.mp (h q hq)).resolve_left hm
  · exact portionEntries_eq_nil_iff.mpr (h.imp_right fun h => h q hq)

/-- **When the two calls agree.** Both return, and the same entries, exactly when
the request can be built, there is a first portion, and the portions behind it
contribute nothing. -/
theorem sync_agrees_iff (settings : DictationSettings) (audio : AudioLoader)
    (portions : List (SpeechRecognitionResult F)) :
    (∃ es, SyncRecognizer.recognize (answering portions) settings audio = .ok es ∧
      recognizeAudioContent (fun _ => portions.map finalResponse) settings = .ok es) ↔
    (FitsInt32 audio.samplingRateHz ∧ settings.Fits) ∧ ∃ p ps, portions = p :: ps ∧
      (settings.maxAlternatives ≤ 0 ∨ ∀ q ∈ ps, q.alternatives = []) := by
  by_cases hfits : FitsInt32 audio.samplingRateHz ∧ settings.Fits
  · rw [streaming_finalResponses, recognize_answering hfits.1 hfits.2]
    cases portions with
    | nil => simp
    | cons p ps =>
      simp only [hfits, true_and, List.flatMap_cons, Except.ok.injEq, exists_eq_left', List.cons.injEq]
      rw [portions_add_nothing_iff]
      refine ⟨fun h => ⟨p, ps, ⟨rfl, rfl⟩, h⟩, fun ⟨p', ps', ⟨hp, hps⟩, h⟩ => ?_⟩
      rw [hps]; exact h
  · obtain ⟨msg, hm⟩ := recognize_of_not_fits (F := F) hfits (answering portions)
    rw [hm]
    simp [hfits]

end Sync

/-- Two portions of one alternative each, as confidences of 0 or 1. -/
def twoPortions : List (SpeechRecognitionResult Nat) :=
  [{ alternatives := [{ transcript := "to be", confidence := 1, words := [] }] },
   { alternatives := [{ transcript := "or not", confidence := 1, words := [] }] }]

def twoBytes : AudioLoader := { samplingRateHz := 16000, audioData := [1, 2] }

/-- The second portion is lost, and a response without results raises. -/
theorem sync_disagrees :
    (¬ ∃ es, SyncRecognizer.recognize (answering twoPortions) {} twoBytes = .ok es ∧
      recognizeAudioContent (fun _ => twoPortions.map finalResponse) {} = .ok es) ∧
    (¬ ∃ es, SyncRecognizer.recognize (F := Nat) (answering []) {} twoBytes = .ok es) := by
  have hsync : SyncRecognizer.recognize (answering twoPortions) {} twoBytes =
      .ok [{ transcript := "to be", alignment := [[]], confidence := 1 }] := rfl
  have hstream : recognizeAudioContent (fun _ => twoPortions.map finalResponse) {} =
      .ok [{ transcript := "to be", alignment := [[]], confidence := 1 },
        { transcript := "or not", alignment := [[]], confidence := 1 }] := rfl
  have hnone : SyncRecognizer.recognize (F := Nat) (answering []) {} twoBytes =
      .error (.indexError "list index out of range") := rfl
  refine ⟨fun ⟨es, h1, h2⟩ => ?_, fun ⟨es, h⟩ => ?_⟩
  · rw [hsync] at h1
    rw [hstream] at h2
    cases h1; cases h2
  · rw [hnone] at h
    cases h

end DictationClient.L4
