import DictationClient.L4App.FinalResults
import DictationClient.L4App.SyncRecognizer

/-!
# Transcripts with and without time offsets

With time offsets on, both recognizers rebuild the text of an alternative from
its words; with time offsets off they copy its `transcript`. "If `true`, the top
result includes a list of words" (proto/dictation_asr.proto:281-285): the other
alternatives may come without words, and then their text is lost.

* `offsets_keep_transcripts_iff`: when the two settings give the same transcripts.
-/
namespace DictationClient.L4

open DictationClient.Api DictationClient.L3.PyConfig

variable {F : Type}

/-- The words are missing, or they make up the transcript. -/
def Consistent (alternative : SpeechRecognitionAlternative F) : Prop :=
  alternative.words = [] ∨
    String.intercalate " " ((spoken alternative.words).map WordInfo.word) = alternative.transcript

instance (alternative : SpeechRecognitionAlternative F) : Decidable (Consistent alternative) :=
  inferInstanceAs (Decidable (_ ∨ _))

/-- The `transcript` values returned. -/
def transcripts (result : Except PyErr (List (Entry F))) : Except PyErr (List String) :=
  result.map fun entries => entries.map Entry.transcript

def withOffsets (settings : DictationSettings) (timeOffsets : Bool) : DictationSettings :=
  { settings with timeOffsets }

section Offsets
variable [LinearOrder F] [One F]

/-- Switching time offsets on changes no transcript, in either recognizer. -/
structure OffsetsKeepTranscripts (settings : DictationSettings) (audio : AudioLoader)
    (portions : List (SpeechRecognitionResult F)) : Prop where
  streaming :
    transcripts (recognizeAudioContent (fun _ => portions.map finalResponse) (withOffsets settings true)) =
      transcripts (recognizeAudioContent (fun _ => portions.map finalResponse) (withOffsets settings false))
  sync :
    transcripts (SyncRecognizer.recognize (answering portions) (withOffsets settings true) audio) =
      transcripts (SyncRecognizer.recognize (answering portions) (withOffsets settings false) audio)

/-- An alternative without words has no text to lose. -/
def KeepsText (alternative : SpeechRecognitionAlternative F) : Prop :=
  alternative.words = [] → alternative.transcript = ""

omit [LinearOrder F] [One F] in
/-- For a consistent alternative, the rebuilt text is the transcript exactly when
there are words or no text. -/
theorem rebuilt_eq_transcript_iff {alternative : SpeechRecognitionAlternative F}
    (h : Consistent alternative) :
    String.intercalate " " ((spoken alternative.words).map WordInfo.word) = alternative.transcript ↔
      KeepsText alternative := by
  refine ⟨fun he hnil => ?_, fun hk => ?_⟩
  · rw [← he, hnil]
    rfl
  · rcases h with hnil | he
    · rw [hk hnil, hnil]; rfl
    · exact he

/-- The transcripts of a portion. -/
theorem transcripts_portionEntries (settings : DictationSettings) (timeOffsets : Bool)
    (portion : SpeechRecognitionResult F) :
    (portionEntries (withOffsets settings timeOffsets) portion).map Entry.transcript =
      (taken settings portion.alternatives).map fun a => (finalEntry timeOffsets a).transcript := by
  rw [portionEntries, List.map_map]
  apply List.map_congr_left
  intro a _
  exact congrArg Entry.transcript (singleResult_eq timeOffsets a)

/-- Over one list of consistent alternatives the two settings agree exactly when
no alternative loses its text. -/
theorem map_transcript_eq_iff {alternatives : List (SpeechRecognitionAlternative F)}
    (h : ∀ a ∈ alternatives, Consistent a) :
    (alternatives.map fun a => (finalEntry true a).transcript) =
        (alternatives.map fun a => (finalEntry false a).transcript) ↔
      ∀ a ∈ alternatives, KeepsText a := by
  rw [List.map_inj_left]
  exact forall₂_congr fun a ha => rebuilt_eq_transcript_iff (h a ha)

/-- Time offsets do not decide whether the request can be built. -/
theorem recognize_withOffsets_of_not_fits {settings : DictationSettings} {audio : AudioLoader}
    (h : ¬ (FitsInt32 audio.samplingRateHz ∧ settings.Fits)) :
    ∃ e, ∀ (timeOffsets : Bool)
      (service : CallOptions → RecognizeRequest → Except PyErr (RecognizeResponse F)),
      SyncRecognizer.recognize service (withOffsets settings timeOffsets) audio = .error e := by
  obtain ⟨msg, hm⟩ := buildRecognitionConfig_of_not_fits h
  refine ⟨.valueError msg, fun timeOffsets service => ?_⟩
  apply recognize_of_error
  rw [buildRecognitionConfig_eq_error_iff] at hm ⊢
  exact hm

/-- The streaming call returns the text of all portions. -/
theorem transcripts_streaming (settings : DictationSettings) (timeOffsets : Bool)
    (portions : List (SpeechRecognitionResult F)) :
    transcripts (recognizeAudioContent (fun _ => portions.map finalResponse)
        (withOffsets settings timeOffsets)) =
      .ok ((portions.flatMap fun p => taken settings p.alternatives).map fun a =>
        (finalEntry timeOffsets a).transcript) := by
  rw [streaming_finalResponses, transcripts, Except.map, List.map_flatMap, List.map_flatMap]
  simp only [transcripts_portionEntries]

/-- The synchronous call returns the text of the first portion. -/
theorem transcripts_sync {settings : DictationSettings} {audio : AudioLoader}
    (hr : FitsInt32 audio.samplingRateHz) (hs : settings.Fits) (timeOffsets : Bool)
    (portions : List (SpeechRecognitionResult F)) :
    transcripts (SyncRecognizer.recognize (answering portions) (withOffsets settings timeOffsets) audio) =
      match portions with
      | [] => .error (.indexError "list index out of range")
      | p :: _ =>
        .ok ((taken settings p.alternatives).map fun a => (finalEntry timeOffsets a).transcript) := by
  have hs' : (withOffsets settings timeOffsets).Fits := hs
  rw [recognize_answering hr hs']
  cases portions with
  | nil => rfl
  | cons p ps => exact congrArg Except.ok (transcripts_portionEntries settings timeOffsets p)

/-- **When time offsets change no transcript.** For results whose word lists are
missing or make up the transcript: exactly when no alternative that is returned
has a text but no words. -/
theorem offsets_keep_transcripts_iff (settings : DictationSettings) (audio : AudioLoader)
    (portions : List (SpeechRecognitionResult F))
    (hc : ∀ p ∈ portions, ∀ a ∈ p.alternatives, Consistent a) :
    OffsetsKeepTranscripts settings audio portions ↔
      ∀ p ∈ portions, ∀ a ∈ taken settings p.alternatives, KeepsText a := by
  have hc' : ∀ p ∈ portions, ∀ a ∈ taken settings p.alternatives, Consistent a :=
    fun p hp a ha => hc p hp a (List.mem_of_mem_take ha)
  have hstream : transcripts (recognizeAudioContent (fun _ => portions.map finalResponse)
        (withOffsets settings true)) =
      transcripts (recognizeAudioContent (fun _ => portions.map finalResponse)
        (withOffsets settings false)) ↔
      ∀ p ∈ portions, ∀ a ∈ taken settings p.alternatives, KeepsText a := by
    rw [transcripts_streaming, transcripts_streaming, Except.ok.injEq, map_transcript_eq_iff]
    · exact List.forall_mem_flatMap
    · exact List.forall_mem_flatMap.mpr hc'
  refine ⟨fun h => hstream.mp h.streaming, fun h => ⟨hstream.mpr h, ?_⟩⟩
  by_cases hfits : FitsInt32 audio.samplingRateHz ∧ settings.Fits
  · rw [transcripts_sync hfits.1 hfits.2, transcripts_sync hfits.1 hfits.2]
    cases portions with
    | nil => rfl
    | cons p ps =>
      rw [List.forall_mem_cons] at h hc'
      exact congrArg Except.ok ((map_transcript_eq_iff hc'.1).mpr h.1)
  · obtain ⟨e, he⟩ := recognize_withOffsets_of_not_fits (F := F) hfits
    rw [he, he]

end Offsets

/-- Two hypotheses, of which the service gives words for the first. -/
def topWords : SpeechRecognitionResult ℚ :=
  { alternatives :=
      [{ transcript := "to be", confidence := 1,
         words := [⟨⟨0, 0⟩, ⟨1, 0⟩, "to"⟩, ⟨⟨1, 0⟩, ⟨2, 0⟩, "be"⟩] },
       { transcript := "two bees", confidence := 0, words := [] }] }

theorem offsets_keep_transcripts_iff_at :
    OffsetsKeepTranscripts { maxAlternatives := 2 } twoBytes [topWords] ↔
      ∀ p ∈ [topWords], ∀ a ∈ taken { maxAlternatives := 2 } p.alternatives, KeepsText a :=
  offsets_keep_transcripts_iff { maxAlternatives := 2 } twoBytes [topWords] (by decide)

/-- The second hypothesis comes back as the empty text. -/
theorem second_transcript_lost : ¬ ∀ (settings : DictationSettings) (audio : AudioLoader)
    (portions : List (SpeechRecognitionResult ℚ)),
    (∀ p ∈ portions, ∀ a ∈ p.alternatives, Consistent a) →
      OffsetsKeepTranscripts settings audio portions := by
  intro h
  have hkeep := (h { maxAlternatives := 2 } twoBytes [topWords] (by decide)).streaming
  have hon : transcripts (recognizeAudioContent (fun _ => [topWords].map finalResponse)
      (withOffsets { maxAlternatives := 2 } true)) = .ok ["to be", ""] := rfl
  have hoff : transcripts (recognizeAudioContent (fun _ => [topWords].map finalResponse)
      (withOffsets { maxAlternatives := 2 } false)) = .ok ["to be", "two bees"] := rfl
  rw [hon, hoff] at hkeep
  exact absurd hkeep (by simp)

end DictationClient.L4
