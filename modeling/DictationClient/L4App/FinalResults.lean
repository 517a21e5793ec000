import DictationClient.L4App.StreamingRecognizer
import Mathlib.Algebra.Order.Ring.Unbundled.Rat
import Mathlib.Order.Defs.LinearOrder

/-!
# The final hypotheses of a streaming call

The service ranks the alternatives of a result and the caller of the client sets
how many it wants: "a value of `0` or `1` will return a maximum of one"
(proto/dictation_asr.proto:258-264). The client cuts the list to
`min(max_alternatives, n)`, so with 0 it returns none.

* `singleResult_eq`: the loop over the words in closed form.
* `finalResults_iff`: when the call returns an entry for every alternative asked
  for, in order.
-/
namespace DictationClient.L4

open DictationClient.Api DictationClient.L3.PyConfig

/-- The words of an alternative, less the `<eps>` ones. -/
def spoken (words : List WordInfo) : List WordInfo := words.filter fun w => w.word ≠ "<eps>"

/-- The loop over the words, from any state that joins what it has. -/
theorem foldl_addWord (words : List WordInfo) (confirmed : List String) (alignment : List (List Duration)) :
    words.foldl addWord (confirmed, alignment, String.intercalate " " confirmed) =
      (confirmed ++ (spoken words).map WordInfo.word,
        alignment ++ (spoken words).map (fun w => [w.startTime, w.endTime]),
        String.intercalate " " (confirmed ++ (spoken words).map WordInfo.word)) := by
  induction words generalizing confirmed alignment with
  | nil => simp [spoken]
  | cons w words ih =>
    rw [List.foldl_cons, addWord]
    by_cases hw : w.word = "<eps>"
    · have hspoken : spoken (w :: words) = spoken words := by simp [spoken, hw]
      rw [if_neg (not_not.mpr hw), ih, hspoken]
    · have hspoken : spoken (w :: words) = w :: spoken words := by simp [spoken, hw]
      rw [if_pos hw, ih, hspoken]
      simp

theorem pyMin_eq_min {F : Type} [LinearOrder F] (a b : F) : pyMin a b = min a b := by
  unfold pyMin
  rcases lt_or_ge b a with h | h
  · rw [if_pos h, min_eq_right h.le]
  · rw [if_neg (not_lt.mpr h), min_eq_left h]

section Final
variable {F : Type} [LinearOrder F] [One F]

/-- What is returned for an alternative of a final result. -/
def finalEntry (timeOffsets : Bool) (alternative : SpeechRecognitionAlternative F) : Entry F where
  transcript :=
    if timeOffsets then String.intercalate " " ((spoken alternative.words).map WordInfo.word)
    else alternative.transcript
  alignment :=
    if timeOffsets ∧ spoken alternative.words ≠ [] then
      (spoken alternative.words).map fun w => [w.startTime, w.endTime]
    else [[]]
  confidence := min 1 alternative.confidence

/-- **The loop body in closed form.** -/
theorem singleResult_eq (timeOffsets : Bool) (alternative : SpeechRecognitionAlternative F) :
    singleResult timeOffsets alternative = finalEntry timeOffsets alternative := by
  unfold singleResult finalEntry
  cases timeOffsets with
  | false => simp [pyMin_eq_min]
  | true =>
    have hfold := foldl_addWord alternative.words [] []
    rw [show String.intercalate " " [] = "" from String.intercalate_nil] at hfold
    simp only [hfold, pyMin_eq_min]
    cases hs : spoken alternative.words with
    | nil => simp
    | cons w ws => simp

/-! ## Responses with one thing in them -/

/-- A response that holds exactly one of an error, a speech event and a list of
results, the first of which is final. -/
inductive ServerResponse (F : Type) where
  | error (status : Status) (h : status.code ≠ 0)
  | event (number : SpeechEventType) (h : number ≠ speechEventUnspecified)
  | results (first : StreamingRecognitionResult F) (others : List (StreamingRecognitionResult F))
      (h : first.isFinal = true)

namespace ServerResponse

def message : ServerResponse F → StreamingRecognizeResponse F
  | .error status _ =>
    { error := some status, results := [], speechEventType := speechEventUnspecified }
  | .event number _ => { error := none, results := [], speechEventType := number }
  | .results first others _ =>
    { error := none, results := first :: others, speechEventType := speechEventUnspecified }

/-- The alternatives of the final result. -/
def alternatives : ServerResponse F → List (SpeechRecognitionAlternative F)
  | .error _ _ => []
  | .event _ _ => []
  | .results first _ _ => first.alternatives

/-- A speech event is one the API has a name for. -/
def Named : ServerResponse F → Prop
  | .error _ _ => True
  | .event number _ => number = endOfSingleUtterance
  | .results _ _ _ => True

/-- The entries the caller is owed: a maximum of 0 means the same as 1. -/
def expected (settings : DictationSettings) (r : ServerResponse F) : List (Entry F) :=
  (r.alternatives.take (max settings.maxAlternatives 1).toNat).map (finalEntry settings.timeOffsets)

omit [LinearOrder F] [One F] in
theorem unnamedEvent_message (r : ServerResponse F) : unnamedEvent r.message = true ↔ ¬ r.Named := by
  cases r with
  | error status h => simp [unnamedEvent, message, errorCode, Named]
  | event number h => simp [unnamedEvent, message, errorCode, h, Named]
  | results first others h => simp [unnamedEvent, message, Named]

theorem entriesOf_message (settings : DictationSettings) (r : ServerResponse F) :
    entriesOf settings r.message =
      (taken settings r.alternatives).map (finalEntry settings.timeOffsets) := by
  cases r with
  | error status h => simp [entriesOf, message, errorCode, h, alternatives, taken]
  | event number h => simp [entriesOf, message, errorCode, h, alternatives, taken]
  | results first others h =>
    simp [entriesOf, message, errorCode, alternatives, resultEntries, h, singleResult_eq]

end ServerResponse

/-- Asking for at least one alternative, the loop takes as many as asked for. -/
theorem taken_of_pos {α : Type} {settings : DictationSettings} (hm : 1 ≤ settings.maxAlternatives)
    (l : List α) : taken settings l = l.take (max settings.maxAlternatives 1).toNat := by
  rw [taken, List.take_eq_take_iff]
  omega

/-- No final hypothesis is lost or invented. -/
def FinalResultsReturned (settings : DictationSettings) (responses : List (ServerResponse F)) : Prop :=
  recognizeAudioContent (fun _ => responses.map ServerResponse.message) settings =
    .ok (responses.flatMap (ServerResponse.expected settings))

/-- **When the final hypotheses are returned**: exactly when every speech event
has a name, and one alternative at least is asked for or there is none. -/
theorem finalResults_iff (settings : DictationSettings) (hm : 0 ≤ settings.maxAlternatives)
    (responses : List (ServerResponse F)) :
    FinalResultsReturned settings responses ↔
      (∀ r ∈ responses, r.Named) ∧
        (1 ≤ settings.maxAlternatives ∨ ∀ r ∈ responses, r.alternatives = []) := by
  have hnamed : (∀ r ∈ responses, r.Named) ↔
      (responses.map ServerResponse.message).find? unnamedEvent = none := by
    rw [List.find?_eq_none, List.forall_mem_map]
    exact forall₂_congr fun r _ => by rw [r.unnamedEvent_message, not_not]
  unfold FinalResultsReturned
  rw [recognizeAudioContent_eq, hnamed]
  cases hf : (responses.map ServerResponse.message).find? unnamedEvent with
  | some r => simp
  | none =>
    simp only [List.flatMap_map, ServerResponse.entriesOf_message, Except.ok.injEq, true_and]
    by_cases h1 : 1 ≤ settings.maxAlternatives
    · simp only [taken_of_pos h1, h1, true_or, iff_true]
      rfl
    · -- the maximum is 0: nothing is taken
      have hnone : ∀ r : ServerResponse F, taken settings r.alternatives = [] := fun r =>
        taken_eq_nil_iff.mpr (.inl (by omega))
      have hone : (max settings.maxAlternatives 1).toNat = 1 := by omega
      simp only [hnone, List.map_nil, h1, false_or]
      have hnil : responses.flatMap (fun _ => ([] : List (Entry F))) = [] :=
        List.flatMap_eq_nil_iff.mpr fun _ _ => rfl
      rw [hnil, eq_comm, List.flatMap_eq_nil_iff]
      apply forall₂_congr
      intro r _
      rw [ServerResponse.expected, hone, List.map_eq_nil_iff, List.take_eq_nil_iff]
      simp

/-- A final result with one alternative. -/
def oneHypothesis : ServerResponse ℚ :=
  .results { alternatives := [{ transcript := "to be", confidence := 1, words := [] }], isFinal := true }
    [] rfl

theorem finalResults_iff_at : FinalResultsReturned { maxAlternatives := 0 } [oneHypothesis] ↔
    (∀ r ∈ [oneHypothesis], r.Named) ∧
      (1 ≤ ({ maxAlternatives := 0 } : DictationSettings).maxAlternatives ∨
        ∀ r ∈ [oneHypothesis], r.alternatives = []) :=
  finalResults_iff { maxAlternatives := 0 } (by decide) [oneHypothesis]

/-- With a maximum of 0 the only hypothesis is dropped. -/
theorem hypothesis_lost : ¬ ∀ (settings : DictationSettings) (responses : List (ServerResponse ℚ)),
    0 ≤ settings.maxAlternatives → FinalResultsReturned settings responses := by
  intro h
  have hreturned := h { maxAlternatives := 0 } [oneHypothesis] (by decide)
  have hnone : recognizeAudioContent (fun _ => [oneHypothesis].map ServerResponse.message)
      { maxAlternatives := 0 } = .ok [] := rfl
  unfold FinalResultsReturned at hreturned
  rw [hnone] at hreturned
  cases hreturned

end Final
end DictationClient.L4
