import DictationClient.Api
import DictationClient.Core.Py
import DictationClient.L3Protocol.PyConfig
import Mathlib.Data.List.Flatten

/-!
# The results of the Python streaming call

`StreamingRecognizer.recognize_audio_content` walks the responses and appends,
for each that carries results, one entry for each alternative of the first
result. An entry of a result that is not final has no text, but it is appended
all the same.

* `entriesOf`, `unnamedEvent`: what one response contributes, and whether it
  raises. `recognizeAudioContent_eq`: the call in these terms.
* `interim_unchanged_iff`: when leaving out the interim results changes nothing.

The service is a parameter: it gets the options of the call and answers with the
responses. What is printed on the way is left out.
-/
namespace DictationClient.L4

open DictationClient.Api DictationClient.L3.PyConfig

/-- One element of the list returned. -/
structure Entry (F : Type) where
  transcript : String
  alignment : List (List Duration)
  confidence : F
  deriving DecidableEq, Repr

/-- `timeout` and `metadata` of a call; the timeout in milliseconds. -/
structure CallOptions where
  timeout : Option Int := none
  metadata : List (String × String) := []
  deriving DecidableEq, Repr

/-- One turn of `for word in …words`, on `confirmed_results`, `alignment` and
`final_transc`.
mirrors python/service/streaming_recognizer.py:104-108 and
python/service/sync_recognizer.py:54-58 -/
def addWord (acc : List String × List (List Duration) × String) (word : WordInfo) :
    List String × List (List Duration) × String :=
  if word.word ≠ "<eps>" then
    (acc.1 ++ [word.word], acc.2.1 ++ [[word.startTime, word.endTime]],
      String.intercalate " " (acc.1 ++ [word.word]))
  else acc

section Entries
variable {F : Type} [One F] [LT F] [DecidableLT F]

/-- `min(a, b)`: `b` only if it is smaller. -/
def pyMin (a b : F) : F := if b < a then b else a

/-- The entry of an alternative of a final result. `[[]]` stands for no alignment.
mirrors python/service/streaming_recognizer.py:97-126 (`first.is_final`) and
python/service/sync_recognizer.py:48-75 -/
def singleResult (timeOffsets : Bool) (alternative : SpeechRecognitionAlternative F) : Entry F :=
  let (alignment, finalTransc) :=
    if timeOffsets then (alternative.words.foldl addWord ([], [], "")).2
    else ([], alternative.transcript)
  { transcript := finalTransc
    alignment := if timeOffsets && !alignment.isEmpty then alignment else [[]]
    confidence := pyMin 1 alternative.confidence }

/-- The entry of an alternative of a result that is not final.
mirrors python/service/streaming_recognizer.py:97-126 (`else`) -/
def interimResult : Entry F := { transcript := "", alignment := [[]], confidence := 1 }

/-- `min(max_alternatives, len(…))` turns of `for i in range(…)`; a negative
number gives none. -/
def taken {α : Type} (settings : DictationSettings) (alternatives : List α) : List α :=
  alternatives.take (min settings.maxAlternatives alternatives.length).toNat

/-! ## The loop over the responses -/

/-- What `SpeechEventType.Name` raises for a number without a name. -/
def namelessError (number : SpeechEventType) : PyErr :=
  .valueError ("Enum SpeechEventType has no name defined for value " ++ toString number.toInt)

/-- `SpeechEventType.Name(number)`. -/
def speechEventTypeName (number : SpeechEventType) : Except PyErr String :=
  if number = speechEventUnspecified then .ok "SPEECH_EVENT_UNSPECIFIED"
  else if number = endOfSingleUtterance then .ok "END_OF_SINGLE_UTTERANCE"
  else .error (namelessError number)

/-- `recognition.error.code`; an error that is not set reads as code 0. -/
def errorCode (recognition : StreamingRecognizeResponse F) : Int32 :=
  match recognition.error with
  | some status => status.code
  | none => 0

/-- `closes`: how often the audio stream was closed. -/
structure LoopState (F : Type) where
  results : List (Entry F)
  closes : Nat
  deriving DecidableEq, Repr

/-- The entries of a response with results.
mirrors python/service/streaming_recognizer.py:87-127 -/
def resultEntries (settings : DictationSettings) (first : StreamingRecognitionResult F) :
    List (Entry F) :=
  (taken settings first.alternatives).map fun alternative =>
    if first.isFinal then singleResult settings.timeOffsets alternative else interimResult

/-- mirrors python/service/streaming_recognizer.py:76-127 -/
def onResponse (settings : DictationSettings) (st : LoopState F)
    (recognition : StreamingRecognizeResponse F) : Except PyErr (LoopState F) :=
  if errorCode recognition ≠ 0 then .ok { st with closes := st.closes + 1 }
  else if recognition.speechEventType ≠ speechEventUnspecified then
    match speechEventTypeName recognition.speechEventType with
    | .ok _ => .ok { st with closes := st.closes + 1 }
    | .error e => .error e
  else
    match recognition.results with
    | [] => .ok st
    | first :: _ => .ok { st with results := st.results ++ resultEntries settings first }

/-- mirrors python/service/streaming_recognizer.py:64-72 -/
def callOptions (settings : DictationSettings) : CallOptions where
  timeout := if settings.grpcTimeout > 0 then some settings.grpcTimeout else none
  metadata := if settings.sessionId ≠ "" then [("session_id", settings.sessionId)] else []

/-- mirrors python/service/streaming_recognizer.py:61-129 -/
def recognizeAudioContent (streamingRecognize : CallOptions → List (StreamingRecognizeResponse F))
    (settings : DictationSettings) : Except PyErr (List (Entry F)) := do
  let recognitions := streamingRecognize (callOptions settings)
  let st ← recognitions.foldlM (onResponse settings) { results := [], closes := 0 }
  return st.results

/-! ## What one response contributes -/

def entriesOf (settings : DictationSettings) (recognition : StreamingRecognizeResponse F) :
    List (Entry F) :=
  if errorCode recognition = 0 ∧ recognition.speechEventType = speechEventUnspecified then
    match recognition.results with
    | [] => []
    | first :: _ => resultEntries settings first
  else []

/-- The response has a speech event without a name. -/
def unnamedEvent (recognition : StreamingRecognizeResponse F) : Bool :=
  errorCode recognition == 0 && recognition.speechEventType != speechEventUnspecified &&
    recognition.speechEventType != endOfSingleUtterance

theorem onResponse_of_named (settings : DictationSettings) {r : StreamingRecognizeResponse F}
    (h : unnamedEvent r = false) (st : LoopState F) :
    ∃ st', onResponse settings st r = .ok st' ∧ st'.results = st.results ++ entriesOf settings r := by
  unfold onResponse entriesOf
  by_cases he : errorCode r = 0
  · rw [if_neg (not_not.mpr he)]
    by_cases hs : r.speechEventType = speechEventUnspecified
    · rw [if_neg (not_not.mpr hs), if_pos ⟨he, hs⟩]
      cases r.results with
      | nil => exact ⟨st, rfl, by simp⟩
      | cons first rest => exact ⟨_, rfl, rfl⟩
    · have hu : r.speechEventType = endOfSingleUtterance := by
        simpa [unnamedEvent, he, hs] using h
      rw [if_pos hs, if_neg (fun h => hs h.2), hu]
      exact ⟨_, rfl, by simp⟩
  · rw [if_pos he, if_neg (fun h => he h.1)]
    exact ⟨_, rfl, by simp⟩

theorem onResponse_of_unnamed {settings : DictationSettings} {r : StreamingRecognizeResponse F}
    (h : unnamedEvent r = true) (st : LoopState F) :
    onResponse settings st r = .error (namelessError r.speechEventType) := by
  simp only [unnamedEvent, Bool.and_eq_true, beq_iff_eq, bne_iff_ne, ne_eq] at h
  obtain ⟨⟨he, hs⟩, hu⟩ := h
  unfold onResponse speechEventTypeName
  rw [if_neg (not_not.mpr he), if_pos hs, if_neg hs, if_neg hu]

/-- Only a speech event without a name raises. -/
theorem eq_of_onResponse_error {settings : DictationSettings} {st : LoopState F}
    {r : StreamingRecognizeResponse F} {e : PyErr} (h : onResponse settings st r = .error e) :
    e = namelessError r.speechEventType := by
  cases hu : unnamedEvent r with
  | true => rw [onResponse_of_unnamed hu] at h; cases h; rfl
  | false =>
    obtain ⟨st', hok, -⟩ := onResponse_of_named settings hu st
    rw [hok] at h; cases h

/-- A response closes the stream once or not at all. -/
theorem closes_le_of_onResponse {settings : DictationSettings} {st st' : LoopState F}
    {r : StreamingRecognizeResponse F} (h : onResponse settings st r = .ok st') :
    st.closes ≤ st'.closes := by
  unfold onResponse at h
  split at h
  · cases h; exact Nat.le_succ _
  · split at h
    · split at h
      · cases h; exact Nat.le_succ _
      · cases h
    · split at h <;> cases h <;> exact Nat.le_refl _

/-- The loop over the responses, from any state. -/
theorem foldlM_onResponse (settings : DictationSettings) (rs : List (StreamingRecognizeResponse F)) :
    ∀ st : LoopState F,
      (rs.foldlM (onResponse settings) st).map LoopState.results =
        match rs.find? unnamedEvent with
        | some r => .error (namelessError r.speechEventType)
        | none => .ok (st.results ++ rs.flatMap (entriesOf settings)) := by
  induction rs with
  | nil => intro st; simp [Except.map, pure, Except.pure]
  | cons r rs ih =>
    intro st
    rw [List.foldlM_cons]
    cases hu : unnamedEvent r with
    | true =>
      rw [onResponse_of_unnamed hu, List.find?_cons_of_pos hu]
      rfl
    | false =>
      obtain ⟨st', hst', hres⟩ := onResponse_of_named settings hu st
      have hih := ih st'
      rw [hst', List.find?_cons_of_neg (by simp [hu]), List.flatMap_cons, ← List.append_assoc, ← hres]
      exact hih

/-- **The call in closed form.** It raises for the first event without a name;
otherwise it returns what the responses contribute, in order. -/
theorem recognizeAudioContent_eq (service : CallOptions → List (StreamingRecognizeResponse F))
    (settings : DictationSettings) :
    recognizeAudioContent service settings =
      match (service (callOptions settings)).find? unnamedEvent with
      | some r => .error (namelessError r.speechEventType)
      | none => .ok ((service (callOptions settings)).flatMap (entriesOf settings)) := by
  have h := foldlM_onResponse settings (service (callOptions settings)) { results := [], closes := 0 }
  rw [List.nil_append] at h
  rw [← h]
  exact bind_pure_comp LoopState.results _

/-! ## Leaving out interim results -/

/-- No error, no speech event, and a first result that is not final. -/
def isInterim (recognition : StreamingRecognizeResponse F) : Bool :=
  errorCode recognition == 0 && recognition.speechEventType == speechEventUnspecified &&
    match recognition.results with
    | [] => false
    | first :: _ => !first.isFinal

/-- The alternatives the loop body looks at. -/
def firstAlternatives (recognition : StreamingRecognizeResponse F) :
    List (SpeechRecognitionAlternative F) :=
  match recognition.results with
  | [] => []
  | first :: _ => first.alternatives

end Entries

/-- Leaving out elements does not change a `flatMap` exactly when they
contribute nothing. -/
theorem flatMap_filter_eq_iff {α β : Type} (p : α → Bool) (f : α → List β) (l : List α) :
    (l.filter p).flatMap f = l.flatMap f ↔ ∀ a ∈ l, p a = false → f a = [] := by
  induction l with
  | nil => simp
  | cons a l ih =>
    rw [List.forall_mem_cons, ← ih]
    cases hp : p a with
    | true => simp [hp]
    | false =>
      have hle := (List.Sublist.flatMap (List.filter_sublist (p := p) (l := l)) f).length_le
      rw [List.filter_cons, if_neg (by simp [hp]), List.flatMap_cons]
      refine ⟨fun h => ?_, fun h => ?_⟩
      · have hlen := congrArg List.length h
        rw [List.length_append] at hlen
        have hnil : f a = [] := List.eq_nil_of_length_eq_zero (by omega)
        rw [hnil, List.nil_append] at h
        exact ⟨fun _ => hnil, h⟩
      · rw [h.1 rfl, h.2, List.nil_append]

section Interim
variable {F : Type} [One F] [LT F] [DecidableLT F]

theorem taken_eq_nil_iff {α : Type} {settings : DictationSettings} {alternatives : List α} :
    taken settings alternatives = [] ↔ settings.maxAlternatives ≤ 0 ∨ alternatives = [] := by
  unfold taken
  rw [List.take_eq_nil_iff]
  cases alternatives with
  | nil => simp
  | cons a l =>
    simp only [List.length_cons, reduceCtorEq, or_false]
    omega

theorem entriesOf_interim_eq_nil_iff {settings : DictationSettings} {r : StreamingRecognizeResponse F}
    (h : isInterim r = true) :
    entriesOf settings r = [] ↔ settings.maxAlternatives ≤ 0 ∨ firstAlternatives r = [] := by
  simp only [isInterim, Bool.and_eq_true, beq_iff_eq] at h
  obtain ⟨⟨he, hs⟩, hr⟩ := h
  unfold entriesOf firstAlternatives
  rw [if_pos ⟨he, hs⟩]
  cases hres : r.results with
  | nil => rw [hres] at hr; cases hr
  | cons first rest =>
    unfold resultEntries
    rw [List.map_eq_nil_iff]
    exact taken_eq_nil_iff

omit [One F] [LT F] [DecidableLT F] in
/-- An interim response never raises. -/
theorem unnamedEvent_of_interim {r : StreamingRecognizeResponse F} (h : isInterim r = true) :
    unnamedEvent r = false := by
  simp only [isInterim, Bool.and_eq_true, beq_iff_eq] at h
  simp [unnamedEvent, h.1.2]

omit [One F] [LT F] [DecidableLT F] in
theorem find?_filter_interim (rs : List (StreamingRecognizeResponse F)) :
    (rs.filter (!isInterim ·)).find? unnamedEvent = rs.find? unnamedEvent := by
  rw [List.find?_filter]
  congr 1
  funext r
  cases hi : isInterim r with
  | true => simp [unnamedEvent_of_interim hi]
  | false => simp

/-- **When interim results change nothing.** Leaving out the interim responses
gives the same outcome exactly when the call raises anyway, no alternatives are
asked for, or no interim response has an alternative. -/
theorem interim_unchanged_iff (settings : DictationSettings) (rs : List (StreamingRecognizeResponse F)) :
    recognizeAudioContent (fun _ => rs) settings =
        recognizeAudioContent (fun _ => rs.filter (!isInterim ·)) settings ↔
      (∃ r ∈ rs, unnamedEvent r = true) ∨ settings.maxAlternatives ≤ 0 ∨
        ∀ r ∈ rs, isInterim r = true → firstAlternatives r = [] := by
  rw [recognizeAudioContent_eq, recognizeAudioContent_eq, find?_filter_interim]
  cases hf : rs.find? unnamedEvent with
  | some r =>
    refine iff_of_true rfl (.inl ⟨r, List.mem_of_find?_eq_some hf, List.find?_some hf⟩)
  | none =>
    have hno : ¬ ∃ r ∈ rs, unnamedEvent r = true := by
      rw [List.find?_eq_none] at hf
      rintro ⟨r, hr, hu⟩; exact hf r hr hu
    simp only [Except.ok.injEq, hno, false_or]
    rw [eq_comm, flatMap_filter_eq_iff]
    refine ⟨fun h => ?_, fun h r hr hi => ?_⟩
    · by_cases hm : settings.maxAlternatives ≤ 0
      · exact .inl hm
      · refine .inr fun r hr hi => ?_
        exact ((entriesOf_interim_eq_nil_iff hi).mp (h r hr (by simp [hi]))).resolve_left hm
    · have hi' : isInterim r = true := by simpa using hi
      exact (entriesOf_interim_eq_nil_iff hi').mpr (h.imp_right fun h => h r hr hi')

end Interim

/-- An interim result of one alternative, as confidences of 0 or 1. -/
def interimResponse : StreamingRecognizeResponse Nat :=
  { error := none
    results := [{ alternatives := [{ transcript := "to be", confidence := 0, words := [] }]
                  isFinal := false }]
    speechEventType := speechEventUnspecified }

/-- With the default settings an interim result adds an empty entry. -/
theorem interim_leaks : ¬ ∀ (settings : DictationSettings) (rs : List (StreamingRecognizeResponse Nat)),
    recognizeAudioContent (fun _ => rs) settings =
      recognizeAudioContent (fun _ => rs.filter (!isInterim ·)) settings := by
  intro h
  have hone : recognizeAudioContent (fun _ => [interimResponse]) {} =
      .ok [{ transcript := "", alignment := [[]], confidence := 1 }] := rfl
  have hnone : recognizeAudioContent (fun _ => [interimResponse].filter (!isInterim ·)) {} = .ok [] := rfl
  have heq := h {} [interimResponse]
  rw [hone, hnone] at heq
  cases heq

end DictationClient.L4
