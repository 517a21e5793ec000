import DictationClient.L4App.FinalResults
import DictationClient.L4App.SyncRecognizer
import Mathlib.Data.List.Forall2

/-!
# What the Python client prints (`print_results`)

The recognizers join the words of an alternative into its transcript and keep
their times in a list of its own. `print_results` splits the transcript again and
pairs the pieces with the times by position, if there are as many. A word with
whitespace in it is split into several pieces, an empty word disappears: then the
numbers differ and no time is printed, or they agree by accident and times are
printed next to the wrong words.

* `times_printed_iff`: when each word is printed with its own times.
-/
namespace DictationClient.L4

open DictationClient.Api DictationClient.L3.PyConfig

/-- `"{:02d}".format(n)`. -/
def twoDigits (n : Int) : String := if 0 ≤ n ∧ n < 10 then "0" ++ toString n else toString n

/-- `int(nanos / 10000000)`. The quotient of an `int32` is never so close to an
integer that its `float` would be one. -/
def centiseconds (d : Duration) : Int := d.nanos.toInt.tdiv 10000000

/-- `"{}.{:02d}"`. -/
def showTime (d : Duration) : String := toString d.seconds.toInt ++ "." ++ twoDigits (centiseconds d)

/-- mirrors python/dictation_client.py:24-25 -/
def timedLine (word : String) (startTime endTime : Duration) : String :=
  word ++ (" [" ++ showTime startTime ++ " - " ++ showTime endTime ++ "]")

/-- One turn of `for i in range(0, len(words))`: the lines printed.
mirrors python/dictation_client.py:22-25 -/
def printTime (word : String) : List Duration → Except PyErr (List String)
  | [] => .ok []
  | [_] => .error (.indexError "list index out of range")
  | startTime :: endTime :: _ => .ok [timedLine word startTime endTime]

/-- mirrors python/dictation_client.py:20-25 -/
def printTimes (ws : List String) (ali : List (List Duration)) : Except PyErr (List String) := do
  if ws.length = ali.length then
    let lines ← (ws.zip ali).mapM fun wt => printTime wt.1 wt.2
    return lines.flatten
  else return []

section Print
variable {F : Type}

/-- The lines of one result.
mirrors python/dictation_client.py:15-25 -/
def printResult (res : Entry F) : Except PyErr (List String) := do
  let times ← printTimes (pySplit res.transcript) res.alignment
  return "" :: res.transcript :: times

/-- mirrors python/dictation_client.py:14-25 -/
def printResults (results : List (Entry F)) : Except PyErr (List String) := do
  let lines ← results.mapM printResult
  return lines.flatten

end Print

/-! ## Words and times by position -/

/-- The line a word is owed. -/
def wordLine (w : WordInfo) : String := timedLine w.word w.startTime w.endTime

theorem timedLine_inj {word word' : String} {s e : Duration} :
    timedLine word s e = timedLine word' s e ↔ word = word' := by
  unfold timedLine
  exact String.append_left_inj _

/-- The lines printed for a list of pieces and the times of as many words. -/
theorem mapM_printTime (ws : List String) (infos : List WordInfo) :
    (ws.zip (infos.map fun w => [w.startTime, w.endTime])).mapM (fun wt => printTime wt.1 wt.2) =
      .ok ((ws.zip infos).map fun wi => [timedLine wi.1 wi.2.startTime wi.2.endTime]) := by
  induction ws generalizing infos with
  | nil => rfl
  | cons w ws ih =>
    cases infos with
    | nil => rfl
    | cons i infos =>
      rw [List.map_cons, List.zip_cons_cons, List.mapM_cons, ih]
      rfl

/-- Pieces that are as many as the words are printed with the words' times. -/
theorem map_timedLine_zip_eq_iff {ws : List String} {infos : List WordInfo}
    (h : ws.length = infos.length) :
    (ws.zip infos).map (fun wi => timedLine wi.1 wi.2.startTime wi.2.endTime) = infos.map wordLine ↔
      ws = infos.map WordInfo.word := by
  induction ws generalizing infos with
  | nil =>
    have hnil : infos = [] := List.eq_nil_of_length_eq_zero h.symm
    simp [hnil]
  | cons w ws ih =>
    cases infos with
    | nil => cases h
    | cons i infos =>
      have h' : ws.length = infos.length := by simpa using h
      rw [List.zip_cons_cons, List.map_cons, List.map_cons, List.map_cons, List.cons.injEq,
        List.cons.injEq, ih h', wordLine, timedLine_inj]

theorem printTimes_of_length_eq {ws : List String} {infos : List WordInfo}
    (h : ws.length = infos.length) :
    printTimes ws (infos.map fun w => [w.startTime, w.endTime]) =
      .ok ((ws.zip infos).map fun wi => timedLine wi.1 wi.2.startTime wi.2.endTime) := by
  have hlines : ((ws.zip infos).map fun wi => [timedLine wi.1 wi.2.startTime wi.2.endTime]).flatten =
      (ws.zip infos).map fun wi => timedLine wi.1 wi.2.startTime wi.2.endTime := by
    rw [← List.flatMap_def, List.map_eq_flatMap]
  unfold printTimes
  rw [if_pos (by rw [h, List.length_map]), mapM_printTime]
  exact congrArg Except.ok hlines

/-- **Every word with its times.** Exactly when the pieces are the words. -/
theorem printTimes_eq_iff {ws : List String} {infos : List WordInfo} (h : infos ≠ []) :
    printTimes ws (infos.map fun w => [w.startTime, w.endTime]) = .ok (infos.map wordLine) ↔
      ws = infos.map WordInfo.word := by
  by_cases hlen : ws.length = infos.length
  · rw [printTimes_of_length_eq hlen, Except.ok.injEq]
    exact map_timedLine_zip_eq_iff hlen
  · -- no line is printed, but every word is owed one
    have hnone : printTimes ws (infos.map fun w => [w.startTime, w.endTime]) = .ok [] := by
      unfold printTimes
      rw [if_neg (by rwa [List.length_map])]
      rfl
    rw [hnone, Except.ok.injEq]
    refine iff_of_false (fun he => h (List.map_eq_nil_iff.mp he.symm)) (fun he => hlen ?_)
    rw [he, List.length_map]

/-! ## Alternatives of final results -/

section Final
variable {F : Type} [LinearOrder F] [One F]

/-- An entry is printed with one line for each word of the alternative, in order,
with the word and its times, and without other such lines. -/
def PrintsOwnTimes (alternative : SpeechRecognitionAlternative F) (e : Entry F) : Prop :=
  printResults [e] = .ok ("" :: e.transcript :: (spoken alternative.words).map wordLine)

omit [LinearOrder F] [One F] in
theorem printsOwnTimes_iff {alternative : SpeechRecognitionAlternative F} {e : Entry F} :
    PrintsOwnTimes alternative e ↔
      printTimes (pySplit e.transcript) e.alignment = .ok ((spoken alternative.words).map wordLine) := by
  unfold PrintsOwnTimes printResults
  rw [List.mapM_cons, List.mapM_nil, printResult]
  cases printTimes (pySplit e.transcript) e.alignment with
  | error err => exact iff_of_false (fun h => by cases h) (fun h => by cases h)
  | ok lines =>
    change Except.ok ("" :: e.transcript :: (lines ++ [])) = _ ↔ _
    rw [List.append_nil, Except.ok.injEq, Except.ok.injEq, List.cons_inj_right, List.cons_inj_right]

/-- With time offsets on, an alternative is printed with the times of its words
exactly when they are tokens. -/
theorem printsOwnTimes_finalEntry_iff (alternative : SpeechRecognitionAlternative F) :
    PrintsOwnTimes alternative (finalEntry true alternative) ↔
      ∀ w ∈ spoken alternative.words, IsToken w.word := by
  rw [printsOwnTimes_iff]
  by_cases hnil : spoken alternative.words = []
  · -- no word: `[[]]` is one time too many for the empty transcript
    rw [finalEntry, if_pos rfl, if_neg (by simp [hnil]), hnil]
    exact iff_of_true rfl (fun w hw => absurd hw (List.not_mem_nil))
  · rw [finalEntry, if_pos rfl, if_pos ⟨rfl, hnil⟩, printTimes_eq_iff hnil, pySplit_join_iff]
    exact List.forall_mem_map

/-- The alternatives that a call reads, and the entries it returns: those of the
final results of a stream, or those of the first portion of the audio. -/
inductive Recognized (settings : DictationSettings) :
    List (SpeechRecognitionAlternative F) → List (Entry F) → Prop where
  | streaming (responses : List (ServerResponse F)) (es : List (Entry F))
      (h : recognizeAudioContent (fun _ => responses.map ServerResponse.message) settings = .ok es) :
      Recognized settings (responses.flatMap fun r => taken settings r.alternatives) es
  | sync (audio : AudioLoader) (portion : SpeechRecognitionResult F)
      (portions : List (SpeechRecognitionResult F)) (es : List (Entry F))
      (h : SyncRecognizer.recognize (answering (portion :: portions)) settings audio = .ok es) :
      Recognized settings (taken settings portion.alternatives) es

/-- Both calls return one entry for each alternative they read, in order. -/
theorem Recognized.entries {settings : DictationSettings}
    {alternatives : List (SpeechRecognitionAlternative F)} {es : List (Entry F)}
    (h : Recognized settings alternatives es) :
    es = alternatives.map (finalEntry settings.timeOffsets) := by
  cases h with
  | streaming responses es h =>
    rw [recognizeAudioContent_eq] at h
    cases hf : (responses.map ServerResponse.message).find? unnamedEvent with
    | some r => rw [hf] at h; cases h
    | none =>
      rw [hf] at h
      cases h
      rw [List.flatMap_map, List.map_flatMap]
      simp only [ServerResponse.entriesOf_message]
  | sync audio portion portions es h =>
    by_cases hfits : FitsInt32 audio.samplingRateHz ∧ settings.Fits
    · rw [recognize_answering hfits.1 hfits.2] at h
      cases h
      exact List.map_congr_left fun a _ => singleResult_eq _ a
    · obtain ⟨msg, hm⟩ := recognize_of_not_fits hfits (answering (portion :: portions))
      rw [hm] at h
      cases h

/-- **When printed times belong to the printed words.** With time offsets on, for
each alternative read, exactly when its words other than `<eps>` are non-empty
and have no whitespace in them. -/
theorem times_printed_iff {settings : DictationSettings} (htime : settings.timeOffsets = true)
    {alternatives : List (SpeechRecognitionAlternative F)} {es : List (Entry F)}
    (h : Recognized settings alternatives es) :
    List.Forall₂ (fun a e => PrintsOwnTimes a e ↔ ∀ w ∈ spoken a.words, IsToken w.word)
      alternatives es := by
  rw [h.entries, htime, List.forall₂_map_right_iff]
  exact List.forall₂_same.mpr fun a _ => printsOwnTimes_finalEntry_iff a

end Final

/-- An alternative of an empty word and one of two tokens. -/
def emptyAndTwo : SpeechRecognitionAlternative ℚ :=
  { transcript := "New York", confidence := 1,
    words := [⟨⟨0, 0⟩, ⟨1, 0⟩, ""⟩, ⟨⟨1, 0⟩, ⟨2, 0⟩, "New York"⟩] }

theorem recognized_emptyAndTwo : Recognized { timeOffsets := true, maxAlternatives := 1 } [emptyAndTwo]
    [finalEntry true emptyAndTwo] :=
  .streaming [.results { alternatives := [emptyAndTwo], isFinal := true } [] rfl] _ rfl

theorem times_printed_iff_at :
    List.Forall₂ (fun a e => PrintsOwnTimes a e ↔ ∀ w ∈ spoken a.words, IsToken w.word)
      [emptyAndTwo] [finalEntry true emptyAndTwo] :=
  times_printed_iff rfl recognized_emptyAndTwo

/-- The pieces of the second word are printed with the times of both words. -/
theorem times_shifted : ¬ ∀ (settings : DictationSettings)
    (alternatives : List (SpeechRecognitionAlternative ℚ)) (es : List (Entry ℚ)),
    settings.timeOffsets = true → Recognized settings alternatives es →
      List.Forall₂ PrintsOwnTimes alternatives es := by
  intro h
  have hown := (List.forall₂_cons.mp (h _ _ _ rfl recognized_emptyAndTwo)).1
  have hlines : printResults [finalEntry true emptyAndTwo] =
      .ok ["", " New York", "New [0.00 - 1.00]", "York [1.00 - 2.00]"] := by decide
  unfold PrintsOwnTimes at hown
  rw [hlines] at hown
  exact absurd hown (by decide)

end DictationClient.L4
