import DictationClient.Core.GetLine
import DictationClient.L2Framing.StreamingRequest
import Mathlib.Data.String.Basic

/-!
# The settings option of the C++ client (`ReadServiceSettingsOption`)

`--service-settings` is a "semicolon-separated list of key=value pairs". The
parser splits it at `;` and each line at `=`, both with `std::getline`
(`Core.GetLine`), and stores a line with two fields in a map; what it stores goes
into the `config_fields` of every request.

A line with two fields is a `key=value`, but also a `key=value=`: `getline` sees
no field behind a trailing delimiter.

* `settings_intact`: pairs reach the request whatever stands between them; of
  several pairs with one key the last counts.
* `neverAlters_iff`: when the text of every line that is stored is
  `key=value`.
-/
namespace DictationClient.L3.ServiceSettings

open DictationClient.Api DictationClient.L2.StreamingRequest

/-- `while (std::getline(stream, field, delim))` over a string. -/
def fields (delim : Char) (s : String) : List String := (getlines delim s.toList).map String.ofList

/-- The key and the value stored for a line; `none`: the line is skipped.
mirrors cpp/dictation-client/main.cpp:33-51 -/
def keyValue (line : String) : Option (String × String) :=
  match fields '=' line with
  | [key, value] => some (key, value)
  | _ => none

/-- mirrors cpp/dictation-client/main.cpp:31-52 -/
def readLine (serviceSettings : StdMap String String) (line : String) : StdMap String String :=
  match keyValue line with
  | some (key, value) => serviceSettings.insert key value
  | none => serviceSettings

/-- mirrors cpp/dictation-client/main.cpp:18-56 -/
def readServiceSettingsOption (settingsString : String) : StdMap String String :=
  (fields ';' settingsString).foldl readLine .empty

/-! ## Lines -/

/-- The parts of a settings string between its semicolons. -/
def segments (settingsString : String) : List String :=
  (settingsString.toList.splitOn ';').map String.ofList

/-- A line with one `=` in it and a value behind. -/
def IsPair (line key value : String) : Prop :=
  line = key ++ "=" ++ value ∧ '=' ∉ key.toList ∧ '=' ∉ value.toList ∧ value ≠ ""

/-- A line with two `=`, one of them at its end. -/
def EndsTwice (line key value : String) : Prop :=
  line = key ++ "=" ++ value ++ "=" ∧ '=' ∉ key.toList ∧ '=' ∉ value.toList

theorem keyValue_eq_some_iff_fields {line key value : String} :
    keyValue line = some (key, value) ↔ getlines '=' line.toList = [key.toList, value.toList] := by
  unfold keyValue fields
  match getlines '=' line.toList with
  | [] => simp
  | [f] => simp
  | [f, g] => simp [String.ofList_eq]
  | f :: g :: h :: fs => simp

theorem toList_append_eq (key value : String) :
    (key ++ "=" ++ value).toList = key.toList ++ '=' :: value.toList := by
  rw [String.toList_append, String.toList_append, List.append_assoc]; rfl

/-- **What is stored.** -/
theorem keyValue_eq_some_iff {line key value : String} :
    keyValue line = some (key, value) ↔ IsPair line key value ∨ EndsTwice line key value := by
  have hpair : line = key ++ "=" ++ value ↔ line.toList = key.toList ++ '=' :: value.toList := by
    rw [← String.toList_inj, toList_append_eq]
  have htwice : line = key ++ "=" ++ value ++ "=" ↔
      line.toList = key.toList ++ '=' :: (value.toList ++ ['=']) := by
    rw [← String.toList_inj, String.toList_append, toList_append_eq, List.append_assoc]; rfl
  have hempty : value ≠ "" ↔ value.toList ≠ [] := by
    rw [ne_eq, ne_eq, String.toList_eq_nil_iff]
  rw [keyValue_eq_some_iff_fields, getlines_eq_pair_iff, IsPair, EndsTwice, hpair, htwice, hempty]
  refine ⟨fun h => ?_, fun h => ?_⟩
  · obtain ⟨hk, hv, ⟨he, hne⟩ | he⟩ := h
    · exact .inl ⟨he, hk, hv, hne⟩
    · exact .inr ⟨he, hk, hv⟩
  · obtain ⟨he, hk, hv, hne⟩ | ⟨he, hk, hv⟩ := h
    · exact ⟨hk, hv, .inl ⟨he, hne⟩⟩
    · exact ⟨hk, hv, .inr he⟩

theorem keyValue_empty : keyValue "" = none := by
  rw [keyValue, fields, show "".toList = [] from rfl, getlines_nil]; rfl

/-- The lines that are not stored do not matter. -/
theorem foldl_readLine (lines : List String) (m : StdMap String String) :
    lines.foldl readLine m = m.insertAll (lines.filterMap keyValue) := by
  induction lines generalizing m with
  | nil => rfl
  | cons line lines ih =>
    rw [List.foldl_cons, ih, List.filterMap_cons, readLine]
    cases keyValue line with
    | none => rfl
    | some kv => rfl

/-- The parser sees the same lines as the segments, up to an empty last one. -/
theorem filterMap_fields (settingsString : String) :
    (fields ';' settingsString).filterMap keyValue = (segments settingsString).filterMap keyValue := by
  unfold fields segments
  rcases splitOn_eq_getlines ';' settingsString.toList with h | h
  · rw [h]
  · rw [h, List.map_append, List.filterMap_append, List.map_singleton]
    simp [keyValue_empty]

/-- **The parser in closed form**: the stored segments are assigned one after the
other. -/
theorem readServiceSettingsOption_eq (settingsString : String) :
    readServiceSettingsOption settingsString =
      StdMap.empty.insertAll ((segments settingsString).filterMap keyValue) := by
  rw [readServiceSettingsOption, foldl_readLine, filterMap_fields]

/-! ## Pairs with malformed segments between them -/

/-- A segment that is no `key=value`: no `=`, one at the end, or two and a
character behind the second. -/
inductive Malformed (text : List Char) : Prop
  | none (h : '=' ∉ text)
  | last (t : List Char) (h : '=' ∉ t) (e : text = t ++ ['='])
  | twice (a b c : List Char) (ha : '=' ∉ a) (hb : '=' ∉ b) (hc : c ≠ [])
      (e : text = a ++ '=' :: (b ++ '=' :: c))

/-- A segment of a settings string, with what makes it one. -/
inductive Segment where
  | pair (key value : String) (hkey : ';' ∉ key.toList ∧ '=' ∉ key.toList)
      (hvalue : ';' ∉ value.toList ∧ '=' ∉ value.toList) (hne : value ≠ "")
  | malformed (text : String) (hfree : ';' ∉ text.toList) (h : Malformed text.toList)

def Segment.text : Segment → String
  | .pair key value _ _ _ => key ++ "=" ++ value
  | .malformed text _ _ => text

def Segment.pair? : Segment → Option (String × String)
  | .pair key value _ _ _ => some (key, value)
  | .malformed _ _ _ => none

/-- The segments joined, perhaps with a semicolon at the end. -/
def settingsText (segs : List Segment) (trailing : Bool) : String :=
  String.intercalate ";" (segs.map Segment.text) ++ if trailing then ";" else ""

/-- The value of the last pair with this key. -/
def lastValue (segs : List Segment) (key : String) : Option String :=
  assoc key (segs.filterMap Segment.pair?).reverse

theorem Segment.not_mem_text (seg : Segment) : ';' ∉ seg.text.toList := by
  cases seg with
  | pair key value hkey hvalue hne =>
    rw [Segment.text, toList_append_eq]
    simp [hkey.1, hvalue.1]
  | malformed text hfree h => exact hfree

theorem keyValue_of_malformed {line : String} (h : Malformed line.toList) : keyValue line = none := by
  apply Option.eq_none_iff_forall_ne_some.mpr
  intro ⟨key, value⟩ hkv
  rw [keyValue_eq_some_iff_fields] at hkv
  cases h with
  | none h =>
    by_cases hnil : line.toList = []
    · rw [hnil, getlines_nil] at hkv; cases hkv
    · rw [getlines_of_not_mem h hnil] at hkv
      have hlen := congrArg List.length hkv
      simp at hlen
  | last t h e => rw [e, getlines_append_cons h, getlines_nil] at hkv; cases hkv
  | twice a b c ha hb hc e =>
    rw [e, getlines_append_cons ha, getlines_append_cons hb] at hkv
    have hc' : getlines '=' c = [] := by simp only [List.cons.injEq] at hkv; exact hkv.2.2
    exact hc (getlines_eq_nil_iff.mp hc')

theorem Segment.keyValue_text (seg : Segment) : keyValue seg.text = seg.pair? := by
  cases seg with
  | pair key value hkey hvalue hne => exact keyValue_eq_some_iff.mpr (.inl ⟨rfl, hkey.2, hvalue.2, hne⟩)
  | malformed text hfree h => exact keyValue_of_malformed h

/-- A semicolon at the end adds an empty segment. -/
theorem segments_append_semicolon (s : String) : segments (s ++ ";") = segments s ++ [""] := by
  have h := List.splitOn_append_cons_self (a := ';') s.toList []
  rw [segments, String.toList_append, show ";".toList = [';'] from rfl, h, List.map_append]
  rfl

theorem segments_intercalate {texts : List String} (h : ∀ t ∈ texts, ';' ∉ t.toList)
    (hne : texts ≠ []) : segments (String.intercalate ";" texts) = texts := by
  have hsplit : (String.intercalate ";" texts).toList.splitOn ';' = texts.map String.toList := by
    rw [String.toList_intercalate]
    apply List.splitOn_intercalate
    · intro t ht
      obtain ⟨text, htext, rfl⟩ := List.mem_map.mp ht
      exact h text htext
    · simpa using hne
  rw [segments, hsplit, List.map_map]
  simp [Function.comp_def]

/-- The pairs of the text are the pairs of its segments. -/
theorem filterMap_segments (segs : List Segment) (trailing : Bool) :
    (segments (settingsText segs trailing)).filterMap keyValue = segs.filterMap Segment.pair? := by
  have hbody : (segments (String.intercalate ";" (segs.map Segment.text))).filterMap keyValue =
      segs.filterMap Segment.pair? := by
    by_cases hnil : segs = []
    · subst hnil
      simp [segments, keyValue_empty]
    · rw [segments_intercalate _ (by simpa using hnil), List.filterMap_map]
      · congr 1
        funext seg
        exact seg.keyValue_text
      · intro t ht
        obtain ⟨seg, -, rfl⟩ := List.mem_map.mp ht
        exact seg.not_mem_text
  cases trailing with
  | false => rw [settingsText, if_neg (by simp), String.append_empty, hbody]
  | true =>
    rw [settingsText, if_pos rfl, segments_append_semicolon, List.filterMap_append, hbody]
    simp [keyValue_empty]

/-- The config fields of a request are the entries of the map. -/
theorem configFields_eq (config : DictationSessionConfig) :
    (buildRecognitionConfig config).configFields =
      config.serviceSettings.entries.map fun entry => { key := entry.1, value := entry.2 } := by
  unfold buildRecognitionConfig fillAdditionalSettings
  cases config.serviceSettings.entries with
  | nil => rfl
  | cons e es => rfl

/-- **Settings reach the request intact.** Whatever the order and number of the
segments: the map gives each key of a pair its last value, and the config fields
hold each such key once, with that value, and nothing else. -/
theorem settings_intact (segs : List Segment) (trailing : Bool) (config : DictationSessionConfig) :
    let serviceSettings := readServiceSettingsOption (settingsText segs trailing)
    let configFields := (buildRecognitionConfig { config with serviceSettings }).configFields
    (∀ key, serviceSettings.find? key = lastValue segs key) ∧
    (∀ key value, { key, value } ∈ configFields ↔ lastValue segs key = some value) ∧
    (configFields.map ConfigField.key).Nodup := by
  intro serviceSettings configFields
  have hfind : ∀ key, serviceSettings.find? key = lastValue segs key := by
    intro key
    rw [show serviceSettings = _ from readServiceSettingsOption_eq _, filterMap_segments,
      StdMap.find?_insertAll, StdMap.find?_empty, Option.or_none, lastValue]
  have hfields : configFields =
      serviceSettings.entries.map fun entry => { key := entry.1, value := entry.2 } :=
    configFields_eq _
  refine ⟨hfind, ?_, ?_⟩
  · intro key value
    rw [hfields, ← hfind, ← StdMap.mem_entries_iff]
    simp
  · rw [hfields, List.map_map]
    exact serviceSettings.nodup_keys

/-! ## Lines that are altered -/

/-- A segment that is stored is the text of its key and value; the others do not
matter. -/
structure NeverAlters (settingsString : String) : Prop where
  stored : ∀ segment ∈ segments settingsString, ∀ key value,
    keyValue segment = some (key, value) → segment = key ++ "=" ++ value ∧ value ≠ ""
  skipped : readServiceSettingsOption settingsString =
    StdMap.empty.insertAll ((segments settingsString).filterMap keyValue)

/-- A `key=value=` is stored without its last `=`. -/
theorem EndsTwice.ne {segment key value : String} (h : EndsTwice segment key value) :
    segment ≠ key ++ "=" ++ value := by
  intro he
  have hlen := congrArg String.length (he.symm.trans h.1)
  rw [String.length_append (key ++ "=" ++ value)] at hlen
  have : "=".length = 1 := rfl
  omega

/-- **When the parser alters nothing**: exactly when no segment has two `=`, one
of them at its end. -/
theorem neverAlters_iff (settingsString : String) :
    NeverAlters settingsString ↔
      ∀ segment ∈ segments settingsString, ∀ key value, ¬ EndsTwice segment key value := by
  refine ⟨fun h segment hseg key value htwice => ?_, fun h => ?_⟩
  · exact htwice.ne (h.stored segment hseg key value (keyValue_eq_some_iff.mpr (.inr htwice))).1
  · refine ⟨fun segment hseg key value hkv => ?_, readServiceSettingsOption_eq settingsString⟩
    rcases keyValue_eq_some_iff.mp hkv with hpair | htwice
    · exact ⟨hpair.1, hpair.2.2.2⟩
    · exact absurd htwice (h segment hseg key value)

/-- A token in base64 loses its padding. -/
theorem padding_lost : ¬ ∀ settingsString, NeverAlters settingsString := by
  intro h
  have hkv : keyValue "token=YQ=" = some ("token", "YQ") :=
    keyValue_eq_some_iff.mpr (.inr ⟨by decide, by decide, by decide⟩)
  have hstored := ((h "token=YQ=").stored "token=YQ=" (by decide) "token" "YQ" hkv).1
  exact absurd hstored (by decide)

end DictationClient.L3.ServiceSettings
