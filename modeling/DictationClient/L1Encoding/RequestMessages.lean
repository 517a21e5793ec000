import DictationClient.Core.WireFormat

/-!
# The request messages on the wire

The code protoc has generated for the messages the client sends, down to the fields
neither client sets. A `string` is a `std::string`, so any bytes; an enum is its
number; a message that is not set is `none`. Fields that a message does not have are
kept as unknown.

For each message:
* `WellFormed`: what it keeps as unknown are not fields it has; so does the parser
  (`wellFormed_of_internalParse`).
* `length_serialize`: `ByteSizeLong`, which adds the fields up in an order of its
  own, is the length of what `_InternalSerialize` writes. The length in front of a
  nested message is its `ByteSizeLong`.
* `reads_serialize`: `_InternalParse` on what a well-formed message was written to does
  what `MergeFrom` that message does, and fails exactly if a `string` is not UTF-8.
-/
namespace DictationClient.L1.Proto

open WireFormat

/-! ## `ConfigField` -/

structure ConfigField where
  key : Bytes := []
  value : Bytes := []
  unknownFields : List UnknownField := []
  deriving DecidableEq, Repr

namespace ConfigField

/-- The tags of its fields. -/
def tags : List UInt32 := [10, 18]

def addUnknown (m : ConfigField) (u : UnknownField) : ConfigField :=
  { m with unknownFields := m.unknownFields ++ [u] }

/-- mirrors cpp/libdictation-client/dictation_asr.pb.cc:2266-2279 -/
def mergeFrom (this source : ConfigField) : ConfigField where
  unknownFields := this.unknownFields ++ source.unknownFields
  key := if source.key ≠ [] then source.key else this.key
  value := if source.value ≠ [] then source.value else this.value

variable (w : WireFormat)

/-- mirrors cpp/libdictation-client/dictation_asr.pb.cc:2186-2218 -/
def internalSerialize (m : ConfigField) : Bytes :=
  w.writeString 1 m.key ++ w.writeString 2 m.value ++ w.serializeUnknownFields m.unknownFields

/-- mirrors cpp/libdictation-client/dictation_asr.pb.cc:2220-2249 -/
def byteSizeLong (m : ConfigField) : Nat :=
  w.stringSize m.key + w.stringSize m.value + w.computeUnknownFieldsSize m.unknownFields

/-- mirrors cpp/libdictation-client/dictation_asr.pb.cc:2144-2176 -/
def parseField (this : ConfigField) (tag : UInt32) (ptr : Bytes) : Option (ConfigField × Bytes) :=
  match tag >>> 3 with
  | 1 => if tag.toUInt8 = 10 then w.parseString ptr fun key => { this with key }
    else w.unusual tag ptr this.addUnknown
  | 2 => if tag.toUInt8 = 18 then w.parseString ptr fun value => { this with value }
    else w.unusual tag ptr this.addUnknown
  | _ => w.unusual tag ptr this.addUnknown

/-- mirrors cpp/libdictation-client/dictation_asr.pb.cc:2139-2184 -/
def internalParse (this : ConfigField) (ptr : Bytes) : Option ConfigField :=
  w.parseLoop (parseField w) this ptr

/-- Every `string` is UTF-8. -/
def validUTF8 (m : ConfigField) : Bool := w.verifyUTF8 m.key && w.verifyUTF8 m.value

/-- What it keeps as unknown are not fields it has. -/
structure WellFormed (m : ConfigField) : Prop where
  unknown : w.Foreign tags m.unknownFields

variable {w}

theorem parseField_foreign (this : ConfigField) {tag : UInt32} (h : tag ∉ tags) (ptr : Bytes) :
    this.parseField w tag ptr = w.unusual tag ptr this.addUnknown := by
  unfold parseField
  split
  all_goals first
    | exact if_neg fun hb => h (mem_of_number ‹tag >>> 3 = _› hb (by decide))
    | rfl

theorem length_serialize (m : ConfigField) : (m.internalSerialize w).length = m.byteSizeLong w := by
  rw [internalSerialize, List.length_append, List.length_append, length_writeString (by decide),
    length_writeString (by decide), length_serializeUnknownFields, byteSizeLong]

theorem reads_serialize (this : ConfigField) {source : ConfigField} (h : source.WellFormed w) :
    w.Reads (parseField w) this (source.internalSerialize w) (source.validUTF8 w) (this.mergeFrom source) :=
  (Reads.nil this)
    |>.string (.mk (·.key) fun m key => { m with key }) (fun _ => rfl) source.key
    |>.string (.mk (·.value) fun m value => { m with value }) (fun _ => rfl) source.value
    |>.unknownFields (.mk (·.unknownFields) fun m unknownFields => { m with unknownFields })
        (fun m _ h => m.parseField_foreign h) h.unknown

@[simp] theorem mergeFrom_empty (m : ConfigField) : mergeFrom {} m = m := by
  simp [mergeFrom]

theorem parse_serialize {m : ConfigField} (h : m.WellFormed w)
    (hs : (m.internalSerialize w).length < sizeLimit) :
    internalParse w {} (m.internalSerialize w) = if m.validUTF8 w then some m else none := by
  rw [internalParse, (reads_serialize {} h).parse hs, mergeFrom_empty]

theorem wellFormed_of_parseField {this m : ConfigField} {tag : UInt32} {ptr ptr' : Bytes}
    (hi : this.WellFormed w) (h : this.parseField w tag ptr = some (m, ptr')) : m.WellFormed w := by
  by_cases ht : tag ∈ tags
  · simp only [tags, List.mem_cons, List.not_mem_nil, or_false] at ht
    rcases ht with rfl | rfl
    · obtain ⟨key, rfl⟩ : ∃ key, m = { this with key } := eq_of_parseString h
      exact ⟨hi.unknown⟩
    · obtain ⟨value, rfl⟩ : ∃ value, m = { this with value } := eq_of_parseString h
      exact ⟨hi.unknown⟩
  · rw [parseField_foreign this ht] at h
    obtain ⟨u, rfl, hu, rfl⟩ := eq_of_unusual h
    exact ⟨hi.unknown.snoc ht hu⟩

theorem wellFormed_of_internalParse {this m : ConfigField} {ptr : Bytes} (hi : this.WellFormed w)
    (h : this.internalParse w ptr = some m) : m.WellFormed w :=
  parseLoop_invariant wellFormed_of_parseField hi h

end ConfigField

/-! ## `SpeechContext` -/

structure SpeechContext where
  phrases : List Bytes := []
  unknownFields : List UnknownField := []
  deriving DecidableEq, Repr

namespace SpeechContext

/-- The tags of its fields. -/
def tags : List UInt32 := [10]

def addUnknown (m : SpeechContext) (u : UnknownField) : SpeechContext :=
  { m with unknownFields := m.unknownFields ++ [u] }

/-- mirrors cpp/libdictation-client/dictation_asr.pb.cc:2033-2041 -/
def mergeFrom (this source : SpeechContext) : SpeechContext where
  unknownFields := this.unknownFields ++ source.unknownFields
  phrases := this.phrases ++ source.phrases

variable (w : WireFormat)

/-- A phrase is written even if it is empty.
mirrors cpp/libdictation-client/dictation_asr.pb.cc:1969-1991 -/
def internalSerialize (m : SpeechContext) : Bytes :=
  m.phrases.flatMap (w.writeDelimited 1) ++ w.serializeUnknownFields m.unknownFields

/-- mirrors cpp/libdictation-client/dictation_asr.pb.cc:1993-2015 -/
def byteSizeLong (m : SpeechContext) : Nat :=
  m.phrases.length + (m.phrases.map fun s => w.delimitedSize s.length).sum
    + w.computeUnknownFieldsSize m.unknownFields

/-- mirrors cpp/libdictation-client/dictation_asr.pb.cc:1931-1959 -/
def parseField (this : SpeechContext) (tag : UInt32) (ptr : Bytes) : Option (SpeechContext × Bytes) :=
  match tag >>> 3 with
  | 1 => if tag.toUInt8 = 10 then w.parseString ptr fun s => { this with phrases := this.phrases ++ [s] }
    else w.unusual tag ptr this.addUnknown
  | _ => w.unusual tag ptr this.addUnknown

/-- mirrors cpp/libdictation-client/dictation_asr.pb.cc:1926-1967 -/
def internalParse (this : SpeechContext) (ptr : Bytes) : Option SpeechContext :=
  w.parseLoop (parseField w) this ptr

def validUTF8 (m : SpeechContext) : Bool := m.phrases.all w.verifyUTF8

/-- What it keeps as unknown are not fields it has. -/
structure WellFormed (m : SpeechContext) : Prop where
  unknown : w.Foreign tags m.unknownFields

variable {w}

theorem parseField_foreign (this : SpeechContext) {tag : UInt32} (h : tag ∉ tags) (ptr : Bytes) :
    this.parseField w tag ptr = w.unusual tag ptr this.addUnknown := by
  unfold parseField
  split
  all_goals first
    | exact if_neg fun hb => h (mem_of_number ‹tag >>> 3 = _› hb (by decide))
    | rfl

theorem length_serialize (m : SpeechContext) : (m.internalSerialize w).length = m.byteSizeLong w := by
  rw [internalSerialize, List.length_append, length_serializeUnknownFields, byteSizeLong,
    length_repeated fun s _ => length_writeDelimited (by decide) s]

theorem reads_serialize (this : SpeechContext) {source : SpeechContext} (h : source.WellFormed w) :
    w.Reads (parseField w) this (source.internalSerialize w) (source.validUTF8 w) (this.mergeFrom source) :=
  (Reads.nil this)
    |>.repeated (.mk (·.phrases) fun m phrases => { m with phrases })
        (fun m s _ => (Reads.nil m).delimitedString (fun s => { m with phrases := m.phrases ++ [s] })
          (fun _ => rfl) s)
    |>.unknownFields (.mk (·.unknownFields) fun m unknownFields => { m with unknownFields })
        (fun m _ h => m.parseField_foreign h) h.unknown

@[simp] theorem mergeFrom_empty (m : SpeechContext) : mergeFrom {} m = m := by
  simp [mergeFrom]

theorem parse_serialize {m : SpeechContext} (h : m.WellFormed w)
    (hs : (m.internalSerialize w).length < sizeLimit) :
    internalParse w {} (m.internalSerialize w) = if m.validUTF8 w then some m else none := by
  rw [internalParse, (reads_serialize {} h).parse hs, mergeFrom_empty]

theorem wellFormed_of_parseField {this m : SpeechContext} {tag : UInt32} {ptr ptr' : Bytes}
    (hi : this.WellFormed w) (h : this.parseField w tag ptr = some (m, ptr')) : m.WellFormed w := by
  by_cases ht : tag ∈ tags
  · simp only [tags, List.mem_singleton] at ht
    subst ht
    obtain ⟨s, rfl⟩ : ∃ s, m = { this with phrases := this.phrases ++ [s] } := eq_of_parseString h
    exact ⟨hi.unknown⟩
  · rw [parseField_foreign this ht] at h
    obtain ⟨u, rfl, hu, rfl⟩ := eq_of_unusual h
    exact ⟨hi.unknown.snoc ht hu⟩

theorem wellFormed_of_internalParse {this m : SpeechContext} {ptr : Bytes} (hi : this.WellFormed w)
    (h : this.internalParse w ptr = some m) : m.WellFormed w :=
  parseLoop_invariant wellFormed_of_parseField hi h

end SpeechContext

/-! ## `RecognitionConfig` -/

structure RecognitionConfig where
  encoding : Int32 := 0
  sampleRateHertz : Int32 := 0
  languageCode : Bytes := []
  maxAlternatives : Int32 := 0
  profanityFilter : Bool := false
  speechContexts : List SpeechContext := []
  enableWordTimeOffsets : Bool := false
  enableAutomaticPunctuation : Bool := false
  configFields : List ConfigField := []
  model : Bytes := []
  useEnhanced : Bool := false
  unknownFields : List UnknownField := []
  deriving DecidableEq, Repr

namespace RecognitionConfig

/-- The tags of its fields. -/
def tags : List UInt32 := [8, 16, 26, 32, 40, 50, 64, 88, 98, 106, 112]

def addUnknown (m : RecognitionConfig) (u : UnknownField) : RecognitionConfig :=
  { m with unknownFields := m.unknownFields ++ [u] }

/-- mirrors cpp/libdictation-client/dictation_asr.pb.cc:1796-1832 -/
def mergeFrom (this source : RecognitionConfig) : RecognitionConfig where
  unknownFields := this.unknownFields ++ source.unknownFields
  speechContexts := this.speechContexts ++ source.speechContexts
  configFields := this.configFields ++ source.configFields
  languageCode := if source.languageCode ≠ [] then source.languageCode else this.languageCode
  model := if source.model ≠ [] then source.model else this.model
  encoding := if source.encoding ≠ 0 then source.encoding else this.encoding
  sampleRateHertz := if source.sampleRateHertz ≠ 0 then source.sampleRateHertz else this.sampleRateHertz
  maxAlternatives := if source.maxAlternatives ≠ 0 then source.maxAlternatives else this.maxAlternatives
  profanityFilter := if source.profanityFilter then source.profanityFilter else this.profanityFilter
  enableWordTimeOffsets :=
    if source.enableWordTimeOffsets then source.enableWordTimeOffsets else this.enableWordTimeOffsets
  enableAutomaticPunctuation :=
    if source.enableAutomaticPunctuation then source.enableAutomaticPunctuation
    else this.enableAutomaticPunctuation
  useEnhanced := if source.useEnhanced then source.useEnhanced else this.useEnhanced

variable (w : WireFormat)

/-- mirrors cpp/libdictation-client/dictation_asr.pb.cc:1603-1694 -/
def internalSerialize (m : RecognitionConfig) : Bytes :=
  w.writeInt32 1 m.encoding
    ++ w.writeInt32 2 m.sampleRateHertz
    ++ w.writeString 3 m.languageCode
    ++ w.writeInt32 4 m.maxAlternatives
    ++ w.writeBool 5 m.profanityFilter
    ++ m.speechContexts.flatMap (fun c => w.writeMessage 6 (c.byteSizeLong w) (c.internalSerialize w))
    ++ w.writeBool 8 m.enableWordTimeOffsets
    ++ w.writeBool 11 m.enableAutomaticPunctuation
    ++ m.configFields.flatMap (fun f => w.writeMessage 12 (f.byteSizeLong w) (f.internalSerialize w))
    ++ w.writeString 13 m.model
    ++ w.writeBool 14 m.useEnhanced
    ++ w.serializeUnknownFields m.unknownFields

/-- mirrors cpp/libdictation-client/dictation_asr.pb.cc:1696-1779 -/
def byteSizeLong (m : RecognitionConfig) : Nat :=
  m.speechContexts.length + (m.speechContexts.map fun c => w.delimitedSize (c.byteSizeLong w)).sum
    + (m.configFields.length + (m.configFields.map fun f => w.delimitedSize (f.byteSizeLong w)).sum)
    + w.stringSize m.languageCode
    + w.stringSize m.model
    + w.int32Size m.encoding
    + w.int32Size m.sampleRateHertz
    + w.int32Size m.maxAlternatives
    + boolSize m.profanityFilter
    + boolSize m.enableWordTimeOffsets
    + boolSize m.enableAutomaticPunctuation
    + boolSize m.useEnhanced
    + w.computeUnknownFieldsSize m.unknownFields

/-- mirrors cpp/libdictation-client/dictation_asr.pb.cc:1487-1593 -/
def parseField (this : RecognitionConfig) (tag : UInt32) (ptr : Bytes) :
    Option (RecognitionConfig × Bytes) :=
  match tag >>> 3 with
  | 1 => if tag.toUInt8 = 8 then w.parseInt32 ptr fun encoding => { this with encoding }
    else w.unusual tag ptr this.addUnknown
  | 2 => if tag.toUInt8 = 16 then w.parseInt32 ptr fun sampleRateHertz => { this with sampleRateHertz }
    else w.unusual tag ptr this.addUnknown
  | 3 => if tag.toUInt8 = 26 then w.parseString ptr fun languageCode => { this with languageCode }
    else w.unusual tag ptr this.addUnknown
  | 4 => if tag.toUInt8 = 32 then w.parseInt32 ptr fun maxAlternatives => { this with maxAlternatives }
    else w.unusual tag ptr this.addUnknown
  | 5 => if tag.toUInt8 = 40 then w.parseBool ptr fun profanityFilter => { this with profanityFilter }
    else w.unusual tag ptr this.addUnknown
  | 6 =>
    if tag.toUInt8 = 50 then
      w.parseMessage ptr (SpeechContext.internalParse w {}) fun c =>
        { this with speechContexts := this.speechContexts ++ [c] }
    else w.unusual tag ptr this.addUnknown
  | 8 =>
    if tag.toUInt8 = 64 then
      w.parseBool ptr fun enableWordTimeOffsets => { this with enableWordTimeOffsets }
    else w.unusual tag ptr this.addUnknown
  | 11 =>
    if tag.toUInt8 = 88 then
      w.parseBool ptr fun enableAutomaticPunctuation => { this with enableAutomaticPunctuation }
    else w.unusual tag ptr this.addUnknown
  | 12 =>
    if tag.toUInt8 = 98 then
      w.parseMessage ptr (ConfigField.internalParse w {}) fun f =>
        { this with configFields := this.configFields ++ [f] }
    else w.unusual tag ptr this.addUnknown
  | 13 => if tag.toUInt8 = 106 then w.parseString ptr fun model => { this with model }
    else w.unusual tag ptr this.addUnknown
  | 14 => if tag.toUInt8 = 112 then w.parseBool ptr fun useEnhanced => { this with useEnhanced }
    else w.unusual tag ptr this.addUnknown
  | _ => w.unusual tag ptr this.addUnknown

/-- mirrors cpp/libdictation-client/dictation_asr.pb.cc:1482-1601 -/
def internalParse (this : RecognitionConfig) (ptr : Bytes) : Option RecognitionConfig :=
  w.parseLoop (parseField w) this ptr

def validUTF8 (m : RecognitionConfig) : Bool :=
  w.verifyUTF8 m.languageCode && m.speechContexts.all (·.validUTF8 w) && m.configFields.all (·.validUTF8 w)
    && w.verifyUTF8 m.model

/-- What it keeps as unknown are not fields it has. -/
structure WellFormed (m : RecognitionConfig) : Prop where
  unknown : w.Foreign tags m.unknownFields
  speechContexts : ∀ c ∈ m.speechContexts, c.WellFormed w
  configFields : ∀ f ∈ m.configFields, f.WellFormed w

variable {w}

theorem parseField_foreign (this : RecognitionConfig) {tag : UInt32} (h : tag ∉ tags) (ptr : Bytes) :
    this.parseField w tag ptr = w.unusual tag ptr this.addUnknown := by
  unfold parseField
  split
  all_goals first
    | exact if_neg fun hb => h (mem_of_number ‹tag >>> 3 = _› hb (by decide))
    | rfl

theorem length_serialize (m : RecognitionConfig) : (m.internalSerialize w).length = m.byteSizeLong w := by
  have hcontexts : (m.speechContexts.flatMap fun c =>
      w.writeMessage 6 (c.byteSizeLong w) (c.internalSerialize w)).length =
        m.speechContexts.length + (m.speechContexts.map fun c => w.delimitedSize (c.byteSizeLong w)).sum :=
    length_repeated fun c _ => length_writeMessage (by decide) c.length_serialize
  have hfields : (m.configFields.flatMap fun f =>
      w.writeMessage 12 (f.byteSizeLong w) (f.internalSerialize w)).length =
        m.configFields.length + (m.configFields.map fun f => w.delimitedSize (f.byteSizeLong w)).sum :=
    length_repeated fun f _ => length_writeMessage (by decide) f.length_serialize
  rw [internalSerialize, byteSizeLong]
  simp (disch := decide) only [List.length_append, length_writeInt32, length_writeBool, length_writeString,
    length_serializeUnknownFields, hcontexts, hfields]
  omega

theorem reads_serialize (this : RecognitionConfig) {source : RecognitionConfig} (h : source.WellFormed w) :
    w.Reads (parseField w) this (source.internalSerialize w) (source.validUTF8 w) (this.mergeFrom source) :=
  (Reads.nil this)
    |>.int32 (.mk (·.encoding) fun m encoding => { m with encoding }) (fun _ => rfl) source.encoding
    |>.int32 (.mk (·.sampleRateHertz) fun m sampleRateHertz => { m with sampleRateHertz }) (fun _ => rfl)
        source.sampleRateHertz
    |>.string (.mk (·.languageCode) fun m languageCode => { m with languageCode }) (fun _ => rfl)
        source.languageCode
    |>.int32 (.mk (·.maxAlternatives) fun m maxAlternatives => { m with maxAlternatives }) (fun _ => rfl)
        source.maxAlternatives
    |>.bool (.mk (·.profanityFilter) fun m profanityFilter => { m with profanityFilter }) (fun _ => rfl)
        source.profanityFilter
    |>.repeated (.mk (·.speechContexts) fun m speechContexts => { m with speechContexts })
        (fun m c hc => (Reads.nil m).message (fun c => { m with speechContexts := m.speechContexts ++ [c] })
          (fun _ => rfl) c.length_serialize (SpeechContext.parse_serialize (h.speechContexts c hc)))
    |>.bool (.mk (·.enableWordTimeOffsets) fun m enableWordTimeOffsets => { m with enableWordTimeOffsets })
        (fun _ => rfl) source.enableWordTimeOffsets
    |>.bool (.mk (·.enableAutomaticPunctuation)
        fun m enableAutomaticPunctuation => { m with enableAutomaticPunctuation })
        (fun _ => rfl) source.enableAutomaticPunctuation
    |>.repeated (.mk (·.configFields) fun m configFields => { m with configFields })
        (fun m f hf => (Reads.nil m).message (fun f => { m with configFields := m.configFields ++ [f] })
          (fun _ => rfl) f.length_serialize (ConfigField.parse_serialize (h.configFields f hf)))
    |>.string (.mk (·.model) fun m model => { m with model }) (fun _ => rfl) source.model
    |>.bool (.mk (·.useEnhanced) fun m useEnhanced => { m with useEnhanced }) (fun _ => rfl)
        source.useEnhanced
    |>.unknownFields (.mk (·.unknownFields) fun m unknownFields => { m with unknownFields })
        (fun m _ h => m.parseField_foreign h) h.unknown

@[simp] theorem mergeFrom_empty (m : RecognitionConfig) : mergeFrom {} m = m := by
  simp [mergeFrom]

theorem wellFormed_of_parseField {this m : RecognitionConfig} {tag : UInt32} {ptr ptr' : Bytes}
    (hi : this.WellFormed w) (h : this.parseField w tag ptr = some (m, ptr')) : m.WellFormed w := by
  by_cases ht : tag ∈ tags
  · simp only [tags, List.mem_cons, List.not_mem_nil, or_false] at ht
    rcases ht with rfl | rfl | rfl | rfl | rfl | rfl | rfl | rfl | rfl | rfl | rfl
    · obtain ⟨encoding, rfl⟩ : ∃ encoding, m = { this with encoding } := eq_of_parseInt32 h
      exact ⟨hi.unknown, hi.speechContexts, hi.configFields⟩
    · obtain ⟨sampleRateHertz, rfl⟩ : ∃ sampleRateHertz, m = { this with sampleRateHertz } :=
        eq_of_parseInt32 h
      exact ⟨hi.unknown, hi.speechContexts, hi.configFields⟩
    · obtain ⟨languageCode, rfl⟩ : ∃ languageCode, m = { this with languageCode } := eq_of_parseString h
      exact ⟨hi.unknown, hi.speechContexts, hi.configFields⟩
    · obtain ⟨maxAlternatives, rfl⟩ : ∃ maxAlternatives, m = { this with maxAlternatives } :=
        eq_of_parseInt32 h
      exact ⟨hi.unknown, hi.speechContexts, hi.configFields⟩
    · obtain ⟨profanityFilter, rfl⟩ : ∃ profanityFilter, m = { this with profanityFilter } :=
        eq_of_parseBool h
      exact ⟨hi.unknown, hi.speechContexts, hi.configFields⟩
    · obtain ⟨body, c, hc, rfl⟩ : ∃ body c, SpeechContext.internalParse w {} body = some c ∧
          m = { this with speechContexts := this.speechContexts ++ [c] } := eq_of_parseMessage h
      exact ⟨hi.unknown, forall_mem_snoc hi.speechContexts
        (SpeechContext.wellFormed_of_internalParse ⟨foreign_nil _⟩ hc), hi.configFields⟩
    · obtain ⟨enableWordTimeOffsets, rfl⟩ : ∃ enableWordTimeOffsets,
        m = { this with enableWordTimeOffsets } := eq_of_parseBool h
      exact ⟨hi.unknown, hi.speechContexts, hi.configFields⟩
    · obtain ⟨enableAutomaticPunctuation, rfl⟩ :
        ∃ enableAutomaticPunctuation, m = { this with enableAutomaticPunctuation } := eq_of_parseBool h
      exact ⟨hi.unknown, hi.speechContexts, hi.configFields⟩
    · obtain ⟨body, f, hf, rfl⟩ : ∃ body f, ConfigField.internalParse w {} body = some f ∧
          m = { this with configFields := this.configFields ++ [f] } := eq_of_parseMessage h
      exact ⟨hi.unknown, hi.speechContexts, forall_mem_snoc hi.configFields
        (ConfigField.wellFormed_of_internalParse ⟨foreign_nil _⟩ hf)⟩
    · obtain ⟨model, rfl⟩ : ∃ model, m = { this with model } := eq_of_parseString h
      exact ⟨hi.unknown, hi.speechContexts, hi.configFields⟩
    · obtain ⟨useEnhanced, rfl⟩ : ∃ useEnhanced, m = { this with useEnhanced } := eq_of_parseBool h
      exact ⟨hi.unknown, hi.speechContexts, hi.configFields⟩
  · rw [parseField_foreign this ht] at h
    obtain ⟨u, rfl, hu, rfl⟩ := eq_of_unusual h
    exact ⟨hi.unknown.snoc ht hu, hi.speechContexts, hi.configFields⟩

theorem wellFormed_of_internalParse {this m : RecognitionConfig} {ptr : Bytes} (hi : this.WellFormed w)
    (h : this.internalParse w ptr = some m) : m.WellFormed w :=
  parseLoop_invariant wellFormed_of_parseField hi h

theorem wellFormed_getD {c? : Option RecognitionConfig} (h : ∀ c ∈ c?, c.WellFormed w) :
    (c?.getD {}).WellFormed w := by
  cases c? with
  | none => exact ⟨foreign_nil _, by simp, by simp⟩
  | some c => exact h c rfl

end RecognitionConfig

/-! ## `StreamingRecognitionConfig` -/

structure StreamingRecognitionConfig where
  config : Option RecognitionConfig := none
  singleUtterance : Bool := false
  interimResults : Bool := false
  unknownFields : List UnknownField := []
  deriving DecidableEq, Repr

namespace StreamingRecognitionConfig

/-- The tags of its fields. -/
def tags : List UInt32 := [10, 16, 24]

def addUnknown (m : StreamingRecognitionConfig) (u : UnknownField) : StreamingRecognitionConfig :=
  { m with unknownFields := m.unknownFields ++ [u] }

/-- mirrors cpp/libdictation-client/dictation_asr.pb.cc:1347-1364 -/
def mergeFrom (this source : StreamingRecognitionConfig) : StreamingRecognitionConfig where
  unknownFields := this.unknownFields ++ source.unknownFields
  config := source.config.elim this.config fun c => some ((this.config.getD {}).mergeFrom c)
  singleUtterance := if source.singleUtterance then source.singleUtterance else this.singleUtterance
  interimResults := if source.interimResults then source.interimResults else this.interimResults

variable (w : WireFormat)

/-- mirrors cpp/libdictation-client/dictation_asr.pb.cc:1264-1296 -/
def internalSerialize (m : StreamingRecognitionConfig) : Bytes :=
  m.config.elim [] (fun c => w.writeMessage 1 (c.byteSizeLong w) (c.internalSerialize w))
    ++ w.writeBool 2 m.singleUtterance
    ++ w.writeBool 3 m.interimResults
    ++ w.serializeUnknownFields m.unknownFields

/-- mirrors cpp/libdictation-client/dictation_asr.pb.cc:1298-1330 -/
def byteSizeLong (m : StreamingRecognitionConfig) : Nat :=
  m.config.elim 0 (fun c => 1 + w.delimitedSize (c.byteSizeLong w))
    + boolSize m.singleUtterance
    + boolSize m.interimResults
    + w.computeUnknownFieldsSize m.unknownFields

/-- mirrors cpp/libdictation-client/dictation_asr.pb.cc:1219-1254 -/
def parseField (this : StreamingRecognitionConfig) (tag : UInt32) (ptr : Bytes) :
    Option (StreamingRecognitionConfig × Bytes) :=
  match tag >>> 3 with
  | 1 =>
    if tag.toUInt8 = 10 then
      w.parseMessage ptr ((this.config.getD {}).internalParse w) fun c => { this with config := some c }
    else w.unusual tag ptr this.addUnknown
  | 2 => if tag.toUInt8 = 16 then w.parseBool ptr fun singleUtterance => { this with singleUtterance }
    else w.unusual tag ptr this.addUnknown
  | 3 => if tag.toUInt8 = 24 then w.parseBool ptr fun interimResults => { this with interimResults }
    else w.unusual tag ptr this.addUnknown
  | _ => w.unusual tag ptr this.addUnknown

/-- mirrors cpp/libdictation-client/dictation_asr.pb.cc:1214-1262 -/
def internalParse (this : StreamingRecognitionConfig) (ptr : Bytes) : Option StreamingRecognitionConfig :=
  w.parseLoop (parseField w) this ptr

def validUTF8 (m : StreamingRecognitionConfig) : Bool := m.config.all (·.validUTF8 w)

/-- What it keeps as unknown are not fields it has. -/
structure WellFormed (m : StreamingRecognitionConfig) : Prop where
  unknown : w.Foreign tags m.unknownFields
  config : ∀ c ∈ m.config, c.WellFormed w

variable {w}

theorem parseField_foreign (this : StreamingRecognitionConfig) {tag : UInt32} (h : tag ∉ tags)
    (ptr : Bytes) :
    this.parseField w tag ptr = w.unusual tag ptr this.addUnknown := by
  unfold parseField
  split
  all_goals first
    | exact if_neg fun hb => h (mem_of_number ‹tag >>> 3 = _› hb (by decide))
    | rfl

theorem length_serialize (m : StreamingRecognitionConfig) :
    (m.internalSerialize w).length = m.byteSizeLong w := by
  have hconfig :
      (m.config.elim [] fun c => w.writeMessage 1 (c.byteSizeLong w) (c.internalSerialize w)).length =
      m.config.elim 0 fun c => 1 + w.delimitedSize (c.byteSizeLong w) :=
    length_optional fun c _ => length_writeMessage (by decide) c.length_serialize
  rw [internalSerialize, byteSizeLong]
  simp (disch := decide) only [List.length_append, length_writeBool, length_serializeUnknownFields, hconfig]

theorem reads_serialize (this : StreamingRecognitionConfig) {source : StreamingRecognitionConfig}
    (h : source.WellFormed w) :
    w.Reads (parseField w) this (source.internalSerialize w) (source.validUTF8 w) (this.mergeFrom source) :=
  (Reads.nil this)
    |>.optional (.mk (·.config) fun m config => { m with config })
        (fun c hc => (Reads.nil this).message (fun c => { this with config := some c }) (fun _ => rfl)
          c.length_serialize ((this.config.getD {}).reads_serialize (h.config c hc)).parse)
    |>.bool (.mk (·.singleUtterance) fun m singleUtterance => { m with singleUtterance }) (fun _ => rfl)
        source.singleUtterance
    |>.bool (.mk (·.interimResults) fun m interimResults => { m with interimResults }) (fun _ => rfl)
        source.interimResults
    |>.unknownFields (.mk (·.unknownFields) fun m unknownFields => { m with unknownFields })
        (fun m _ h => m.parseField_foreign h) h.unknown

@[simp] theorem mergeFrom_empty (m : StreamingRecognitionConfig) : mergeFrom {} m = m := by
  cases m with
  | mk config => cases config <;> simp [mergeFrom]

theorem wellFormed_of_parseField {this m : StreamingRecognitionConfig} {tag : UInt32} {ptr ptr' : Bytes}
    (hi : this.WellFormed w) (h : this.parseField w tag ptr = some (m, ptr')) : m.WellFormed w := by
  by_cases ht : tag ∈ tags
  · simp only [tags, List.mem_cons, List.not_mem_nil, or_false] at ht
    rcases ht with rfl | rfl | rfl
    · obtain ⟨body, c, hc, rfl⟩ : ∃ body c, (this.config.getD {}).internalParse w body = some c ∧
          m = { this with config := some c } := eq_of_parseMessage h
      refine ⟨hi.unknown, fun c' hc' => ?_⟩
      cases hc'
      exact RecognitionConfig.wellFormed_of_internalParse (RecognitionConfig.wellFormed_getD hi.config) hc
    · obtain ⟨singleUtterance, rfl⟩ : ∃ singleUtterance, m = { this with singleUtterance } :=
        eq_of_parseBool h
      exact ⟨hi.unknown, hi.config⟩
    · obtain ⟨interimResults, rfl⟩ : ∃ interimResults, m = { this with interimResults } := eq_of_parseBool h
      exact ⟨hi.unknown, hi.config⟩
  · rw [parseField_foreign this ht] at h
    obtain ⟨u, rfl, hu, rfl⟩ := eq_of_unusual h
    exact ⟨hi.unknown.snoc ht hu, hi.config⟩

theorem wellFormed_of_internalParse {this m : StreamingRecognitionConfig} {ptr : Bytes}
    (hi : this.WellFormed w)
    (h : this.internalParse w ptr = some m) : m.WellFormed w :=
  parseLoop_invariant wellFormed_of_parseField hi h

end StreamingRecognitionConfig

/-! ## `StreamingRecognizeRequest` -/

/-- `oneof streaming_request`. -/
inductive StreamingRequest where
  | streamingConfig (c : StreamingRecognitionConfig)
  | audioContent (data : Bytes)
  | notSet
  deriving DecidableEq, Repr

structure StreamingRecognizeRequest where
  streamingRequest : StreamingRequest := .notSet
  unknownFields : List UnknownField := []
  deriving DecidableEq, Repr

namespace StreamingRecognizeRequest

/-- The tags of its fields. -/
def tags : List UInt32 := [10, 18]

def addUnknown (m : StreamingRecognizeRequest) (u : UnknownField) : StreamingRecognizeRequest :=
  { m with unknownFields := m.unknownFields ++ [u] }

/-- The message that is there, or a new one. -/
def mutableStreamingConfig (m : StreamingRecognizeRequest) : StreamingRecognitionConfig :=
  match m.streamingRequest with
  | .streamingConfig c => c
  | _ => {}

/-- mirrors cpp/libdictation-client/dictation_asr.pb.cc:1086-1106 -/
def mergeFrom (this source : StreamingRecognizeRequest) : StreamingRecognizeRequest where
  unknownFields := this.unknownFields ++ source.unknownFields
  streamingRequest :=
    match source.streamingRequest with
    | .streamingConfig c => .streamingConfig (this.mutableStreamingConfig.mergeFrom c)
    | .audioContent data => .audioContent data
    | .notSet => this.streamingRequest

variable (w : WireFormat)

/-- mirrors cpp/libdictation-client/dictation_asr.pb.cc:1007-1033 -/
def internalSerialize (m : StreamingRecognizeRequest) : Bytes :=
  (match m.streamingRequest with
    | .streamingConfig c => w.writeMessage 1 (c.byteSizeLong w) (c.internalSerialize w)
    | .audioContent data => w.writeDelimited 2 data
    | .notSet => [])
    ++ w.serializeUnknownFields m.unknownFields

/-- mirrors cpp/libdictation-client/dictation_asr.pb.cc:1035-1069 -/
def byteSizeLong (m : StreamingRecognizeRequest) : Nat :=
  (match m.streamingRequest with
    | .streamingConfig c => 1 + w.delimitedSize (c.byteSizeLong w)
    | .audioContent data => 1 + w.delimitedSize data.length
    | .notSet => 0)
    + w.computeUnknownFieldsSize m.unknownFields

/-- mirrors cpp/libdictation-client/dictation_asr.pb.cc:968-997 -/
def parseField (this : StreamingRecognizeRequest) (tag : UInt32) (ptr : Bytes) :
    Option (StreamingRecognizeRequest × Bytes) :=
  match tag >>> 3 with
  | 1 =>
    if tag.toUInt8 = 10 then
      w.parseMessage ptr (this.mutableStreamingConfig.internalParse w) fun c =>
        { this with streamingRequest := .streamingConfig c }
    else w.unusual tag ptr this.addUnknown
  | 2 =>
    if tag.toUInt8 = 18 then
      w.parseBytes ptr fun data => { this with streamingRequest := .audioContent data }
    else w.unusual tag ptr this.addUnknown
  | _ => w.unusual tag ptr this.addUnknown

/-- mirrors cpp/libdictation-client/dictation_asr.pb.cc:963-1005 -/
def internalParse (this : StreamingRecognizeRequest) (ptr : Bytes) : Option StreamingRecognizeRequest :=
  w.parseLoop (parseField w) this ptr

def validUTF8 (m : StreamingRecognizeRequest) : Bool :=
  match m.streamingRequest with
  | .streamingConfig c => c.validUTF8 w
  | _ => true

/-- What it keeps as unknown are not fields it has. -/
structure WellFormed (m : StreamingRecognizeRequest) : Prop where
  unknown : w.Foreign tags m.unknownFields
  streamingConfig : ∀ c, m.streamingRequest = .streamingConfig c → c.WellFormed w

variable {w}

theorem parseField_foreign (this : StreamingRecognizeRequest) {tag : UInt32} (h : tag ∉ tags)
    (ptr : Bytes) :
    this.parseField w tag ptr = w.unusual tag ptr this.addUnknown := by
  unfold parseField
  split
  all_goals first
    | exact if_neg fun hb => h (mem_of_number ‹tag >>> 3 = _› hb (by decide))
    | rfl

theorem length_serialize (m : StreamingRecognizeRequest) :
    (m.internalSerialize w).length = m.byteSizeLong w := by
  rw [internalSerialize, byteSizeLong, List.length_append, length_serializeUnknownFields]
  congr 1
  cases m.streamingRequest with
  | streamingConfig c => exact length_writeMessage (by decide) c.length_serialize
  | audioContent data => exact length_writeDelimited (by decide) data
  | notSet => rfl

theorem reads_serialize (this : StreamingRecognizeRequest) {source : StreamingRecognizeRequest}
    (h : source.WellFormed w) :
    w.Reads (parseField w) this (source.internalSerialize w) (source.validUTF8 w)
    (this.mergeFrom source) := by
  obtain ⟨streamingRequest, unknownFields⟩ := source
  have hunknown {bs : Bytes} {ok : Bool} {m : StreamingRecognizeRequest}
      (hbs : w.Reads (parseField w) this bs ok m) :
      w.Reads (parseField w) this (bs ++ w.serializeUnknownFields unknownFields) ok
        { m with unknownFields := m.unknownFields ++ unknownFields } :=
    hbs.unknownFields (.mk (·.unknownFields) fun m unknownFields => { m with unknownFields })
      (fun m _ h => m.parseField_foreign h) h.unknown
  cases streamingRequest with
  | streamingConfig c =>
    exact hunknown ((Reads.nil this).message (fun c => { this with streamingRequest := .streamingConfig c })
      (fun _ => rfl) c.length_serialize
      (this.mutableStreamingConfig.reads_serialize (h.streamingConfig c rfl)).parse)
  | audioContent data =>
    exact hunknown ((Reads.nil this).bytes (fun data =>
      { this with streamingRequest := .audioContent data })
      (fun _ => rfl) data)
  | notSet => exact hunknown (Reads.nil this)

theorem wellFormed_mutableStreamingConfig {m : StreamingRecognizeRequest} (h : m.WellFormed w) :
    m.mutableStreamingConfig.WellFormed w := by
  unfold mutableStreamingConfig
  split
  · rename_i c hc; exact h.streamingConfig c hc
  · exact ⟨foreign_nil _, by simp⟩

theorem wellFormed_of_parseField {this m : StreamingRecognizeRequest} {tag : UInt32} {ptr ptr' : Bytes}
    (hi : this.WellFormed w) (h : this.parseField w tag ptr = some (m, ptr')) : m.WellFormed w := by
  by_cases ht : tag ∈ tags
  · simp only [tags, List.mem_cons, List.not_mem_nil, or_false] at ht
    rcases ht with rfl | rfl
    · obtain ⟨body, c, hc, rfl⟩ : ∃ body c, this.mutableStreamingConfig.internalParse w body = some c ∧
          m = { this with streamingRequest := .streamingConfig c } := eq_of_parseMessage h
      refine ⟨hi.unknown, fun c' hc' => ?_⟩
      cases hc'
      exact StreamingRecognitionConfig.wellFormed_of_internalParse (wellFormed_mutableStreamingConfig hi) hc
    · obtain ⟨data, rfl⟩ : ∃ data, m = { this with streamingRequest := .audioContent data } :=
        eq_of_parseBytes h
      exact ⟨hi.unknown, fun c hc => by cases hc⟩
  · rw [parseField_foreign this ht] at h
    obtain ⟨u, rfl, hu, rfl⟩ := eq_of_unusual h
    exact ⟨hi.unknown.snoc ht hu, hi.streamingConfig⟩

theorem wellFormed_of_internalParse {this m : StreamingRecognizeRequest} {ptr : Bytes}
    (hi : this.WellFormed w) (h : this.internalParse w ptr = some m) : m.WellFormed w :=
  parseLoop_invariant wellFormed_of_parseField hi h

end StreamingRecognizeRequest

/-! ## `RecognitionAudio` -/

/-- `oneof audio_source`. -/
inductive AudioSource where
  | content (data : Bytes)
  | uri (s : Bytes)
  | notSet
  deriving DecidableEq, Repr

structure RecognitionAudio where
  audioSource : AudioSource := .notSet
  unknownFields : List UnknownField := []
  deriving DecidableEq, Repr

namespace RecognitionAudio

/-- The tags of its fields. -/
def tags : List UInt32 := [10, 18]

def addUnknown (m : RecognitionAudio) (u : UnknownField) : RecognitionAudio :=
  { m with unknownFields := m.unknownFields ++ [u] }

/-- mirrors cpp/libdictation-client/dictation_asr.pb.cc:2527-2547 -/
def mergeFrom (this source : RecognitionAudio) : RecognitionAudio where
  unknownFields := this.unknownFields ++ source.unknownFields
  audioSource :=
    match source.audioSource with
    | .content data => .content data
    | .uri s => .uri s
    | .notSet => this.audioSource

variable (w : WireFormat)

/-- mirrors cpp/libdictation-client/dictation_asr.pb.cc:2446-2474 -/
def internalSerialize (m : RecognitionAudio) : Bytes :=
  (match m.audioSource with
    | .content data => w.writeDelimited 1 data
    | .uri s => w.writeDelimited 2 s
    | .notSet => [])
    ++ w.serializeUnknownFields m.unknownFields

/-- mirrors cpp/libdictation-client/dictation_asr.pb.cc:2476-2510 -/
def byteSizeLong (m : RecognitionAudio) : Nat :=
  (match m.audioSource with
    | .content data => 1 + w.delimitedSize data.length
    | .uri s => 1 + w.delimitedSize s.length
    | .notSet => 0)
    + w.computeUnknownFieldsSize m.unknownFields

/-- mirrors cpp/libdictation-client/dictation_asr.pb.cc:2405-2436 -/
def parseField (this : RecognitionAudio) (tag : UInt32) (ptr : Bytes) : Option (RecognitionAudio × Bytes) :=
  match tag >>> 3 with
  | 1 => if tag.toUInt8 = 10 then w.parseBytes ptr fun data => { this with audioSource := .content data }
    else w.unusual tag ptr this.addUnknown
  | 2 => if tag.toUInt8 = 18 then w.parseString ptr fun s => { this with audioSource := .uri s }
    else w.unusual tag ptr this.addUnknown
  | _ => w.unusual tag ptr this.addUnknown

/-- mirrors cpp/libdictation-client/dictation_asr.pb.cc:2400-2444 -/
def internalParse (this : RecognitionAudio) (ptr : Bytes) : Option RecognitionAudio :=
  w.parseLoop (parseField w) this ptr

def validUTF8 (m : RecognitionAudio) : Bool :=
  match m.audioSource with
  | .uri s => w.verifyUTF8 s
  | _ => true

/-- What it keeps as unknown are not fields it has. -/
structure WellFormed (m : RecognitionAudio) : Prop where
  unknown : w.Foreign tags m.unknownFields

variable {w}

theorem parseField_foreign (this : RecognitionAudio) {tag : UInt32} (h : tag ∉ tags) (ptr : Bytes) :
    this.parseField w tag ptr = w.unusual tag ptr this.addUnknown := by
  unfold parseField
  split
  all_goals first
    | exact if_neg fun hb => h (mem_of_number ‹tag >>> 3 = _› hb (by decide))
    | rfl

theorem length_serialize (m : RecognitionAudio) : (m.internalSerialize w).length = m.byteSizeLong w := by
  rw [internalSerialize, byteSizeLong, List.length_append, length_serializeUnknownFields]
  congr 1
  cases m.audioSource with
  | content data => exact length_writeDelimited (by decide) data
  | uri s => exact length_writeDelimited (by decide) s
  | notSet => rfl

theorem reads_serialize (this : RecognitionAudio) {source : RecognitionAudio} (h : source.WellFormed w) :
    w.Reads (parseField w) this (source.internalSerialize w) (source.validUTF8 w)
    (this.mergeFrom source) := by
  obtain ⟨audioSource, unknownFields⟩ := source
  have hunknown {bs : Bytes} {ok : Bool} {m : RecognitionAudio}
      (hbs : w.Reads (parseField w) this bs ok m) :
      w.Reads (parseField w) this (bs ++ w.serializeUnknownFields unknownFields) ok
        { m with unknownFields := m.unknownFields ++ unknownFields } :=
    hbs.unknownFields (.mk (·.unknownFields) fun m unknownFields => { m with unknownFields })
      (fun m _ h => m.parseField_foreign h) h.unknown
  cases audioSource with
  | content data =>
    exact hunknown ((Reads.nil this).bytes (fun data => { this with audioSource := .content data })
      (fun _ => rfl) data)
  | uri s =>
    exact hunknown ((Reads.nil this).delimitedString (fun s => { this with audioSource := .uri s })
      (fun _ => rfl) s)
  | notSet => exact hunknown (Reads.nil this)

theorem wellFormed_getD {a? : Option RecognitionAudio} (h : ∀ a ∈ a?, a.WellFormed w) :
    (a?.getD {}).WellFormed w := by
  cases a? with
  | none => exact ⟨foreign_nil _⟩
  | some a => exact h a rfl

theorem wellFormed_of_parseField {this m : RecognitionAudio} {tag : UInt32} {ptr ptr' : Bytes}
    (hi : this.WellFormed w) (h : this.parseField w tag ptr = some (m, ptr')) : m.WellFormed w := by
  by_cases ht : tag ∈ tags
  · simp only [tags, List.mem_cons, List.not_mem_nil, or_false] at ht
    rcases ht with rfl | rfl
    · obtain ⟨data, rfl⟩ : ∃ data, m = { this with audioSource := .content data } := eq_of_parseBytes h
      exact ⟨hi.unknown⟩
    · obtain ⟨s, rfl⟩ : ∃ s, m = { this with audioSource := .uri s } := eq_of_parseString h
      exact ⟨hi.unknown⟩
  · rw [parseField_foreign this ht] at h
    obtain ⟨u, rfl, hu, rfl⟩ := eq_of_unusual h
    exact ⟨hi.unknown.snoc ht hu⟩

theorem wellFormed_of_internalParse {this m : RecognitionAudio} {ptr : Bytes} (hi : this.WellFormed w)
    (h : this.internalParse w ptr = some m) : m.WellFormed w :=
  parseLoop_invariant wellFormed_of_parseField hi h

end RecognitionAudio

/-! ## `RecognizeRequest` -/

structure RecognizeRequest where
  config : Option RecognitionConfig := none
  audio : Option RecognitionAudio := none
  unknownFields : List UnknownField := []
  deriving DecidableEq, Repr

namespace RecognizeRequest

/-- The tags of its fields. -/
def tags : List UInt32 := [10, 18]

def addUnknown (m : RecognizeRequest) (u : UnknownField) : RecognizeRequest :=
  { m with unknownFields := m.unknownFields ++ [u] }

/-- mirrors cpp/libdictation-client/dictation_asr.pb.cc:803-817 -/
def mergeFrom (this source : RecognizeRequest) : RecognizeRequest where
  unknownFields := this.unknownFields ++ source.unknownFields
  config := source.config.elim this.config fun c => some ((this.config.getD {}).mergeFrom c)
  audio := source.audio.elim this.audio fun a => some ((this.audio.getD {}).mergeFrom a)

variable (w : WireFormat)

/-- mirrors cpp/libdictation-client/dictation_asr.pb.cc:727-755 -/
def internalSerialize (m : RecognizeRequest) : Bytes :=
  m.config.elim [] (fun c => w.writeMessage 1 (c.byteSizeLong w) (c.internalSerialize w))
    ++ m.audio.elim [] (fun a => w.writeMessage 2 (a.byteSizeLong w) (a.internalSerialize w))
    ++ w.serializeUnknownFields m.unknownFields

/-- mirrors cpp/libdictation-client/dictation_asr.pb.cc:757-786 -/
def byteSizeLong (m : RecognizeRequest) : Nat :=
  m.config.elim 0 (fun c => 1 + w.delimitedSize (c.byteSizeLong w))
    + m.audio.elim 0 (fun a => 1 + w.delimitedSize (a.byteSizeLong w))
    + w.computeUnknownFieldsSize m.unknownFields

/-- mirrors cpp/libdictation-client/dictation_asr.pb.cc:689-717 -/
def parseField (this : RecognizeRequest) (tag : UInt32) (ptr : Bytes) : Option (RecognizeRequest × Bytes) :=
  match tag >>> 3 with
  | 1 =>
    if tag.toUInt8 = 10 then
      w.parseMessage ptr ((this.config.getD {}).internalParse w) fun c => { this with config := some c }
    else w.unusual tag ptr this.addUnknown
  | 2 =>
    if tag.toUInt8 = 18 then
      w.parseMessage ptr ((this.audio.getD {}).internalParse w) fun a => { this with audio := some a }
    else w.unusual tag ptr this.addUnknown
  | _ => w.unusual tag ptr this.addUnknown

/-- mirrors cpp/libdictation-client/dictation_asr.pb.cc:684-725 -/
def internalParse (this : RecognizeRequest) (ptr : Bytes) : Option RecognizeRequest :=
  w.parseLoop (parseField w) this ptr

def validUTF8 (m : RecognizeRequest) : Bool := m.config.all (·.validUTF8 w) && m.audio.all (·.validUTF8 w)

/-- What it keeps as unknown are not fields it has. -/
structure WellFormed (m : RecognizeRequest) : Prop where
  unknown : w.Foreign tags m.unknownFields
  config : ∀ c ∈ m.config, c.WellFormed w
  audio : ∀ a ∈ m.audio, a.WellFormed w

variable {w}

theorem parseField_foreign (this : RecognizeRequest) {tag : UInt32} (h : tag ∉ tags) (ptr : Bytes) :
    this.parseField w tag ptr = w.unusual tag ptr this.addUnknown := by
  unfold parseField
  split
  all_goals first
    | exact if_neg fun hb => h (mem_of_number ‹tag >>> 3 = _› hb (by decide))
    | rfl

theorem length_serialize (m : RecognizeRequest) : (m.internalSerialize w).length = m.byteSizeLong w := by
  have hconfig :
      (m.config.elim [] fun c => w.writeMessage 1 (c.byteSizeLong w) (c.internalSerialize w)).length =
      m.config.elim 0 fun c => 1 + w.delimitedSize (c.byteSizeLong w) :=
    length_optional fun c _ => length_writeMessage (by decide) c.length_serialize
  have haudio :
      (m.audio.elim [] fun a => w.writeMessage 2 (a.byteSizeLong w) (a.internalSerialize w)).length =
      m.audio.elim 0 fun a => 1 + w.delimitedSize (a.byteSizeLong w) :=
    length_optional fun a _ => length_writeMessage (by decide) a.length_serialize
  rw [internalSerialize, byteSizeLong, List.length_append, List.length_append, hconfig, haudio,
    length_serializeUnknownFields]

theorem reads_serialize (this : RecognizeRequest) {source : RecognizeRequest} (h : source.WellFormed w) :
    w.Reads (parseField w) this (source.internalSerialize w) (source.validUTF8 w) (this.mergeFrom source) :=
  (Reads.nil this)
    |>.optional (.mk (·.config) fun m config => { m with config })
        (fun c hc => (Reads.nil this).message (fun c => { this with config := some c }) (fun _ => rfl)
          c.length_serialize ((this.config.getD {}).reads_serialize (h.config c hc)).parse)
    |>.optional (.mk (·.audio) fun m audio => { m with audio })
        (fun a ha => (Reads.nil _).message (fun a => RecognizeRequest.mk _ (some a) _) (fun _ => rfl)
          a.length_serialize ((this.audio.getD {}).reads_serialize (h.audio a ha)).parse)
    |>.unknownFields (.mk (·.unknownFields) fun m unknownFields => { m with unknownFields })
        (fun m _ h => m.parseField_foreign h) h.unknown

theorem wellFormed_of_parseField {this m : RecognizeRequest} {tag : UInt32} {ptr ptr' : Bytes}
    (hi : this.WellFormed w) (h : this.parseField w tag ptr = some (m, ptr')) : m.WellFormed w := by
  by_cases ht : tag ∈ tags
  · simp only [tags, List.mem_cons, List.not_mem_nil, or_false] at ht
    rcases ht with rfl | rfl
    · obtain ⟨body, c, hc, rfl⟩ : ∃ body c, (this.config.getD {}).internalParse w body = some c ∧
          m = { this with config := some c } := eq_of_parseMessage h
      refine ⟨hi.unknown, fun c' hc' => ?_, hi.audio⟩
      cases hc'
      exact RecognitionConfig.wellFormed_of_internalParse (RecognitionConfig.wellFormed_getD hi.config) hc
    · obtain ⟨body, a, ha, rfl⟩ : ∃ body a, (this.audio.getD {}).internalParse w body = some a ∧
          m = { this with audio := some a } := eq_of_parseMessage h
      refine ⟨hi.unknown, hi.config, fun a' ha' => ?_⟩
      cases ha'
      exact RecognitionAudio.wellFormed_of_internalParse (RecognitionAudio.wellFormed_getD hi.audio) ha
  · rw [parseField_foreign this ht] at h
    obtain ⟨u, rfl, hu, rfl⟩ := eq_of_unusual h
    exact ⟨hi.unknown.snoc ht hu, hi.config, hi.audio⟩

theorem wellFormed_of_internalParse {this m : RecognizeRequest} {ptr : Bytes} (hi : this.WellFormed w)
    (h : this.internalParse w ptr = some m) : m.WellFormed w :=
  parseLoop_invariant wellFormed_of_parseField hi h

end RecognizeRequest

end DictationClient.L1.Proto
