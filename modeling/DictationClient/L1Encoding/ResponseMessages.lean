import DictationClient.Core.WireFormat

/-!
# The response messages on the wire

The code protoc has generated for what the server sends, in the same way as for the
requests. A `float` is its bits. `google.protobuf.Duration` and `google.rpc.Status`
are parameters.

For each message:
* `WellFormed`, `length_serialize`, `reads_serialize`: as for the requests.
* `serialize_copy`: a copy (`MergeFrom` into a new message) is written in the same
  way. It is the same message but for negative zeros, which are left out.
-/
namespace DictationClient.L1.Proto

open WireFormat

@[simp] theorem writeFloat_copy (w : WireFormat) (n x : UInt32) :
    w.writeFloat n (if IsZero x then 0 else x) = w.writeFloat n x := by
  have hzero : IsZero 0 := rfl
  unfold writeFloat
  by_cases h : IsZero x
  · rw [if_pos h, if_neg (not_not_intro hzero), if_neg (not_not_intro h)]
  · rw [if_neg h]

/-! ## `WordInfo` -/

structure WordInfo (D : Type) where
  startTime : Option D := none
  endTime : Option D := none
  word : Bytes := []
  unknownFields : List UnknownField := []
  deriving DecidableEq, Repr

namespace WordInfo
variable {D : Type} (w : WireFormat) (duration : Message D)

/-- The tags of its fields. -/
def tags : List UInt32 := [10, 18, 26]

def addUnknown (m : WordInfo D) (u : UnknownField) : WordInfo D :=
  { m with unknownFields := m.unknownFields ++ [u] }

/-- mirrors cpp/libdictation-client/dictation_asr.pb.cc:4095-4111 -/
def mergeFrom (this source : WordInfo D) : WordInfo D where
  unknownFields := this.unknownFields ++ source.unknownFields
  word := if source.word ≠ [] then source.word else this.word
  startTime := source.startTime.elim this.startTime fun d =>
    some (duration.mergeFrom (this.startTime.getD duration.new) d)
  endTime := source.endTime.elim this.endTime fun d =>
    some (duration.mergeFrom (this.endTime.getD duration.new) d)

/-- mirrors cpp/libdictation-client/dictation_asr.pb.cc:4002-4040 -/
def internalSerialize (m : WordInfo D) : Bytes :=
  m.startTime.elim [] (fun d => w.writeMessage 1 (duration.byteSizeLong d) (duration.internalSerialize d))
    ++ m.endTime.elim [] (fun d => w.writeMessage 2 (duration.byteSizeLong d)
      (duration.internalSerialize d))
    ++ w.writeString 3 m.word
    ++ w.serializeUnknownFields m.unknownFields

/-- mirrors cpp/libdictation-client/dictation_asr.pb.cc:4042-4078 -/
def byteSizeLong (m : WordInfo D) : Nat :=
  w.stringSize m.word
    + m.startTime.elim 0 (fun d => 1 + w.delimitedSize (duration.byteSizeLong d))
    + m.endTime.elim 0 (fun d => 1 + w.delimitedSize (duration.byteSizeLong d))
    + w.computeUnknownFieldsSize m.unknownFields

/-- mirrors cpp/libdictation-client/dictation_asr.pb.cc:3955-3992 -/
def parseField (this : WordInfo D) (tag : UInt32) (ptr : Bytes) : Option (WordInfo D × Bytes) :=
  match tag >>> 3 with
  | 1 =>
    if tag.toUInt8 = 10 then
      w.parseMessage ptr (duration.internalParse (this.startTime.getD duration.new)) fun d =>
        { this with startTime := some d }
    else w.unusual tag ptr this.addUnknown
  | 2 =>
    if tag.toUInt8 = 18 then
      w.parseMessage ptr (duration.internalParse (this.endTime.getD duration.new)) fun d =>
        { this with endTime := some d }
    else w.unusual tag ptr this.addUnknown
  | 3 => if tag.toUInt8 = 26 then w.parseString ptr fun word => { this with word }
    else w.unusual tag ptr this.addUnknown
  | _ => w.unusual tag ptr this.addUnknown

/-- mirrors cpp/libdictation-client/dictation_asr.pb.cc:3950-4000 -/
def internalParse (this : WordInfo D) (ptr : Bytes) : Option (WordInfo D) :=
  w.parseLoop (parseField w duration) this ptr

def validUTF8 (m : WordInfo D) : Bool :=
  m.startTime.all duration.validUTF8 && m.endTime.all duration.validUTF8 && w.verifyUTF8 m.word

/-- What it keeps as unknown are not fields it has. -/
structure WellFormed (m : WordInfo D) : Prop where
  unknown : w.Foreign tags m.unknownFields

variable {w duration}

theorem parseField_foreign (this : WordInfo D) {tag : UInt32} (h : tag ∉ tags) (ptr : Bytes) :
    this.parseField w duration tag ptr = w.unusual tag ptr this.addUnknown := by
  unfold parseField
  split
  all_goals first
    | exact if_neg fun hb => h (mem_of_number ‹tag >>> 3 = _› hb (by decide))
    | rfl

theorem length_serialize (m : WordInfo D) :
    (m.internalSerialize w duration).length = m.byteSizeLong w duration := by
  have htime (n : UInt32) (h : Short n) (time : Option D) :
      (time.elim [] fun d => w.writeMessage n (duration.byteSizeLong d)
        (duration.internalSerialize d)).length =
        time.elim 0 fun d => 1 + w.delimitedSize (duration.byteSizeLong d) :=
    length_optional fun d _ => length_writeMessage h (duration.length_serialize d)
  rw [internalSerialize, byteSizeLong, List.length_append, List.length_append, List.length_append,
    htime 1 (by decide), htime 2 (by decide), length_writeString (by decide), length_serializeUnknownFields]
  omega

theorem reads_serialize (this : WordInfo D) {source : WordInfo D} (h : source.WellFormed w) :
    w.Reads (parseField w duration) this (source.internalSerialize w duration) (source.validUTF8 w duration)
      (this.mergeFrom duration source) :=
  (Reads.nil this)
    |>.optional (.mk (·.startTime) fun m startTime => { m with startTime })
        (fun d _ => (Reads.nil this).message (fun d => { this with startTime := some d }) (fun _ => rfl)
          (duration.length_serialize d) (duration.parse_serialize (this.startTime.getD duration.new) d))
    |>.optional (.mk (·.endTime) fun m endTime => { m with endTime })
        (fun d _ => (Reads.nil _).message (fun d => WordInfo.mk _ (some d) _ _) (fun _ => rfl)
          (duration.length_serialize d) (duration.parse_serialize (this.endTime.getD duration.new) d))
    |>.string (.mk (·.word) fun m word => { m with word }) (fun _ => rfl) source.word
    |>.unknownFields (.mk (·.unknownFields) fun m unknownFields => { m with unknownFields })
        (fun m _ h => m.parseField_foreign h) h.unknown

theorem parse_serialize {m : WordInfo D} (h : m.WellFormed w)
    (hs : (m.internalSerialize w duration).length < sizeLimit) :
    internalParse w duration {} (m.internalSerialize w duration) =
      if m.validUTF8 w duration then some (mergeFrom duration {} m) else none :=
  (reads_serialize {} h).parse hs

@[simp] theorem mergeFrom_new (m : WordInfo D) : mergeFrom duration {} m = m := by
  simp only [mergeFrom, Option.getD_none, duration.copy_optional, ne_eq, ite_not, ite_default,
    List.nil_append]

theorem wellFormed_of_parseField {this m : WordInfo D} {tag : UInt32} {ptr ptr' : Bytes}
    (hi : this.WellFormed w) (h : this.parseField w duration tag ptr = some (m, ptr')) :
    m.WellFormed w := by
  by_cases ht : tag ∈ tags
  · simp only [tags, List.mem_cons, List.not_mem_nil, or_false] at ht
    rcases ht with rfl | rfl | rfl
    · obtain ⟨body, d, -, rfl⟩ : ∃ body d,
        duration.internalParse (this.startTime.getD duration.new) body = some d ∧
          m = { this with startTime := some d } := eq_of_parseMessage h
      exact ⟨hi.unknown⟩
    · obtain ⟨body, d, -, rfl⟩ : ∃ body d,
        duration.internalParse (this.endTime.getD duration.new) body = some d ∧
          m = { this with endTime := some d } := eq_of_parseMessage h
      exact ⟨hi.unknown⟩
    · obtain ⟨word, rfl⟩ : ∃ word, m = { this with word } := eq_of_parseString h
      exact ⟨hi.unknown⟩
  · rw [parseField_foreign this ht] at h
    obtain ⟨u, rfl, hu, rfl⟩ := eq_of_unusual h
    exact ⟨hi.unknown.snoc ht hu⟩

theorem wellFormed_of_internalParse {this m : WordInfo D} {ptr : Bytes} (hi : this.WellFormed w)
    (h : this.internalParse w duration ptr = some m) : m.WellFormed w :=
  parseLoop_invariant wellFormed_of_parseField hi h

end WordInfo

/-! ## `SpeechRecognitionAlternative` -/

structure SpeechRecognitionAlternative (D : Type) where
  transcript : Bytes := []
  confidence : UInt32 := 0
  words : List (WordInfo D) := []
  unknownFields : List UnknownField := []
  deriving DecidableEq, Repr

namespace SpeechRecognitionAlternative
variable {D : Type} (w : WireFormat) (duration : Message D)

/-- The tags of its fields. -/
def tags : List UInt32 := [10, 21, 26]

def addUnknown (m : SpeechRecognitionAlternative D) (u : UnknownField) : SpeechRecognitionAlternative D :=
  { m with unknownFields := m.unknownFields ++ [u] }

/-- mirrors cpp/libdictation-client/dictation_asr.pb.cc:3798-3812 -/
def mergeFrom (this source : SpeechRecognitionAlternative D) : SpeechRecognitionAlternative D where
  unknownFields := this.unknownFields ++ source.unknownFields
  words := this.words ++ source.words.map (WordInfo.mergeFrom duration {})
  transcript := if source.transcript ≠ [] then source.transcript else this.transcript
  confidence := if ¬ IsZero source.confidence then source.confidence else this.confidence

/-- mirrors cpp/libdictation-client/dictation_asr.pb.cc:3709-3745 -/
def internalSerialize (m : SpeechRecognitionAlternative D) : Bytes :=
  w.writeString 1 m.transcript
    ++ w.writeFloat 2 m.confidence
    ++ m.words.flatMap (fun x => w.writeMessage 3 (x.byteSizeLong w duration)
      (x.internalSerialize w duration))
    ++ w.serializeUnknownFields m.unknownFields

/-- mirrors cpp/libdictation-client/dictation_asr.pb.cc:3747-3781 -/
def byteSizeLong (m : SpeechRecognitionAlternative D) : Nat :=
  m.words.length + (m.words.map fun x => w.delimitedSize (x.byteSizeLong w duration)).sum
    + w.stringSize m.transcript
    + floatSize m.confidence
    + w.computeUnknownFieldsSize m.unknownFields

/-- mirrors cpp/libdictation-client/dictation_asr.pb.cc:3657-3699 -/
def parseField (this : SpeechRecognitionAlternative D) (tag : UInt32) (ptr : Bytes) :
    Option (SpeechRecognitionAlternative D × Bytes) :=
  match tag >>> 3 with
  | 1 => if tag.toUInt8 = 10 then w.parseString ptr fun transcript => { this with transcript }
    else w.unusual tag ptr this.addUnknown
  | 2 => if tag.toUInt8 = 21 then parseFloat ptr fun confidence => { this with confidence }
    else w.unusual tag ptr this.addUnknown
  | 3 =>
    if tag.toUInt8 = 26 then
      w.parseMessage ptr (WordInfo.internalParse w duration {}) fun x =>
        { this with words := this.words ++ [x] }
    else w.unusual tag ptr this.addUnknown
  | _ => w.unusual tag ptr this.addUnknown

/-- mirrors cpp/libdictation-client/dictation_asr.pb.cc:3652-3707 -/
def internalParse (this : SpeechRecognitionAlternative D) (ptr : Bytes) :
    Option (SpeechRecognitionAlternative D) :=
  w.parseLoop (parseField w duration) this ptr

def validUTF8 (m : SpeechRecognitionAlternative D) : Bool :=
  w.verifyUTF8 m.transcript && m.words.all (·.validUTF8 w duration)

/-- What it keeps as unknown are not fields it has. -/
structure WellFormed (m : SpeechRecognitionAlternative D) : Prop where
  unknown : w.Foreign tags m.unknownFields
  words : ∀ x ∈ m.words, x.WellFormed w

variable {w duration}

theorem parseField_foreign (this : SpeechRecognitionAlternative D) {tag : UInt32} (h : tag ∉ tags)
    (ptr : Bytes) :
    this.parseField w duration tag ptr = w.unusual tag ptr this.addUnknown := by
  unfold parseField
  split
  all_goals first
    | exact if_neg fun hb => h (mem_of_number ‹tag >>> 3 = _› hb (by decide))
    | rfl

theorem length_serialize (m : SpeechRecognitionAlternative D) :
    (m.internalSerialize w duration).length = m.byteSizeLong w duration := by
  have hwords : (m.words.flatMap fun x =>
      w.writeMessage 3 (x.byteSizeLong w duration) (x.internalSerialize w duration)).length =
        m.words.length + (m.words.map fun x => w.delimitedSize (x.byteSizeLong w duration)).sum :=
    length_repeated fun x _ => length_writeMessage (by decide) x.length_serialize
  rw [internalSerialize, byteSizeLong, List.length_append, List.length_append, List.length_append, hwords,
    length_writeString (by decide), length_writeFloat (by decide), length_serializeUnknownFields]
  omega

theorem reads_serialize (this : SpeechRecognitionAlternative D) {source : SpeechRecognitionAlternative D}
    (h : source.WellFormed w) :
    w.Reads (parseField w duration) this (source.internalSerialize w duration) (source.validUTF8 w duration)
      (this.mergeFrom duration source) :=
  (Reads.nil this)
    |>.string (.mk (·.transcript) fun m transcript => { m with transcript })
      (fun _ => rfl) source.transcript
    |>.float (.mk (·.confidence) fun m confidence => { m with confidence }) (fun _ => rfl) source.confidence
    |>.repeatedMessage (.mk (·.words) fun m words => { m with words })
        (fun m x hx => (Reads.nil m).message (fun x => { m with words := m.words ++ [x] }) (fun _ => rfl)
          x.length_serialize (WordInfo.parse_serialize (h.words x hx)))
    |>.unknownFields (.mk (·.unknownFields) fun m unknownFields => { m with unknownFields })
        (fun m _ h => m.parseField_foreign h) h.unknown

theorem parse_serialize {m : SpeechRecognitionAlternative D} (h : m.WellFormed w)
    (hs : (m.internalSerialize w duration).length < sizeLimit) :
    internalParse w duration {} (m.internalSerialize w duration) =
      if m.validUTF8 w duration then some (mergeFrom duration {} m) else none :=
  (reads_serialize {} h).parse hs

theorem serialize_copy (m : SpeechRecognitionAlternative D) :
    (mergeFrom duration {} m).internalSerialize w duration = m.internalSerialize w duration := by
  simp [internalSerialize, mergeFrom, List.flatMap_map]

theorem wellFormed_of_parseField {this m : SpeechRecognitionAlternative D} {tag : UInt32} {ptr ptr' : Bytes}
    (hi : this.WellFormed w) (h : this.parseField w duration tag ptr = some (m, ptr')) :
    m.WellFormed w := by
  by_cases ht : tag ∈ tags
  · simp only [tags, List.mem_cons, List.not_mem_nil, or_false] at ht
    rcases ht with rfl | rfl | rfl
    · obtain ⟨transcript, rfl⟩ : ∃ transcript, m = { this with transcript } := eq_of_parseString h
      exact ⟨hi.unknown, hi.words⟩
    · obtain ⟨confidence, rfl⟩ : ∃ confidence, m = { this with confidence } := eq_of_parseFloat h
      exact ⟨hi.unknown, hi.words⟩
    · obtain ⟨body, x, hx, rfl⟩ : ∃ body x, WordInfo.internalParse w duration {} body = some x ∧
          m = { this with words := this.words ++ [x] } := eq_of_parseMessage h
      exact ⟨hi.unknown, forall_mem_snoc hi.words (WordInfo.wellFormed_of_internalParse ⟨foreign_nil _⟩ hx)⟩
  · rw [parseField_foreign this ht] at h
    obtain ⟨u, rfl, hu, rfl⟩ := eq_of_unusual h
    exact ⟨hi.unknown.snoc ht hu, hi.words⟩

theorem wellFormed_of_internalParse {this m : SpeechRecognitionAlternative D} {ptr : Bytes}
    (hi : this.WellFormed w)
    (h : this.internalParse w duration ptr = some m) : m.WellFormed w :=
  parseLoop_invariant wellFormed_of_parseField hi h

end SpeechRecognitionAlternative

/-! ## `LatticeEdge` -/

structure LatticeEdge where
  startNode : Int32 := 0
  endNode : Int32 := 0
  symbol : Bytes := []
  languageCost : UInt32 := 0
  acousticCost : UInt32 := 0
  duration : Int32 := 0
  unknownFields : List UnknownField := []
  deriving DecidableEq, Repr

namespace LatticeEdge

/-- The tags of its fields. -/
def tags : List UInt32 := [8, 16, 26, 37, 45, 48]

def addUnknown (m : LatticeEdge) (u : UnknownField) : LatticeEdge :=
  { m with unknownFields := m.unknownFields ++ [u] }

/-- mirrors cpp/libdictation-client/dictation_asr.pb.cc:4648-4673 -/
def mergeFrom (this source : LatticeEdge) : LatticeEdge where
  unknownFields := this.unknownFields ++ source.unknownFields
  symbol := if source.symbol ≠ [] then source.symbol else this.symbol
  startNode := if source.startNode ≠ 0 then source.startNode else this.startNode
  endNode := if source.endNode ≠ 0 then source.endNode else this.endNode
  languageCost := if ¬ IsZero source.languageCost then source.languageCost else this.languageCost
  acousticCost := if ¬ IsZero source.acousticCost then source.acousticCost else this.acousticCost
  duration := if source.duration ≠ 0 then source.duration else this.duration

variable (w : WireFormat)

/-- mirrors cpp/libdictation-client/dictation_asr.pb.cc:4524-4576 -/
def internalSerialize (m : LatticeEdge) : Bytes :=
  w.writeInt32 1 m.startNode
    ++ w.writeInt32 2 m.endNode
    ++ w.writeString 3 m.symbol
    ++ w.writeFloat 4 m.languageCost
    ++ w.writeFloat 5 m.acousticCost
    ++ w.writeInt32 6 m.duration
    ++ w.serializeUnknownFields m.unknownFields

/-- mirrors cpp/libdictation-client/dictation_asr.pb.cc:4578-4631 -/
def byteSizeLong (m : LatticeEdge) : Nat :=
  w.stringSize m.symbol
    + w.int32Size m.startNode
    + w.int32Size m.endNode
    + floatSize m.languageCost
    + floatSize m.acousticCost
    + w.int32Size m.duration
    + w.computeUnknownFieldsSize m.unknownFields

/-- mirrors cpp/libdictation-client/dictation_asr.pb.cc:4456-4514 -/
def parseField (this : LatticeEdge) (tag : UInt32) (ptr : Bytes) : Option (LatticeEdge × Bytes) :=
  match tag >>> 3 with
  | 1 => if tag.toUInt8 = 8 then w.parseInt32 ptr fun startNode => { this with startNode }
    else w.unusual tag ptr this.addUnknown
  | 2 => if tag.toUInt8 = 16 then w.parseInt32 ptr fun endNode => { this with endNode }
    else w.unusual tag ptr this.addUnknown
  | 3 => if tag.toUInt8 = 26 then w.parseString ptr fun symbol => { this with symbol }
    else w.unusual tag ptr this.addUnknown
  | 4 => if tag.toUInt8 = 37 then parseFloat ptr fun languageCost => { this with languageCost }
    else w.unusual tag ptr this.addUnknown
  | 5 => if tag.toUInt8 = 45 then parseFloat ptr fun acousticCost => { this with acousticCost }
    else w.unusual tag ptr this.addUnknown
  | 6 => if tag.toUInt8 = 48 then w.parseInt32 ptr fun duration => { this with duration }
    else w.unusual tag ptr this.addUnknown
  | _ => w.unusual tag ptr this.addUnknown

/-- mirrors cpp/libdictation-client/dictation_asr.pb.cc:4451-4522 -/
def internalParse (this : LatticeEdge) (ptr : Bytes) : Option LatticeEdge :=
  w.parseLoop (parseField w) this ptr

def validUTF8 (m : LatticeEdge) : Bool := w.verifyUTF8 m.symbol

/-- What it keeps as unknown are not fields it has. -/
structure WellFormed (m : LatticeEdge) : Prop where
  unknown : w.Foreign tags m.unknownFields

variable {w}

theorem parseField_foreign (this : LatticeEdge) {tag : UInt32} (h : tag ∉ tags) (ptr : Bytes) :
    this.parseField w tag ptr = w.unusual tag ptr this.addUnknown := by
  unfold parseField
  split
  all_goals first
    | exact if_neg fun hb => h (mem_of_number ‹tag >>> 3 = _› hb (by decide))
    | rfl

theorem length_serialize (m : LatticeEdge) : (m.internalSerialize w).length = m.byteSizeLong w := by
  rw [internalSerialize, byteSizeLong]
  simp (disch := decide) only [List.length_append, length_writeInt32, length_writeString, length_writeFloat,
    length_serializeUnknownFields]
  omega

theorem reads_serialize (this : LatticeEdge) {source : LatticeEdge} (h : source.WellFormed w) :
    w.Reads (parseField w) this (source.internalSerialize w) (source.validUTF8 w) (this.mergeFrom source) :=
  (Reads.nil this)
    |>.int32 (.mk (·.startNode) fun m startNode => { m with startNode }) (fun _ => rfl) source.startNode
    |>.int32 (.mk (·.endNode) fun m endNode => { m with endNode }) (fun _ => rfl) source.endNode
    |>.string (.mk (·.symbol) fun m symbol => { m with symbol }) (fun _ => rfl) source.symbol
    |>.float (.mk (·.languageCost) fun m languageCost => { m with languageCost }) (fun _ => rfl)
        source.languageCost
    |>.float (.mk (·.acousticCost) fun m acousticCost => { m with acousticCost }) (fun _ => rfl)
        source.acousticCost
    |>.int32 (.mk (·.duration) fun m duration => { m with duration }) (fun _ => rfl) source.duration
    |>.unknownFields (.mk (·.unknownFields) fun m unknownFields => { m with unknownFields })
        (fun m _ h => m.parseField_foreign h) h.unknown

theorem parse_serialize {m : LatticeEdge} (h : m.WellFormed w)
    (hs : (m.internalSerialize w).length < sizeLimit) :
    internalParse w {} (m.internalSerialize w) = if m.validUTF8 w then some (mergeFrom {} m) else none :=
  (reads_serialize {} h).parse hs

theorem serialize_copy (m : LatticeEdge) :
    (mergeFrom {} m).internalSerialize w = m.internalSerialize w := by
  simp [internalSerialize, mergeFrom]

theorem wellFormed_of_parseField {this m : LatticeEdge} {tag : UInt32} {ptr ptr' : Bytes}
    (hi : this.WellFormed w) (h : this.parseField w tag ptr = some (m, ptr')) : m.WellFormed w := by
  by_cases ht : tag ∈ tags
  · simp only [tags, List.mem_cons, List.not_mem_nil, or_false] at ht
    rcases ht with rfl | rfl | rfl | rfl | rfl | rfl
    · obtain ⟨startNode, rfl⟩ : ∃ startNode, m = { this with startNode } := eq_of_parseInt32 h
      exact ⟨hi.unknown⟩
    · obtain ⟨endNode, rfl⟩ : ∃ endNode, m = { this with endNode } := eq_of_parseInt32 h
      exact ⟨hi.unknown⟩
    · obtain ⟨symbol, rfl⟩ : ∃ symbol, m = { this with symbol } := eq_of_parseString h
      exact ⟨hi.unknown⟩
    · obtain ⟨languageCost, rfl⟩ : ∃ languageCost, m = { this with languageCost } := eq_of_parseFloat h
      exact ⟨hi.unknown⟩
    · obtain ⟨acousticCost, rfl⟩ : ∃ acousticCost, m = { this with acousticCost } := eq_of_parseFloat h
      exact ⟨hi.unknown⟩
    · obtain ⟨duration, rfl⟩ : ∃ duration, m = { this with duration } := eq_of_parseInt32 h
      exact ⟨hi.unknown⟩
  · rw [parseField_foreign this ht] at h
    obtain ⟨u, rfl, hu, rfl⟩ := eq_of_unusual h
    exact ⟨hi.unknown.snoc ht hu⟩

theorem wellFormed_of_internalParse {this m : LatticeEdge} {ptr : Bytes} (hi : this.WellFormed w)
    (h : this.internalParse w ptr = some m) : m.WellFormed w :=
  parseLoop_invariant wellFormed_of_parseField hi h

end LatticeEdge

/-! ## `RecognitionLattice` -/

structure RecognitionLattice where
  finalNodes : List Int32 := []
  edges : List LatticeEdge := []
  unknownFields : List UnknownField := []
  deriving DecidableEq, Repr

namespace RecognitionLattice

/-- The tags of its fields. -/
def tags : List UInt32 := [10, 8, 18]

def addUnknown (m : RecognitionLattice) (u : UnknownField) : RecognitionLattice :=
  { m with unknownFields := m.unknownFields ++ [u] }

/-- mirrors cpp/libdictation-client/dictation_asr.pb.cc:4341-4350 -/
def mergeFrom (this source : RecognitionLattice) : RecognitionLattice where
  unknownFields := this.unknownFields ++ source.unknownFields
  finalNodes := this.finalNodes ++ source.finalNodes
  edges := this.edges ++ source.edges.map (LatticeEdge.mergeFrom {})

variable (w : WireFormat)

/-- mirrors cpp/libdictation-client/dictation_asr.pb.cc:4256-4285 -/
def internalSerialize (m : RecognitionLattice) : Bytes :=
  w.writePacked 1 m.finalNodes
    ++ m.edges.flatMap (fun e => w.writeMessage 2 (e.byteSizeLong w) (e.internalSerialize w))
    ++ w.serializeUnknownFields m.unknownFields

/-- mirrors cpp/libdictation-client/dictation_asr.pb.cc:4287-4324 -/
def byteSizeLong (m : RecognitionLattice) : Nat :=
  w.packedFieldSize m.finalNodes
    + (m.edges.length + (m.edges.map fun e => w.delimitedSize (e.byteSizeLong w)).sum)
    + w.computeUnknownFieldsSize m.unknownFields

/-- The nodes are accepted packed or one by one.
mirrors cpp/libdictation-client/dictation_asr.pb.cc:4210-4246 -/
def parseField (this : RecognitionLattice) (tag : UInt32) (ptr : Bytes) :
    Option (RecognitionLattice × Bytes) :=
  match tag >>> 3 with
  | 1 =>
    if tag.toUInt8 = 10 then
      w.parsePacked ptr fun nodes => { this with finalNodes := this.finalNodes ++ nodes }
    else if tag.toUInt8 = 8 then
      w.parseInt32 ptr fun node => { this with finalNodes := this.finalNodes ++ [node] }
    else w.unusual tag ptr this.addUnknown
  | 2 =>
    if tag.toUInt8 = 18 then
      w.parseMessage ptr (LatticeEdge.internalParse w {}) fun e => { this with edges := this.edges ++ [e] }
    else w.unusual tag ptr this.addUnknown
  | _ => w.unusual tag ptr this.addUnknown

/-- mirrors cpp/libdictation-client/dictation_asr.pb.cc:4205-4254 -/
def internalParse (this : RecognitionLattice) (ptr : Bytes) : Option RecognitionLattice :=
  w.parseLoop (parseField w) this ptr

def validUTF8 (m : RecognitionLattice) : Bool := m.edges.all (·.validUTF8 w)

/-- What it keeps as unknown are not fields it has. -/
structure WellFormed (m : RecognitionLattice) : Prop where
  unknown : w.Foreign tags m.unknownFields
  edges : ∀ e ∈ m.edges, e.WellFormed w

variable {w}

theorem parseField_foreign (this : RecognitionLattice) {tag : UInt32} (h : tag ∉ tags) (ptr : Bytes) :
    this.parseField w tag ptr = w.unusual tag ptr this.addUnknown := by
  unfold parseField
  split
  all_goals first
    | exact (if_neg fun hb => h (mem_of_number ‹tag >>> 3 = _› hb (by decide))).trans
        (if_neg fun hb => h (mem_of_number ‹tag >>> 3 = _› hb (by decide)))
    | exact if_neg fun hb => h (mem_of_number ‹tag >>> 3 = _› hb (by decide))
    | rfl

theorem length_serialize (m : RecognitionLattice) : (m.internalSerialize w).length = m.byteSizeLong w := by
  have hedges :
      (m.edges.flatMap fun e => w.writeMessage 2 (e.byteSizeLong w) (e.internalSerialize w)).length =
      m.edges.length + (m.edges.map fun e => w.delimitedSize (e.byteSizeLong w)).sum :=
    length_repeated fun e _ => length_writeMessage (by decide) e.length_serialize
  rw [internalSerialize, byteSizeLong, List.length_append, List.length_append,
    length_writePacked (by decide),
    hedges, length_serializeUnknownFields]

theorem reads_serialize (this : RecognitionLattice) {source : RecognitionLattice}
    (h : source.WellFormed w) :
    w.Reads (parseField w) this (source.internalSerialize w) (source.validUTF8 w) (this.mergeFrom source) :=
  (Reads.nil this)
    |>.packed (.mk (·.finalNodes) fun m finalNodes => { m with finalNodes })
      (fun _ => rfl) source.finalNodes
    |>.repeatedMessage (.mk (·.edges) fun m edges => { m with edges })
        (fun m e he => (Reads.nil m).message (fun e => { m with edges := m.edges ++ [e] }) (fun _ => rfl)
          e.length_serialize (LatticeEdge.parse_serialize (h.edges e he)))
    |>.unknownFields (.mk (·.unknownFields) fun m unknownFields => { m with unknownFields })
        (fun m _ h => m.parseField_foreign h) h.unknown

theorem reads_node (this : RecognitionLattice) (node : Int32) :
    w.Reads (parseField w) this (w.writeTag (makeTag 1 0) ++ w.writeVarint (signExtend node)) true
      { this with finalNodes := this.finalNodes ++ [node] } :=
  .taggedInt32 (fun node => { this with finalNodes := this.finalNodes ++ [node] }) (fun _ => rfl) node

theorem parse_serialize {m : RecognitionLattice} (h : m.WellFormed w)
    (hs : (m.internalSerialize w).length < sizeLimit) :
    internalParse w {} (m.internalSerialize w) = if m.validUTF8 w then some (mergeFrom {} m) else none :=
  (reads_serialize {} h).parse hs

theorem serialize_copy (m : RecognitionLattice) :
    (mergeFrom {} m).internalSerialize w = m.internalSerialize w := by
  simp [internalSerialize, mergeFrom, List.flatMap_map, ← LatticeEdge.length_serialize,
    LatticeEdge.serialize_copy]

theorem wellFormed_of_parseField {this m : RecognitionLattice} {tag : UInt32} {ptr ptr' : Bytes}
    (hi : this.WellFormed w) (h : this.parseField w tag ptr = some (m, ptr')) : m.WellFormed w := by
  by_cases ht : tag ∈ tags
  · simp only [tags, List.mem_cons, List.not_mem_nil, or_false] at ht
    rcases ht with rfl | rfl | rfl
    · obtain ⟨nodes, rfl⟩ : ∃ nodes, m = { this with finalNodes := this.finalNodes ++ nodes } :=
        eq_of_parsePacked h
      exact ⟨hi.unknown, hi.edges⟩
    · obtain ⟨node, rfl⟩ : ∃ node, m = { this with finalNodes := this.finalNodes ++ [node] } :=
        eq_of_parseInt32 h
      exact ⟨hi.unknown, hi.edges⟩
    · obtain ⟨body, e, he, rfl⟩ : ∃ body e, LatticeEdge.internalParse w {} body = some e ∧
          m = { this with edges := this.edges ++ [e] } := eq_of_parseMessage h
      exact ⟨hi.unknown, forall_mem_snoc hi.edges
        (LatticeEdge.wellFormed_of_internalParse ⟨foreign_nil _⟩ he)⟩
  · rw [parseField_foreign this ht] at h
    obtain ⟨u, rfl, hu, rfl⟩ := eq_of_unusual h
    exact ⟨hi.unknown.snoc ht hu, hi.edges⟩

theorem wellFormed_of_internalParse {this m : RecognitionLattice} {ptr : Bytes} (hi : this.WellFormed w)
    (h : this.internalParse w ptr = some m) : m.WellFormed w :=
  parseLoop_invariant wellFormed_of_parseField hi h

end RecognitionLattice

/-! ## `StreamingRecognitionResult` -/

structure StreamingRecognitionResult (D : Type) where
  alternatives : List (SpeechRecognitionAlternative D) := []
  isFinal : Bool := false
  stability : UInt32 := 0
  resultFinalizationCause : Int32 := 0
  lattice : List RecognitionLattice := []
  unknownFields : List UnknownField := []
  deriving DecidableEq, Repr

namespace StreamingRecognitionResult
variable {D : Type} (w : WireFormat) (duration : Message D)

/-- The tags of its fields. -/
def tags : List UInt32 := [10, 16, 29, 32, 42]

def addUnknown (m : StreamingRecognitionResult D) (u : UnknownField) : StreamingRecognitionResult D :=
  { m with unknownFields := m.unknownFields ++ [u] }

/-- mirrors cpp/libdictation-client/dictation_asr.pb.cc:3304-3322 -/
def mergeFrom (this source : StreamingRecognitionResult D) : StreamingRecognitionResult D where
  unknownFields := this.unknownFields ++ source.unknownFields
  alternatives := this.alternatives ++
    source.alternatives.map (SpeechRecognitionAlternative.mergeFrom duration {})
  lattice := this.lattice ++ source.lattice.map (RecognitionLattice.mergeFrom {})
  isFinal := if source.isFinal then source.isFinal else this.isFinal
  stability := if ¬ IsZero source.stability then source.stability else this.stability
  resultFinalizationCause :=
    if source.resultFinalizationCause ≠ 0 then source.resultFinalizationCause
    else this.resultFinalizationCause

/-- mirrors cpp/libdictation-client/dictation_asr.pb.cc:3193-3240 -/
def internalSerialize (m : StreamingRecognitionResult D) : Bytes :=
  m.alternatives.flatMap
      (fun a => w.writeMessage 1 (a.byteSizeLong w duration) (a.internalSerialize w duration))
    ++ w.writeBool 2 m.isFinal
    ++ w.writeFloat 3 m.stability
    ++ w.writeInt32 4 m.resultFinalizationCause
    ++ m.lattice.flatMap (fun l => w.writeMessage 5 (l.byteSizeLong w) (l.internalSerialize w))
    ++ w.serializeUnknownFields m.unknownFields

/-- mirrors cpp/libdictation-client/dictation_asr.pb.cc:3242-3287 -/
def byteSizeLong (m : StreamingRecognitionResult D) : Nat :=
  m.alternatives.length + (m.alternatives.map fun a => w.delimitedSize (a.byteSizeLong w duration)).sum
    + (m.lattice.length + (m.lattice.map fun l => w.delimitedSize (l.byteSizeLong w)).sum)
    + boolSize m.isFinal
    + floatSize m.stability
    + w.int32Size m.resultFinalizationCause
    + w.computeUnknownFieldsSize m.unknownFields

/-- mirrors cpp/libdictation-client/dictation_asr.pb.cc:3123-3183 -/
def parseField (this : StreamingRecognitionResult D) (tag : UInt32) (ptr : Bytes) :
    Option (StreamingRecognitionResult D × Bytes) :=
  match tag >>> 3 with
  | 1 =>
    if tag.toUInt8 = 10 then
      w.parseMessage ptr (SpeechRecognitionAlternative.internalParse w duration {}) fun a =>
        { this with alternatives := this.alternatives ++ [a] }
    else w.unusual tag ptr this.addUnknown
  | 2 => if tag.toUInt8 = 16 then w.parseBool ptr fun isFinal => { this with isFinal }
    else w.unusual tag ptr this.addUnknown
  | 3 => if tag.toUInt8 = 29 then parseFloat ptr fun stability => { this with stability }
    else w.unusual tag ptr this.addUnknown
  | 4 =>
    if tag.toUInt8 = 32 then
      w.parseInt32 ptr fun resultFinalizationCause => { this with resultFinalizationCause }
    else w.unusual tag ptr this.addUnknown
  | 5 =>
    if tag.toUInt8 = 42 then
      w.parseMessage ptr (RecognitionLattice.internalParse w {}) fun l =>
        { this with lattice := this.lattice ++ [l] }
    else w.unusual tag ptr this.addUnknown
  | _ => w.unusual tag ptr this.addUnknown

/-- mirrors cpp/libdictation-client/dictation_asr.pb.cc:3118-3191 -/
def internalParse (this : StreamingRecognitionResult D) (ptr : Bytes) :
    Option (StreamingRecognitionResult D) :=
  w.parseLoop (parseField w duration) this ptr

def validUTF8 (m : StreamingRecognitionResult D) : Bool :=
  m.alternatives.all (·.validUTF8 w duration) && m.lattice.all (·.validUTF8 w)

/-- What it keeps as unknown are not fields it has. -/
structure WellFormed (m : StreamingRecognitionResult D) : Prop where
  unknown : w.Foreign tags m.unknownFields
  alternatives : ∀ a ∈ m.alternatives, a.WellFormed w
  lattice : ∀ l ∈ m.lattice, l.WellFormed w

variable {w duration}

theorem parseField_foreign (this : StreamingRecognitionResult D) {tag : UInt32} (h : tag ∉ tags)
    (ptr : Bytes) :
    this.parseField w duration tag ptr = w.unusual tag ptr this.addUnknown := by
  unfold parseField
  split
  all_goals first
    | exact if_neg fun hb => h (mem_of_number ‹tag >>> 3 = _› hb (by decide))
    | rfl

theorem length_serialize (m : StreamingRecognitionResult D) :
    (m.internalSerialize w duration).length = m.byteSizeLong w duration := by
  have halternatives : (m.alternatives.flatMap fun a =>
      w.writeMessage 1 (a.byteSizeLong w duration) (a.internalSerialize w duration)).length =
        m.alternatives.length + (m.alternatives.map fun a =>
          w.delimitedSize (a.byteSizeLong w duration)).sum :=
    length_repeated fun a _ => length_writeMessage (by decide) a.length_serialize
  have hlattice : (m.lattice.flatMap fun l =>
      w.writeMessage 5 (l.byteSizeLong w) (l.internalSerialize w)).length =
      m.lattice.length + (m.lattice.map fun l => w.delimitedSize (l.byteSizeLong w)).sum :=
    length_repeated fun l _ => length_writeMessage (by decide) l.length_serialize
  rw [internalSerialize, byteSizeLong]
  simp (disch := decide) only [List.length_append, length_writeBool, length_writeFloat, length_writeInt32,
    length_serializeUnknownFields, halternatives, hlattice]
  omega

theorem reads_serialize (this : StreamingRecognitionResult D) {source : StreamingRecognitionResult D}
    (h : source.WellFormed w) :
    w.Reads (parseField w duration) this (source.internalSerialize w duration) (source.validUTF8 w duration)
      (this.mergeFrom duration source) :=
  (Reads.nil this)
    |>.repeatedMessage (.mk (·.alternatives) fun m alternatives => { m with alternatives })
        (fun m a ha => (Reads.nil m).message (fun a => { m with alternatives := m.alternatives ++ [a] })
          (fun _ => rfl) a.length_serialize
          (SpeechRecognitionAlternative.parse_serialize (h.alternatives a ha)))
    |>.bool (.mk (·.isFinal) fun m isFinal => { m with isFinal }) (fun _ => rfl) source.isFinal
    |>.float (.mk (·.stability) fun m stability => { m with stability }) (fun _ => rfl) source.stability
    |>.int32 (.mk (·.resultFinalizationCause) fun m resultFinalizationCause =>
      { m with resultFinalizationCause })
        (fun _ => rfl) source.resultFinalizationCause
    |>.repeatedMessage (.mk (·.lattice) fun m lattice => { m with lattice })
        (fun m l hl => (Reads.nil m).message (fun l => { m with lattice := m.lattice ++ [l] })
          (fun _ => rfl)
          l.length_serialize (RecognitionLattice.parse_serialize (h.lattice l hl)))
    |>.unknownFields (.mk (·.unknownFields) fun m unknownFields => { m with unknownFields })
        (fun m _ h => m.parseField_foreign h) h.unknown

theorem parse_serialize {m : StreamingRecognitionResult D} (h : m.WellFormed w)
    (hs : (m.internalSerialize w duration).length < sizeLimit) :
    internalParse w duration {} (m.internalSerialize w duration) =
      if m.validUTF8 w duration then some (mergeFrom duration {} m) else none :=
  (reads_serialize {} h).parse hs

theorem serialize_copy (m : StreamingRecognitionResult D) :
    (mergeFrom duration {} m).internalSerialize w duration = m.internalSerialize w duration := by
  simp [internalSerialize, mergeFrom, List.flatMap_map, ← SpeechRecognitionAlternative.length_serialize,
    SpeechRecognitionAlternative.serialize_copy, ← RecognitionLattice.length_serialize,
    RecognitionLattice.serialize_copy]

theorem wellFormed_of_parseField {this m : StreamingRecognitionResult D} {tag : UInt32} {ptr ptr' : Bytes}
    (hi : this.WellFormed w) (h : this.parseField w duration tag ptr = some (m, ptr')) :
    m.WellFormed w := by
  by_cases ht : tag ∈ tags
  · simp only [tags, List.mem_cons, List.not_mem_nil, or_false] at ht
    rcases ht with rfl | rfl | rfl | rfl | rfl
    · obtain ⟨body, a, ha, rfl⟩ : ∃ body a,
        SpeechRecognitionAlternative.internalParse w duration {} body = some a ∧
          m = { this with alternatives := this.alternatives ++ [a] } := eq_of_parseMessage h
      exact ⟨hi.unknown, forall_mem_snoc hi.alternatives
        (SpeechRecognitionAlternative.wellFormed_of_internalParse ⟨foreign_nil _, by simp⟩ ha), hi.lattice⟩
    · obtain ⟨isFinal, rfl⟩ : ∃ isFinal, m = { this with isFinal } := eq_of_parseBool h
      exact ⟨hi.unknown, hi.alternatives, hi.lattice⟩
    · obtain ⟨stability, rfl⟩ : ∃ stability, m = { this with stability } := eq_of_parseFloat h
      exact ⟨hi.unknown, hi.alternatives, hi.lattice⟩
    · obtain ⟨resultFinalizationCause, rfl⟩ :
          ∃ resultFinalizationCause, m = { this with resultFinalizationCause } := eq_of_parseInt32 h
      exact ⟨hi.unknown, hi.alternatives, hi.lattice⟩
    · obtain ⟨body, l, hl, rfl⟩ : ∃ body l, RecognitionLattice.internalParse w {} body = some l ∧
          m = { this with lattice := this.lattice ++ [l] } := eq_of_parseMessage h
      exact ⟨hi.unknown, hi.alternatives, forall_mem_snoc hi.lattice
        (RecognitionLattice.wellFormed_of_internalParse ⟨foreign_nil _, by simp⟩ hl)⟩
  · rw [parseField_foreign this ht] at h
    obtain ⟨u, rfl, hu, rfl⟩ := eq_of_unusual h
    exact ⟨hi.unknown.snoc ht hu, hi.alternatives, hi.lattice⟩

theorem wellFormed_of_internalParse {this m : StreamingRecognitionResult D} {ptr : Bytes}
    (hi : this.WellFormed w)
    (h : this.internalParse w duration ptr = some m) : m.WellFormed w :=
  parseLoop_invariant wellFormed_of_parseField hi h

end StreamingRecognitionResult

/-! ## `SpeechRecognitionResult` -/

structure SpeechRecognitionResult (D : Type) where
  alternatives : List (SpeechRecognitionAlternative D) := []
  lattice : List RecognitionLattice := []
  unknownFields : List UnknownField := []
  deriving DecidableEq, Repr

namespace SpeechRecognitionResult
variable {D : Type} (w : WireFormat) (duration : Message D)

/-- The tags of its fields. -/
def tags : List UInt32 := [10, 42]

def addUnknown (m : SpeechRecognitionResult D) (u : UnknownField) : SpeechRecognitionResult D :=
  { m with unknownFields := m.unknownFields ++ [u] }

/-- mirrors cpp/libdictation-client/dictation_asr.pb.cc:3546-3555 -/
def mergeFrom (this source : SpeechRecognitionResult D) : SpeechRecognitionResult D where
  unknownFields := this.unknownFields ++ source.unknownFields
  alternatives := this.alternatives ++
    source.alternatives.map (SpeechRecognitionAlternative.mergeFrom duration {})
  lattice := this.lattice ++ source.lattice.map (RecognitionLattice.mergeFrom {})

/-- mirrors cpp/libdictation-client/dictation_asr.pb.cc:3470-3498 -/
def internalSerialize (m : SpeechRecognitionResult D) : Bytes :=
  m.alternatives.flatMap
      (fun a => w.writeMessage 1 (a.byteSizeLong w duration) (a.internalSerialize w duration))
    ++ m.lattice.flatMap (fun l => w.writeMessage 5 (l.byteSizeLong w) (l.internalSerialize w))
    ++ w.serializeUnknownFields m.unknownFields

/-- mirrors cpp/libdictation-client/dictation_asr.pb.cc:3500-3529 -/
def byteSizeLong (m : SpeechRecognitionResult D) : Nat :=
  m.alternatives.length + (m.alternatives.map fun a => w.delimitedSize (a.byteSizeLong w duration)).sum
    + (m.lattice.length + (m.lattice.map fun l => w.delimitedSize (l.byteSizeLong w)).sum)
    + w.computeUnknownFieldsSize m.unknownFields

/-- mirrors cpp/libdictation-client/dictation_asr.pb.cc:3422-3460 -/
def parseField (this : SpeechRecognitionResult D) (tag : UInt32) (ptr : Bytes) :
    Option (SpeechRecognitionResult D × Bytes) :=
  match tag >>> 3 with
  | 1 =>
    if tag.toUInt8 = 10 then
      w.parseMessage ptr (SpeechRecognitionAlternative.internalParse w duration {}) fun a =>
        { this with alternatives := this.alternatives ++ [a] }
    else w.unusual tag ptr this.addUnknown
  | 5 =>
    if tag.toUInt8 = 42 then
      w.parseMessage ptr (RecognitionLattice.internalParse w {}) fun l =>
        { this with lattice := this.lattice ++ [l] }
    else w.unusual tag ptr this.addUnknown
  | _ => w.unusual tag ptr this.addUnknown

/-- mirrors cpp/libdictation-client/dictation_asr.pb.cc:3417-3468 -/
def internalParse (this : SpeechRecognitionResult D) (ptr : Bytes) : Option (SpeechRecognitionResult D) :=
  w.parseLoop (parseField w duration) this ptr

def validUTF8 (m : SpeechRecognitionResult D) : Bool :=
  m.alternatives.all (·.validUTF8 w duration) && m.lattice.all (·.validUTF8 w)

/-- What it keeps as unknown are not fields it has. -/
structure WellFormed (m : SpeechRecognitionResult D) : Prop where
  unknown : w.Foreign tags m.unknownFields
  alternatives : ∀ a ∈ m.alternatives, a.WellFormed w
  lattice : ∀ l ∈ m.lattice, l.WellFormed w

variable {w duration}

theorem parseField_foreign (this : SpeechRecognitionResult D) {tag : UInt32} (h : tag ∉ tags)
    (ptr : Bytes) :
    this.parseField w duration tag ptr = w.unusual tag ptr this.addUnknown := by
  unfold parseField
  split
  all_goals first
    | exact if_neg fun hb => h (mem_of_number ‹tag >>> 3 = _› hb (by decide))
    | rfl

theorem length_serialize (m : SpeechRecognitionResult D) :
    (m.internalSerialize w duration).length = m.byteSizeLong w duration := by
  have halternatives : (m.alternatives.flatMap fun a =>
      w.writeMessage 1 (a.byteSizeLong w duration) (a.internalSerialize w duration)).length =
        m.alternatives.length + (m.alternatives.map fun a =>
          w.delimitedSize (a.byteSizeLong w duration)).sum :=
    length_repeated fun a _ => length_writeMessage (by decide) a.length_serialize
  have hlattice : (m.lattice.flatMap fun l =>
      w.writeMessage 5 (l.byteSizeLong w) (l.internalSerialize w)).length =
      m.lattice.length + (m.lattice.map fun l => w.delimitedSize (l.byteSizeLong w)).sum :=
    length_repeated fun l _ => length_writeMessage (by decide) l.length_serialize
  rw [internalSerialize, byteSizeLong, List.length_append, List.length_append, halternatives, hlattice,
    length_serializeUnknownFields]

theorem reads_serialize (this : SpeechRecognitionResult D) {source : SpeechRecognitionResult D}
    (h : source.WellFormed w) :
    w.Reads (parseField w duration) this (source.internalSerialize w duration) (source.validUTF8 w duration)
      (this.mergeFrom duration source) :=
  (Reads.nil this)
    |>.repeatedMessage (.mk (·.alternatives) fun m alternatives => { m with alternatives })
        (fun m a ha => (Reads.nil m).message (fun a => { m with alternatives := m.alternatives ++ [a] })
          (fun _ => rfl) a.length_serialize
          (SpeechRecognitionAlternative.parse_serialize (h.alternatives a ha)))
    |>.repeatedMessage (.mk (·.lattice) fun m lattice => { m with lattice })
        (fun m l hl => (Reads.nil m).message (fun l => { m with lattice := m.lattice ++ [l] })
          (fun _ => rfl)
          l.length_serialize (RecognitionLattice.parse_serialize (h.lattice l hl)))
    |>.unknownFields (.mk (·.unknownFields) fun m unknownFields => { m with unknownFields })
        (fun m _ h => m.parseField_foreign h) h.unknown

theorem parse_serialize {m : SpeechRecognitionResult D} (h : m.WellFormed w)
    (hs : (m.internalSerialize w duration).length < sizeLimit) :
    internalParse w duration {} (m.internalSerialize w duration) =
      if m.validUTF8 w duration then some (mergeFrom duration {} m) else none :=
  (reads_serialize {} h).parse hs

theorem serialize_copy (m : SpeechRecognitionResult D) :
    (mergeFrom duration {} m).internalSerialize w duration = m.internalSerialize w duration := by
  simp [internalSerialize, mergeFrom, List.flatMap_map, ← SpeechRecognitionAlternative.length_serialize,
    SpeechRecognitionAlternative.serialize_copy, ← RecognitionLattice.length_serialize,
    RecognitionLattice.serialize_copy]

theorem wellFormed_of_parseField {this m : SpeechRecognitionResult D} {tag : UInt32} {ptr ptr' : Bytes}
    (hi : this.WellFormed w) (h : this.parseField w duration tag ptr = some (m, ptr')) :
    m.WellFormed w := by
  by_cases ht : tag ∈ tags
  · simp only [tags, List.mem_cons, List.not_mem_nil, or_false] at ht
    rcases ht with rfl | rfl
    · obtain ⟨body, a, ha, rfl⟩ : ∃ body a,
        SpeechRecognitionAlternative.internalParse w duration {} body = some a ∧
          m = { this with alternatives := this.alternatives ++ [a] } := eq_of_parseMessage h
      exact ⟨hi.unknown, forall_mem_snoc hi.alternatives
        (SpeechRecognitionAlternative.wellFormed_of_internalParse ⟨foreign_nil _, by simp⟩ ha), hi.lattice⟩
    · obtain ⟨body, l, hl, rfl⟩ : ∃ body l, RecognitionLattice.internalParse w {} body = some l ∧
          m = { this with lattice := this.lattice ++ [l] } := eq_of_parseMessage h
      exact ⟨hi.unknown, hi.alternatives, forall_mem_snoc hi.lattice
        (RecognitionLattice.wellFormed_of_internalParse ⟨foreign_nil _, by simp⟩ hl)⟩
  · rw [parseField_foreign this ht] at h
    obtain ⟨u, rfl, hu, rfl⟩ := eq_of_unusual h
    exact ⟨hi.unknown.snoc ht hu, hi.alternatives, hi.lattice⟩

theorem wellFormed_of_internalParse {this m : SpeechRecognitionResult D} {ptr : Bytes}
    (hi : this.WellFormed w)
    (h : this.internalParse w duration ptr = some m) : m.WellFormed w :=
  parseLoop_invariant wellFormed_of_parseField hi h

end SpeechRecognitionResult

/-! ## `StreamingRecognizeResponse` -/

structure StreamingRecognizeResponse (S D : Type) where
  error : Option S := none
  results : List (StreamingRecognitionResult D) := []
  speechEventType : Int32 := 0
  unknownFields : List UnknownField := []
  deriving DecidableEq, Repr

namespace StreamingRecognizeResponse
variable {S D : Type} (w : WireFormat) (status : Message S) (duration : Message D)

/-- The tags of its fields. -/
def tags : List UInt32 := [10, 18, 32]

def addUnknown (m : StreamingRecognizeResponse S D) (u : UnknownField) : StreamingRecognizeResponse S D :=
  { m with unknownFields := m.unknownFields ++ [u] }

/-- mirrors cpp/libdictation-client/dictation_asr.pb.cc:3000-3014 -/
def mergeFrom (this source : StreamingRecognizeResponse S D) : StreamingRecognizeResponse S D where
  unknownFields := this.unknownFields ++ source.unknownFields
  results := this.results ++ source.results.map (StreamingRecognitionResult.mergeFrom duration {})
  error := source.error.elim this.error fun e => some (status.mergeFrom (this.error.getD status.new) e)
  speechEventType := if source.speechEventType ≠ 0 then source.speechEventType else this.speechEventType

/-- mirrors cpp/libdictation-client/dictation_asr.pb.cc:2911-2946 -/
def internalSerialize (m : StreamingRecognizeResponse S D) : Bytes :=
  m.error.elim [] (fun e => w.writeMessage 1 (status.byteSizeLong e) (status.internalSerialize e))
    ++ m.results.flatMap
      (fun r => w.writeMessage 2 (r.byteSizeLong w duration) (r.internalSerialize w duration))
    ++ w.writeInt32 4 m.speechEventType
    ++ w.serializeUnknownFields m.unknownFields

/-- mirrors cpp/libdictation-client/dictation_asr.pb.cc:2948-2983 -/
def byteSizeLong (m : StreamingRecognizeResponse S D) : Nat :=
  m.results.length + (m.results.map fun r => w.delimitedSize (r.byteSizeLong w duration)).sum
    + m.error.elim 0 (fun e => 1 + w.delimitedSize (status.byteSizeLong e))
    + w.int32Size m.speechEventType
    + w.computeUnknownFieldsSize m.unknownFields

/-- mirrors cpp/libdictation-client/dictation_asr.pb.cc:2860-2901 -/
def parseField (this : StreamingRecognizeResponse S D) (tag : UInt32) (ptr : Bytes) :
    Option (StreamingRecognizeResponse S D × Bytes) :=
  match tag >>> 3 with
  | 1 =>
    if tag.toUInt8 = 10 then
      w.parseMessage ptr (status.internalParse (this.error.getD status.new)) fun e =>
        { this with error := some e }
    else w.unusual tag ptr this.addUnknown
  | 2 =>
    if tag.toUInt8 = 18 then
      w.parseMessage ptr (StreamingRecognitionResult.internalParse w duration {}) fun r =>
        { this with results := this.results ++ [r] }
    else w.unusual tag ptr this.addUnknown
  | 4 => if tag.toUInt8 = 32 then w.parseInt32 ptr fun speechEventType => { this with speechEventType }
    else w.unusual tag ptr this.addUnknown
  | _ => w.unusual tag ptr this.addUnknown

/-- mirrors cpp/libdictation-client/dictation_asr.pb.cc:2855-2909 -/
def internalParse (this : StreamingRecognizeResponse S D) (ptr : Bytes) :
    Option (StreamingRecognizeResponse S D) :=
  w.parseLoop (parseField w status duration) this ptr

def validUTF8 (m : StreamingRecognizeResponse S D) : Bool :=
  m.error.all status.validUTF8 && m.results.all (·.validUTF8 w duration)

/-- What it keeps as unknown are not fields it has. -/
structure WellFormed (m : StreamingRecognizeResponse S D) : Prop where
  unknown : w.Foreign tags m.unknownFields
  results : ∀ r ∈ m.results, r.WellFormed w

variable {w status duration}

theorem parseField_foreign (this : StreamingRecognizeResponse S D) {tag : UInt32} (h : tag ∉ tags)
    (ptr : Bytes) :
    this.parseField w status duration tag ptr = w.unusual tag ptr this.addUnknown := by
  unfold parseField
  split
  all_goals first
    | exact if_neg fun hb => h (mem_of_number ‹tag >>> 3 = _› hb (by decide))
    | rfl

theorem length_serialize (m : StreamingRecognizeResponse S D) :
    (m.internalSerialize w status duration).length = m.byteSizeLong w status duration := by
  have herror : (m.error.elim [] fun e =>
      w.writeMessage 1 (status.byteSizeLong e) (status.internalSerialize e)).length =
        m.error.elim 0 fun e => 1 + w.delimitedSize (status.byteSizeLong e) :=
    length_optional fun e _ => length_writeMessage (by decide) (status.length_serialize e)
  have hresults : (m.results.flatMap fun r =>
      w.writeMessage 2 (r.byteSizeLong w duration) (r.internalSerialize w duration)).length =
        m.results.length + (m.results.map fun r => w.delimitedSize (r.byteSizeLong w duration)).sum :=
    length_repeated fun r _ => length_writeMessage (by decide) r.length_serialize
  rw [internalSerialize, byteSizeLong, List.length_append, List.length_append, List.length_append, herror,
    hresults, length_writeInt32 (by decide), length_serializeUnknownFields]
  omega

theorem reads_serialize (this : StreamingRecognizeResponse S D) {source : StreamingRecognizeResponse S D}
    (h : source.WellFormed w) :
    w.Reads (parseField w status duration) this (source.internalSerialize w status duration)
      (source.validUTF8 w status duration) (this.mergeFrom status duration source) :=
  (Reads.nil this)
    |>.optional (.mk (·.error) fun m error => { m with error })
        (fun e _ => (Reads.nil this).message (fun e => { this with error := some e }) (fun _ => rfl)
          (status.length_serialize e) (status.parse_serialize (this.error.getD status.new) e))
    |>.repeatedMessage (.mk (·.results) fun m results => { m with results })
        (fun m r hr => (Reads.nil m).message (fun r => { m with results := m.results ++ [r] })
          (fun _ => rfl)
          r.length_serialize (StreamingRecognitionResult.parse_serialize (h.results r hr)))
    |>.int32 (.mk (·.speechEventType) fun m speechEventType => { m with speechEventType }) (fun _ => rfl)
        source.speechEventType
    |>.unknownFields (.mk (·.unknownFields) fun m unknownFields => { m with unknownFields })
        (fun m _ h => m.parseField_foreign h) h.unknown

theorem serialize_copy (m : StreamingRecognizeResponse S D) :
    (mergeFrom status duration {} m).internalSerialize w status duration =
      m.internalSerialize w status duration := by
  simp [internalSerialize, mergeFrom, List.flatMap_map, status.copy_optional,
    ← StreamingRecognitionResult.length_serialize,
    StreamingRecognitionResult.serialize_copy]

theorem wellFormed_of_parseField {this m : StreamingRecognizeResponse S D} {tag : UInt32} {ptr ptr' : Bytes}
    (hi : this.WellFormed w) (h : this.parseField w status duration tag ptr = some (m, ptr')) :
    m.WellFormed w := by
  by_cases ht : tag ∈ tags
  · simp only [tags, List.mem_cons, List.not_mem_nil, or_false] at ht
    rcases ht with rfl | rfl | rfl
    · obtain ⟨body, e, -, rfl⟩ : ∃ body e, status.internalParse (this.error.getD status.new) body = some e ∧
          m = { this with error := some e } := eq_of_parseMessage h
      exact ⟨hi.unknown, hi.results⟩
    · obtain ⟨body, r, hr, rfl⟩ : ∃ body r,
        StreamingRecognitionResult.internalParse w duration {} body = some r ∧
          m = { this with results := this.results ++ [r] } := eq_of_parseMessage h
      exact ⟨hi.unknown, forall_mem_snoc hi.results
        (StreamingRecognitionResult.wellFormed_of_internalParse ⟨foreign_nil _, by simp, by simp⟩ hr)⟩
    · obtain ⟨speechEventType, rfl⟩ : ∃ speechEventType, m = { this with speechEventType } :=
        eq_of_parseInt32 h
      exact ⟨hi.unknown, hi.results⟩
  · rw [parseField_foreign this ht] at h
    obtain ⟨u, rfl, hu, rfl⟩ := eq_of_unusual h
    exact ⟨hi.unknown.snoc ht hu, hi.results⟩

theorem wellFormed_of_internalParse {this m : StreamingRecognizeResponse S D} {ptr : Bytes}
    (hi : this.WellFormed w)
    (h : this.internalParse w status duration ptr = some m) : m.WellFormed w :=
  parseLoop_invariant wellFormed_of_parseField hi h

end StreamingRecognizeResponse

/-! ## `RecognizeResponse` -/

structure RecognizeResponse (D : Type) where
  results : List (SpeechRecognitionResult D) := []
  unknownFields : List UnknownField := []
  deriving DecidableEq, Repr

namespace RecognizeResponse
variable {D : Type} (w : WireFormat) (duration : Message D)

/-- The tags of its fields. -/
def tags : List UInt32 := [18]

def addUnknown (m : RecognizeResponse D) (u : UnknownField) : RecognizeResponse D :=
  { m with unknownFields := m.unknownFields ++ [u] }

/-- mirrors cpp/libdictation-client/dictation_asr.pb.cc:2735-2743 -/
def mergeFrom (this source : RecognizeResponse D) : RecognizeResponse D where
  unknownFields := this.unknownFields ++ source.unknownFields
  results := this.results ++ source.results.map (SpeechRecognitionResult.mergeFrom duration {})

/-- mirrors cpp/libdictation-client/dictation_asr.pb.cc:2674-2694 -/
def internalSerialize (m : RecognizeResponse D) : Bytes :=
  m.results.flatMap (fun r => w.writeMessage 2 (r.byteSizeLong w duration) (r.internalSerialize w duration))
    ++ w.serializeUnknownFields m.unknownFields

/-- mirrors cpp/libdictation-client/dictation_asr.pb.cc:2696-2718 -/
def byteSizeLong (m : RecognizeResponse D) : Nat :=
  m.results.length + (m.results.map fun r => w.delimitedSize (r.byteSizeLong w duration)).sum
    + w.computeUnknownFieldsSize m.unknownFields

/-- mirrors cpp/libdictation-client/dictation_asr.pb.cc:2638-2664 -/
def parseField (this : RecognizeResponse D) (tag : UInt32) (ptr : Bytes) :
    Option (RecognizeResponse D × Bytes) :=
  match tag >>> 3 with
  | 2 =>
    if tag.toUInt8 = 18 then
      w.parseMessage ptr (SpeechRecognitionResult.internalParse w duration {}) fun r =>
        { this with results := this.results ++ [r] }
    else w.unusual tag ptr this.addUnknown
  | _ => w.unusual tag ptr this.addUnknown

/-- mirrors cpp/libdictation-client/dictation_asr.pb.cc:2633-2672 -/
def internalParse (this : RecognizeResponse D) (ptr : Bytes) : Option (RecognizeResponse D) :=
  w.parseLoop (parseField w duration) this ptr

def validUTF8 (m : RecognizeResponse D) : Bool := m.results.all (·.validUTF8 w duration)

/-- What it keeps as unknown are not fields it has. -/
structure WellFormed (m : RecognizeResponse D) : Prop where
  unknown : w.Foreign tags m.unknownFields
  results : ∀ r ∈ m.results, r.WellFormed w

variable {w duration}

theorem parseField_foreign (this : RecognizeResponse D) {tag : UInt32} (h : tag ∉ tags) (ptr : Bytes) :
    this.parseField w duration tag ptr = w.unusual tag ptr this.addUnknown := by
  unfold parseField
  split
  all_goals first
    | exact if_neg fun hb => h (mem_of_number ‹tag >>> 3 = _› hb (by decide))
    | rfl

theorem length_serialize (m : RecognizeResponse D) :
    (m.internalSerialize w duration).length = m.byteSizeLong w duration := by
  rw [internalSerialize, List.length_append, length_serializeUnknownFields, byteSizeLong,
    length_repeated fun r _ => length_writeMessage (by decide) r.length_serialize]

theorem reads_serialize (this : RecognizeResponse D) {source : RecognizeResponse D}
    (h : source.WellFormed w) :
    w.Reads (parseField w duration) this (source.internalSerialize w duration) (source.validUTF8 w duration)
      (this.mergeFrom duration source) :=
  (Reads.nil this)
    |>.repeatedMessage (.mk (·.results) fun m results => { m with results })
        (fun m r hr => (Reads.nil m).message (fun r => { m with results := m.results ++ [r] })
          (fun _ => rfl)
          r.length_serialize (SpeechRecognitionResult.parse_serialize (h.results r hr)))
    |>.unknownFields (.mk (·.unknownFields) fun m unknownFields => { m with unknownFields })
        (fun m _ h => m.parseField_foreign h) h.unknown

theorem serialize_copy (m : RecognizeResponse D) :
    (mergeFrom duration {} m).internalSerialize w duration = m.internalSerialize w duration := by
  simp [internalSerialize, mergeFrom, List.flatMap_map, ← SpeechRecognitionResult.length_serialize,
    SpeechRecognitionResult.serialize_copy]

theorem wellFormed_of_parseField {this m : RecognizeResponse D} {tag : UInt32} {ptr ptr' : Bytes}
    (hi : this.WellFormed w) (h : this.parseField w duration tag ptr = some (m, ptr')) :
    m.WellFormed w := by
  by_cases ht : tag ∈ tags
  · simp only [tags, List.mem_singleton] at ht
    subst ht
    obtain ⟨body, r, hr, rfl⟩ : ∃ body r,
      SpeechRecognitionResult.internalParse w duration {} body = some r ∧
        m = { this with results := this.results ++ [r] } := eq_of_parseMessage h
    exact ⟨hi.unknown, forall_mem_snoc hi.results
      (SpeechRecognitionResult.wellFormed_of_internalParse ⟨foreign_nil _, by simp, by simp⟩ hr)⟩
  · rw [parseField_foreign this ht] at h
    obtain ⟨u, rfl, hu, rfl⟩ := eq_of_unusual h
    exact ⟨hi.unknown.snoc ht hu, hi.results⟩

theorem wellFormed_of_internalParse {this m : RecognizeResponse D} {ptr : Bytes} (hi : this.WellFormed w)
    (h : this.internalParse w duration ptr = some m) : m.WellFormed w :=
  parseLoop_invariant wellFormed_of_parseField hi h

end RecognizeResponse

end DictationClient.L1.Proto
