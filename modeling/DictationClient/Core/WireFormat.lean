import DictationClient.Core.Varint
import Mathlib.Data.List.Basic

/-!
# Tagged fields

The code protoc generates for a message writes its fields one behind the other, each
behind its tag, leaving out those with their default value; it reads tags in any
order until its bytes are used up. A field the message does not have is kept as it is
(`UnknownField`) and written behind the others. The runtime it calls is a parameter
(`WireFormat`): what is known of it are the laws, that reading undoes writing and
that sizes are lengths.

* Writers, sizes and parsers of the kinds of fields, with `length_…` for each.
* `Message`: a message type, and that parsing what was serialized merges it in.
* `parseLoop`: the loop over the tags.
* `Reads this bs ok this'`: the loop, started on a message `this`, takes the bytes `bs`
  and goes on from `this'`, or fails unless `ok`. `Reads.append` puts parts together;
  one rule for each kind of field.
* `standard`: base-128 tags, integers and lengths.
-/
namespace DictationClient

/-- `INT32_MAX - 16`, which a length that is read stays below. -/
def sizeLimit : Nat := 2147483631

/-- A field that the message it came in does not have: its tag, and the bytes the
runtime writes behind it. -/
structure UnknownField where
  tag : UInt32
  payload : Bytes
  deriving DecidableEq, Repr

/-- The runtime: tags, integers, length-delimited bytes, unknown fields, and the check
of a `string`. `unknownFieldParse` gives what it will write of the field. -/
structure WireFormat where
  writeTag : UInt32 → Bytes
  readTag : Bytes → Option (UInt32 × Bytes)
  writeVarint : UInt64 → Bytes
  readVarint64 : Bytes → Option (UInt64 × Bytes)
  varintSize : UInt64 → Nat
  readDelimited : Bytes → Option (Bytes × Bytes)
  unknownFieldParse : UInt32 → Bytes → Option (Bytes × Bytes)
  verifyUTF8 : Bytes → Bool
  writeTag_ne_nil : ∀ tag, writeTag tag ≠ []
  length_writeTag : ∀ tag : UInt32, tag.toNat < 128 → (writeTag tag).length = 1
  readTag_writeTag : ∀ tag rest, readTag (writeTag tag ++ rest) = some (tag, rest)
  length_writeVarint : ∀ v, (writeVarint v).length = varintSize v
  varintSize_one : varintSize 1 = 1
  varintSize_le : ∀ v, varintSize v ≤ 10
  readVarint64_writeVarint : ∀ v rest, readVarint64 (writeVarint v ++ rest) = some (v, rest)
  readDelimited_write : ∀ (s : Bytes) rest, s.length < sizeLimit →
    readDelimited (writeVarint (UInt64.ofNat s.length) ++ s ++ rest) = some (s, rest)
  unknownFieldParse_kept : ∀ tag ptr payload ptr', unknownFieldParse tag ptr = some (payload, ptr') →
    ∀ rest, unknownFieldParse tag (payload ++ rest) = some (payload, rest)
  verifyUTF8_iff : ∀ s : Bytes, verifyUTF8 s = true ↔ (ByteArray.mk s.toArray).IsValidUTF8

namespace WireFormat

open FixedCodec (leBytes leValue length_leBytes leValue_leBytes)

/-- A field number and a wire type. -/
def makeTag (number type : UInt32) : UInt32 := number <<< 3 ||| type

/-- The generated code compares the number, and the low byte of the tag. -/
theorem eq_of_number_of_byte {tag number : UInt32} {byte : UInt8} (hn : tag >>> 3 = number)
    (hb : tag.toUInt8 = byte) : tag = makeTag number (byte.toUInt32 &&& 7) := by
  subst hn hb
  apply UInt32.toNat_inj.mp
  have h3 : (3 : UInt32).toNat % 32 = 3 := rfl
  have h7 : (7 : UInt32).toNat = 2 ^ 3 - 1 := rfl
  have hlt := tag.toNat_lt
  simp only [makeTag, UInt32.toNat_or, UInt32.toNat_shiftLeft, UInt32.toNat_shiftRight, UInt32.toNat_and,
    UInt8.toNat_toUInt32, UInt32.toNat_toUInt8, h3, h7, Nat.and_two_pow_sub_one_eq_mod]
  have hfit : tag.toNat >>> 3 <<< 3 % 2 ^ 32 = (tag.toNat / 8) <<< 3 := by
    simp only [Nat.shiftRight_eq_div_pow, Nat.shiftLeft_eq]; omega
  rw [hfit, ← Nat.shiftLeft_add_eq_or_of_lt (by omega), Nat.shiftLeft_eq]
  omega

theorem mem_of_number {tags : List UInt32} {tag number : UInt32} {byte : UInt8} (hn : tag >>> 3 = number)
    (hb : tag.toUInt8 = byte) (h : makeTag number (byte.toUInt32 &&& 7) ∈ tags) : tag ∈ tags :=
  eq_of_number_of_byte hn hb ▸ h

/-- An `int32` as it is written: sign-extended. -/
def signExtend (v : Int32) : UInt64 := v.toInt64.toUInt64

/-- An `int32` as it is read: the low 32 bits. -/
def truncate (v : UInt64) : Int32 := v.toUInt32.toInt32

theorem truncate_signExtend (v : Int32) : truncate (signExtend v) = v := by
  apply Int32.toBitVec_inj.mp
  simp only [truncate, signExtend, UInt32.toBitVec_toInt32, UInt64.toBitVec_toUInt32,
    Int64.toBitVec_toUInt64, Int32.toBitVec_toInt64]
  ext i hi
  have hi' : i < 64 := by omega
  simp [BitVec.getElem_signExtend, hi, hi']

/-- A `float` is its bits. What is neither above nor below 0 and no NaN is one of the
two zeros. -/
def IsZero (x : UInt32) : Prop := x &&& 0x7fffffff = 0

instance (x : UInt32) : Decidable (IsZero x) := inferInstanceAs (Decidable (_ = _))

variable (w : WireFormat)

/-- The bytes of a string. -/
def utf8 (s : String) : Bytes := s.toByteArray.data.toList

theorem utf8_injective : Function.Injective utf8 := fun _ _ h =>
  String.toByteArray_inj.mp (ByteArray.ext (Array.toList_inj.mp h))

theorem verifyUTF8_utf8 (s : String) : w.verifyUTF8 (utf8 s) = true := by
  rw [w.verifyUTF8_iff]
  exact s.isValidUTF8

theorem verifyUTF8_nil : w.verifyUTF8 [] = true := w.verifyUTF8_utf8 ""

/-! ## Writing a field -/

def writeDelimited (number : UInt32) (s : Bytes) : Bytes :=
  w.writeTag (makeTag number 2) ++ w.writeVarint (UInt64.ofNat s.length) ++ s

/-- The length in front of a message is the one `ByteSizeLong` has left behind. -/
def writeMessage (number : UInt32) (size : Nat) (body : Bytes) : Bytes :=
  w.writeTag (makeTag number 2) ++ w.writeVarint (UInt64.ofNat size) ++ body

def writeInt32 (number : UInt32) (v : Int32) : Bytes :=
  if v ≠ 0 then w.writeTag (makeTag number 0) ++ w.writeVarint (signExtend v) else []

def writeBool (number : UInt32) (v : Bool) : Bytes :=
  if v then w.writeTag (makeTag number 0) ++ w.writeVarint 1 else []

def writeString (number : UInt32) (s : Bytes) : Bytes := if s ≠ [] then w.writeDelimited number s else []

def writeFloat (number : UInt32) (x : UInt32) : Bytes :=
  if ¬ IsZero x then w.writeTag (makeTag number 5) ++ leBytes 4 x.toNat else []

/-- The numbers of a packed field, without its tag and length. -/
def packed (vs : List Int32) : Bytes := vs.flatMap fun v => w.writeVarint (signExtend v)

def packedSize (vs : List Int32) : Nat := (vs.map fun v => w.varintSize (signExtend v)).sum

def writePacked (number : UInt32) (vs : List Int32) : Bytes :=
  if w.packedSize vs > 0 then
    w.writeTag (makeTag number 2) ++ w.writeVarint (UInt64.ofNat (w.packedSize vs)) ++ w.packed vs
  else []

/-- The fields a message has been sent and does not have. -/
def serializeUnknownFields (us : List UnknownField) : Bytes :=
    us.flatMap fun u => w.writeTag u.tag ++ u.payload

def computeUnknownFieldsSize (us : List UnknownField) : Nat :=
  (us.map fun u => (w.writeTag u.tag).length + u.payload.length).sum

def delimitedSize (n : Nat) : Nat := n + w.varintSize (UInt64.ofNat n)

def int32Size (v : Int32) : Nat := if v ≠ 0 then 1 + w.varintSize (signExtend v) else 0

def boolSize (v : Bool) : Nat := if v then 1 + 1 else 0

def stringSize (s : Bytes) : Nat := if s ≠ [] then 1 + w.delimitedSize s.length else 0

def floatSize (x : UInt32) : Nat := if ¬ IsZero x then 1 + 4 else 0

def packedFieldSize (vs : List Int32) : Nat :=
  (if w.packedSize vs > 0 then 1 + w.varintSize (UInt64.ofNat (w.packedSize vs)) else 0) + w.packedSize vs

/-- The field numbers whose tag is one byte. -/
def Short (number : UInt32) : Prop :=
  (makeTag number 2).toNat < 128 ∧ (makeTag number 0).toNat < 128 ∧ (makeTag number 5).toNat < 128

instance (number : UInt32) : Decidable (Short number) := inferInstanceAs (Decidable (_ ∧ _ ∧ _))

section Length
variable {w} {number : UInt32}

theorem length_writeMessage (h : Short number) {size : Nat} {body : Bytes} (hsize : body.length = size) :
    (w.writeMessage number size body).length = 1 + w.delimitedSize size := by
  simp only [writeMessage, List.length_append, w.length_writeTag _ h.1, w.length_writeVarint, hsize,
    delimitedSize]
  omega

theorem length_writeDelimited (h : Short number) (s : Bytes) :
    (w.writeDelimited number s).length = 1 + w.delimitedSize s.length := by
  simp only [writeDelimited, List.length_append, w.length_writeTag _ h.1, w.length_writeVarint,
    delimitedSize]
  omega

theorem length_writeInt32 (h : Short number) (v : Int32) :
    (w.writeInt32 number v).length = w.int32Size v := by
  unfold writeInt32 int32Size
  split
  · rw [List.length_append, w.length_writeTag _ h.2.1, w.length_writeVarint]
  · rfl

theorem length_writeBool (h : Short number) (v : Bool) : (w.writeBool number v).length = boolSize v := by
  cases v with
  | false => rfl
  | true =>
    simp only [writeBool, boolSize, if_true, List.length_append, w.length_writeTag _ h.2.1,
      w.length_writeVarint, w.varintSize_one]

theorem length_writeString (h : Short number) (s : Bytes) :
    (w.writeString number s).length = w.stringSize s := by
  unfold writeString stringSize
  split
  · exact length_writeDelimited h s
  · rfl

theorem length_writeFloat (h : Short number) (x : UInt32) :
    (w.writeFloat number x).length = floatSize x := by
  unfold writeFloat floatSize
  split
  · rw [List.length_append, w.length_writeTag _ h.2.2, length_leBytes]
  · rfl

theorem length_packed (vs : List Int32) : (w.packed vs).length = w.packedSize vs := by
  simp only [packed, packedSize, List.length_flatMap, w.length_writeVarint]

theorem length_writePacked (h : Short number) (vs : List Int32) :
    (w.writePacked number vs).length = w.packedFieldSize vs := by
  unfold writePacked packedFieldSize
  split
  · simp only [List.length_append, w.length_writeTag _ h.1, w.length_writeVarint, length_packed]
  · simp only [List.length_nil]; omega

theorem length_serializeUnknownFields (us : List UnknownField) :
    (w.serializeUnknownFields us).length = w.computeUnknownFieldsSize us := by
  simp only [serializeUnknownFields, computeUnknownFieldsSize, List.length_flatMap, List.length_append]

@[simp] theorem computeUnknownFieldsSize_nil : w.computeUnknownFieldsSize [] = 0 := rfl

theorem length_optional {γ : Type} {write : γ → Bytes} {size : γ → Nat} {x? : Option γ}
    (h : ∀ x ∈ x?, (write x).length = 1 + size x) :
    (x?.elim [] write).length = x?.elim 0 fun x => 1 + size x := by
  cases x? with
  | none => rfl
  | some x => exact h x rfl

theorem length_repeated {γ : Type} {write : γ → Bytes} {size : γ → Nat} {xs : List γ}
    (h : ∀ x ∈ xs, (write x).length = 1 + size x) :
    (xs.flatMap write).length = xs.length + (xs.map size).sum := by
  induction xs with
  | nil => rfl
  | cons x xs ih =>
    have ih := ih fun y hy => h y (List.mem_cons_of_mem _ hy)
    rw [List.flatMap_cons, List.length_append, h x List.mem_cons_self, ih, List.length_cons, List.map_cons,
      List.sum_cons]
    omega

end Length

/-! ## Reading a field -/

section Parse
variable {α β : Type}

/-- A tag the message does not know; `add` adds to its unknown fields. An end-group tag
or 0 ends the message, on which its caller fails. -/
def unusual (tag : UInt32) (ptr : Bytes) (add : UnknownField → α) : Option (α × Bytes) :=
  if tag = 0 ∨ tag &&& 7 = 4 then none
  else (w.unknownFieldParse tag ptr).map fun (payload, ptr) => (add ⟨tag, payload⟩, ptr)

def parseInt32 (ptr : Bytes) (set : Int32 → α) : Option (α × Bytes) :=
  (w.readVarint64 ptr).map fun (val, ptr) => (set (truncate val), ptr)

def parseBool (ptr : Bytes) (set : Bool → α) : Option (α × Bytes) :=
  (w.readVarint64 ptr).map fun (val, ptr) => (set (val != 0), ptr)

def parseBytes (ptr : Bytes) (set : Bytes → α) : Option (α × Bytes) :=
  (w.readDelimited ptr).map fun (str, ptr) => (set str, ptr)

def parseString (ptr : Bytes) (set : Bytes → α) : Option (α × Bytes) :=
  (w.readDelimited ptr).bind fun (str, ptr) => if w.verifyUTF8 str then some (set str, ptr) else none

/-- Four bytes, the least significant first. -/
def parseFloat (ptr : Bytes) (set : UInt32 → α) : Option (α × Bytes) :=
  if ptr.length < 4 then none else some (set (UInt32.ofNat (leValue (ptr.take 4))), ptr.drop 4)

/-- The numbers of a packed field, until its bytes are used up. -/
def readPacked (bs : Bytes) : Option (List Int32) :=
  if bs.isEmpty then some []
  else
    match w.readVarint64 bs with
    | none => none
    | some (val, bs') => if bs'.length < bs.length then (readPacked bs').map (truncate val :: ·) else none
termination_by bs.length

def parsePacked (ptr : Bytes) (set : List Int32 → α) : Option (α × Bytes) :=
  (w.readDelimited ptr).bind fun (body, ptr) => (w.readPacked body).map fun vs => (set vs, ptr)

/-- `parse` gets the bytes of the message and has to use them up. -/
def parseMessage (ptr : Bytes) (parse : Bytes → Option β) (set : β → α) : Option (α × Bytes) :=
  (w.readDelimited ptr).bind fun (body, ptr) => (parse body).map fun msg => (set msg, ptr)

variable (parseField : α → UInt32 → Bytes → Option (α × Bytes))

/-- A tag and its field, until the bytes are used up. Every turn takes some. -/
def parseLoop (this : α) (ptr : Bytes) : Option α :=
  if ptr.isEmpty then some this
  else
    match (w.readTag ptr).bind fun (tag, ptr) => parseField this tag ptr with
    | none => none
    | some (this', ptr') => if ptr'.length < ptr.length then parseLoop this' ptr' else none
termination_by ptr.length

/-- The runtime reads the field as it has written it. -/
def Keeps (u : UnknownField) : Prop :=
  u.tag ≠ 0 ∧ u.tag &&& 7 ≠ 4 ∧
    ∀ rest, w.unknownFieldParse u.tag (u.payload ++ rest) = some (u.payload, rest)

/-- What a message with the tags `tags` keeps as unknown. -/
def Foreign (tags : List UInt32) (us : List UnknownField) : Prop := ∀ u ∈ us, u.tag ∉ tags ∧ w.Keeps u

/-- A field of a message: how it is read and set. -/
structure Accessor (α β : Type) where
  get : α → β
  set : α → β → α
  get_set : ∀ m x, get (set m x) = x := by intros; rfl
  set_get : ∀ m, set m (get m) = m := by intros; rfl
  set_set : ∀ m x y, set (set m x) y = set m y := by intros; rfl

/-- Behind `bs`, the loop started on `this` goes on from `this'`, or fails unless `ok`. -/
def Reads (this : α) (bs : Bytes) (ok : Bool) (this' : α) : Prop :=
  bs.length < sizeLimit → ∀ rest, w.parseLoop parseField this (bs ++ rest) =
    if ok then w.parseLoop parseField this' rest else none

end Parse

/-! ## What a parser returns -/

section Parsed
variable {w} {α β : Type} {ptr ptr' : Bytes} {m : α}

theorem eq_of_parseInt32 {set : Int32 → α} (h : w.parseInt32 ptr set = some (m, ptr')) :
    ∃ v, m = set v := by
  obtain ⟨⟨val, bs⟩, -, hr⟩ := Option.map_eq_some_iff.mp h
  exact ⟨_, (Prod.mk.inj hr).1.symm⟩

theorem eq_of_parseBool {set : Bool → α} (h : w.parseBool ptr set = some (m, ptr')) : ∃ v, m = set v := by
  obtain ⟨⟨val, bs⟩, -, hr⟩ := Option.map_eq_some_iff.mp h
  exact ⟨_, (Prod.mk.inj hr).1.symm⟩

theorem eq_of_parseBytes {set : Bytes → α} (h : w.parseBytes ptr set = some (m, ptr')) :
    ∃ s, m = set s := by
  obtain ⟨⟨s, bs⟩, -, hr⟩ := Option.map_eq_some_iff.mp h
  exact ⟨s, (Prod.mk.inj hr).1.symm⟩

theorem eq_of_parseString {set : Bytes → α} (h : w.parseString ptr set = some (m, ptr')) :
    ∃ s, m = set s := by
  obtain ⟨⟨s, bs⟩, -, hr⟩ := Option.bind_eq_some_iff.mp h
  obtain ⟨-, hr⟩ := Option.ite_none_right_eq_some.mp hr
  cases hr
  exact ⟨s, rfl⟩

theorem eq_of_parseFloat {set : UInt32 → α} (h : parseFloat ptr set = some (m, ptr')) : ∃ x, m = set x := by
  unfold parseFloat at h
  split at h
  · cases h
  · cases h; exact ⟨_, rfl⟩

theorem eq_of_parsePacked {set : List Int32 → α} (h : w.parsePacked ptr set = some (m, ptr')) :
    ∃ vs, m = set vs := by
  obtain ⟨⟨body, bs⟩, -, hr⟩ := Option.bind_eq_some_iff.mp h
  obtain ⟨vs, -, hr⟩ := Option.map_eq_some_iff.mp hr
  exact ⟨vs, (Prod.mk.inj hr).1.symm⟩

theorem eq_of_parseMessage {parse : Bytes → Option β} {set : β → α}
    (h : w.parseMessage ptr parse set = some (m, ptr')) :
    ∃ body msg, parse body = some msg ∧ m = set msg := by
  obtain ⟨⟨body, bs⟩, -, hr⟩ := Option.bind_eq_some_iff.mp h
  obtain ⟨msg, hparse, hr⟩ := Option.map_eq_some_iff.mp hr
  exact ⟨body, msg, hparse, (Prod.mk.inj hr).1.symm⟩

/-- What the runtime keeps it can read back. -/
theorem eq_of_unusual {tag : UInt32} {add : UnknownField → α} (h : w.unusual tag ptr add = some (m, ptr')) :
    ∃ u, u.tag = tag ∧ w.Keeps u ∧ m = add u := by
  unfold unusual at h
  split at h
  · cases h
  · rename_i ht
    obtain ⟨⟨payload, bs⟩, hparse, hr⟩ := Option.map_eq_some_iff.mp h
    refine ⟨⟨tag, payload⟩, rfl, ⟨fun h => ht (.inl h), fun h => ht (.inr h), ?_⟩, (Prod.mk.inj hr).1.symm⟩
    exact w.unknownFieldParse_kept tag _ payload bs hparse

theorem Foreign.snoc {tags : List UInt32} {us : List UnknownField} {u : UnknownField}
    (h : w.Foreign tags us)
    (ht : u.tag ∉ tags) (hu : w.Keeps u) : w.Foreign tags (us ++ [u]) := by
  intro u' hmem
  rcases List.mem_append.mp hmem with hmem | hmem
  · exact h u' hmem
  · cases List.mem_singleton.mp hmem
    exact ⟨ht, hu⟩

theorem foreign_nil (tags : List UInt32) : w.Foreign tags [] := fun _ h => absurd h List.not_mem_nil

theorem forall_mem_snoc {p : β → Prop} {xs : List β} {x : β} (h : ∀ y ∈ xs, p y) (hx : p x) :
    ∀ y ∈ xs ++ [x], p y := by
  rw [List.forall_mem_append, List.forall_mem_singleton]
  exact ⟨h, hx⟩

/-- What every field keeps, a parsed message has. -/
theorem parseLoop_invariant {parseField : α → UInt32 → Bytes → Option (α × Bytes)} {I : α → Prop}
    (hfield : ∀ {this tag ptr m ptr'}, I this → parseField this tag ptr = some (m, ptr') → I m) {this : α}
    (hi : I this) (h : w.parseLoop parseField this ptr = some m) : I m := by
  induction this, ptr using parseLoop.induct w parseField with
  | case1 this ptr hnil =>
    rw [parseLoop, if_pos hnil, Option.some.injEq] at h
    exact h ▸ hi
  | case2 this ptr hne hread =>
    rw [parseLoop, if_neg hne, hread] at h
    cases h
  | case3 this ptr hne this' ptr' hread hlt ih =>
    rw [parseLoop, if_neg hne, hread] at h
    simp only [if_pos hlt] at h
    obtain ⟨⟨tag, bs⟩, -, hfield'⟩ := Option.bind_eq_some_iff.mp hread
    exact ih (hfield hi hfield') h
  | case4 this ptr hne this' ptr' hread hge =>
    rw [parseLoop, if_neg hne, hread] at h
    simp only [if_neg hge, reduceCtorEq] at h

end Parsed

section Reads
variable {w} {α β : Type} {parseField : α → UInt32 → Bytes → Option (α × Bytes)} {this this' : α}
  {ok ok' : Bool}
  {bs bs' : Bytes}

theorem parseLoop_nil (this : α) : w.parseLoop parseField this [] = some this := by
  rw [parseLoop]; rfl

theorem Reads.parse (h : w.Reads parseField this bs ok this') (hs : bs.length < sizeLimit) :
    w.parseLoop parseField this bs = if ok then some this' else none := by
  have h' := h hs []
  rwa [List.append_nil, parseLoop_nil] at h'

theorem Reads.nil (this : α) : w.Reads parseField this [] true this := fun _ _ => rfl

theorem Reads.append {this'' : α} (h : w.Reads parseField this bs ok this')
    (h' : w.Reads parseField this' bs' ok' this'') :
    w.Reads parseField this (bs ++ bs') (ok && ok') this'' := by
  intro hs rest
  rw [List.length_append] at hs
  rw [List.append_assoc, h (by omega), h' (by omega)]
  cases ok <;> cases ok' <;> rfl

/-- A tag and what its field is read from. -/
theorem Reads.tagged {tag : UInt32} {payload : Bytes}
    (h : payload.length < sizeLimit → ∀ rest,
      parseField this tag (payload ++ rest) = if ok then some (this', rest) else none) :
    w.Reads parseField this (w.writeTag tag ++ payload) ok this' := by
  intro hs rest
  have hne := w.writeTag_ne_nil tag
  rw [List.length_append] at hs
  have hread : (w.readTag (w.writeTag tag ++ payload ++ rest)).bind
      (fun (tag, ptr) => parseField this tag ptr) = if ok then some (this', rest) else none := by
    rw [List.append_assoc, w.readTag_writeTag]; exact h (by omega) rest
  rw [parseLoop, if_neg (by simp [hne]), hread]
  cases ok with
  | false => rfl
  | true =>
    have hlt : rest.length < (w.writeTag tag ++ payload ++ rest).length := by
      have := List.length_pos_iff.mpr hne
      simp only [List.length_append]; omega
    simp only [if_true, if_pos hlt]

/-- **A field the message does not know is kept.** -/
theorem Reads.unknown {tag : UInt32} {payload kept : Bytes} (add : UnknownField → α)
    (ht : tag ≠ 0 ∧ tag &&& 7 ≠ 4) (hf : ∀ ptr, parseField this tag ptr = w.unusual tag ptr add)
    (hkept : ∀ rest, w.unknownFieldParse tag (payload ++ rest) = some (kept, rest)) :
    w.Reads parseField this (w.writeTag tag ++ payload) true (add ⟨tag, kept⟩) := by
  refine .tagged fun _ rest => ?_
  rw [hf, unusual, if_neg (by rintro (h | h); exacts [ht.1 h, ht.2 h]), hkept]
  rfl

/-- What is left out has its default. -/
@[simp] theorem ite_default [DecidableEq β] (x d : β) : (if x = d then d else x) = x := by
  split
  · next h => exact h.symm
  · rfl

variable {n : UInt32} {m : α}

theorem Reads.taggedInt32 (set : Int32 → α)
    (hf : ∀ ptr, parseField m (makeTag n 0) ptr = w.parseInt32 ptr set)
    (v : Int32) :
    w.Reads parseField m (w.writeTag (makeTag n 0) ++ w.writeVarint (signExtend v)) true (set v) := by
  refine .tagged fun _ rest => ?_
  rw [hf, parseInt32, w.readVarint64_writeVarint]
  simp only [Option.map_some, truncate_signExtend, if_true]

theorem Reads.int32 (h : w.Reads parseField this bs ok m) (f : Accessor α Int32)
    (hf : ∀ ptr, parseField m (makeTag n 0) ptr = w.parseInt32 ptr (f.set m)) (v : Int32) :
    w.Reads parseField this (bs ++ w.writeInt32 n v) ok (f.set m (if v ≠ 0 then v else f.get m)) := by
  unfold writeInt32
  by_cases hv : v = 0
  · rw [if_neg (by simpa using hv), if_neg (by simpa using hv), f.set_get, List.append_nil]
    exact h
  · rw [if_pos hv, if_pos hv]
    exact Bool.and_true ok ▸ h.append (Reads.taggedInt32 (f.set m) hf v)

theorem Reads.bool (h : w.Reads parseField this bs ok m) (f : Accessor α Bool)
    (hf : ∀ ptr, parseField m (makeTag n 0) ptr = w.parseBool ptr (f.set m)) (v : Bool) :
    w.Reads parseField this (bs ++ w.writeBool n v) ok (f.set m (if v then v else f.get m)) := by
  cases v with
  | false =>
    rw [if_neg (by simp), f.set_get, writeBool, if_neg (by simp), List.append_nil]
    exact h
  | true =>
    have hv : w.Reads parseField m (w.writeTag (makeTag n 0) ++ w.writeVarint 1) true (f.set m true) := by
      refine .tagged fun _ rest => ?_
      rw [hf, parseBool, w.readVarint64_writeVarint]
      rfl
    exact Bool.and_true ok ▸ h.append hv

theorem Reads.bytes (h : w.Reads parseField this bs ok m) (set : Bytes → α)
    (hf : ∀ ptr, parseField m (makeTag n 2) ptr = w.parseBytes ptr set) (s : Bytes) :
    w.Reads parseField this (bs ++ w.writeDelimited n s) ok (set s) := by
  have hs : w.Reads parseField m (w.writeDelimited n s) true (set s) := by
    rw [writeDelimited, List.append_assoc]
    refine .tagged fun hs rest => ?_
    rw [List.length_append] at hs
    rw [hf, parseBytes, w.readDelimited_write s rest (by omega)]
    rfl
  exact Bool.and_true ok ▸ h.append hs

theorem Reads.delimitedString (h : w.Reads parseField this bs ok m) (set : Bytes → α)
    (hf : ∀ ptr, parseField m (makeTag n 2) ptr = w.parseString ptr set) (s : Bytes) :
    w.Reads parseField this (bs ++ w.writeDelimited n s) (ok && w.verifyUTF8 s) (set s) := by
  refine h.append ?_
  rw [writeDelimited, List.append_assoc]
  refine .tagged fun hs rest => ?_
  rw [List.length_append] at hs
  rw [hf, parseString, w.readDelimited_write s rest (by omega), Option.bind_some]

theorem Reads.string (h : w.Reads parseField this bs ok m) (f : Accessor α Bytes)
    (hf : ∀ ptr, parseField m (makeTag n 2) ptr = w.parseString ptr (f.set m)) (s : Bytes) :
    w.Reads parseField this (bs ++ w.writeString n s) (ok && w.verifyUTF8 s)
      (f.set m (if s ≠ [] then s else f.get m)) := by
  unfold writeString
  by_cases hnil : s = []
  · subst hnil
    rw [if_neg (by simp), w.verifyUTF8_nil, if_neg (by simp), f.set_get, List.append_nil, Bool.and_true]
    exact h
  · rw [if_pos hnil, if_pos hnil]
    exact h.delimitedString (f.set m) hf s

theorem Reads.float (h : w.Reads parseField this bs ok m) (f : Accessor α UInt32)
    (hf : ∀ ptr, parseField m (makeTag n 5) ptr = parseFloat ptr (f.set m)) (x : UInt32) :
    w.Reads parseField this (bs ++ w.writeFloat n x) ok (f.set m (if ¬ IsZero x then x else f.get m)) := by
  unfold writeFloat
  by_cases hx : IsZero x
  · rw [if_neg (not_not_intro hx), if_neg (not_not_intro hx), f.set_get, List.append_nil]
    exact h
  · rw [if_pos hx, if_pos hx]
    have hv : w.Reads parseField m (w.writeTag (makeTag n 5) ++ leBytes 4 x.toNat) true (f.set m x) := by
      refine .tagged fun _ rest => ?_
      have hlen := length_leBytes 4 x.toNat
      have hle : ¬ (leBytes 4 x.toNat ++ rest).length < 4 := by rw [List.length_append]; omega
      have hval : leValue (leBytes 4 x.toNat) = x.toNat := by
        have := x.toNat_lt
        rw [leValue_leBytes]; omega
      rw [hf, parseFloat, if_neg hle, List.take_left' hlen, List.drop_left' hlen, hval, UInt32.ofNat_toNat]
      rfl
    exact Bool.and_true ok ▸ h.append hv

theorem writeVarint_ne_nil (v : UInt64) : w.writeVarint v ≠ [] := by
  intro hnil
  have hv : ∀ rest, w.readVarint64 rest = some (v, rest) := by
    intro rest
    have h := w.readVarint64_writeVarint v rest
    rwa [hnil] at h
  have h := w.readVarint64_writeVarint (v + 1) []
  rw [hv] at h
  have hval : v = v + 1 := (Prod.mk.inj (Option.some.inj h)).1
  have hnat := congrArg UInt64.toNat hval
  rw [UInt64.toNat_add] at hnat
  have h1 : (1 : UInt64).toNat = 1 := rfl
  omega

theorem readPacked_packed (vs : List Int32) : w.readPacked (w.packed vs) = some vs := by
  induction vs with
  | nil => rw [readPacked]; rfl
  | cons v vs ih =>
    have hne := w.writeVarint_ne_nil (signExtend v)
    have hlt : (w.packed vs).length < (w.packed (v :: vs)).length := by
      have := List.length_pos_iff.mpr hne
      simp only [packed, List.flatMap_cons, List.length_append]; omega
    have hread : w.readVarint64 (w.packed (v :: vs)) = some (signExtend v, w.packed vs) := by
      rw [packed, List.flatMap_cons, w.readVarint64_writeVarint]; rfl
    rw [readPacked, if_neg (by simp [packed, hne]), hread]
    simp only [if_pos hlt, ih, truncate_signExtend, Option.map_some]

theorem packedSize_pos (vs : List Int32) : w.packedSize vs > 0 ↔ vs ≠ [] := by
  rw [← length_packed, gt_iff_lt, List.length_pos_iff]
  cases vs with
  | nil => simp [packed]
  | cons v vs => simp [packed, w.writeVarint_ne_nil]

theorem Reads.packed (h : w.Reads parseField this bs ok m) (f : Accessor α (List Int32))
    (hf : ∀ ptr, parseField m (makeTag n 2) ptr = w.parsePacked ptr fun vs => f.set m (f.get m ++ vs))
    (vs : List Int32) :
    w.Reads parseField this (bs ++ w.writePacked n vs) ok (f.set m (f.get m ++ vs)) := by
  unfold writePacked
  by_cases hnil : vs = []
  · rw [if_neg (by rw [w.packedSize_pos]; exact not_not_intro hnil), hnil, List.append_nil, List.append_nil,
      f.set_get]
    exact h
  · rw [if_pos ((w.packedSize_pos vs).mpr hnil), List.append_assoc, ← length_packed]
    have hv : w.Reads parseField m (w.writeTag (makeTag n 2) ++
        (w.writeVarint (UInt64.ofNat (w.packed vs).length) ++ w.packed vs)) true
          (f.set m (f.get m ++ vs)) := by
      refine .tagged fun hs rest => ?_
      rw [List.length_append] at hs
      rw [hf, parsePacked, w.readDelimited_write (w.packed vs) rest (by omega)]
      show (w.readPacked (w.packed vs)).map _ = _
      rw [readPacked_packed]
      rfl
    exact Bool.and_true ok ▸ h.append hv

theorem Reads.message {ok' : Bool} {parse : Bytes → Option β} {size : Nat} {body : Bytes} {msg : β}
    (h : w.Reads parseField this bs ok m) (set : β → α)
    (hf : ∀ ptr, parseField m (makeTag n 2) ptr = w.parseMessage ptr parse set) (hsize : body.length = size)
    (hparse : body.length < sizeLimit → parse body = if ok' then some msg else none) :
    w.Reads parseField this (bs ++ w.writeMessage n size body) (ok && ok') (set msg) := by
  subst hsize
  refine h.append ?_
  rw [writeMessage, List.append_assoc]
  refine .tagged fun hs rest => ?_
  rw [List.length_append] at hs
  rw [hf, parseMessage, w.readDelimited_write body rest (by omega)]
  show (parse body).map (fun msg => (set msg, rest)) = _
  rw [hparse (by omega)]
  cases ok' <;> rfl

section Many
variable {γ : Type} {write : γ → Bytes} {valid : γ → Bool}

/-- A message that may be absent. -/
theorem Reads.optional {merge : γ → β} {x? : Option γ} (h : w.Reads parseField this bs ok m)
    (f : Accessor α (Option β))
    (hx : ∀ x ∈ x?, w.Reads parseField m (write x) (valid x) (f.set m (some (merge x)))) :
    w.Reads parseField this (bs ++ x?.elim [] write) (ok && x?.all valid)
      (f.set m (x?.elim (f.get m) fun x => some (merge x))) := by
  refine h.append ?_
  cases x? with
  | none =>
    rw [Option.elim_none, Option.elim_none, f.set_get]
    exact .nil m
  | some x => exact hx x rfl

/-- One part behind the other. -/
theorem Reads.flatMap {apply : α → γ → α} {xs : List γ}
    (hx : ∀ m, ∀ x ∈ xs, w.Reads parseField m (write x) (valid x) (apply m x)) (m : α) :
    w.Reads parseField m (xs.flatMap write) (xs.all valid) (xs.foldl apply m) := by
  induction xs generalizing m with
  | nil => exact .nil m
  | cons x xs ih =>
    rw [List.flatMap_cons, List.all_cons, List.foldl_cons]
    exact (hx m x List.mem_cons_self).append (ih (fun m y hy => hx m y (List.mem_cons_of_mem _ hy)) _)

theorem Accessor.foldl_snoc (f : Accessor α (List β)) (g : γ → β) (xs : List γ) (m : α) :
    xs.foldl (fun m x => f.set m (f.get m ++ [g x])) m = f.set m (f.get m ++ xs.map g) := by
  induction xs generalizing m with
  | nil => rw [List.foldl_nil, List.map_nil, List.append_nil, f.set_get]
  | cons x xs ih =>
    rw [List.foldl_cons, ih, f.get_set, f.set_set, List.append_assoc, List.singleton_append, List.map_cons]

/-- A repeated field of messages, each of which arrives as `merge` makes it. -/
theorem Reads.repeatedMessage {merge : γ → β} {xs : List γ} (h : w.Reads parseField this bs ok m)
    (f : Accessor α (List β))
    (hx : ∀ m, ∀ x ∈ xs, w.Reads parseField m (write x) (valid x) (f.set m (f.get m ++ [merge x]))) :
    w.Reads parseField this (bs ++ xs.flatMap write) (ok && xs.all valid)
      (f.set m (f.get m ++ xs.map merge)) := by
  rw [← f.foldl_snoc]
  exact h.append (.flatMap hx m)

/-- A repeated field. -/
theorem Reads.repeated {xs : List γ} (h : w.Reads parseField this bs ok m) (f : Accessor α (List γ))
    (hx : ∀ m, ∀ x ∈ xs, w.Reads parseField m (write x) (valid x) (f.set m (f.get m ++ [x]))) :
    w.Reads parseField this (bs ++ xs.flatMap write) (ok && xs.all valid) (f.set m (f.get m ++ xs)) := by
  have h : w.Reads parseField this (bs ++ xs.flatMap write) (ok && xs.all valid)
      (f.set m (f.get m ++ xs.map id)) := h.repeatedMessage f hx
  rwa [List.map_id] at h

end Many

/-- The unknown fields a message has kept. -/
theorem Reads.unknownFields {tags : List UInt32} {us : List UnknownField}
    (h : w.Reads parseField this bs ok m) (f : Accessor α (List UnknownField))
    (hf : ∀ m tag, tag ∉ tags → ∀ ptr,
      parseField m tag ptr = w.unusual tag ptr fun u => f.set m (f.get m ++ [u]))
    (hus : w.Foreign tags us) :
    w.Reads parseField this (bs ++ w.serializeUnknownFields us) ok (f.set m (f.get m ++ us)) := by
  have hone : ∀ m, ∀ u ∈ us,
      w.Reads parseField m (w.writeTag u.tag ++ u.payload) true (f.set m (f.get m ++ [u])) := fun m u hu =>
    .unknown (fun u => f.set m (f.get m ++ [u])) ⟨(hus u hu).2.1, (hus u hu).2.2.1⟩
      (hf m u.tag (hus u hu).1)
      (hus u hu).2.2.2
  have hall := h.repeated f hone
  rwa [List.all_eq_true.mpr fun _ _ => rfl, Bool.and_true] at hall

end Reads

/-! ## Message types -/

/-- A message type, as far as messages that have it in a field use it. What a message of
it keeps as unknown are not fields it has. -/
structure Message (M : Type) where
  new : M
  mergeFrom : M → M → M
  internalSerialize : M → Bytes
  byteSizeLong : M → Nat
  internalParse : M → Bytes → Option M
  validUTF8 : M → Bool
  length_serialize : ∀ m, (internalSerialize m).length = byteSizeLong m
  parse_serialize : ∀ this m, (internalSerialize m).length < sizeLimit →
    internalParse this (internalSerialize m) = if validUTF8 m then some (mergeFrom this m) else none
  mergeFrom_new : ∀ m, mergeFrom new m = m

theorem Message.copy_optional {M : Type} (msg : Message M) (x? : Option M) :
    (x?.elim none fun x => some (msg.mergeFrom msg.new x)) = x? := by
  cases x? with
  | none => rfl
  | some x => rw [Option.elim_some, msg.mergeFrom_new]

/-! ## Base 128 -/

def readLengthPrefixed (bs : Bytes) : Option (Bytes × Bytes) :=
  match readVarint 4 bs with
  | none => none
  | some (n, bs) => if sizeLimit ≤ n ∨ bs.length < n then none else some (bs.take n, bs.drop n)

/-- The value behind a tag as it is written, and the rest; groups apart, which proto3
does not have. -/
def unknownValue (tag : UInt32) (bs : Bytes) : Option (Bytes × Bytes) :=
  match (tag &&& 7).toNat with
  | 0 => (readVarint 9 bs).map fun r => (varint 9 (UInt64.ofNat r.1).toNat, r.2)
  | 1 => if bs.length < 8 then none else some (bs.take 8, bs.drop 8)
  | 2 => (readLengthPrefixed bs).map fun r => (varint 9 (UInt64.ofNat r.1.length).toNat ++ r.1, r.2)
  | 5 => if bs.length < 4 then none else some (bs.take 4, bs.drop 4)
  | _ => none

theorem readLengthPrefixed_write (s : Bytes) (rest : Bytes) (hs : s.length < sizeLimit) :
    readLengthPrefixed (varint 9 (UInt64.ofNat s.length).toNat ++ s ++ rest) = some (s, rest) := by
  unfold sizeLimit at hs
  have hlen : (UInt64.ofNat s.length).toNat = s.length := by rw [UInt64.toNat_ofNat']; omega
  have hsmall : s.length < 128 ^ (4 + 1) := by omega
  rw [hlen, varint_eq_varint hsmall (by omega), List.append_assoc, readLengthPrefixed,
    readVarint_varint hsmall]
  simp only [List.length_append]
  rw [if_neg (by unfold sizeLimit; omega), List.take_left, List.drop_left]

section Standard

theorem toNat_lt_tag (tag : UInt32) : tag.toNat < 128 ^ (4 + 1) := by
  have := tag.toNat_lt
  omega

theorem toNat_lt_varint (v : UInt64) : v.toNat < 128 ^ (9 + 1) := by
  have := v.toNat_lt
  omega

theorem readVarint_tag (tag : UInt32) (rest : Bytes) :
    (readVarint 4 (varint 4 tag.toNat ++ rest)).map (fun r => (UInt32.ofNat r.1, r.2)) =
      some (tag, rest) := by
  rw [readVarint_varint (toNat_lt_tag tag)]
  simp

theorem readVarint_value (v : UInt64) (rest : Bytes) :
    (readVarint 9 (varint 9 v.toNat ++ rest)).map (fun r => (UInt64.ofNat r.1, r.2)) = some (v, rest) := by
  rw [readVarint_varint (toNat_lt_varint v)]
  simp

theorem log_le_nine (v : UInt64) : Nat.log 128 v.toNat + 1 ≤ 10 :=
  Nat.log_lt_of_lt_pow' (by decide) (toNat_lt_varint v)

theorem take_append_of_length {α : Type} {n : Nat} {l : List α} (h : ¬ l.length < n) (rest : List α) :
    ¬ (l.take n ++ rest).length < n ∧ (l.take n ++ rest).take n = l.take n ∧
    (l.take n ++ rest).drop n = rest := by
  have hlen : (l.take n).length = n := by rw [List.length_take]; omega
  exact ⟨by rw [List.length_append]; omega, List.take_left' hlen, List.drop_left' hlen⟩

theorem unknownValue_kept (tag : UInt32) (ptr payload ptr' : Bytes)
    (h : unknownValue tag ptr = some (payload, ptr')) (rest : Bytes) :
    unknownValue tag (payload ++ rest) = some (payload, rest) := by
  unfold unknownValue at h ⊢
  split at h
  · obtain ⟨r, -, hr⟩ := Option.map_eq_some_iff.mp h
    cases hr
    rw [readVarint_varint (toNat_lt_varint _), Option.map_some, UInt64.ofNat_toNat]
  · split at h <;> cases h
    rename_i hlen
    obtain ⟨hlong, htake, hdrop⟩ := take_append_of_length hlen rest
    rw [if_neg hlong, htake, hdrop]
  · obtain ⟨⟨s, bs⟩, hr, h⟩ := Option.map_eq_some_iff.mp h
    cases h
    have hs : s.length < sizeLimit := by
      unfold readLengthPrefixed at hr
      split at hr
      · cases hr
      · split at hr <;> cases hr
        rename_i n bs hn hlt
        rw [List.length_take]
        omega
    simp only
    rw [readLengthPrefixed_write s rest hs]
    rfl
  · split at h <;> cases h
    rename_i hlen
    obtain ⟨hlong, htake, hdrop⟩ := take_append_of_length hlen rest
    rw [if_neg hlong, htake, hdrop]
  · cases h

def standard : WireFormat where
  writeTag tag := varint 4 tag.toNat
  readTag bs := (readVarint 4 bs).map fun r => (UInt32.ofNat r.1, r.2)
  writeVarint v := varint 9 v.toNat
  readVarint64 bs := (readVarint 9 bs).map fun r => (UInt64.ofNat r.1, r.2)
  varintSize v := Nat.log 128 v.toNat + 1
  readDelimited := readLengthPrefixed
  unknownFieldParse := unknownValue
  verifyUTF8 bs := (ByteArray.mk bs.toArray).validateUTF8
  writeTag_ne_nil _ := varint_ne_nil _ _
  length_writeTag _ h := congrArg List.length (varint_of_lt h 4)
  readTag_writeTag := readVarint_tag
  length_writeVarint v := length_varint (toNat_lt_varint v)
  varintSize_one := rfl
  varintSize_le := log_le_nine
  readVarint64_writeVarint := readVarint_value
  readDelimited_write := readLengthPrefixed_write
  unknownFieldParse_kept := unknownValue_kept
  verifyUTF8_iff _ := ByteArray.validateUTF8_eq_true_iff

end Standard

end WireFormat
end DictationClient
