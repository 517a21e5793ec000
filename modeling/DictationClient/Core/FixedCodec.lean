import DictationClient.Core.Chunks

/-!
# Fixed-width byte records

A `FixedCodec α` writes a value as exactly `size` bytes and reads it back from
the front of a buffer; both laws are fields, so a codec that does not round
trip cannot be built. `pair` and `map` compose codecs, which is how the image
of a packed C struct is described field by field.

Integers are little-endian (`leBytes`, `leValue`).

`decodeAll` reads a buffer record by record; reading it piece by piece is the
same as long as no piece ends inside a record (`decodeAll_flatten`).
-/
namespace DictationClient

abbrev Bytes := List UInt8

structure FixedCodec (α : Type) where
  size : Nat
  encode : α → Bytes
  /-- Reads the first `size` bytes; what is behind them is ignored. -/
  decode : Bytes → α
  length_encode : ∀ a, (encode a).length = size
  decode_encode : ∀ a rest, decode (encode a ++ rest) = a

namespace FixedCodec

variable {α β : Type}

theorem take_encode (c : FixedCodec α) (a : α) (rest : Bytes) :
    (c.encode a ++ rest).take c.size = c.encode a :=
  List.take_left' (c.length_encode a)

theorem drop_encode (c : FixedCodec α) (a : α) (rest : Bytes) :
    (c.encode a ++ rest).drop c.size = rest :=
  List.drop_left' (c.length_encode a)

/-- One record behind the other, without padding. -/
def pair (c : FixedCodec α) (d : FixedCodec β) : FixedCodec (α × β) where
  size := c.size + d.size
  encode x := c.encode x.1 ++ d.encode x.2
  decode bs := (c.decode bs, d.decode (bs.drop c.size))
  length_encode x := by rw [List.length_append, c.length_encode, d.length_encode]
  decode_encode x rest := by
    rw [List.append_assoc, c.decode_encode, c.drop_encode, d.decode_encode]

/-- The same bytes read as another type. -/
def map (c : FixedCodec α) (f : α → β) (g : β → α) (h : ∀ b, f (g b) = b) : FixedCodec β where
  size := c.size
  encode b := c.encode (g b)
  decode bs := f (c.decode bs)
  length_encode b := c.length_encode (g b)
  decode_encode b rest := by rw [c.decode_encode, h]

theorem decode_encode_self (c : FixedCodec α) (a : α) : c.decode (c.encode a) = a := by
  have h := c.decode_encode a []
  rwa [List.append_nil] at h

/-! ## Records behind each other -/

/-- The whole records of a buffer; what is left at its end is ignored. -/
def decodeAll (c : FixedCodec α) (bs : Bytes) : List α :=
  ((chunks c.size bs).filter fun r => r.length == c.size).map c.decode

theorem decodeAll_append (c : FixedCodec α) (hc : 0 < c.size) {bs : Bytes} (h : c.size ∣ bs.length)
    (bs' : Bytes) : c.decodeAll (bs ++ bs') = c.decodeAll bs ++ c.decodeAll bs' := by
  unfold decodeAll
  rw [chunks_append_of_dvd hc h, List.filter_append, List.map_append]

theorem decodeAll_flatten (c : FixedCodec α) (hc : 0 < c.size) {pieces : List Bytes}
    (h : ∀ p ∈ pieces, c.size ∣ p.length) : c.decodeAll pieces.flatten = pieces.flatMap c.decodeAll := by
  induction pieces with
  | nil => simp [decodeAll]
  | cons p pieces ih =>
    rw [List.forall_mem_cons] at h
    rw [List.flatten_cons, c.decodeAll_append hc h.1, List.flatMap_cons, ih h.2]

/-! ## Little-endian integers -/

/-- The `w` low bytes of `n`, least significant first. -/
def leBytes : Nat → Nat → Bytes
  | 0, _ => []
  | w + 1, n => UInt8.ofNat n :: leBytes w (n / 256)

def leValue : Bytes → Nat
  | [] => 0
  | b :: bs => b.toNat + 256 * leValue bs

theorem length_leBytes (w n : Nat) : (leBytes w n).length = w := by
  induction w generalizing n with
  | zero => rfl
  | succ w ih => rw [leBytes, List.length_cons, ih]

theorem leValue_leBytes (w n : Nat) : leValue (leBytes w n) = n % 256 ^ w := by
  induction w generalizing n with
  | zero => rw [leBytes, leValue, Nat.pow_zero, Nat.mod_one]
  | succ w ih =>
    have hb : (UInt8.ofNat n).toNat = n % 256 := UInt8.toNat_ofNat'
    rw [leBytes, leValue, ih, hb, Nat.pow_succ, Nat.mul_comm (256 ^ w), Nat.mod_mul]

/-- An unsigned integer of `w` bytes, given its conversions from and to `Nat`. -/
def le (w : Nat) (ofNat : Nat → α) (toNat : α → Nat) (lt : ∀ a, toNat a < 256 ^ w)
    (inv : ∀ a, ofNat (toNat a) = a) : FixedCodec α where
  size := w
  encode a := leBytes w (toNat a)
  decode bs := ofNat (leValue (bs.take w))
  length_encode a := length_leBytes w (toNat a)
  decode_encode a rest := by
    rw [List.take_left' (length_leBytes w (toNat a)), leValue_leBytes, Nat.mod_eq_of_lt (lt a), inv]

/-- `unsigned short`. -/
def u16 : FixedCodec UInt16 :=
  le 2 UInt16.ofNat UInt16.toNat (fun a => a.toNat_lt) (fun _ => UInt16.ofNat_toNat)

/-- `unsigned int`. -/
def u32 : FixedCodec UInt32 :=
  le 4 UInt32.ofNat UInt32.toNat (fun a => a.toNat_lt) (fun _ => UInt32.ofNat_toNat)

/-- `int16_t`, in two's complement. -/
def i16 : FixedCodec Int16 := u16.map UInt16.toInt16 Int16.toUInt16 fun _ => rfl

/-- `char[n]`. -/
def chars (n : Nat) : FixedCodec (Vector UInt8 n) where
  size := n
  encode v := v.toList
  decode bs := Vector.ofFn fun i => bs.getD i 0
  length_encode v := v.length_toList
  decode_encode v rest := by
    ext i hi
    have hlen : i < v.toList.length := by rw [v.length_toList]; exact hi
    rw [Vector.getElem_ofFn, List.getD_eq_getElem?_getD, List.getElem?_append_left hlen,
      List.getElem?_eq_getElem hlen, Option.getD_some, Vector.getElem_toList]

end FixedCodec
end DictationClient
