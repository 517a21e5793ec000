import Mathlib.Tactic.Ring

/-!
# C++ integer conversions around a 32-bit `int` index

On the targets of the client `int` has 32 bits and `std::size_t` 64. A loop
index deduced as `int` takes part in three conversions:

* `sizeT i`: `i` compared with, or passed as, a `std::size_t`. The value is
  sign-extended and then read as unsigned, so a negative index is huge.
* `addUnsigned i f`: `i += f` with `f` an `unsigned int`. The sum is formed in
  32-bit unsigned arithmetic and converted back to `int`.
* `UInt32.toInt32`: an `unsigned int` stored in an `int32` (two's complement).

`sizeT_ofNat` and `addUnsigned_ofNat` say what the index does while it stays
below `2^31`; `sizeT_of_wrapped` what a comparison sees once it has passed.
-/
namespace DictationClient

/-- `static_cast<std::size_t>(i)` for an `int`. -/
def sizeT (i : Int32) : Nat := i.toInt64.toUInt64.toNat

/-- `i += f` for an `int` and an `unsigned int`. -/
def addUnsigned (i : Int32) (f : UInt32) : Int32 := (i.toUInt32 + f).toInt32

theorem sizeT_eq (i : Int32) :
    sizeT i = i.toBitVec.toNat + if i.toBitVec.msb then 2 ^ 64 - 2 ^ 32 else 0 := by
  have h : sizeT i = (i.toBitVec.signExtend 64).toNat := rfl
  rw [h, BitVec.toNat_signExtend, BitVec.toNat_setWidth, Nat.mod_eq_of_lt (by omega)]

theorem toNat_toBitVec_ofNat {k : Nat} (h : k < 2 ^ 32) : (Int32.ofNat k).toBitVec.toNat = k := by
  rw [Int32.toBitVec_ofNat', BitVec.toNat_ofNat, Nat.mod_eq_of_lt h]

theorem sizeT_ofNat {k : Nat} (h : k < 2 ^ 31) : sizeT (Int32.ofNat k) = k := by
  have hk := toNat_toBitVec_ofNat (show k < 2 ^ 32 by omega)
  rw [sizeT_eq, BitVec.msb_eq_decide, hk, if_neg (by simp; omega), Nat.add_zero]

/-- An index that has passed `2^31 - 1` reads as a size of at least
`2^64 - 2^31`. -/
theorem sizeT_of_wrapped {k : Nat} (h : 2 ^ 31 ≤ k) (h' : k < 2 ^ 32) :
    2 ^ 64 - 2 ^ 31 ≤ sizeT (Int32.ofNat k) := by
  have hk := toNat_toBitVec_ofNat h'
  rw [sizeT_eq, BitVec.msb_eq_decide, hk, if_pos (by simp; omega)]; omega

theorem addUnsigned_ofNat (k : Nat) (f : UInt32) :
    addUnsigned (Int32.ofNat k) f = Int32.ofNat (k + f.toNat) := by
  unfold addUnsigned
  rw [Int32.toUInt32_ofNat', ← UInt32.toInt32_ofNat', UInt32.ofNat_add, UInt32.ofNat_toNat]

end DictationClient
