import DictationClient.Core.FixedCodec
import Mathlib.Data.Nat.Log
import Mathlib.Tactic.Ring

/-!
# Base-128 integers

Seven bits a byte, least significant first; all bytes but the last have the top
bit set. `varint k` writes at most `k + 1` bytes, `readVarint k` accepts at most as
many.

* `readVarint_varint`: reading what was written, with anything behind it.
* `length_varint`: the number of bytes.
-/
namespace DictationClient

def varint : Nat → Nat → Bytes
  | 0, n => [UInt8.ofNat n]
  | k + 1, n => if n < 128 then [UInt8.ofNat n] else UInt8.ofNat (n % 128 + 128) :: varint k (n / 128)

def readVarint : Nat → Bytes → Option (Nat × Bytes)
  | _, [] => none
  | 0, b :: bs => if b.toNat < 128 then some (b.toNat, bs) else none
  | k + 1, b :: bs =>
    if b.toNat < 128 then some (b.toNat, bs)
    else (readVarint k bs).map fun (n, bs) => (b.toNat - 128 + 128 * n, bs)

theorem varint_of_lt {n : Nat} (h : n < 128) (k : Nat) : varint k n = [UInt8.ofNat n] := by
  cases k with
  | zero => rfl
  | succ k => rw [varint, if_pos h]

theorem varint_ne_nil (k n : Nat) : varint k n ≠ [] := by
  cases k with
  | zero => simp [varint]
  | succ k => rw [varint]; split <;> simp

/-- More room changes nothing. -/
theorem varint_eq_varint {j k n : Nat} (h : n < 128 ^ (j + 1)) (hjk : j ≤ k) : varint k n = varint j n := by
  induction j generalizing k n with
  | zero =>
    rw [Nat.zero_add, Nat.pow_one] at h
    rw [varint_of_lt h, varint_of_lt h]
  | succ j ih =>
    obtain ⟨k, rfl⟩ : ∃ k', k = k' + 1 := ⟨k - 1, by omega⟩
    have hdiv : n / 128 < 128 ^ (j + 1) := by
      rw [Nat.pow_succ] at h
      exact Nat.div_lt_of_lt_mul (by rwa [Nat.mul_comm] at h)
    rw [varint, varint, ih hdiv (by omega)]

theorem toNat_byte {n : Nat} (h : n < 256) : (UInt8.ofNat n).toNat = n := by
  rw [UInt8.toNat_ofNat']; omega

theorem readVarint_varint {k n : Nat} (h : n < 128 ^ (k + 1)) (rest : Bytes) :
    readVarint k (varint k n ++ rest) = some (n, rest) := by
  induction k generalizing n with
  | zero =>
    rw [Nat.zero_add, Nat.pow_one] at h
    have hb : (UInt8.ofNat n).toNat = n := toNat_byte (by omega)
    simp only [varint, List.singleton_append, readVarint, hb, if_pos h]
  | succ k ih =>
    by_cases hn : n < 128
    · have hb : (UInt8.ofNat n).toNat = n := toNat_byte (by omega)
      simp only [varint, if_pos hn, List.singleton_append, readVarint, hb]
    · have hb : (UInt8.ofNat (n % 128 + 128)).toNat = n % 128 + 128 := toNat_byte (by omega)
      have hdiv : n / 128 < 128 ^ (k + 1) := by
        rw [Nat.pow_succ] at h
        exact Nat.div_lt_of_lt_mul (by rwa [Nat.mul_comm] at h)
      simp only [varint, if_neg hn, List.cons_append, readVarint, hb,
        if_neg (show ¬ n % 128 + 128 < 128 by omega), ih hdiv, Option.map_some, Option.some.injEq,
        Prod.mk.injEq, and_true]
      omega

theorem length_varint {k n : Nat} (h : n < 128 ^ (k + 1)) : (varint k n).length = Nat.log 128 n + 1 := by
  induction k generalizing n with
  | zero =>
    rw [Nat.zero_add, Nat.pow_one] at h
    rw [varint, Nat.log_of_lt h]; rfl
  | succ k ih =>
    by_cases hn : n < 128
    · rw [varint, if_pos hn, Nat.log_of_lt hn]; rfl
    · have hdiv : n / 128 < 128 ^ (k + 1) := by
        rw [Nat.pow_succ] at h
        exact Nat.div_lt_of_lt_mul (by rwa [Nat.mul_comm] at h)
      have hlog : Nat.log 128 n = Nat.log 128 (n / 128) + 1 :=
        Nat.log_of_one_lt_of_le (by omega) (by omega)
      rw [varint, if_neg hn, List.length_cons, ih hdiv, hlog]

end DictationClient
