import DictationClient.Core.Words
import Mathlib.Data.List.Basic
import Mathlib.Data.String.Basic
import Mathlib.Tactic.Ring

/-!
# Python values and exceptions

The parts of the language and of protobuf that the Python client relies on:
exceptions, slices with negative and out-of-range bounds, `split()`, and the
range check of an `int32` message field.
-/
namespace DictationClient

inductive PyErr where
  | stopIteration
  | valueError (msg : String)
  | indexError (msg : String)
  | rpcError
  deriving DecidableEq, Repr

/-- A slice bound on a sequence of `n` elements: negative bounds count from the
end, and every bound is clamped. -/
def sliceBound (n : Nat) (i : Int) : Nat := if i < 0 then (i + n).toNat else min i.toNat n

/-- `l[a:b]`. -/
def pySlice {α : Type} (l : List α) (a b : Int) : List α :=
  (l.take (sliceBound l.length b)).drop (sliceBound l.length a)

/-- A slice between two positions of the sequence. -/
theorem pySlice_of_nonneg {α : Type} (l : List α) {a b : Int} (ha : 0 ≤ a) (hb : 0 ≤ b) :
    pySlice l a b = (l.drop a.toNat).take (b.toNat - a.toNat) := by
  simp only [pySlice, sliceBound, if_neg (show ¬ a < 0 by omega), if_neg (show ¬ b < 0 by omega)]
  by_cases h : a.toNat ≤ l.length
  · rw [Nat.min_eq_left h, ← List.take_eq_take_min, List.drop_take]
  · rw [List.drop_eq_nil_of_le (by rw [List.length_take]; omega),
      List.drop_eq_nil_of_le (by omega), List.take_nil]

/-- The characters that `str.split()` splits at. -/
def pyIsSpace (c : Char) : Bool :=
  (0x09 ≤ c.toNat && c.toNat ≤ 0x0D) || (0x1C ≤ c.toNat && c.toNat ≤ 0x20) || c.toNat == 0x85 ||
    c.toNat == 0xA0 || c.toNat == 0x1680 || (0x2000 ≤ c.toNat && c.toNat ≤ 0x200A) ||
    c.toNat == 0x2028 || c.toNat == 0x2029 || c.toNat == 0x202F || c.toNat == 0x205F ||
    c.toNat == 0x3000

/-- `s.split()`. -/
def pySplit (s : String) : List String := (words pyIsSpace s.toList).map String.ofList

/-- Non-empty, and without whitespace. -/
def IsToken (s : String) : Prop := PlainWord pyIsSpace s.toList

/-- `' '.join(ws).split()` is `ws` exactly for lists of tokens. -/
theorem pySplit_join_iff (ws : List String) :
    pySplit (String.intercalate " " ws) = ws ↔ ∀ w ∈ ws, IsToken w := by
  have hjoin : (String.intercalate " " ws).toList = [' '].intercalate (ws.map String.toList) :=
    String.toList_intercalate
  have hsplit : pySplit (String.intercalate " " ws) = ws ↔
      words pyIsSpace ([' '].intercalate (ws.map String.toList)) = ws.map String.toList := by
    rw [pySplit, hjoin]
    refine ⟨fun h => ?_, fun h => ?_⟩
    · have hlists := congrArg (List.map String.toList) h
      rw [List.map_map] at hlists
      simpa [Function.comp_def] using hlists
    · rw [h, List.map_map]
      simp [Function.comp_def]
  rw [hsplit, words_intercalate_iff (by decide), List.forall_mem_map]
  rfl

/-- Assignment of an `int` to an `int32` field. -/
def toInt32Field (n : Int) : Except PyErr Int32 :=
  if -2 ^ 31 ≤ n ∧ n < 2 ^ 31 then .ok (Int32.ofInt n)
  else .error (.valueError ("Value out of range: " ++ toString n))

/-- The values an `int32` field takes. -/
def FitsInt32 (n : Int) : Prop := -2 ^ 31 ≤ n ∧ n < 2 ^ 31

instance (n : Int) : Decidable (FitsInt32 n) := inferInstanceAs (Decidable (_ ∧ _))

theorem toInt32Field_of_fits {n : Int} (h : FitsInt32 n) : toInt32Field n = .ok (Int32.ofInt n) :=
  if_pos h

theorem toInt32Field_of_not_fits {n : Int} (h : ¬ FitsInt32 n) :
    toInt32Field n = .error (.valueError ("Value out of range: " ++ toString n)) :=
  if_neg h

end DictationClient
