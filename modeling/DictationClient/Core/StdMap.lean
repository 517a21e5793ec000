import Mathlib.Data.List.Basic
import Mathlib.Order.Defs.LinearOrder
import Mathlib.Order.Lattice

/-!
# `std::map`

The entries of a `std::map` in iteration order: sorted by key, one entry for
each key. Both facts are a field, so a map with a repeated key cannot be built.

* `find?_insert`: `m[k] = v` overwrites the entry of `k` and no other.
* `find?_insertAll`: after several assignments a key has the last value it was
  assigned.
* `mem_entries_iff`, `nodup_keys`: iteration meets each key once, with its value.
-/
namespace DictationClient

structure StdMap (K V : Type) [LT K] where
  entries : List (K × V)
  sorted : entries.Pairwise fun a b => a.1 < b.1

/-- The value in the first pair with key `k`. -/
def assoc {K V : Type} [DecidableEq K] (k : K) (es : List (K × V)) : Option V :=
  (es.find? fun e => decide (e.1 = k)).map Prod.snd

section Assoc
variable {K V : Type} [DecidableEq K]

@[simp] theorem assoc_nil (k : K) : assoc k ([] : List (K × V)) = none := rfl

theorem assoc_cons (k : K) (e : K × V) (es : List (K × V)) :
    assoc k (e :: es) = if e.1 = k then some e.2 else assoc k es := by
  unfold assoc
  by_cases h : e.1 = k
  · rw [List.find?_cons_of_pos (by simp [h]), if_pos h]; rfl
  · rw [List.find?_cons_of_neg (by simp [h]), if_neg h]

theorem assoc_append (k : K) (es es' : List (K × V)) :
    assoc k (es ++ es') = (assoc k es).or (assoc k es') := by
  induction es with
  | nil => rfl
  | cons e es ih =>
    rw [List.cons_append, assoc_cons, assoc_cons, ih]
    split <;> rfl

theorem assoc_eq_none_of_forall_ne {k : K} {es : List (K × V)} (h : ∀ e ∈ es, e.1 ≠ k) :
    assoc k es = none := by
  induction es with
  | nil => rfl
  | cons e es ih =>
    rw [List.forall_mem_cons] at h
    rw [assoc_cons, if_neg h.1, ih h.2]

end Assoc

namespace StdMap

variable {K V : Type}

def empty [LT K] : StdMap K V := ⟨[], .nil⟩

section Linear
variable [LinearOrder K]

/-- The value of a key. -/
def find? (m : StdMap K V) (k : K) : Option V := assoc k m.entries

/-- The entries after `m[k] = v`. -/
def insertEntry (k : K) (v : V) : List (K × V) → List (K × V)
  | [] => [(k, v)]
  | e :: es =>
    if k < e.1 then (k, v) :: e :: es
    else if k = e.1 then (k, v) :: es
    else e :: insertEntry k v es

theorem mem_insertEntry {k : K} {v : V} {e : K × V} {es : List (K × V)}
    (h : e ∈ insertEntry k v es) : e = (k, v) ∨ e ∈ es := by
  induction es with
  | nil => exact .inl (List.mem_singleton.mp h)
  | cons a es ih =>
    rw [insertEntry] at h
    split at h
    · exact List.mem_cons.mp h
    · split at h
      · exact (List.mem_cons.mp h).imp_right (List.mem_cons_of_mem a)
      · rcases List.mem_cons.mp h with h | h
        · exact .inr (h ▸ List.mem_cons_self)
        · exact (ih h).imp_right (List.mem_cons_of_mem a)

theorem sorted_insertEntry (k : K) (v : V) {es : List (K × V)}
    (h : es.Pairwise fun a b => a.1 < b.1) :
    (insertEntry k v es).Pairwise fun a b => a.1 < b.1 := by
  induction es with
  | nil => exact List.pairwise_singleton _ _
  | cons a es ih =>
    obtain ⟨ha, hes⟩ := List.pairwise_cons.mp h
    rw [insertEntry]
    split
    · rename_i hlt
      refine List.pairwise_cons.mpr ⟨fun b hb => ?_, h⟩
      rcases List.mem_cons.mp hb with rfl | hb
      · exact hlt
      · exact lt_trans hlt (ha b hb)
    · rename_i hnlt
      split
      · rename_i heq
        exact List.pairwise_cons.mpr ⟨fun b hb => heq ▸ ha b hb, hes⟩
      · rename_i hne
        refine List.pairwise_cons.mpr ⟨fun b hb => ?_, ih hes⟩
        rcases mem_insertEntry hb with rfl | hb
        · exact lt_of_le_of_ne (not_lt.mp hnlt) (Ne.symm hne)
        · exact ha b hb

/-- `m[k] = v`. -/
def insert (m : StdMap K V) (k : K) (v : V) : StdMap K V :=
  ⟨insertEntry k v m.entries, sorted_insertEntry k v m.sorted⟩

theorem assoc_insertEntry (k k' : K) (v : V) (es : List (K × V)) :
    assoc k' (insertEntry k v es) = if k = k' then some v else assoc k' es := by
  induction es with
  | nil => rw [insertEntry, assoc_cons]
  | cons a es ih =>
    rw [insertEntry]
    split
    · rw [assoc_cons]
    · split
      · rename_i heq
        rw [assoc_cons, assoc_cons, ← heq]
        split <;> rfl
      · rename_i hne
        rw [assoc_cons, assoc_cons, ih]
        by_cases hk : k = k'
        · rw [if_pos hk, if_pos hk, if_neg fun h => hne (hk.trans h.symm)]
        · rw [if_neg hk, if_neg hk]

@[simp] theorem find?_empty (k : K) : (empty : StdMap K V).find? k = none := rfl

theorem find?_insert (m : StdMap K V) (k k' : K) (v : V) :
    (m.insert k v).find? k' = if k = k' then some v else m.find? k' :=
  assoc_insertEntry k k' v m.entries

/-- Assignments one after the other. -/
def insertAll (m : StdMap K V) (es : List (K × V)) : StdMap K V :=
  es.foldl (fun m e => m.insert e.1 e.2) m

/-- **The last assignment counts.** -/
theorem find?_insertAll (m : StdMap K V) (es : List (K × V)) (k : K) :
    (m.insertAll es).find? k = (assoc k es.reverse).or (m.find? k) := by
  induction es generalizing m with
  | nil => rfl
  | cons e es ih =>
    have hstep : m.insertAll (e :: es) = (m.insert e.1 e.2).insertAll es := rfl
    rw [hstep, ih, find?_insert, List.reverse_cons, assoc_append, Option.or_assoc, assoc_cons]
    congr 1
    split <;> rfl

/-! ## Iteration -/

theorem insertEntry_perm {k : K} {es : List (K × V)} (h : k ∉ es.map Prod.fst) (v : V) :
    (insertEntry k v es).Perm ((k, v) :: es) := by
  induction es with
  | nil => exact .refl _
  | cons e es ih =>
    rw [List.map_cons, List.mem_cons, not_or] at h
    rw [insertEntry]
    split
    · exact .refl _
    · rw [if_neg h.1]
      exact ((ih h.2).cons e).trans (.swap (k, v) e es)

/-- Assignments to different keys: the entries, in another order. -/
theorem insertAll_perm {m : StdMap K V} {es : List (K × V)} (h : ((m.entries ++ es).map Prod.fst).Nodup) :
    (m.insertAll es).entries.Perm (m.entries ++ es) := by
  induction es generalizing m with
  | nil => rw [List.append_nil]; exact .refl _
  | cons e es ih =>
    have hmiddle : (e :: (m.entries ++ es)).Perm (m.entries ++ e :: es) := List.perm_middle.symm
    have hkeys := (hmiddle.map Prod.fst).nodup_iff.mpr h
    rw [List.map_cons, List.nodup_cons, List.map_append, List.mem_append, not_or] at hkeys
    have hinsert : (m.insert e.1 e.2).entries.Perm (e :: m.entries) := insertEntry_perm hkeys.1.1 e.2
    have hnext : ((m.insert e.1 e.2).entries ++ es).Perm (m.entries ++ e :: es) :=
      (hinsert.append_right es).trans hmiddle
    exact (ih ((hnext.map Prod.fst).nodup_iff.mpr h)).trans hnext

theorem nodup_keys (m : StdMap K V) : (m.entries.map Prod.fst).Nodup := by
  rw [List.Nodup, List.pairwise_map]
  exact m.sorted.imp fun h => ne_of_lt h

theorem mem_iff_assoc_eq_some {es : List (K × V)} (h : es.Pairwise fun a b => a.1 < b.1) {k : K} {v : V} :
    (k, v) ∈ es ↔ assoc k es = some v := by
  induction es with
  | nil => simp
  | cons e es ih =>
    obtain ⟨he, hes⟩ := List.pairwise_cons.mp h
    rw [List.mem_cons, ih hes, assoc_cons]
    by_cases hk : e.1 = k
    · -- the other entries have larger keys
      have hnone : assoc k es = none :=
        assoc_eq_none_of_forall_ne fun a ha => ne_of_gt (hk ▸ he a ha)
      rw [hnone, if_pos hk, Option.some.injEq]
      refine ⟨fun h => ?_, fun h => ?_⟩
      · rcases h with rfl | h
        · rfl
        · cases h
      · exact .inl (Prod.ext hk.symm h.symm)
    · rw [if_neg hk]
      constructor
      · intro h
        rcases h with rfl | h
        · exact absurd rfl hk
        · exact h
      · exact .inr

theorem mem_entries_iff (m : StdMap K V) {k : K} {v : V} : (k, v) ∈ m.entries ↔ m.find? k = some v :=
  mem_iff_assoc_eq_some m.sorted

end Linear
end StdMap
end DictationClient
