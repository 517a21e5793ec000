import DictationClient.L1Encoding.ResponseMessages
import Mathlib.Data.List.Basic

/-!
# What a client reads

* `responses_merged`: parsing a response is `MergeFrom`.
* `lattice_parts`: the nodes of a lattice, packed or not.
* `responses_arrive`: what a new message holds after parsing, and when it is what was
  sent.

The responses are well-formed, as those that have been parsed are: what they keep as
unknown are not fields they have.
-/
namespace DictationClient.L1.Proto

open WireFormat

/-- **Parsing what was serialized is `MergeFrom`**, for the responses. -/
theorem responses_merged {w : WireFormat} {S D : Type} {status : Message S} {duration : Message D}
    {m : StreamingRecognizeResponse S D} {m' : RecognizeResponse D} (hm : m.WellFormed w)
    (hm' : m'.WellFormed w)
    (hs : m.byteSizeLong w status duration < sizeLimit) (hs' : m'.byteSizeLong w duration < sizeLimit) :
    ((m.internalSerialize w status duration).length = m.byteSizeLong w status duration ∧
      ∀ this : StreamingRecognizeResponse S D,
        this.internalParse w status duration (m.internalSerialize w status duration) =
          if m.validUTF8 w status duration then some (this.mergeFrom status duration m) else none) ∧
    ((m'.internalSerialize w duration).length = m'.byteSizeLong w duration ∧
      ∀ this : RecognizeResponse D, this.internalParse w duration (m'.internalSerialize w duration) =
        if m'.validUTF8 w duration then some (this.mergeFrom duration m') else none) := by
  rw [← m.length_serialize] at hs
  rw [← m'.length_serialize] at hs'
  exact ⟨⟨m.length_serialize, fun this => (this.reads_serialize hm).parse hs⟩,
    m'.length_serialize, fun this => (this.reads_serialize hm').parse hs'⟩

/-- A message none of whose fields is set. -/
def emptyMessage : Message Unit where
  new := ()
  mergeFrom _ _ := ()
  internalSerialize _ := []
  byteSizeLong _ := 0
  internalParse _ bs := if bs.isEmpty then some () else none
  validUTF8 _ := true
  length_serialize _ := rfl
  parse_serialize _ _ _ := rfl
  mergeFrom_new _ := rfl

/-- An error, and one word with its start time, with confidence 1 and stability -0; the
word is of a version of the message with a fourth field, a string. -/
def oneWord : StreamingRecognizeResponse Unit Unit where
  error := some ()
  results := [{
    alternatives := [{
      transcript := [104, 105]
      confidence := 0x3f800000
      words := [{ startTime := some (), word := [104, 105], unknownFields := [⟨34, [1, 104]⟩] }] }]
    stability := 0x80000000
    lattice := [{ finalNodes := [2, -1], edges := [{ endNode := 2, symbol := [104] }] }] }]

def oneResult : RecognizeResponse Unit where
  results := [{ alternatives := [{ transcript := [104, 105] }] }]

theorem wellFormed_oneWord : oneWord.WellFormed standard where
  unknown := foreign_nil _
  results := by
    rw [oneWord, List.forall_mem_singleton]
    refine ⟨foreign_nil _, ?_, ?_⟩
    · rw [List.forall_mem_singleton]
      refine ⟨foreign_nil _, ?_⟩
      rw [List.forall_mem_singleton]
      refine ⟨?_⟩
      simp only [Foreign, List.forall_mem_singleton]
      exact ⟨by decide, by decide, by decide, fun _ => rfl⟩
    · rw [List.forall_mem_singleton]
      refine ⟨foreign_nil _, ?_⟩
      rw [List.forall_mem_singleton]
      exact ⟨foreign_nil _⟩

theorem wellFormed_oneResult : oneResult.WellFormed standard where
  unknown := foreign_nil _
  results := by
    rw [oneResult, List.forall_mem_singleton]
    refine ⟨foreign_nil _, ?_, by simp⟩
    rw [List.forall_mem_singleton]
    exact ⟨foreign_nil _, by simp⟩

theorem responses_merged_at :
    ((oneWord.internalSerialize standard emptyMessage emptyMessage).length =
        oneWord.byteSizeLong standard emptyMessage emptyMessage ∧
      ∀ this : StreamingRecognizeResponse Unit Unit, this.internalParse standard emptyMessage emptyMessage
        (oneWord.internalSerialize standard emptyMessage emptyMessage) =
          if oneWord.validUTF8 standard emptyMessage emptyMessage then
            some (this.mergeFrom emptyMessage emptyMessage oneWord)
          else none) ∧
    ((oneResult.internalSerialize standard emptyMessage).length =
      oneResult.byteSizeLong standard emptyMessage ∧
      ∀ this : RecognizeResponse Unit, this.internalParse standard emptyMessage
        (oneResult.internalSerialize standard emptyMessage) =
          if oneResult.validUTF8 standard emptyMessage then
            some (this.mergeFrom emptyMessage oneResult) else none) :=
  responses_merged wellFormed_oneWord wellFormed_oneResult (by decide +kernel) (by decide +kernel)

/-! ## The nodes of a lattice -/

/-- A serialized lattice, or a node on its own. -/
inductive LatticePart where
  | lattice (m : RecognitionLattice)
  | node (v : Int32)

namespace LatticePart
variable (w : WireFormat)

def bytes : LatticePart → Bytes
  | lattice m => m.internalSerialize w
  | node v => w.writeTag (makeTag 1 0) ++ w.writeVarint (signExtend v)

def validUTF8 : LatticePart → Bool
  | lattice m => m.validUTF8 w
  | node _ => true

def nodes : LatticePart → List Int32
  | lattice m => m.finalNodes
  | node v => [v]

def edges : LatticePart → List LatticeEdge
  | lattice m => m.edges.map (LatticeEdge.mergeFrom {})
  | node _ => []

def unknownFields : LatticePart → List UnknownField
  | lattice m => m.unknownFields
  | node _ => []

def mergeInto (this : RecognitionLattice) (p : LatticePart) : RecognitionLattice where
  finalNodes := this.finalNodes ++ p.nodes
  edges := this.edges ++ p.edges
  unknownFields := this.unknownFields ++ p.unknownFields

def WellFormed : LatticePart → Prop
  | lattice m => m.WellFormed w
  | node _ => True

variable {w}

theorem reads (this : RecognitionLattice) {p : LatticePart} (h : p.WellFormed w) :
    w.Reads (RecognitionLattice.parseField w) this (p.bytes w) (p.validUTF8 w) (mergeInto this p) := by
  cases p with
  | lattice m => exact this.reads_serialize h
  | node v =>
    have h := this.reads_node (w := w) v
    rwa [show { this with finalNodes := this.finalNodes ++ [v] } = mergeInto this (node v) by
      simp [mergeInto, nodes, edges, unknownFields]] at h

theorem foldl_mergeInto (parts : List LatticePart) (this : RecognitionLattice) :
    parts.foldl mergeInto this =
      ⟨this.finalNodes ++ parts.flatMap nodes, this.edges ++ parts.flatMap edges,
        this.unknownFields ++ parts.flatMap unknownFields⟩ := by
  induction parts generalizing this with
  | nil => simp
  | cons p parts ih =>
    rw [List.foldl_cons, ih]
    simp [mergeInto]

end LatticePart

/-- **Packed or not.** Nodes are read in the order of their bytes, whether they come in
the packed field the serializer writes or each with a tag of its own, between edges
or behind them. -/
theorem lattice_parts {w : WireFormat} {parts : List LatticePart} (hp : ∀ p ∈ parts, p.WellFormed w)
    (hs : (parts.flatMap (LatticePart.bytes w)).length < sizeLimit) (this : RecognitionLattice) :
    this.internalParse w (parts.flatMap (LatticePart.bytes w)) =
      if parts.all (LatticePart.validUTF8 w) then
        some ⟨this.finalNodes ++ parts.flatMap LatticePart.nodes,
          this.edges ++ parts.flatMap LatticePart.edges,
          this.unknownFields ++ parts.flatMap LatticePart.unknownFields⟩
      else none := by
  have hreads := Reads.flatMap (fun m p hmem => LatticePart.reads m (hp p hmem)) this
  rw [RecognitionLattice.internalParse, hreads.parse hs, LatticePart.foldl_mergeInto]

/-- The lattice is of a version of the message with a third field, a number. -/
def nodesOneByOne : List LatticePart :=
  [.node 1,
    .lattice
      { finalNodes := [2, 3], edges := [{ startNode := 1, endNode := -1 }], unknownFields := [⟨24, [5]⟩] },
    .node 4]

theorem wellFormed_nodesOneByOne : ∀ p ∈ nodesOneByOne, p.WellFormed standard := by
  rw [nodesOneByOne, List.forall_mem_cons, List.forall_mem_cons, List.forall_mem_singleton]
  refine ⟨trivial, ⟨?_, ?_⟩, trivial⟩
  · simp only [Foreign, List.forall_mem_singleton]
    exact ⟨by decide, by decide, by decide, fun _ => rfl⟩
  · rw [List.forall_mem_singleton]
    exact ⟨foreign_nil _⟩

theorem lattice_parts_at : RecognitionLattice.internalParse standard {}
    (nodesOneByOne.flatMap (LatticePart.bytes standard)) =
      if nodesOneByOne.all (LatticePart.validUTF8 standard) then
        some ⟨[] ++ nodesOneByOne.flatMap LatticePart.nodes, [] ++ nodesOneByOne.flatMap LatticePart.edges,
          [] ++ nodesOneByOne.flatMap LatticePart.unknownFields⟩
      else none :=
  lattice_parts wellFormed_nodesOneByOne (by decide +kernel) {}

/-! ## Floats -/

theorem isZero_iff (x : UInt32) : IsZero x ↔ x = 0 ∨ x = 0x80000000 := by
  have hmask : (0x7fffffff : UInt32).toNat = 2 ^ 31 - 1 := rfl
  have hzero : (0 : UInt32).toNat = 0 := rfl
  have hneg : (0x80000000 : UInt32).toNat = 2 ^ 31 := rfl
  have hlt := x.toNat_lt
  rw [IsZero, ← UInt32.toNat_inj, ← UInt32.toNat_inj, ← UInt32.toNat_inj, UInt32.toNat_and, hmask,
    Nat.and_two_pow_sub_one_eq_mod, hzero, hneg]
  omega

theorem copy_float_iff (x : UInt32) : (if IsZero x then 0 else x) = x ↔ 0x80000000 ≠ x := by
  by_cases h : IsZero x
  · rw [if_pos h]
    rcases (isZero_iff x).mp h with rfl | rfl <;> decide
  · rw [if_neg h]
    refine iff_of_true rfl ?_
    rintro rfl
    exact h ((isZero_iff _).mpr (.inr rfl))

theorem map_eq_self_iff {α : Type} {f : α → α} {l : List α} : l.map f = l ↔ ∀ x ∈ l, f x = x := by
  have h := List.map_inj_left (f := f) (g := id) (l := l)
  rwa [List.map_id] at h

/-- A copy of a list of messages is the list if the copies of its floats are. -/
theorem map_copy_iff {α : Type} {f : α → α} {floats : α → List UInt32} {l : List α}
    (h : ∀ x, f x = x ↔ 0x80000000 ∉ floats x) : l.map f = l ↔ 0x80000000 ∉ l.flatMap floats := by
  rw [map_eq_self_iff, List.mem_flatMap]
  constructor
  · rintro hall ⟨x, hx, hmem⟩
    exact (h x).mp (hall x hx) hmem
  · intro hno x hx
    exact (h x).mpr fun hmem => hno ⟨x, hx, hmem⟩

variable {S D : Type} {status : Message S} {duration : Message D}

namespace SpeechRecognitionAlternative

def floats (m : SpeechRecognitionAlternative D) : List UInt32 := [m.confidence]

theorem copy_iff (m : SpeechRecognitionAlternative D) :
    mergeFrom duration {} m = m ↔ 0x80000000 ∉ m.floats := by
  cases m with
  | mk transcript confidence words unknownFields =>
    have hwords : words.map (WordInfo.mergeFrom duration {}) = words :=
      map_eq_self_iff.mpr fun x _ => x.mergeFrom_new
    simp only [mergeFrom, mk.injEq, List.nil_append, hwords, ne_eq, ite_not, ite_default, copy_float_iff,
      true_and, and_true, floats, List.mem_singleton]

end SpeechRecognitionAlternative

namespace LatticeEdge

def floats (m : LatticeEdge) : List UInt32 := [m.languageCost, m.acousticCost]

theorem copy_iff (m : LatticeEdge) : mergeFrom {} m = m ↔ 0x80000000 ∉ m.floats := by
  cases m with
  | mk startNode endNode symbol languageCost acousticCost duration unknownFields =>
    simp only [mergeFrom, mk.injEq, List.nil_append, ne_eq, ite_not, ite_default, copy_float_iff,
      true_and, and_true,
      floats, List.mem_cons, List.not_mem_nil, or_false, not_or]

end LatticeEdge

namespace RecognitionLattice

def floats (m : RecognitionLattice) : List UInt32 := m.edges.flatMap LatticeEdge.floats

theorem copy_iff (m : RecognitionLattice) : mergeFrom {} m = m ↔ 0x80000000 ∉ m.floats := by
  cases m with
  | mk finalNodes edges unknownFields =>
    simp only [mergeFrom, mk.injEq, List.nil_append, true_and, and_true, floats]
    exact map_copy_iff LatticeEdge.copy_iff

end RecognitionLattice

namespace StreamingRecognitionResult

def floats (m : StreamingRecognitionResult D) : List UInt32 :=
  m.stability :: (m.alternatives.flatMap SpeechRecognitionAlternative.floats ++
    m.lattice.flatMap RecognitionLattice.floats)

theorem copy_iff (m : StreamingRecognitionResult D) :
    mergeFrom duration {} m = m ↔ 0x80000000 ∉ m.floats := by
  cases m with
  | mk alternatives isFinal stability resultFinalizationCause lattice unknownFields =>
    have halternatives := map_copy_iff (l := alternatives)
      (@SpeechRecognitionAlternative.copy_iff D duration)
    have hlattice := map_copy_iff (l := lattice) RecognitionLattice.copy_iff
    simp only [mergeFrom, mk.injEq, List.nil_append, halternatives, hlattice, ne_eq, ite_not, ite_default,
      copy_float_iff, Bool.if_false_right, Bool.and_self, Bool.decide_eq_true, true_and, and_true, floats,
      List.mem_cons, List.mem_append, not_or]
    exact and_left_comm

end StreamingRecognitionResult

namespace SpeechRecognitionResult

def floats (m : SpeechRecognitionResult D) : List UInt32 :=
  m.alternatives.flatMap SpeechRecognitionAlternative.floats ++ m.lattice.flatMap RecognitionLattice.floats

theorem copy_iff (m : SpeechRecognitionResult D) :
    mergeFrom duration {} m = m ↔ 0x80000000 ∉ m.floats := by
  cases m with
  | mk alternatives lattice unknownFields =>
    simp only [mergeFrom, mk.injEq, List.nil_append, and_true, floats, List.mem_append, not_or]
    exact and_congr (map_copy_iff SpeechRecognitionAlternative.copy_iff)
      (map_copy_iff RecognitionLattice.copy_iff)

end SpeechRecognitionResult

namespace StreamingRecognizeResponse

def floats (m : StreamingRecognizeResponse S D) : List UInt32 :=
  m.results.flatMap StreamingRecognitionResult.floats

theorem copy_iff (m : StreamingRecognizeResponse S D) :
    mergeFrom status duration {} m = m ↔ 0x80000000 ∉ m.floats := by
  cases m with
  | mk error results speechEventType unknownFields =>
    simp only [mergeFrom, mk.injEq, List.nil_append, status.copy_optional, Option.getD_none, ne_eq,
      ite_not, ite_default,
      true_and, and_true, floats]
    exact map_copy_iff StreamingRecognitionResult.copy_iff

end StreamingRecognizeResponse

namespace RecognizeResponse

def floats (m : RecognizeResponse D) : List UInt32 := m.results.flatMap SpeechRecognitionResult.floats

theorem copy_iff (m : RecognizeResponse D) : mergeFrom duration {} m = m ↔ 0x80000000 ∉ m.floats := by
  cases m with
  | mk results unknownFields =>
    simp only [mergeFrom, mk.injEq, List.nil_append, and_true, floats]
    exact map_copy_iff SpeechRecognitionResult.copy_iff

end RecognizeResponse

/-- Two messages are written in the same way exactly if they are read in the same way. -/
theorem same_bytes_iff {M : Type} {WellFormed : M → Prop} {serialize : M → Bytes} {parse : Bytes → Option M}
    {copy : M → M} {valid : M → Bool}
    (hparse : ∀ m, WellFormed m → (serialize m).length < sizeLimit →
      parse (serialize m) = if valid m then some (copy m) else none)
    (hcopy : ∀ m, serialize (copy m) = serialize m) {m n : M} (hm : WellFormed m) (hn : WellFormed n)
    (hs : (serialize m).length < sizeLimit) (hv : valid m = true) :
    serialize n = serialize m ↔ copy n = copy m := by
  constructor
  · intro h
    have hn := hparse n hn (h ▸ hs)
    rw [h, hparse m hm hs, if_pos hv] at hn
    split at hn
    · exact (Option.some.inj hn).symm
    · cases hn
  · intro h
    rw [← hcopy n, h, hcopy m]

/-- **What arrives.** A new message holds what was sent, but for negative zeros, which
are positive then; and two responses that would arrive differently are different on the wire. -/
theorem responses_arrive {w : WireFormat} {m : StreamingRecognizeResponse S D} {m' : RecognizeResponse D}
    (hm : m.WellFormed w) (hm' : m'.WellFormed w)
    (hs : m.byteSizeLong w status duration < sizeLimit) (hs' : m'.byteSizeLong w duration < sizeLimit)
    (hv : m.validUTF8 w status duration = true) (hv' : m'.validUTF8 w duration = true) :
    (StreamingRecognizeResponse.internalParse w status duration {} (m.internalSerialize w status duration) =
        some (.mergeFrom status duration {} m) ∧
      (.mergeFrom status duration {} m = m ↔ 0x80000000 ∉ m.floats) ∧
      ∀ n : StreamingRecognizeResponse S D, n.WellFormed w →
        (n.internalSerialize w status duration = m.internalSerialize w status duration ↔
          StreamingRecognizeResponse.mergeFrom status duration {} n = .mergeFrom status duration {} m)) ∧
    (RecognizeResponse.internalParse w duration {} (m'.internalSerialize w duration) =
        some (.mergeFrom duration {} m') ∧
      (.mergeFrom duration {} m' = m' ↔ 0x80000000 ∉ m'.floats) ∧
      ∀ n : RecognizeResponse D, n.WellFormed w →
        (n.internalSerialize w duration = m'.internalSerialize w duration ↔
          RecognizeResponse.mergeFrom duration {} n = .mergeFrom duration {} m')) := by
  rw [← m.length_serialize] at hs
  rw [← m'.length_serialize] at hs'
  have hparse (n : StreamingRecognizeResponse S D) (hn : n.WellFormed w)
      (h : (n.internalSerialize w status duration).length < sizeLimit) :=
    (StreamingRecognizeResponse.reads_serialize {} hn).parse h
  have hparse' (n : RecognizeResponse D) (hn : n.WellFormed w)
      (h : (n.internalSerialize w duration).length < sizeLimit) :=
    (RecognizeResponse.reads_serialize {} hn).parse h
  refine ⟨⟨(hparse m hm hs).trans (if_pos hv), m.copy_iff, fun n hn => ?_⟩,
    (hparse' m' hm' hs').trans (if_pos hv'), m'.copy_iff, fun n hn => ?_⟩
  · exact same_bytes_iff hparse StreamingRecognizeResponse.serialize_copy hm hn hs hv
  · exact same_bytes_iff hparse' RecognizeResponse.serialize_copy hm' hn hs' hv'

theorem responses_arrive_at :
    (StreamingRecognizeResponse.internalParse standard emptyMessage emptyMessage {}
        (oneWord.internalSerialize standard emptyMessage emptyMessage) =
          some (.mergeFrom emptyMessage emptyMessage {} oneWord) ∧
      (.mergeFrom emptyMessage emptyMessage {} oneWord = oneWord ↔ 0x80000000 ∉ oneWord.floats) ∧
      ∀ n : StreamingRecognizeResponse Unit Unit, n.WellFormed standard →
        (n.internalSerialize standard emptyMessage emptyMessage =
            oneWord.internalSerialize standard emptyMessage emptyMessage ↔
          StreamingRecognizeResponse.mergeFrom emptyMessage emptyMessage {} n =
            .mergeFrom emptyMessage emptyMessage {} oneWord)) ∧
    (RecognizeResponse.internalParse standard emptyMessage {}
      (oneResult.internalSerialize standard emptyMessage) =
        some (.mergeFrom emptyMessage {} oneResult) ∧
      (.mergeFrom emptyMessage {} oneResult = oneResult ↔ 0x80000000 ∉ oneResult.floats) ∧
      ∀ n : RecognizeResponse Unit, n.WellFormed standard →
        (n.internalSerialize standard emptyMessage = oneResult.internalSerialize standard emptyMessage ↔
          RecognizeResponse.mergeFrom emptyMessage {} n = .mergeFrom emptyMessage {} oneResult)) :=
  responses_arrive wellFormed_oneWord wellFormed_oneResult (by decide +kernel) (by decide +kernel)
    (by decide +kernel) (by decide +kernel)

end DictationClient.L1.Proto
