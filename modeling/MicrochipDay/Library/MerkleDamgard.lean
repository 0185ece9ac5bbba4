import MicrochipDay.Library.Blocks
import Mathlib.Data.Nat.ModEq

/-!
Owns hashing by chaining: a message is padded to whole blocks, and a compression
function folds the blocks into a chaining value. Whoever is fed the message piece
by piece holds the chaining value of the whole blocks so far and the bytes behind
them; the rules say how both move with a piece, and what is left to do at the end.
-/

namespace MicrochipDay.Library.MerkleDamgard

open MicrochipDay.Library.Blocks

/-- A compression function, its first chaining value, the size of its blocks and
the field that ends the padding. -/
structure Scheme (Chain : Type*) where
  compress : Chain → List UInt8 → Chain
  start : Chain
  size : Nat
  positive : 0 < size
  lengthSize : Nat
  lengthField : Nat → List UInt8
  lengthField_length : ∀ length, (lengthField length).length = lengthSize

namespace Scheme

variable {Chain : Type*} (scheme : Scheme Chain)

/-- Folds the blocks of the data into a chaining value. -/
def extend (chain : Chain) (data : List UInt8) : Chain :=
  (blocks scheme.size 0 data).foldl scheme.compress chain

/-- How many zeros fill the last block. -/
def zeros (length : Nat) : Nat :=
  (scheme.size - (length + 1 + scheme.lengthSize) % scheme.size) % scheme.size

/-- A one bit, zeros, and the length. -/
def padding (length : Nat) : List UInt8 :=
  0x80 :: (List.replicate (scheme.zeros length) 0 ++ scheme.lengthField length)

/-- The chaining value of a message with its padding. -/
def hash (message : List UInt8) : Chain :=
  scheme.extend scheme.start (message ++ scheme.padding message.length)

@[simp] theorem extend_nil (chain : Chain) : scheme.extend chain [] = chain := by
  rw [extend, blocks_nil scheme.positive]
  rfl

theorem extend_append (chain : Chain) {front : List UInt8} (whole : scheme.size ∣ front.length)
    (back : List UInt8) :
    scheme.extend chain (front ++ back) = scheme.extend (scheme.extend chain front) back := by
  unfold extend
  rw [blocks_append_whole scheme.positive 0 front whole, List.foldl_append]

/-- One block is compressed as it is. -/
theorem extend_block (chain : Chain) {block : List UInt8} (whole : block.length = scheme.size) :
    scheme.extend chain block = scheme.compress chain block := by
  have positive := scheme.positive
  have nonempty : block ≠ [] := by
    intro nothing
    rw [nothing, List.length_nil] at whole
    omega
  rw [extend, blocks_of_short 0 nonempty (le_of_eq whole), filled, whole, Nat.sub_self,
    List.replicate_zero, List.append_nil]
  rfl

/-- The padding depends on the length within its block, but for the length field. -/
theorem zeros_mod (length : Nat) : scheme.zeros (length % scheme.size) = scheme.zeros length := by
  have same : (length % scheme.size + 1 + scheme.lengthSize) % scheme.size =
      (length + 1 + scheme.lengthSize) % scheme.size :=
    ((Nat.mod_modEq length scheme.size).add_right 1).add_right _
  unfold zeros
  rw [same]

theorem length_padding (length : Nat) :
    (scheme.padding length).length = 1 + scheme.zeros length + scheme.lengthSize := by
  rw [padding, List.length_cons, List.length_append, List.length_replicate,
    scheme.lengthField_length]
  omega

/-- With its padding a message fills whole blocks. -/
theorem size_dvd_padded (message : List UInt8) :
    scheme.size ∣ (message ++ scheme.padding message.length).length := by
  have positive := scheme.positive
  have length : (message ++ scheme.padding message.length).length =
      message.length + 1 + scheme.lengthSize + scheme.zeros message.length := by
    rw [List.length_append, scheme.length_padding]
    omega
  rw [length]
  unfold zeros
  generalize message.length + 1 + scheme.lengthSize = used
  have within := Nat.mod_lt used positive
  have split := Nat.div_add_mod used scheme.size
  by_cases full : used % scheme.size = 0
  · rw [full, Nat.sub_zero, Nat.mod_self]
    exact Nat.dvd_of_mod_eq_zero full
  · rw [Nat.mod_eq_of_lt (by omega)]
    refine ⟨used / scheme.size + 1, ?_⟩
    rw [Nat.mul_succ]
    omega

/-- What is known once the bytes of a message have been fed: the chaining value of
its whole blocks, and the bytes behind them. -/
structure Fed (message : List UInt8) (chain : Chain) (rest : List UInt8) : Prop where
  short : rest.length < scheme.size
  front : ∃ front, message = front ++ rest ∧ scheme.size ∣ front.length ∧
    chain = scheme.extend scheme.start front

namespace Fed

variable {scheme} {message rest : List UInt8} {chain : Chain}

theorem nothing : scheme.Fed [] scheme.start [] :=
  ⟨scheme.positive, [], rfl, dvd_zero _, (scheme.extend_nil _).symm⟩

theorem length_mod (fed : scheme.Fed message chain rest) :
    message.length % scheme.size = rest.length := by
  obtain ⟨front, whole, divides, _⟩ := fed.front
  rw [whole, List.length_append, Nat.add_mod, Nat.mod_eq_zero_of_dvd divides, Nat.zero_add,
    Nat.mod_mod, Nat.mod_eq_of_lt fed.short]

/-- A piece with what was behind the blocks: new whole blocks, and a new rest. -/
theorem feed (fed : scheme.Fed message chain rest) {piece whole left : List UInt8}
    (split : rest ++ piece = whole ++ left) (divides : scheme.size ∣ whole.length)
    (short : left.length < scheme.size) :
    scheme.Fed (message ++ piece) (scheme.extend chain whole) left := by
  obtain ⟨front, known, aligned, reached⟩ := fed.front
  refine ⟨short, front ++ whole, ?_, ?_, ?_⟩
  · rw [known, List.append_assoc, split, List.append_assoc]
  · rw [List.length_append]
    exact Nat.dvd_add aligned divides
  · rw [scheme.extend_append scheme.start aligned, reached]

/-- A piece that does not fill a block. -/
theorem keep (fed : scheme.Fed message chain rest) {piece : List UInt8}
    (short : (rest ++ piece).length < scheme.size) :
    scheme.Fed (message ++ piece) chain (rest ++ piece) := by
  have kept := fed.feed (List.nil_append (rest ++ piece)).symm (dvd_zero _) short
  rwa [scheme.extend_nil] at kept

/-- The end of the message: what is behind the blocks, and the padding. -/
theorem finish (fed : scheme.Fed message chain rest) :
    scheme.hash message = scheme.extend chain (rest ++ scheme.padding message.length) := by
  obtain ⟨front, known, aligned, reached⟩ := fed.front
  have split : message ++ scheme.padding message.length =
      front ++ (rest ++ scheme.padding message.length) := by
    rw [← List.append_assoc, ← known]
  rw [hash, split, scheme.extend_append scheme.start aligned, reached]

/-- What is left at the end fills whole blocks. -/
theorem size_dvd_last (fed : scheme.Fed message chain rest) :
    scheme.size ∣ (rest ++ scheme.padding message.length).length := by
  obtain ⟨front, known, aligned, _⟩ := fed.front
  have padded := scheme.size_dvd_padded message
  rw [show message ++ scheme.padding message.length =
    front ++ (rest ++ scheme.padding message.length) by rw [← List.append_assoc, ← known],
    List.length_append] at padded
  exact (Nat.dvd_add_right aligned).mp padded

end Fed

end Scheme

end MicrochipDay.Library.MerkleDamgard
