import MicrochipDay.Library.BigEndian
import MicrochipDay.Library.MerkleDamgard
import Mathlib.Data.BitVec

/-!
Owns the secure hash standard for SHA-1 and SHA-256: words, the schedule of a
block as a recurrence, the rounds, and the padding with the length in 64 bits.
The constants are what the standard says they are, digits of square and cube roots.
-/

namespace MicrochipDay.Library.SecureHash

open MicrochipDay.Library

abbrev Word := BitVec 32

/-- A word of a block, its first byte the highest. -/
def wordAt (block : List UInt8) (index : Nat) : Word :=
  BitVec.ofNat 32 (BigEndian.fromBytes ((block.drop (4 * index)).take 4))

def wordBytes (word : Word) : List UInt8 := BigEndian.toBytes 4 word.toNat

/-- The length in bits, as the last eight bytes of the padding. -/
def bitLength (length : Nat) : List UInt8 := BigEndian.toBytes 8 (8 * length)

theorem bitLength_length (length : Nat) : (bitLength length).length = 8 :=
  BigEndian.toBytes_length 8 _

def blockSize : Nat := 64

theorem blockSize_pos : 0 < blockSize := by decide

/-! ## Functions and constants -/

def ch (x y z : Word) : Word := (x &&& y) ^^^ (~~~x &&& z)

def maj (x y z : Word) : Word := (x &&& y) ^^^ (x &&& z) ^^^ (y &&& z)

def parity (x y z : Word) : Word := x ^^^ y ^^^ z

/-- The largest number whose power is at most `value`, found bit by bit from the
highest of `bits` on. -/
def rootFrom (exponent value : Nat) : (bits root : Nat) → Nat
  | 0, root => root
  | bits + 1, root =>
      if (root + 2 ^ bits) ^ exponent ≤ value then
        rootFrom exponent value bits (root + 2 ^ bits)
      else rootFrom exponent value bits root

/-- The first 32 bits behind the point of a root. -/
def rootFraction (exponent value : Nat) : Word :=
  BitVec.ofNat 32 (rootFrom exponent (value * 2 ^ (32 * exponent)) 40 0)

/-- The primes below a bound. -/
def primesBelow (bound : Nat) : List Nat :=
  (List.range bound).filter fun number =>
    1 < number ∧ ∀ divisor ∈ List.range number, 1 < divisor → number % divisor ≠ 0

/-! ## SHA-1 -/

namespace Sha1

/-- `W_t`. -/
def schedule (block : List UInt8) (t : Nat) : Word :=
  if t < 16 then wordAt block t
  else (schedule block (t - 3) ^^^ schedule block (t - 8) ^^^ schedule block (t - 14) ^^^
    schedule block (t - 16)).rotateLeft 1
termination_by t

theorem schedule_add (block : List UInt8) (t : Nat) :
    schedule block (t + 16) = (schedule block (t + 13) ^^^ schedule block (t + 8) ^^^
      schedule block (t + 2) ^^^ schedule block t).rotateLeft 1 := by
  rw [schedule, if_neg (by omega), Nat.add_sub_cancel]
  rfl

/-- `f_t`. -/
def function (t : Nat) : Word → Word → Word → Word :=
  if t < 20 then ch else if t < 40 then parity else if t < 60 then maj else parity

/-- `K_t`: the square roots of 2, 3, 5 and 10, less than four, with 30 bits behind
the point. -/
def constant (t : Nat) : Word :=
  let value := if t < 20 then 2 else if t < 40 then 3 else if t < 60 then 5 else 10
  BitVec.ofNat 32 (rootFrom 2 (value * 2 ^ 60) 40 0)

def round (t : Nat) (word : Word) (v : Vector Word 5) : Vector Word 5 :=
  #v[v[0].rotateLeft 5 + function t v[1] v[2] v[3] + v[4] + constant t + word, v[0],
    v[1].rotateLeft 30, v[2], v[3]]

def compress (chain : Vector Word 5) (block : List UInt8) : Vector Word 5 :=
  chain.zipWith (· + ·)
    ((List.range 80).foldl (fun v t => round t (schedule block t) v) chain)

def start : Vector Word 5 :=
  #v[0x67452301#32, 0xefcdab89#32, 0x98badcfe#32, 0x10325476#32, 0xc3d2e1f0#32]

def scheme : MerkleDamgard.Scheme (Vector Word 5) where
  compress := compress
  start := start
  size := blockSize
  positive := blockSize_pos
  lengthSize := 8
  lengthField := bitLength
  lengthField_length := bitLength_length

/-- The digest of a message. -/
def digest (message : List UInt8) : List UInt8 := (scheme.hash message).toList.flatMap wordBytes

end Sha1

/-! ## SHA-256 -/

namespace Sha256

def bigSigma0 (x : Word) : Word := x.rotateRight 2 ^^^ x.rotateRight 13 ^^^ x.rotateRight 22

def bigSigma1 (x : Word) : Word := x.rotateRight 6 ^^^ x.rotateRight 11 ^^^ x.rotateRight 25

def sigma0 (x : Word) : Word := x.rotateRight 7 ^^^ x.rotateRight 18 ^^^ (x >>> 3)

def sigma1 (x : Word) : Word := x.rotateRight 17 ^^^ x.rotateRight 19 ^^^ (x >>> 10)

/-- `W_t`. -/
def schedule (block : List UInt8) (t : Nat) : Word :=
  if t < 16 then wordAt block t
  else sigma1 (schedule block (t - 2)) + schedule block (t - 7) +
    sigma0 (schedule block (t - 15)) + schedule block (t - 16)
termination_by t

/-- `K_0` to `K_63`: the cube roots of the first 64 primes. -/
def constants : List Word := (primesBelow 312).map (rootFraction 3)

def round (constant word : Word) (v : Vector Word 8) : Vector Word 8 :=
  let t1 := v[7] + bigSigma1 v[4] + ch v[4] v[5] v[6] + constant + word
  let t2 := bigSigma0 v[0] + maj v[0] v[1] v[2]
  #v[t1 + t2, v[0], v[1], v[2], v[3] + t1, v[4], v[5], v[6]]

def compress (chain : Vector Word 8) (block : List UInt8) : Vector Word 8 :=
  chain.zipWith (· + ·)
    ((List.range 64).foldl (fun v t => round (constants.getD t 0) (schedule block t) v) chain)

/-- The square roots of the first eight primes. -/
def start : Vector Word 8 := #v[2, 3, 5, 7, 11, 13, 17, 19].map (rootFraction 2)

def scheme : MerkleDamgard.Scheme (Vector Word 8) where
  compress := compress
  start := start
  size := blockSize
  positive := blockSize_pos
  lengthSize := 8
  lengthField := bitLength
  lengthField_length := bitLength_length

/-- The digest of a message. -/
def digest (message : List UInt8) : List UInt8 := (scheme.hash message).toList.flatMap wordBytes

end Sha256

end MicrochipDay.Library.SecureHash
