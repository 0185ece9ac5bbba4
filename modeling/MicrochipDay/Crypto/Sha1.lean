import MicrochipDay.Crypto.Sha256
import MicrochipDay.Library.RingStorage

/-!
Owns SHA-1 in software (sha1_routines.c). The engine keeps sixteen words of its
schedule, each overwritten in place by the word sixteen rounds later; the count of
bytes has 64 bits, in two variables. However a message is cut, the digest is the
standard's; but a piece of 2^15 bytes or more is left out, since its size is
negative as an `int` of 16 bits.
-/

namespace MicrochipDay.Crypto

open MicrochipDay.Library MicrochipDay.Library.SecureHash

/-- `leftRotate`. -/
def leftRotate (x : Word) (n : Nat) : Word := (x <<< n) ||| (x >>> (32 - n))

/-! ## The engine -/

def packByte (temp : Word) (byte : UInt8) : Word := (temp <<< 8) ||| BitVec.ofNat 32 byte.toNat

/-- The loop that packs the block into words. Each word is written over the bytes
it has been read from. -/
def packWords : Nat → Word → List UInt8 → List Word
  | 0, _, _ => []
  | count + 1, temp, bytes =>
      let temp := (bytes.take 4).foldl packByte temp
      temp :: packWords count temp (bytes.drop 4)

/-- The function and the constant of a round. -/
def roundFunction (t : Nat) (b c d : Word) : Word :=
  if t < 20 then ((b &&& c) ||| (~~~b &&& d)) + 0x5a827999#32
  else if t < 40 then (b ^^^ c ^^^ d) + 0x6ed9eba1#32
  else if t < 60 then ((b &&& c) ||| (b &&& d) ||| (c &&& d)) + 0x8f1bbcdc#32
  else (b ^^^ c ^^^ d) + 0xca62c1d6#32

/-- One of the 80 rounds: the words, and the variables `a` to `e`. -/
def engineRound (state : List Word × Vector Word 5) (t : Nat) : List Word × Vector Word 5 :=
  let (w, v) := state
  let held := v.get
  let temp := leftRotate (held 0) 5 + held 4 + w.getD (t % 16) 0 +
    roundFunction t (held 1) (held 2) (held 3)
  -- `(t - 3) & 0xf`, `(t - 8) & 0xf` and `(t - 14) & 0xf`
  let word := leftRotate (w.getD (t % 16) 0 ^^^ w.getD ((t + 13) % 16) 0 ^^^
    w.getD ((t + 8) % 16) 0 ^^^ w.getD ((t + 2) % 16) 0) 1
  (w.set (t % 16) word,
    #v[temp, held 0, leftRotate (held 1) 30, held 2, held 3])

/-- A word as it lies in memory. -/
def memoryBytes (word : Word) : List UInt8 := (wordBytes word).reverse

/-- `shaEngine`: what it leaves in the buffer, and the chaining variables. -/
def shaEngine (buf : List UInt8) (h : Vector Word 5) : List UInt8 × Vector Word 5 :=
  let (w, v) := (List.range 80).foldl engineRound (packWords 16 0 buf, h)
  (w.flatMap memoryBytes, h.zipWith (· + ·) v)

/-! ## The context -/

/-- `CL_HashContext`. -/
structure HashContext where
  h : Vector Word 5
  buf : List UInt8
  byteCount : Nat
  byteCountHi : Nat

/-- `hashContext_h_init`. -/
def hashContextHInit : Vector Word 5 :=
  #v[0x67452301, 0xefcdab89, 0x98badcfe, 0x10325476, 0xc3d2e1f0]

/-- `CL_hashInit`. -/
def clHashInit : HashContext := ⟨hashContextHInit, List.replicate 64 0, 0, 0⟩

namespace HashContext

/-- Digests the buffer. -/
def crunch (ctx : HashContext) : HashContext :=
  { ctx with buf := (shaEngine ctx.buf ctx.h).1, h := (shaEngine ctx.buf ctx.h).2 }

/-- Counts bytes, 64 bits wide. -/
def count (ctx : HashContext) (i : Nat) : HashContext :=
  let byteCount := (ctx.byteCount + i) % 2 ^ 32
  { ctx with
    byteCount := byteCount
    byteCountHi :=
      if byteCount = 0 then (ctx.byteCountHi + 1) % 2 ^ 32 else ctx.byteCountHi }

end HashContext

/-- The loop of `CL_hashUpdate`. Each round takes at least one byte, so `nbytes`
rounds are enough. -/
def clHashUpdateLoop : (rounds freeBytes nbytes : Nat) → List UInt8 → HashContext → HashContext
  | 0, _, _, _, ctx => ctx
  | rounds + 1, freeBytes, nbytes, src, ctx =>
      if nbytes > 0 then
        let i := if nbytes < freeBytes then nbytes else freeBytes
        -- a whole block begins at the beginning of the buffer
        let ctx := { ctx with buf := Memory.overwrite ctx.buf (64 - freeBytes) (src.take i) }
        let ctx := if freeBytes - i = 0 then ctx.crunch else ctx
        clHashUpdateLoop rounds 64 (nbytes - i) (src.drop i) (ctx.count i)
      else ctx

/-- `CL_hashUpdate`. -/
def clHashUpdate (ctx : HashContext) (src : List UInt8) (nbytes : Int) : HashContext :=
  clHashUpdateLoop nbytes.toNat (64 - ctx.byteCount % 64) nbytes.toNat src ctx

/-- Four bytes of the bit count, the lowest last. -/
def countBytes (temp : Nat) : List UInt8 :=
  [UInt8.ofNat (temp >>> 24), UInt8.ofNat (temp >>> 16), UInt8.ofNat (temp >>> 8), UInt8.ofNat temp]

/-- The bit count, three more than the bytes are shifted by. -/
def bitCount (ctx : HashContext) : List UInt8 :=
  countBytes ((ctx.byteCountHi * 8 % 2 ^ 32) ||| ctx.byteCount >>> 29) ++
    countBytes (ctx.byteCount * 8 % 2 ^ 32)

/-- `CL_hashFinal`. -/
def clHashFinal (ctx : HashContext) : List UInt8 :=
  let nbytes := ctx.byteCount % 64
  let ctx := { ctx with
    buf := Memory.overwrite ctx.buf nbytes (0x80 :: List.replicate (63 - nbytes) 0) }
  let ctx := if nbytes > 64 - 9 then { ctx.crunch with buf := List.replicate 64 0 } else ctx
  let ctx := { ctx with buf := Memory.overwrite ctx.buf 56 (bitCount ctx) }
  ctx.crunch.h.toList.flatMap digestWord

/-- `atcac_sw_sha1_update`: the size is cast to an `int` of 16 bits. -/
def atcacSwSha1Update (ctx : HashContext) (data : List UInt8) : HashContext :=
  clHashUpdate ctx data (BitVec.ofNat 16 data.length).toInt

/-- `atcac_sw_sha1_finish`. -/
def atcacSwSha1Finish (ctx : HashContext) : List UInt8 := clHashFinal ctx

/-! ## The engine compresses as the standard says -/

theorem leftRotate_eq (x : Word) {n : Nat} (less : n < 32) : leftRotate x n = x.rotateLeft n := by
  rw [leftRotate, BitVec.rotateLeft_def, Nat.mod_eq_of_lt less]

theorem packByte_toNat (temp : Word) (byte : UInt8) :
    (packByte temp byte).toNat = (temp.toNat * 256 + byte.toNat) % 2 ^ 32 := by
  have small := byte.toNat_lt
  have shifted : (temp.toNat <<< 8) % 2 ^ 32 = (temp.toNat % 2 ^ 24) <<< 8 := by
    rw [Nat.shiftLeft_eq, Nat.shiftLeft_eq]
    omega
  rw [packByte, BitVec.toNat_or, BitVec.toNat_shiftLeft, BitVec.toNat_ofNat, shifted,
    Nat.mod_eq_of_lt (show byte.toNat < 2 ^ 32 by omega),
    ← Nat.shiftLeft_add_eq_or_of_lt (show byte.toNat < 2 ^ 8 by omega), Nat.shiftLeft_eq]
  omega

/-- Four bytes push out whatever was in the word. -/
theorem foldl_packByte (temp : Word) {bytes : List UInt8} (four : bytes.length = 4) :
    bytes.foldl packByte temp = BitVec.ofNat 32 (BigEndian.fromBytes bytes) := by
  match bytes, four with
  | [first, second, third, fourth], _ =>
      apply BitVec.eq_of_toNat_eq
      simp only [List.foldl_cons, List.foldl_nil, packByte_toNat, BitVec.toNat_ofNat,
        BigEndian.fromBytes]
      omega

theorem packWords_spec (count : Nat) : ∀ (temp : Word) (bytes : List UInt8),
    4 * count ≤ bytes.length → (packWords count temp bytes).length = count ∧
      ∀ t < count, (packWords count temp bytes).getD t 0 = wordAt bytes t := by
  induction count with
  | zero => exact fun _ _ _ => ⟨rfl, fun t impossible => absurd impossible (Nat.not_lt_zero t)⟩
  | succ count inductionHypothesis =>
      intro temp bytes enough
      have first : (bytes.take 4).length = 4 := List.length_take_of_le (by omega)
      obtain ⟨length, words⟩ := inductionHypothesis ((bytes.take 4).foldl packByte temp)
        (bytes.drop 4) (by rw [List.length_drop]; omega)
      unfold packWords
      dsimp only
      refine ⟨congrArg (· + 1) length, fun t inside => ?_⟩
      cases t with
      | zero => exact foldl_packByte temp first
      | succ t =>
          rw [List.getD_cons_succ, words t (by omega), wordAt, wordAt, List.drop_drop]
          congr 4
          omega

theorem roundFunction_eq (t : Nat) (b c d : Word) :
    roundFunction t b c d = Sha1.function t b c d + Sha1.constant t := by
  have choose : (b &&& c) ||| (~~~b &&& d) = ch b c d := by
    unfold ch
    ext i
    simp only [BitVec.getElem_or, BitVec.getElem_and, BitVec.getElem_not, BitVec.getElem_xor]
    cases b[i] <;> simp
  have majority : (b &&& c) ||| (b &&& d) ||| (c &&& d) = maj b c d := by
    unfold maj
    ext i
    simp only [BitVec.getElem_or, BitVec.getElem_and, BitVec.getElem_xor]
    cases b[i] <;> cases d[i] <;> simp
  have root2 : BitVec.ofNat 32 (rootFrom 2 (2 * 2 ^ 60) 40 0) = 0x5a827999#32 := by decide +kernel
  have root3 : BitVec.ofNat 32 (rootFrom 2 (3 * 2 ^ 60) 40 0) = 0x6ed9eba1#32 := by decide +kernel
  have root5 : BitVec.ofNat 32 (rootFrom 2 (5 * 2 ^ 60) 40 0) = 0x8f1bbcdc#32 := by decide +kernel
  have root10 : BitVec.ofNat 32 (rootFrom 2 (10 * 2 ^ 60) 40 0) = 0xca62c1d6#32 := by decide +kernel
  unfold roundFunction Sha1.function Sha1.constant
  split
  · rw [choose, root2]
  split
  · rw [root3]
    rfl
  split
  · rw [majority, root5]
  · rw [root10]
    rfl

/-- Before round `t` the sixteen words are those of the schedule from `t` on, each
in its place. -/
structure Window (block : List UInt8) (t : Nat) (w : List Word) : Prop where
  length : w.length = 16
  words : ∀ j < 16, w.getD ((t + j) % 16) 0 = Sha1.schedule block (t + j)

theorem Window.next {block : List UInt8} {t : Nat} {w : List Word} (window : Window block t w)
    (v : Vector Word 5) : Window block (t + 1) (engineRound (w, v) t).1 := by
  have now := window.words 0 (by decide)
  rw [Nat.add_zero] at now
  have word : leftRotate (w.getD (t % 16) 0 ^^^ w.getD ((t + 13) % 16) 0 ^^^
      w.getD ((t + 8) % 16) 0 ^^^ w.getD ((t + 2) % 16) 0) 1 = Sha1.schedule block (t + 16) := by
    rw [now, window.words 13 (by decide), window.words 8 (by decide), window.words 2 (by decide),
      leftRotate_eq _ (by decide), Sha1.schedule_add]
    congr 1
    ac_rfl
  unfold engineRound
  dsimp only
  rw [word]
  refine ⟨by rw [List.length_set, window.length], fun j inside => ?_⟩
  by_cases last : j = 15
  · subst last
    rw [show (t + 1 + 15) % 16 = t % 16 by omega,
      RingStorage.getD_set_self (by rw [window.length]; omega)]
  · rw [RingStorage.getD_set_ne (by omega), show t + 1 + j = t + (j + 1) by omega]
    exact window.words (j + 1) (by omega)

theorem Window.registers {block : List UInt8} {t : Nat} {w : List Word} (window : Window block t w)
    (v : Vector Word 5) : (engineRound (w, v) t).2 = Sha1.round t (Sha1.schedule block t) v := by
  have now := window.words 0 (by decide)
  rw [Nat.add_zero] at now
  have temp : leftRotate v[0] 5 + v[4] + w.getD (t % 16) 0 + roundFunction t v[1] v[2] v[3] =
      v[0].rotateLeft 5 + Sha1.function t v[1] v[2] v[3] + v[4] + Sha1.constant t +
        Sha1.schedule block t := by
    rw [now, leftRotate_eq _ (by decide), roundFunction_eq]
    generalize v[0].rotateLeft 5 = rotated
    generalize Sha1.function t v[1] v[2] v[3] = value
    generalize Sha1.constant t = constant
    ac_rfl
  have turned : leftRotate v[1] 30 = v[1].rotateLeft 30 := leftRotate_eq _ (by decide)
  exact congrArg₂ (fun temp c : Word => #v[temp, v[0], c, v[2], v[3]]) temp turned

theorem rounds_spec {block : List UInt8} {w : List Word} (window : Window block 0 w)
    (v : Vector Word 5) (count : Nat) :
    Window block count ((List.range count).foldl engineRound (w, v)).1 ∧
      ((List.range count).foldl engineRound (w, v)).2 =
        (List.range count).foldl (fun v t => Sha1.round t (Sha1.schedule block t) v) v := by
  induction count with
  | zero => exact ⟨window, rfl⟩
  | succ count inductionHypothesis =>
      rw [List.range_succ, List.foldl_append, List.foldl_append, ← inductionHypothesis.2]
      exact ⟨inductionHypothesis.1.next _, inductionHypothesis.1.registers _⟩

theorem shaEngine_eq {buf : List UInt8} (whole : buf.length = 64) (h : Vector Word 5) :
    (shaEngine buf h).1.length = 64 ∧ (shaEngine buf h).2 = Sha1.compress h buf := by
  obtain ⟨length, words⟩ := packWords_spec 16 0 buf (by omega)
  have window : Window buf 0 (packWords 16 0 buf) := by
    refine ⟨length, fun j inside => ?_⟩
    rw [Nat.zero_add, Nat.mod_eq_of_lt inside, words j inside, Sha1.schedule, if_pos inside]
  obtain ⟨last, registers⟩ := rounds_spec window h 80
  have bytes (word : Word) : (memoryBytes word).length = 4 := by
    rw [memoryBytes, List.length_reverse]
    exact BigEndian.toBytes_length 4 _
  unfold shaEngine Sha1.compress
  dsimp only
  rw [registers]
  refine ⟨?_, rfl⟩
  rw [List.length_flatMap]
  simp only [bytes, List.map_const', List.sum_replicate_nat]
  rw [last.length]

/-! ## A message fed piece by piece -/

-- from here on the engine is what `shaEngine_eq` says
attribute [local irreducible] shaEngine

theorem hashContextHInit_eq : hashContextHInit = Sha1.start := by decide +kernel

/-- The zeros of the padding, as the code counts them: up to the length, in this block or
behind it. -/
theorem scheme_zeros (length : Nat) :
    Sha1.scheme.zeros length =
      if length % 64 > 64 - 9 then 63 - length % 64 + 56 else 55 - length % 64 := by
  show (64 - (length + 1 + 8) % 64) % 64 = _
  split <;> omega

/-- The length goes into the last eight bytes of a block. -/
theorem overwrite_field {front field : List UInt8} (most : front.length = 56)
    (eight : field.length = 8) :
    Memory.overwrite (front ++ List.replicate 8 0) 56 field = front ++ field := by
  rw [← most]
  apply Memory.overwrite_tail
  rw [eight, List.length_replicate]

/-- The context has been fed the message, and has counted its bytes. -/
structure HashContext.Represents (ctx : HashContext) (message : List UInt8) : Prop where
  count : ctx.byteCount = message.length % 2 ^ 32
  countHi : ctx.byteCountHi = message.length / 2 ^ 32 % 2 ^ 32
  room : ctx.buf.length = 64
  fed : Sha1.scheme.Fed message ctx.h (ctx.buf.take (message.length % 64))

theorem clHashInit_represents : clHashInit.Represents [] := by
  refine ⟨rfl, rfl, List.length_replicate, ?_⟩
  show Sha1.scheme.Fed [] hashContextHInit []
  rw [hashContextHInit_eq]
  exact .nothing

namespace HashContext.Represents

variable {ctx : HashContext} {message : List UInt8}

/-- No piece passes the end of a block, so the low half of the count comes to zero
whenever it comes round. -/
theorem counted (represents : ctx.Represents message) {i : Nat} (positive : 0 < i)
    (within : i ≤ 64 - message.length % 64) :
    (ctx.count i).byteCount = (message.length + i) % 2 ^ 32 ∧
      (ctx.count i).byteCountHi = (message.length + i) / 2 ^ 32 % 2 ^ 32 := by
  have count := represents.count
  have countHi := represents.countHi
  unfold HashContext.count
  dsimp only
  rw [count, countHi]
  refine ⟨by omega, ?_⟩
  split <;> omega

/-- Bytes for the block that is begun, written behind it in the buffer. -/
theorem round (represents : ctx.Represents message) {bytes : List UInt8} (some : bytes ≠ [])
    (within : bytes.length ≤ 64 - message.length % 64) :
    let filled := { ctx with buf := Memory.overwrite ctx.buf (message.length % 64) bytes }
    let after := if 64 - message.length % 64 - bytes.length = 0 then filled.crunch else filled
    (after.count bytes.length).Represents (message ++ bytes) := by
  intro filled after
  have positive := List.length_pos_iff.mpr some
  have room := represents.room
  have begun : message.length % 64 < 64 := Nat.mod_lt _ (by decide)
  have length : (message ++ bytes).length = message.length + bytes.length := List.length_append
  obtain ⟨count, countHi⟩ := represents.counted positive within
  rw [← length] at count countHi
  have taken := @Memory.take_overwrite _ ctx.buf bytes (message.length % 64) (by omega)
  have whole : filled.buf.length = 64 := by
    show (Memory.overwrite _ _ _).length = 64
    rw [Memory.length_overwrite (by omega), room]
  by_cases full : 64 - message.length % 64 - bytes.length = 0
  · have crunched : after = filled.crunch := if_pos full
    have atEnd : message.length % 64 + bytes.length = 64 := by omega
    have block : filled.buf = ctx.buf.take (message.length % 64) ++ bytes := by
      rw [← taken, atEnd]
      exact (List.take_of_length_le (le_of_eq whole)).symm
    obtain ⟨sixtyFour, compressed⟩ := shaEngine_eq whole ctx.h
    rw [crunched]
    refine ⟨count, countHi, sixtyFour, ?_⟩
    have nothing : (message ++ bytes).length % 64 = 0 := by
      rw [length]
      omega
    have fed := represents.fed.feed (List.append_nil _).symm
      (dvd_of_eq (show Sha1.scheme.size = (ctx.buf.take (message.length % 64) ++ bytes).length by
        rw [← block, whole]
        rfl)) (show ([] : List UInt8).length < Sha1.scheme.size by decide)
    show Sha1.scheme.Fed _ (shaEngine filled.buf ctx.h).2 _
    rw [compressed, nothing, List.take_zero, block]
    rwa [Sha1.scheme.extend_block ctx.h (by rw [← block, whole]; rfl)] at fed
  · have kept : after = filled := if_neg full
    have behind : (message ++ bytes).length % 64 = message.length % 64 + bytes.length := by
      rw [length]
      omega
    rw [kept]
    refine ⟨count, countHi, whole, ?_⟩
    show Sha1.scheme.Fed _ ctx.h (filled.buf.take _)
    rw [behind]
    show Sha1.scheme.Fed _ ctx.h ((Memory.overwrite _ _ _).take _)
    rw [taken]
    refine represents.fed.keep ?_
    rw [← taken, List.length_take]
    show min _ _ < 64
    omega

theorem clHashUpdateLoop_nothing (rounds freeBytes : Nat) (src : List UInt8) (ctx : HashContext) :
    clHashUpdateLoop rounds freeBytes 0 src ctx = ctx := by
  cases rounds <;> rfl

/-- All that `nbytes` says is fed. -/
theorem loop (rounds : Nat) : ∀ {ctx : HashContext} {message : List UInt8} (src : List UInt8),
    ctx.Represents message → src.length ≤ rounds →
      (clHashUpdateLoop rounds (64 - message.length % 64) src.length src ctx).Represents
        (message ++ src) := by
  induction rounds with
  | zero =>
      intro ctx message src represents few
      have nothing : src = [] := List.eq_nil_of_length_eq_zero (by omega)
      rw [nothing, List.append_nil]
      exact represents
  | succ rounds inductionHypothesis =>
      intro ctx message src represents few
      have begun : message.length % 64 < 64 := Nat.mod_lt _ (by decide)
      unfold clHashUpdateLoop
      by_cases some : src.length > 0
      swap
      · have nothing : src = [] := List.eq_nil_of_length_eq_zero (by omega)
        rw [if_neg some, nothing, List.append_nil]
        exact represents
      rw [if_pos some]
      dsimp only
      have offset : 64 - (64 - message.length % 64) = message.length % 64 := by omega
      rw [offset]
      generalize counted : (if src.length < 64 - message.length % 64 then src.length
        else 64 - message.length % 64) = i
      have bounds : 0 < i ∧ i ≤ src.length ∧ i ≤ 64 - message.length % 64 ∧
          (i = src.length ∨ i = 64 - message.length % 64) := by
        rw [← counted]
        split <;> omega
      have size : (src.take i).length = i := List.length_take_of_le bounds.2.1
      have next := @round ctx message represents (src.take i)
        (List.length_pos_iff.mp (by omega)) (by omega)
      dsimp only at next
      rw [size] at next
      have left : (src.drop i).length = src.length - i := List.length_drop
      by_cases atEnd : i = 64 - message.length % 64
      · have whole : (message ++ src.take i).length % 64 = 0 := by
          rw [List.length_append, size]
          omega
        have rest := inductionHypothesis (src.drop i) next (by omega)
        rw [whole, left, List.append_assoc, List.take_append_drop] at rest
        exact rest
      · have last : i = src.length := by omega
        subst last
        rw [List.take_length] at next ⊢
        rw [Nat.sub_self, clHashUpdateLoop_nothing]
        exact next

theorem update (represents : ctx.Represents message) (src : List UInt8) :
    (clHashUpdate ctx src src.length).Represents (message ++ src) := by
  have begun : ctx.byteCount % 64 = message.length % 64 := by
    rw [represents.count]
    omega
  unfold clHashUpdate
  rw [begun]
  exact represents.loop src.length src le_rfl

theorem extend_of_length (h : Vector Word 5) {block : List UInt8} (whole : block.length = 64) :
    Sha1.scheme.extend h block = Sha1.compress h block :=
  Sha1.scheme.extend_block h whole

theorem crunch_h {ctx : HashContext} (whole : ctx.buf.length = 64) :
    ctx.crunch.h = Sha1.scheme.extend ctx.h ctx.buf := by
  rw [extend_of_length ctx.h whole]
  exact (shaEngine_eq whole ctx.h).2

/-- The count as it is written is the length in bits. -/
theorem bitCount_eq (represents : ctx.Represents message) :
    bitCount ctx = bitLength message.length := by
  have bytes (temp : Nat) : countBytes temp = BigEndian.toBytes 4 temp := by
    rw [BigEndian.toBytes_four]
    simp only [countBytes, Nat.shiftRight_eq_div_pow]
  have shifted : ctx.byteCountHi * 8 % 2 ^ 32 = (ctx.byteCountHi % 2 ^ 29) <<< 3 := by
    rw [Nat.shiftLeft_eq]
    omega
  have high : ctx.byteCount >>> 29 < 2 ^ 3 := by
    rw [Nat.shiftRight_eq_div_pow, represents.count]
    omega
  rw [bitCount, bytes, bytes, shifted, ← Nat.shiftLeft_add_eq_or_of_lt high, Nat.shiftLeft_eq,
    Nat.shiftRight_eq_div_pow, represents.count, represents.countHi, bitLength,
    show 8 = 4 + 4 from rfl, BigEndian.toBytes_add]
  congr 1
  · exact BigEndian.toBytes_four_of_mod (by omega)
  · exact BigEndian.toBytes_four_of_mod (by omega)

/-- The digest of the message. -/
theorem final (represents : ctx.Represents message) : clHashFinal ctx = Sha1.digest message := by
  have room := represents.room
  have begun : message.length % 64 < 64 := Nat.mod_lt _ (by decide)
  have nbytes : ctx.byteCount % 64 = message.length % 64 := by
    rw [represents.count]
    omega
  have bits := represents.bitCount_eq
  have restLength : (ctx.buf.take (message.length % 64)).length = message.length % 64 :=
    List.length_take_of_le (by omega)
  have finished := represents.fed.finish
  rw [MerkleDamgard.Scheme.padding, scheme_zeros,
    show Sha1.scheme.lengthField message.length = bitCount ctx from bits.symm] at finished
  have filled := Memory.overwrite_tail (ctx.buf.take (message.length % 64))
    (show (0x80 :: List.replicate (63 - message.length % 64) 0 : List UInt8).length =
      (ctx.buf.drop (message.length % 64)).length by
        rw [List.length_cons, List.length_replicate, List.length_drop]
        omega)
  rw [List.take_append_drop, restLength] at filled
  have digest : Sha1.digest message = (Sha1.scheme.hash message).toList.flatMap digestWord := by
    rw [show digestWord = wordBytes from funext digestWord_eq]
    rfl
  rw [digest, finished]
  unfold clHashFinal
  dsimp only
  rw [nbytes, filled]
  generalize message.length % 64 = r at *
  generalize ctx.buf.take r = rest at *
  have field : (bitCount ctx).length = 8 := by
    rw [bits]
    exact bitLength_length _
  by_cases late : r > 64 - 9
  · rw [if_pos late, if_pos late]
    have first : (rest ++ 0x80 :: List.replicate (63 - r) 0).length = 64 := by
      rw [List.length_append, List.length_cons, List.length_replicate]
      omega
    have last := @overwrite_field (List.replicate 56 0) _ List.length_replicate field
    show (HashContext.crunch ⟨(shaEngine _ ctx.h).2,
      Memory.overwrite (List.replicate 56 0 ++ List.replicate 8 0) 56 (bitCount ctx), _,
      _⟩).h.toList.flatMap _ = _
    rw [last, crunch_h (by rw [List.length_append, List.length_replicate, field]),
      (shaEngine_eq first ctx.h).2, ← extend_of_length ctx.h first]
    dsimp only
    rw [← Sha1.scheme.extend_append ctx.h (dvd_of_eq first.symm), List.replicate_add,
      List.append_assoc, List.append_assoc, List.cons_append]
  · rw [if_neg late, if_neg late]
    have split : rest ++ 0x80 :: List.replicate (63 - r) 0 =
        (rest ++ 0x80 :: List.replicate (55 - r) 0) ++ List.replicate 8 0 := by
      rw [show 63 - r = 55 - r + 8 by omega, List.replicate_add, List.append_assoc,
        List.cons_append]
    have front : (rest ++ 0x80 :: List.replicate (55 - r) 0).length = 56 := by
      rw [List.length_append, List.length_cons, List.length_replicate]
      omega
    have last := overwrite_field front field
    rw [← split] at last
    show (HashContext.crunch ⟨ctx.h, Memory.overwrite _ 56 (bitCount ctx), _,
      _⟩).h.toList.flatMap _ = _
    rw [last, crunch_h (by rw [List.length_append, front, field])]
    dsimp only
    rw [List.append_assoc, List.cons_append]

end HashContext.Represents

/-- A piece of 2^15 bytes or more has a negative size, and is left out. -/
theorem atcacSwSha1Update_represents {ctx : HashContext} {message : List UInt8}
    (represents : ctx.Represents message) {data : List UInt8} (fits : data.length < 2 ^ 16) :
    (atcacSwSha1Update ctx data).Represents
      (message ++ if data.length < 2 ^ 15 then data else []) := by
  have size : (BitVec.ofNat 16 data.length).toNat = data.length := by
    rw [BitVec.toNat_ofNat, Nat.mod_eq_of_lt fits]
  unfold atcacSwSha1Update
  by_cases short : data.length < 2 ^ 15
  · have positive : (BitVec.ofNat 16 data.length).toInt = data.length := by
      rw [BitVec.toInt_eq_toNat_of_lt (by rw [size]; omega), size]
    rw [if_pos short, positive]
    exact represents.update data
  · have negative : (BitVec.ofNat 16 data.length).toInt.toNat = 0 := by
      rw [BitVec.toInt_eq_toNat_cond, size, if_neg (by omega)]
      omega
    rw [if_neg short, List.append_nil, clHashUpdate, negative]
    exact represents

theorem atcacSwSha1Updates_represents (pieces : List (List UInt8)) : ∀ {ctx : HashContext}
    {message : List UInt8}, ctx.Represents message →
      (∀ piece ∈ pieces, piece.length < 2 ^ 16) →
      (pieces.foldl atcacSwSha1Update ctx).Represents
        (message ++ (pieces.filter (·.length < 2 ^ 15)).flatten) := by
  induction pieces with
  | nil =>
      intro ctx message represents _
      rw [List.filter_nil, List.flatten_nil, List.append_nil]
      exact represents
  | cons piece pieces inductionHypothesis =>
      intro ctx message represents fit
      have next := atcacSwSha1Update_represents represents (fit piece List.mem_cons_self)
      have rest := inductionHypothesis next
        fun later member => fit later (List.mem_cons_of_mem _ member)
      rw [List.append_assoc] at rest
      by_cases short : piece.length < 2 ^ 15
      · rw [if_pos short] at rest
        rw [List.filter_cons, if_pos (decide_eq_true short), List.flatten_cons]
        exact rest
      · rw [if_neg short, List.nil_append] at rest
        rw [List.filter_cons, if_neg (mt of_decide_eq_true short)]
        exact rest

/-- However a message is cut into pieces, the digest is the standard's, of all the
pieces of less than 2^15 bytes; longer ones are left out altogether. -/
theorem atcacSwSha1_pieces (pieces : List (List UInt8))
    (fit : ∀ piece ∈ pieces, piece.length < 2 ^ 16) :
    atcacSwSha1Finish (pieces.foldl atcacSwSha1Update clHashInit) =
      Sha1.digest (pieces.filter (·.length < 2 ^ 15)).flatten :=
  (atcacSwSha1Updates_represents pieces clHashInit_represents fit).final

theorem atcacSwSha1_pieces_abc :
    atcacSwSha1Finish ([[97], [98, 99]].foldl atcacSwSha1Update clHashInit) =
      Sha1.digest [97, 98, 99] :=
  atcacSwSha1_pieces [[97], [98, 99]] (by decide)

end MicrochipDay.Crypto
