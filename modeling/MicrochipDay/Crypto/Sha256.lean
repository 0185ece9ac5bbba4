import MicrochipDay.Library.Memory
import MicrochipDay.Library.SecureHash
import Mathlib.Data.List.GetD

/-!
Owns SHA-256 in software (sha2_routines.c): the context that is fed a message
piece by piece, and the digest. However a message is cut, the digest is the
standard's as long as its length in bits fits 32 bits; the context's buffer is
never written behind its end.
-/

namespace MicrochipDay.Crypto

open MicrochipDay.Library MicrochipDay.Library.SecureHash

def sha256BlockSize : Nat := 64

/-- `rotate_right`. -/
def rotateRight (value : Word) (places : Nat) : Word :=
  (value >>> places) ||| (value <<< (32 - places))

/-- `k`. -/
def k : List Word :=
  [0x428a2f98, 0x71374491, 0xb5c0fbcf, 0xe9b5dba5, 0x3956c25b, 0x59f111f1, 0x923f82a4, 0xab1c5ed5,
   0xd807aa98, 0x12835b01, 0x243185be, 0x550c7dc3, 0x72be5d74, 0x80deb1fe, 0x9bdc06a7, 0xc19bf174,
   0xe49b69c1, 0xefbe4786, 0x0fc19dc6, 0x240ca1cc, 0x2de92c6f, 0x4a7484aa, 0x5cb0a9dc, 0x76f988da,
   0x983e5152, 0xa831c66d, 0xb00327c8, 0xbf597fc7, 0xc6e00bf3, 0xd5a79147, 0x06ca6351, 0x14292967,
   0x27b70a85, 0x2e1b2138, 0x4d2c6dfc, 0x53380d13, 0x650a7354, 0x766a0abb, 0x81c2c92e, 0x92722c85,
   0xa2bfe8a1, 0xa81a664b, 0xc24b8b70, 0xc76c51a3, 0xd192e819, 0xd6990624, 0xf40e3585, 0x106aa070,
   0x19a4c116, 0x1e376c08, 0x2748774c, 0x34b0bcb5, 0x391c0cb3, 0x4ed8aa4a, 0x5b9cca4f, 0x682e6ff3,
   0x748f82ee, 0x78a5636f, 0x84c87814, 0x8cc70208, 0x90befffa, 0xa4506ceb, 0xbef9a3f7, 0xc67178f2]

/-- `hash_init`. -/
def hashInit : Vector Word 8 :=
  #v[0x6a09e667, 0xbb67ae85, 0x3c6ef372, 0xa54ff53a, 0x510e527f, 0x9b05688c, 0x1f83d9ab, 0x5be0cd19]

/-! ## One block -/

/-- A word of the block, its bytes swapped on a little-endian machine. -/
def loadWord (block : List UInt8) (index : Nat) : Word :=
  BitVec.ofNat 32 ((block.getD (4 * index + 3) 0).toNat +
    256 * (block.getD (4 * index + 2) 0).toNat + 65536 * (block.getD (4 * index + 1) 0).toNat +
    16777216 * (block.getD (4 * index) 0).toNat)

/-- The loop that fills `w_word` from `w_index` on, with `count` words to go. -/
def scheduleLoop : Nat → List Word → List Word
  | 0, words => words
  | count + 1, words =>
      let wIndex := words.length
      let wordValue := words.getD (wIndex - 15) 0
      let s0 := rotateRight wordValue 7 ^^^ rotateRight wordValue 18 ^^^ (wordValue >>> 3)
      let wordValue := words.getD (wIndex - 2) 0
      let s1 := rotateRight wordValue 17 ^^^ rotateRight wordValue 19 ^^^ (wordValue >>> 10)
      scheduleLoop count
        (words ++ [words.getD (wIndex - 16) 0 + s0 + words.getD (wIndex - 7) 0 + s1])

/-- One round of the hash calculation loop. -/
def hashRound (constant word : Word) (rotateRegister : Vector Word 8) : Vector Word 8 :=
  let register := rotateRegister.get
  let s0 := rotateRight (register 0) 2 ^^^ rotateRight (register 0) 13 ^^^
    rotateRight (register 0) 22
  let maj := (register 0 &&& register 1) ^^^ (register 0 &&& register 2) ^^^
    (register 1 &&& register 2)
  let t2 := s0 + maj
  let s1 := rotateRight (register 4) 6 ^^^ rotateRight (register 4) 11 ^^^
    rotateRight (register 4) 25
  let ch := (register 4 &&& register 5) ^^^ (~~~register 4 &&& register 6)
  let t1 := register 7 + s1 + ch + constant + word
  #v[t1 + t2, register 0, register 1, register 2, register 3 + t1, register 4, register 5,
    register 6]

/-- The body of the loop of `sw_sha256_process`. -/
def processBlock (hash : Vector Word 8) (curMsgBlock : List UInt8) : Vector Word 8 :=
  let words := scheduleLoop 48 ((List.range 16).map (loadWord curMsgBlock))
  hash.zipWith (· + ·)
    ((List.range 64).foldl (fun registers i => hashRound (k.getD i 0) (words.getD i 0) registers)
      hash)

/-- `sw_sha256_process`: `blockCount` blocks from the beginning of `blocks`. -/
def swSha256Process : (blockCount : Nat) → List UInt8 → Vector Word 8 → Vector Word 8
  | 0, _, hash => hash
  | blockCount + 1, blocks, hash =>
      swSha256Process blockCount (blocks.drop sha256BlockSize)
        (processBlock hash (blocks.take sha256BlockSize))

/-! ## The context -/

/-- `sw_sha256_ctx`. -/
structure Sha256Ctx where
  totalMsgSize : Nat
  blockSize : Nat
  block : List UInt8
  hash : Vector Word 8

/-- `sw_sha256_init`. -/
def swSha256Init : Sha256Ctx := ⟨0, 0, List.replicate (sha256BlockSize * 2) 0, hashInit⟩

/-- `sw_sha256_update`. -/
def swSha256Update (ctx : Sha256Ctx) (msg : List UInt8) : Sha256Ctx :=
  let remSize := sha256BlockSize - ctx.blockSize
  let copySize := if msg.length > remSize then remSize else msg.length
  let block := Memory.overwrite ctx.block ctx.blockSize (msg.take copySize)
  if (ctx.blockSize + msg.length) % 2 ^ 32 < sha256BlockSize then
    { ctx with block := block, blockSize := (ctx.blockSize + msg.length) % 2 ^ 32 }
  else
    let hash := swSha256Process 1 block ctx.hash
    let msgSize := msg.length - copySize
    let blockCount := msgSize / sha256BlockSize
    { totalMsgSize := (ctx.totalMsgSize + (blockCount + 1) * sha256BlockSize) % 2 ^ 32
      blockSize := msgSize % sha256BlockSize
      block := Memory.overwrite block 0
        ((msg.drop (copySize + blockCount * sha256BlockSize)).take (msgSize % sha256BlockSize))
      hash := swSha256Process blockCount (msg.drop copySize) hash }

/-- The buffer with the padding, in `sw_sha256_final`, and how much of it is used. -/
def finalBlock (ctx : Sha256Ctx) : List UInt8 × Nat :=
  let totalMsgSize := (ctx.totalMsgSize + ctx.blockSize) % 2 ^ 32
  let msgSizeBits := totalMsgSize * 8 % 2 ^ 32
  let padZeroCount :=
    (sha256BlockSize - ((ctx.blockSize + 9) % sha256BlockSize)) % sha256BlockSize
  let block := Memory.overwrite ctx.block ctx.blockSize [0x80]
  let block := Memory.overwrite block (ctx.blockSize + 1) (List.replicate (padZeroCount + 4) 0)
  let blockSize := ctx.blockSize + 1 + (padZeroCount + 4)
  (Memory.overwrite block blockSize
    [UInt8.ofNat (msgSizeBits >>> 24), UInt8.ofNat (msgSizeBits >>> 16),
      UInt8.ofNat (msgSizeBits >>> 8), UInt8.ofNat msgSizeBits], blockSize + 4)

/-- A word of the digest, highest byte first. -/
def digestWord (word : Word) : List UInt8 :=
  [UInt8.ofNat (word.toNat >>> 24 &&& 0xff), UInt8.ofNat (word.toNat >>> 16 &&& 0xff),
    UInt8.ofNat (word.toNat >>> 8 &&& 0xff), UInt8.ofNat (word.toNat &&& 0xff)]

/-- `sw_sha256_final`. -/
def swSha256Final (ctx : Sha256Ctx) : List UInt8 :=
  let (block, blockSize) := finalBlock ctx
  (swSha256Process (blockSize / sha256BlockSize) block ctx.hash).toList.flatMap digestWord

/-- `sw_sha256`. -/
def swSha256 (message : List UInt8) : List UInt8 :=
  swSha256Final (swSha256Update swSha256Init message)

/-! ## One block is compressed as the standard says -/

theorem k_eq : k = Sha256.constants := by decide +kernel

theorem hashInit_eq : hashInit = Sha256.start := by decide +kernel

theorem rotateRight_eq (value : Word) {places : Nat} (less : places < 32) :
    rotateRight value places = value.rotateRight places := by
  rw [rotateRight, BitVec.rotateRight_def, Nat.mod_eq_of_lt less]

theorem loadWord_eq {block : List UInt8} {index : Nat} (inside : 4 * index + 4 ≤ block.length) :
    loadWord block index = wordAt block index := by
  have four : (block.drop (4 * index)).take 4 = [block.getD (4 * index) 0,
      block.getD (4 * index + 1) 0, block.getD (4 * index + 2) 0,
      block.getD (4 * index + 3) 0] := by
    rw [List.drop_eq_getElem_cons (by omega), List.drop_eq_getElem_cons (by omega),
      List.drop_eq_getElem_cons (by omega), List.drop_eq_getElem_cons (by omega)]
    simp only [List.take_succ_cons, List.take_zero, List.getD_eq_getElem?_getD,
      List.getElem?_eq_getElem (show 4 * index < block.length by omega),
      List.getElem?_eq_getElem (show 4 * index + 1 < block.length by omega),
      List.getElem?_eq_getElem (show 4 * index + 2 < block.length by omega),
      List.getElem?_eq_getElem (show 4 * index + 3 < block.length by omega), Option.getD_some]
  rw [wordAt, four]
  refine congrArg (BitVec.ofNat 32) ?_
  simp only [BigEndian.fromBytes, List.foldl_cons, List.foldl_nil]
  omega

/-- The words found so far are those of the schedule. -/
def Scheduled (block : List UInt8) (words : List Word) : Prop :=
  ∀ t < words.length, words.getD t 0 = Sha256.schedule block t

theorem scheduleLoop_scheduled {block : List UInt8} (count : Nat) : ∀ words : List Word,
    16 ≤ words.length → Scheduled block words →
      (scheduleLoop count words).length = words.length + count ∧
        Scheduled block (scheduleLoop count words) := by
  induction count with
  | zero => exact fun words _ scheduled => ⟨rfl, scheduled⟩
  | succ count inductionHypothesis =>
      intro words sixteen scheduled
      have next : Scheduled block (words ++ [words.getD (words.length - 16) 0 +
          Sha256.sigma0 (words.getD (words.length - 15) 0) + words.getD (words.length - 7) 0 +
          Sha256.sigma1 (words.getD (words.length - 2) 0)]) := by
        intro t inside
        rw [List.length_append, List.length_singleton] at inside
        by_cases old : t < words.length
        · rw [List.getD_append _ _ _ _ old]
          exact scheduled t old
        · have last : t = words.length := by omega
          subst last
          rw [List.getD_append_right _ _ _ _ le_rfl, Nat.sub_self, Sha256.schedule,
            if_neg (by omega), ← scheduled _ (by omega), ← scheduled _ (by omega),
            ← scheduled _ (by omega), ← scheduled _ (by omega)]
          show _ + _ + _ + _ = _
          ac_rfl
      have rest := inductionHypothesis _ (by rw [List.length_append]; omega) next
      rw [List.length_append, List.length_singleton] at rest
      unfold scheduleLoop
      dsimp only
      simp only [rotateRight_eq _ (show 7 < 32 by decide),
        rotateRight_eq _ (show 18 < 32 by decide), rotateRight_eq _ (show 17 < 32 by decide),
        rotateRight_eq _ (show 19 < 32 by decide)]
      rw [show words.length + (count + 1) = words.length + 1 + count by omega]
      exact rest

theorem hashRound_eq (constant word : Word) (registers : Vector Word 8) :
    hashRound constant word registers = Sha256.round constant word registers := by
  unfold hashRound
  simp only [rotateRight_eq _ (show 2 < 32 by decide), rotateRight_eq _ (show 13 < 32 by decide),
    rotateRight_eq _ (show 22 < 32 by decide), rotateRight_eq _ (show 6 < 32 by decide),
    rotateRight_eq _ (show 11 < 32 by decide), rotateRight_eq _ (show 25 < 32 by decide)]
  rfl

theorem processBlock_eq (hash : Vector Word 8) {block : List UInt8}
    (whole : block.length = sha256BlockSize) :
    processBlock hash block = Sha256.compress hash block := by
  have loaded : Scheduled block ((List.range 16).map (loadWord block)) := by
    intro t inside
    rw [List.length_map, List.length_range] at inside
    rw [List.getD_eq_getElem?_getD, List.getElem?_map, List.getElem?_range inside,
      Sha256.schedule, if_pos inside]
    exact loadWord_eq (by rw [whole]; unfold sha256BlockSize; omega)
  obtain ⟨length, scheduled⟩ := scheduleLoop_scheduled 48 _ (by simp) loaded
  rw [List.length_map, List.length_range] at length
  unfold processBlock Sha256.compress
  dsimp only
  refine congrArg _ (List.foldl_ext _ _ _ fun registers i member => ?_)
  have inside := List.mem_range.mp member
  rw [hashRound_eq, scheduled i (by omega), k_eq]

/-! ## A message fed piece by piece -/

/-- The length that `sw_sha256_final` writes: 32 bits behind four zeros. -/
def shortLength (length : Nat) : List UInt8 :=
  List.replicate 4 0 ++ BigEndian.toBytes 4 (8 * length)

theorem shortLength_length (length : Nat) : (shortLength length).length = 8 := by
  rw [shortLength, List.length_append, List.length_replicate, BigEndian.toBytes_length]

/-- The scheme of the standard, but for the length. -/
def shortScheme : MerkleDamgard.Scheme (Vector Word 8) :=
  { Sha256.scheme with lengthField := shortLength, lengthField_length := shortLength_length }

/-- The length of a message of less than 2^29 bytes fits. -/
theorem shortScheme_hash {message : List UInt8} (short : message.length < 2 ^ 29) :
    shortScheme.hash message = Sha256.scheme.hash message := by
  have high : 8 * message.length / 256 ^ 4 = 0 := Nat.div_eq_of_lt (by omega)
  have field : shortLength message.length = bitLength message.length := by
    rw [bitLength, show 8 = 4 + 4 from rfl, BigEndian.toBytes_add, high, BigEndian.toBytes_zero]
    rfl
  have padding : shortScheme.padding message.length = Sha256.scheme.padding message.length := by
    show 0x80 :: (_ ++ shortLength message.length) = 0x80 :: (_ ++ bitLength message.length)
    rw [field]
    rfl
  unfold MerkleDamgard.Scheme.hash
  rw [padding]
  rfl

theorem swSha256Process_eq (blockCount : Nat) : ∀ (blocks : List UInt8) (hash : Vector Word 8),
    blockCount * sha256BlockSize ≤ blocks.length →
      swSha256Process blockCount blocks hash =
        shortScheme.extend hash (blocks.take (blockCount * sha256BlockSize)) := by
  induction blockCount with
  | zero =>
      intro blocks hash _
      rw [Nat.zero_mul, List.take_zero, shortScheme.extend_nil]
      rfl
  | succ blockCount inductionHypothesis =>
      intro blocks hash enough
      have first : (blocks.take sha256BlockSize).length = sha256BlockSize :=
        List.length_take_of_le (by rw [Nat.succ_mul] at enough; omega)
      have rest : blockCount * sha256BlockSize ≤ (blocks.drop sha256BlockSize).length := by
        rw [List.length_drop]
        rw [Nat.succ_mul] at enough
        omega
      rw [swSha256Process, inductionHypothesis _ _ rest, processBlock_eq hash first, Nat.succ_mul,
        Nat.add_comm, List.take_add, shortScheme.extend_append hash (dvd_of_eq first.symm),
        shortScheme.extend_block hash first]
      rfl

/-- A piece that fills up a block that is begun: what fills it, whole blocks behind it,
and a rest. -/
theorem cut_piece {filled : Nat} (begun : filled < sha256BlockSize) {piece : List UInt8}
    (enough : sha256BlockSize ≤ filled + piece.length) :
    ∃ filling blocks left count, piece = filling ++ (blocks ++ left) ∧
      filled + filling.length = sha256BlockSize ∧ blocks.length = count * sha256BlockSize ∧
      left.length < sha256BlockSize := by
  let room := sha256BlockSize - filled
  let count := (piece.length - room) / sha256BlockSize
  have size : sha256BlockSize = 64 := rfl
  have atMost : count * sha256BlockSize ≤ piece.length - room := Nat.div_mul_le_self _ _
  have nearly : piece.length - room < count * sha256BlockSize + sha256BlockSize :=
    Nat.lt_div_mul_add (by decide)
  refine ⟨piece.take room, (piece.drop room).take (count * sha256BlockSize),
    (piece.drop room).drop (count * sha256BlockSize), count, ?_, ?_, ?_, ?_⟩
  · rw [List.take_append_drop, List.take_append_drop]
  · rw [List.length_take_of_le (by omega)]
    omega
  · rw [List.length_take_of_le (by rw [List.length_drop]; exact atMost)]
  · rw [List.length_drop, List.length_drop]
    omega

/-- The four bytes of the length, cut out of its 32 bits. -/
theorem lengthBytes_eq (bits : Nat) :
    [UInt8.ofNat ((bits % 2 ^ 32) >>> 24), UInt8.ofNat ((bits % 2 ^ 32) >>> 16),
      UInt8.ofNat ((bits % 2 ^ 32) >>> 8), UInt8.ofNat (bits % 2 ^ 32)] =
      BigEndian.toBytes 4 bits := by
  simp only [BigEndian.toBytes_four, Nat.shiftRight_eq_div_pow, List.cons.injEq, and_true]
  refine ⟨?_, ?_, ?_, ?_⟩ <;> exact BigEndian.ofNat_eq_of_mod (by omega)

/-- What `sw_sha256_final` writes, one behind the other, is the padding. -/
theorem overwrite_padding {block : List UInt8} {blockSize : Nat} (inside : blockSize ≤ block.length)
    (length : Nat) :
    Memory.overwrite (Memory.overwrite (Memory.overwrite block blockSize [0x80]) (blockSize + 1)
        (List.replicate (shortScheme.zeros length + 4) 0))
        (blockSize + 1 + (shortScheme.zeros length + 4)) (BigEndian.toBytes 4 (8 * length)) =
      Memory.overwrite block blockSize (shortScheme.padding length) := by
  have marked := @Memory.overwrite_append UInt8 block [0x80] blockSize inside
    (List.replicate (shortScheme.zeros length + 4) 0)
  have closed := @Memory.overwrite_append UInt8 block
    ([0x80] ++ List.replicate (shortScheme.zeros length + 4) 0) blockSize inside
    (BigEndian.toBytes 4 (8 * length))
  have written : ([0x80] ++ List.replicate (shortScheme.zeros length + 4) (0 : UInt8)).length =
      1 + (shortScheme.zeros length + 4) := by
    rw [List.length_append, List.length_replicate]
    rfl
  have padding : [0x80] ++ List.replicate (shortScheme.zeros length + 4) (0 : UInt8) ++
      BigEndian.toBytes 4 (8 * length) = shortScheme.padding length := by
    rw [List.replicate_add, MerkleDamgard.Scheme.padding, List.append_assoc, List.append_assoc]
    rfl
  rw [written, padding, ← Nat.add_assoc] at closed
  rw [show blockSize + 1 = blockSize + [(0x80 : UInt8)].length from rfl, marked]
  exact closed

theorem digestWord_eq (word : Word) : digestWord word = wordBytes word := by
  have byte (number : Nat) : UInt8.ofNat (number &&& 0xff) = UInt8.ofNat number := by
    apply BigEndian.ofNat_eq_of_mod
    rw [show 0xff = 2 ^ 8 - 1 from rfl, Nat.and_two_pow_sub_one_eq_mod]
    exact Nat.mod_mod number 256
  rw [wordBytes, BigEndian.toBytes_four]
  simp only [digestWord, byte, Nat.shiftRight_eq_div_pow]

/-- What is left of the context by a piece that fills its block: the buffer and `count`
blocks of the piece have been processed, and `left` lies in the buffer. -/
theorem swSha256Update_cut {ctx : Sha256Ctx} (small : ctx.blockSize < sha256BlockSize)
    {filling blocks left : List UInt8} {count : Nat}
    (fits : (filling ++ (blocks ++ left)).length + sha256BlockSize ≤ 2 ^ 32)
    (filled : ctx.blockSize + filling.length = sha256BlockSize)
    (whole : blocks.length = count * sha256BlockSize) (less : left.length < sha256BlockSize) :
    swSha256Update ctx (filling ++ (blocks ++ left)) =
      { totalMsgSize := (ctx.totalMsgSize + (count + 1) * sha256BlockSize) % 2 ^ 32
        blockSize := left.length
        block := Memory.overwrite (Memory.overwrite ctx.block ctx.blockSize filling) 0 left
        hash := swSha256Process count (blocks ++ left)
          (swSha256Process 1 (Memory.overwrite ctx.block ctx.blockSize filling) ctx.hash) } := by
  have noWrap : (ctx.blockSize + (filling ++ (blocks ++ left)).length) % 2 ^ 32 =
      ctx.blockSize + (filling ++ (blocks ++ left)).length := Nat.mod_eq_of_lt (by omega)
  have long : ¬ ctx.blockSize + (filling ++ (blocks ++ left)).length < sha256BlockSize := by
    rw [List.length_append]
    omega
  have copied : (if (filling ++ (blocks ++ left)).length > sha256BlockSize - ctx.blockSize then
      sha256BlockSize - ctx.blockSize else (filling ++ (blocks ++ left)).length) =
      filling.length := by
    rw [List.length_append]
    split <;> omega
  have rest : (filling ++ (blocks ++ left)).length - filling.length =
      count * sha256BlockSize + left.length := by
    rw [List.length_append, List.length_append, whole]
    omega
  have counted : (count * sha256BlockSize + left.length) / sha256BlockSize = count := by
    rw [Nat.mul_comm, Nat.mul_add_div (by decide), Nat.div_eq_of_lt less, Nat.add_zero]
  have kept : (count * sha256BlockSize + left.length) % sha256BlockSize = left.length := by
    rw [Nat.mul_comm, Nat.mul_add_mod, Nat.mod_eq_of_lt less]
  have behind : (filling ++ (blocks ++ left)).drop (filling.length + count * sha256BlockSize) =
      left := by
    rw [← List.drop_drop, List.drop_left, ← whole, List.drop_left]
  unfold swSha256Update
  dsimp only
  rw [noWrap, if_neg long, copied, List.take_left, List.drop_left, rest, counted, kept, behind,
    List.take_length]

/-- The context has been fed the message. Its buffer is as large as ever. -/
structure Sha256Ctx.Represents (ctx : Sha256Ctx) (message : List UInt8) : Prop where
  total : ctx.totalMsgSize = (message.length - ctx.blockSize) % 2 ^ 32
  small : ctx.blockSize < sha256BlockSize
  room : ctx.block.length = sha256BlockSize * 2
  fed : shortScheme.Fed message ctx.hash (ctx.block.take ctx.blockSize)

theorem swSha256Init_represents : swSha256Init.Represents [] := by
  refine ⟨rfl, by decide, List.length_replicate, ?_⟩
  show shortScheme.Fed [] hashInit []
  rw [hashInit_eq]
  exact .nothing

namespace Sha256Ctx.Represents

variable {ctx : Sha256Ctx} {message : List UInt8}

theorem blockSize_eq (represents : ctx.Represents message) :
    ctx.blockSize = message.length % sha256BlockSize := by
  have small := represents.small
  have length := represents.fed.length_mod
  rw [List.length_take_of_le (by rw [represents.room]; omega)] at length
  exact length.symm

/-- A piece too short to fill the block is kept behind what is there. -/
theorem update_short (represents : ctx.Represents message) {piece : List UInt8}
    (short : ctx.blockSize + piece.length < sha256BlockSize) :
    (swSha256Update ctx piece).Represents (message ++ piece) := by
  have room := represents.room
  have size : sha256BlockSize = 64 := rfl
  have le : ctx.blockSize ≤ message.length := represents.blockSize_eq ▸ Nat.mod_le _ _
  have noWrap : (ctx.blockSize + piece.length) % 2 ^ 32 = ctx.blockSize + piece.length :=
    Nat.mod_eq_of_lt (by omega)
  have copied : (if piece.length > sha256BlockSize - ctx.blockSize then
      sha256BlockSize - ctx.blockSize else piece.length) = piece.length := if_neg (by omega)
  unfold swSha256Update
  dsimp only
  rw [noWrap, if_pos short, copied, List.take_length]
  refine ⟨?_, short, ?_, ?_⟩
  · show ctx.totalMsgSize =
      ((message ++ piece).length - (ctx.blockSize + piece.length)) % 2 ^ 32
    rw [represents.total, List.length_append, Nat.add_sub_add_right]
  · show (Memory.overwrite _ _ _).length = _
    rw [Memory.length_overwrite (by omega), room]
  · show shortScheme.Fed _ ctx.hash ((Memory.overwrite _ _ _).take (_ + _))
    rw [Memory.take_overwrite (by omega)]
    refine represents.fed.keep ?_
    rw [List.length_append, List.length_take_of_le (by omega)]
    exact short

/-- The filled buffer and whole blocks of the piece are processed, the rest is kept. -/
theorem update_filling (represents : ctx.Represents message)
    {filling blocks left : List UInt8} {count : Nat}
    (fits : (filling ++ (blocks ++ left)).length + sha256BlockSize ≤ 2 ^ 32)
    (filled : ctx.blockSize + filling.length = sha256BlockSize)
    (whole : blocks.length = count * sha256BlockSize) (less : left.length < sha256BlockSize) :
    (swSha256Update ctx (filling ++ (blocks ++ left))).Represents
      (message ++ (filling ++ (blocks ++ left))) := by
  have small := represents.small
  have room := represents.room
  have size : sha256BlockSize = 64 := rfl
  have le : ctx.blockSize ≤ message.length := represents.blockSize_eq ▸ Nat.mod_le _ _
  have full : (Memory.overwrite ctx.block ctx.blockSize filling).length =
      sha256BlockSize * 2 := by
    rw [Memory.length_overwrite (by omega), room]
  have front : (ctx.block.take ctx.blockSize ++ filling).length = sha256BlockSize := by
    rw [List.length_append, List.length_take_of_le (by omega), filled]
  have buffer : (Memory.overwrite ctx.block ctx.blockSize filling).take sha256BlockSize =
      ctx.block.take ctx.blockSize ++ filling := by
    rw [← filled]
    exact Memory.take_overwrite (by omega)
  have first : swSha256Process 1 (Memory.overwrite ctx.block ctx.blockSize filling) ctx.hash =
      shortScheme.extend ctx.hash (ctx.block.take ctx.blockSize ++ filling) := by
    rw [swSha256Process_eq 1 _ _ (by omega), Nat.one_mul, buffer]
  have kept : (Memory.overwrite (Memory.overwrite ctx.block ctx.blockSize filling) 0 left).take
      left.length = left := by
    have taken := @Memory.take_overwrite _
      (Memory.overwrite ctx.block ctx.blockSize filling) left 0 (Nat.zero_le _)
    rwa [Nat.zero_add, List.take_zero, List.nil_append] at taken
  rw [swSha256Update_cut small fits filled whole less]
  refine ⟨?_, less, ?_, ?_⟩
  · show (ctx.totalMsgSize + (count + 1) * sha256BlockSize) % 2 ^ 32 =
      ((message ++ (filling ++ (blocks ++ left))).length - left.length) % 2 ^ 32
    rw [represents.total, Nat.mod_add_mod, Nat.succ_mul]
    simp only [List.length_append, whole]
    congr 1
    omega
  · show (Memory.overwrite _ 0 left).length = _
    rw [Memory.length_overwrite (by omega), full]
  · show shortScheme.Fed _ (swSha256Process count _ _) ((Memory.overwrite _ 0 left).take _)
    rw [swSha256Process_eq count _ _ (by rw [List.length_append]; omega), ← whole,
      List.take_left, kept, first, ← shortScheme.extend_append _ (dvd_of_eq front.symm)]
    refine represents.fed.feed ?_ ?_ less
    · simp only [List.append_assoc]
    · rw [List.length_append, front, whole]
      exact Nat.dvd_add (dvd_refl _) (Nat.dvd_mul_left ..)

theorem update (represents : ctx.Represents message) {piece : List UInt8}
    (fits : piece.length + sha256BlockSize ≤ 2 ^ 32) :
    (swSha256Update ctx piece).Represents (message ++ piece) := by
  by_cases short : ctx.blockSize + piece.length < sha256BlockSize
  · exact represents.update_short short
  · obtain ⟨filling, blocks, left, count, rfl, filled, whole, less⟩ :=
      @cut_piece ctx.blockSize represents.small piece (not_lt.mp short)
    exact represents.update_filling fits filled whole less

/-- The end of the buffer is what is left of the message and its padding, and lies
inside the buffer. -/
theorem finalBlock_eq (represents : ctx.Represents message) :
    (finalBlock ctx).1.length = sha256BlockSize * 2 ∧
      (finalBlock ctx).2 ≤ sha256BlockSize * 2 ∧
      (finalBlock ctx).1.take (finalBlock ctx).2 =
        ctx.block.take ctx.blockSize ++ shortScheme.padding message.length := by
  have small := represents.small
  have room := represents.room
  have size : sha256BlockSize = 64 := rfl
  have le : ctx.blockSize ≤ message.length := represents.blockSize_eq ▸ Nat.mod_le _ _
  have zeros : (sha256BlockSize - (ctx.blockSize + 9) % sha256BlockSize) % sha256BlockSize =
      shortScheme.zeros message.length := by
    rw [← shortScheme.zeros_mod, represents.blockSize_eq]
    rfl
  have total : (ctx.totalMsgSize + ctx.blockSize) % 2 ^ 32 * 8 % 2 ^ 32 =
      8 * message.length % 2 ^ 32 := by
    rw [represents.total]
    omega
  have bound : ctx.blockSize + 9 + shortScheme.zeros message.length ≤ sha256BlockSize * 2 := by
    rw [← zeros, size]
    omega
  have length : ctx.blockSize + (shortScheme.padding message.length).length =
      ctx.blockSize + 1 + (shortScheme.zeros message.length + 4) + 4 := by
    rw [shortScheme.length_padding]
    show ctx.blockSize + (1 + shortScheme.zeros message.length + 8) = _
    omega
  unfold finalBlock
  dsimp only
  rw [zeros, total, lengthBytes_eq, overwrite_padding (by omega), ← length,
    Memory.take_overwrite (by omega), Memory.length_overwrite (by omega)]
  exact ⟨room, by omega, rfl⟩

/-- The digest of the message, with the length as it is written. -/
theorem final (represents : ctx.Represents message) :
    swSha256Final ctx = (shortScheme.hash message).toList.flatMap wordBytes := by
  obtain ⟨room, atMost, last⟩ := represents.finalBlock_eq
  obtain ⟨count, whole⟩ := represents.fed.size_dvd_last
  rw [← last, List.length_take_of_le (room ▸ atMost), Nat.mul_comm] at whole
  have size : (finalBlock ctx).2 = count * sha256BlockSize := whole
  have counted : (finalBlock ctx).2 / sha256BlockSize = count := by
    rw [size, Nat.mul_div_cancel _ (by decide)]
  have words : digestWord = wordBytes := funext digestWord_eq
  unfold swSha256Final
  dsimp only
  rw [counted, swSha256Process_eq count _ _ (by rw [room, ← size]; exact atMost), ← size, last,
    ← represents.fed.finish, words]

end Sha256Ctx.Represents

theorem swSha256Updates_represents (pieces : List (List UInt8)) : ∀ {ctx : Sha256Ctx}
    {message : List UInt8}, ctx.Represents message →
      (∀ piece ∈ pieces, piece.length + sha256BlockSize ≤ 2 ^ 32) →
      (pieces.foldl swSha256Update ctx).Represents (message ++ pieces.flatten) := by
  induction pieces with
  | nil =>
      intro ctx message represents _
      rw [List.flatten_nil, List.append_nil]
      exact represents
  | cons piece pieces inductionHypothesis =>
      intro ctx message represents fit
      rw [List.flatten_cons, ← List.append_assoc]
      exact inductionHypothesis (represents.update (fit piece List.mem_cons_self))
        fun later member => fit later (List.mem_cons_of_mem _ member)

/-- A message in one piece. -/
theorem swSha256_eq {message : List UInt8} (fits : message.length + sha256BlockSize ≤ 2 ^ 32) :
    swSha256 message = (shortScheme.hash message).toList.flatMap wordBytes :=
  (swSha256Init_represents.update fits).final

/-- However a message is cut into pieces, the digest is that of the standard with
the length reduced to 32 bits, so the standard's for less than 2^29 bytes; and
neither the pieces nor the padding are written behind the end of the buffer. -/
theorem swSha256_pieces (pieces : List (List UInt8))
    (fit : ∀ piece ∈ pieces, piece.length + sha256BlockSize ≤ 2 ^ 32) :
    let ctx := pieces.foldl swSha256Update swSha256Init
    swSha256Final ctx = (shortScheme.hash pieces.flatten).toList.flatMap wordBytes ∧
      (pieces.flatten.length < 2 ^ 29 → swSha256Final ctx = Sha256.digest pieces.flatten) ∧
      ctx.block.length = sha256BlockSize * 2 ∧
      (finalBlock ctx).1.length = sha256BlockSize * 2 := by
  intro ctx
  have represents : ctx.Represents pieces.flatten :=
    swSha256Updates_represents pieces swSha256Init_represents fit
  refine ⟨represents.final, fun short => ?_, represents.room, represents.finalBlock_eq.1⟩
  rw [represents.final, shortScheme_hash short]
  rfl

theorem swSha256_pieces_abc :
    swSha256Final ([[97], [98, 99]].foldl swSha256Update swSha256Init) =
      Sha256.digest [97, 98, 99] :=
  (swSha256_pieces [[97], [98, 99]] (by decide)).2.1 (by decide)

end MicrochipDay.Crypto
