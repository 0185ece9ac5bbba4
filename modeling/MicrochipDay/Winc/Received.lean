import MicrochipDay.Winc.Moves

/-!
Owns how the data of a received packet reaches the application: in chunks as
large as its buffer, in order, none twice and none left out, until the
application closes the socket. Whatever it calls between two chunks, the packet
stays where it is.
-/

namespace MicrochipDay.Winc

open Relation

-- what is sent meanwhile is of no concern to the packet received
attribute [local irreducible] hifSend

/-! ## Reading from the packet -/

/-- `count` bytes of the chip's memory. -/
def block (memory : Nat → UInt8) (address count : Nat) : List UInt8 :=
  (List.range count).map fun index => memory (address + index)

@[simp] theorem length_block (memory : Nat → UInt8) (address count : Nat) :
    (block memory address count).length = count := by
  rw [block, List.length_map, List.length_range]

theorem block_append (memory : Nat → UInt8) (address first second : Nat) :
    block memory address (first + second) =
      block memory address first ++ block memory (address + first) second := by
  unfold block
  rw [List.range_add, List.map_append, List.map_map]
  refine congrArg _ (List.map_congr_left fun index _ => ?_)
  show memory (address + (first + index)) = memory (address + first + index)
  rw [Nat.add_assoc]

/-- The chip leaves the memory of the packet alone. -/
def Steady (chip : Chip) (memory : Nat → UInt8) (rxAddr rxSize : Nat) : Prop :=
  ∀ n address, rxAddr ≤ address → address < rxAddr + rxSize →
    (chip n).memory address = memory address

/-- The bus does not fail from an operation on. -/
def BusOk (chip : Chip) (start : Nat) : Prop := ∀ n, start ≤ n → (chip n).ret = m2mSuccess

theorem BusOk.later {chip : Chip} {before after : List BusOp} (busOk : BusOk chip before.length)
    (suffix : before <:+ after) : BusOk chip after.length :=
  fun n le => busOk n (le_trans suffix.length_le le)

section Receive

variable {chip : Chip} {u32Addr u16Sz : Nat} {pu8Buf isDone : Bool} {hif : Hif}

theorem hifSetRxDone_rx (chip : Chip) (hif : Hif) :
    (hifSetRxDone chip hif).2.u32RxAddr = hif.u32RxAddr ∧
      (hifSetRxDone chip hif).2.u32RxSize = hif.u32RxSize := by
  unfold hifSetRxDone
  dsimp only
  split <;> exact ⟨rfl, rfl⟩

/-- With a bus that does not fail, the register is read and written back with the
bit that tells the chip that the packet is done. -/
theorem hifSetRxDone_ok (busOk : BusOk chip hif.bus.length) :
    hifSetRxDone chip hif =
      (m2mSuccess, { hif with
        u8HifRXDone := false
        interruptsOn := true
        bus := .writeReg .wifiHostRcvCtrl0 ((chip hif.bus.length).value ||| 2#32) ::
          .readReg .wifiHostRcvCtrl0 :: hif.bus }) := by
  unfold hifSetRxDone
  dsimp only
  split
  · rename_i failed
    exact absurd (busOk _ le_rfl) failed
  · exact Prod.ext (busOk _ (Nat.le_succ _)) rfl

/-- What a block read has been checked for. -/
structure InPacket (u32Addr u16Sz : Nat) (hif : Hif) : Prop where
  nonzero : u16Sz ≠ 0
  small : u16Sz ≤ hif.u32RxSize
  start : hif.u32RxAddr ≤ u32Addr
  stop : u32 (u32Addr + u16Sz) ≤ u32 (hif.u32RxAddr + hif.u32RxSize)

/-- A read that ends where the packet ends. -/
def ReachesEnd (u32Addr u16Sz : Nat) (hif : Hif) : Prop :=
  u32 (hif.u32RxAddr + hif.u32RxSize) = u32 (u32Addr + u16Sz)

/-- Everything that `hif_receive` can do. -/
inductive Receives (chip : Chip) (u32Addr : Nat) (pu8Buf : Bool) (u16Sz : Nat) (isDone : Bool)
    (hif : Hif) : Int × List UInt8 × Hif → Prop
  /-- Its arguments are refused. -/
  | refused : Receives chip u32Addr pu8Buf u16Sz isDone hif (m2mErrFail, [], hif)
  /-- Nothing is to be read. -/
  | done (nothing : u32Addr = 0 ∨ pu8Buf = false ∨ u16Sz = 0) (last : isDone = true) :
      Receives chip u32Addr pu8Buf u16Sz isDone hif
        ((hifSetRxDone chip hif).1, [], (hifSetRxDone chip hif).2)
  /-- The bus fails. -/
  | unread (inside : InPacket u32Addr u16Sz hif)
      (failed : (chip hif.bus.length).ret ≠ m2mSuccess) :
      Receives chip u32Addr pu8Buf u16Sz isDone hif
        ((chip hif.bus.length).ret, [], (hif.operate chip (.readBlock u32Addr u16Sz)).2)
  /-- A read with more to come. -/
  | read (inside : InPacket u32Addr u16Sz hif) (buffer : pu8Buf = true)
      (more : ¬ReachesEnd u32Addr u16Sz hif) (goesOn : isDone = false) :
      Receives chip u32Addr pu8Buf u16Sz isDone hif
        (m2mSuccess, block (chip hif.bus.length).memory u32Addr u16Sz,
          (hif.operate chip (.readBlock u32Addr u16Sz)).2)
  /-- The last read. -/
  | readLast (inside : InPacket u32Addr u16Sz hif) (buffer : pu8Buf = true)
      (last : ReachesEnd u32Addr u16Sz hif ∨ isDone = true) :
      Receives chip u32Addr pu8Buf u16Sz isDone hif
        ((hifSetRxDone chip (hif.operate chip (.readBlock u32Addr u16Sz)).2).1,
          block (chip hif.bus.length).memory u32Addr u16Sz,
          (hifSetRxDone chip (hif.operate chip (.readBlock u32Addr u16Sz)).2).2)

theorem hifReceive_receives (chip : Chip) (u32Addr : Nat) (pu8Buf : Bool) (u16Sz : Nat)
    (isDone : Bool) (hif : Hif) :
    Receives chip u32Addr pu8Buf u16Sz isDone hif
      (hifReceive chip u32Addr pu8Buf u16Sz isDone hif) := by
  unfold hifReceive
  dsimp only
  split
  · rename_i nothing
    split
    · rename_i last
      exact .done (by simpa using nothing) last
    · exact .refused
  rename_i something
  have nonzero : u16Sz ≠ 0 := fun zero => something (Or.inr (Or.inr zero))
  have buffer : pu8Buf = true := by
    cases pu8Buf with
    | false => exact absurd (Or.inr (Or.inl rfl)) something
    | true => rfl
  split
  · exact .refused
  rename_i small
  split
  · exact .refused
  rename_i checked
  have inside : InPacket u32Addr u16Sz hif := ⟨nonzero, by omega, by omega, by omega⟩
  split
  · rename_i failed
    exact .unread inside failed
  rename_i done
  split
  · rename_i last
    exact .readLast inside buffer last
  · rename_i goesOn
    rw [show (hif.operate chip (.readBlock u32Addr u16Sz)).1.ret = m2mSuccess from not_not.mp done]
    exact .read inside buffer (fun reaches => goesOn (Or.inl reaches))
      (Bool.eq_false_iff.mpr fun last => goesOn (Or.inr last))

theorem Receives.rx {outcome : Int × List UInt8 × Hif}
    (receives : Receives chip u32Addr pu8Buf u16Sz isDone hif outcome) :
    outcome.2.2.u32RxAddr = hif.u32RxAddr ∧ outcome.2.2.u32RxSize = hif.u32RxSize := by
  cases receives with
  | refused | unread | read => exact ⟨rfl, rfl⟩
  | done => exact hifSetRxDone_rx chip hif
  | readLast => exact hifSetRxDone_rx chip _

/-- What has been done on the bus before stays behind what is done now. -/
theorem hifSetRxDone_bus (chip : Chip) (hif : Hif) : hif.bus <:+ (hifSetRxDone chip hif).2.bus := by
  unfold hifSetRxDone
  dsimp only
  split
  · exact List.suffix_cons ..
  · exact (List.suffix_cons ..).trans (List.suffix_cons ..)

theorem Receives.bus {outcome : Int × List UInt8 × Hif}
    (receives : Receives chip u32Addr pu8Buf u16Sz isDone hif outcome) :
    hif.bus <:+ outcome.2.2.bus := by
  cases receives with
  | refused => exact List.suffix_rfl
  | done => exact hifSetRxDone_bus chip hif
  | unread | read => exact List.suffix_cons ..
  | readLast =>
      have read := List.suffix_cons (.readBlock u32Addr u16Sz) hif.bus
      exact read.trans (hifSetRxDone_bus chip (hif.operate chip _).2)

/-- What is read successfully into a buffer has been checked to lie in the packet. -/
theorem Receives.inPacket {bytes : List UInt8} {after : Hif}
    (receives : Receives chip u32Addr true u16Sz isDone hif (m2mSuccess, bytes, after))
    (nonzero : u32Addr ≠ 0 ∧ u16Sz ≠ 0) :
    InPacket u32Addr u16Sz hif ∧ bytes = block (chip hif.bus.length).memory u32Addr u16Sz := by
  generalize outcome : (m2mSuccess, bytes, after) = result at receives
  cases receives with
  | refused => cases outcome
  | done nothing =>
      rcases nothing with zero | none | zero
      · exact absurd zero nonzero.1
      · cases none
      · exact absurd zero nonzero.2
  | unread inside failed => exact absurd (Prod.mk.inj outcome).1.symm failed
  | read inside => exact ⟨inside, (Prod.mk.inj (Prod.mk.inj outcome).2).1⟩
  | readLast inside => exact ⟨inside, (Prod.mk.inj (Prod.mk.inj outcome).2).1⟩

end Receive

/-! ## What a callback leaves -/

/-- A slot has no buffer, or one of an allowed size. -/
def BufferOk (sizes : Nat → Prop) (socket : Socket) : Prop :=
  socket.pu8UserBuffer = none ∧ socket.u16UserBufferSize = 0 ∨
    socket.pu8UserBuffer.isSome = true ∧ socket.u16UserBufferSize ≠ 0 ∧
      sizes socket.u16UserBufferSize

/-- A slot that the data of a packet can be read into. -/
structure Ready (socket : Socket) : Prop where
  used : socket.bIsUsed = true
  buffer : socket.pu8UserBuffer.isSome = true

theorem BufferMay.ok {sizes : Nat → Prop} {before after : Socket}
    (may : BufferMay sizes before after) (ok : BufferOk sizes before) : BufferOk sizes after := by
  rcases may with ⟨sameBuffer, sameSize⟩ | given
  · unfold BufferOk
    rw [sameBuffer, sameSize]
    exact ok
  · exact Or.inr given

theorem setSocket_apply (driver : Driver) (edited : Int) (socket : Socket) (sock : Int) :
    (driver.setSocket edited socket).gastrSockets sock =
      if sock = edited then socket else driver.gastrSockets sock :=
  Function.update_apply ..

theorem openSlot_apply (opened : Int) (socket : Socket) (driver : Driver) (sock : Int) :
    (openSlot opened socket driver).gastrSockets sock =
      if sock = opened then
        { socket with bIsUsed := true, u16SessionID := nextSession driver.gu16SessionID }
      else driver.gastrSockets sock :=
  Function.update_apply ..

/-- Every move leaves a slot without a buffer, or with one of an allowed size. -/
theorem Move.bufferOk {scope : Scope} {driver next : Driver} (move : Move scope driver next)
    (sock : Int) (ok : BufferOk scope.sizes (driver.gastrSockets sock)) :
    BufferOk scope.sizes (next.gastrSockets sock) := by
  cases move with
  | idle sockets =>
      rw [sockets]
      exact ok
  | edit edited socket _ _ buffer =>
      rw [setSocket_apply]
      split
      · rename_i same
        subst same
        exact buffer.ok ok
      · exact ok
  | «open» opened socket _ buffer =>
      rw [openSlot_apply]
      split
      · rename_i same
        subst same
        rcases buffer with rfl | may
        · exact Or.inl ⟨rfl, rfl⟩
        · exact may.ok ok
      · exact ok
  | request | callback => exact ok
  | close closed =>
      show BufferOk scope.sizes ((driver.setSocket closed .cleared).gastrSockets sock)
      rw [setSocket_apply]
      split
      · exact Or.inl ⟨rfl, rfl⟩
      · exact ok

theorem run_bufferOk {env : Environment} {sizes : Nat → Prop} (allowed : env.Buffers sizes)
    {start : Driver} (started : Started start) {events : List Event}
    (given : ∀ event ∈ events, event.Buffers sizes) (sock : Int) :
    BufferOk sizes ((run env events start).gastrSockets sock) := by
  refine (run_moves allowed given start).keeps
    (P := fun later => BufferOk sizes (later.gastrSockets sock))
    (fun move ok => move.bufferOk sock ok) ?_
  obtain ⟨before, uninitialised, _, rfl⟩ := started
  unfold socketInit
  rw [uninitialised]
  exact Or.inl ⟨rfl, rfl⟩

/-- What the calls of the application in a callback leave of the socket: entries
that are no callbacks, a buffer that is as it should be, and a slot that can
still be read into unless it has been closed. -/
structure AfterCalls (sizes : Nat → Prop) (sock : Int) (driver next : Driver) : Prop where
  buffer : BufferOk sizes (driver.gastrSockets sock) → BufferOk sizes (next.gastrSockets sock)
  log : ∃ added, next.log = added ++ driver.log ∧ (∀ entry ∈ added, entry.isCallback = false) ∧
    (.closed sock ∉ added → Ready (driver.gastrSockets sock) → Ready (next.gastrSockets sock))

theorem AfterCalls.refl (sizes : Nat → Prop) (sock : Int) (driver : Driver) :
    AfterCalls sizes sock driver driver :=
  ⟨id, [], rfl, fun _ member => absurd member List.not_mem_nil, fun _ ready => ready⟩

theorem AfterCalls.trans {sizes : Nat → Prop} {sock : Int} {driver between next : Driver}
    (first : AfterCalls sizes sock driver between) (second : AfterCalls sizes sock between next) :
    AfterCalls sizes sock driver next := by
  refine ⟨fun ok => second.buffer (first.buffer ok), ?_⟩
  obtain ⟨early, earlyLog, earlySilent, earlyReady⟩ := first.log
  obtain ⟨late, lateLog, lateSilent, lateReady⟩ := second.log
  refine ⟨late ++ early, ?_, ?_, ?_⟩
  · rw [lateLog, earlyLog, List.append_assoc]
  · intro entry member
    rcases List.mem_append.mp member with newer | older
    · exact lateSilent entry newer
    · exact earlySilent entry older
  · intro stays ready
    exact lateReady (fun member => stays (List.mem_append_left _ member))
      (earlyReady (fun member => stays (List.mem_append_right _ member)) ready)

/-- A move inside a call adds one entry, or none. -/
theorem Move.afterCalls {sizes : Nat → Prop} {driver next : Driver}
    (move : Move (inCall sizes) driver next) (sock : Int) : AfterCalls sizes sock driver next := by
  refine ⟨move.bufferOk sock, ?_⟩
  have nothing : ∀ entry ∈ ([] : List Entry), entry.isCallback = false :=
    fun _ member => absurd member List.not_mem_nil
  have only {added : Entry} (silent : added.isCallback = false) :
      ∀ entry ∈ [added], entry.isCallback = false :=
    fun _ member => List.mem_singleton.mp member ▸ silent
  cases move with
  | idle sockets _ log =>
      refine ⟨[], log, nothing, fun _ ready => ?_⟩
      rw [sockets]
      exact ready
  | edit edited socket used _ buffer =>
      refine ⟨[], rfl, nothing, fun _ ready => ?_⟩
      rw [setSocket_apply]
      split
      · rename_i same
        subst same
        refine ⟨used.trans ready.used, ?_⟩
        rcases buffer with ⟨sameBuffer, _⟩ | ⟨given, _⟩
        · rw [sameBuffer]
          exact ready.buffer
        · exact given
      · exact ready
  | «open» opened socket free =>
      refine ⟨[.opened opened], rfl, only rfl, fun _ ready => ?_⟩
      rw [openSlot_apply]
      split
      · rename_i same
        subst same
        -- a call never opens a slot in use
        rcases free with impossible | unused
        · exact impossible.elim
        · exact absurd (ready.used.symm.trans unused) (by decide)
      · exact ready
  | request cmd asked used => exact ⟨[_], rfl, only rfl, fun _ ready => ready⟩
  | close closed =>
      refine ⟨[.closed closed], rfl, only rfl, fun stays ready => ?_⟩
      show Ready ((driver.setSocket closed .cleared).gastrSockets sock)
      rw [setSocket_apply]
      split
      · rename_i same
        subst same
        exact absurd (List.mem_singleton.mpr rfl) stays
      · exact ready
  | callback _ _ told => exact told.elim

theorem Moves.afterCalls {sizes : Nat → Prop} {driver next : Driver}
    (moves : Moves (inCall sizes) driver next) (sock : Int) :
    AfterCalls sizes sock driver next := by
  induction moves with
  | refl => exact .refl sizes sock driver
  | tail _ last inductionHypothesis => exact inductionHypothesis.trans (last.afterCalls sock)

/-! ## Chunks -/

/-- The bytes that a callback brings, and how many it says are to come. -/
def chunkOf (sock : Int) : Entry → Option (List UInt8 × Nat)
  | .callback told (.received _ _ bytes u16RemainingSize _ _) =>
      if told = sock then some (bytes, u16RemainingSize) else none
  | _ => none

/-- The chunks that a part of the log brings, in the order they arrived. -/
def chunksOf (sock : Int) (entries : List Entry) : List (List UInt8 × Nat) :=
  entries.reverse.filterMap (chunkOf sock)

/-- One after the other, the callback is given chunks of the data: each is as large
as the buffer that the socket holds at that moment, or is all that is left if that
is less, and says how much is still to come. What the application calls in the
callback may change the buffer for the next one. -/
inductive Cuts (env : Environment) (cmd : SocketCmd) (sock : Int) (port ip : List UInt8) :
    Driver → List UInt8 → List (List UInt8 × Nat) → List UInt8 → Driver → Prop
  | nothing (driver : Driver) (hif : Hif) (data : List UInt8) :
      Cuts env cmd sock port ip driver data [] data { driver with hif := hif }
  | chunk {driver after : Driver} {hif : Hif} {bytes rest left : List UInt8}
      {chunks : List (List UInt8 × Nat)} (some : bytes ≠ [])
      (size : bytes.length =
        min (driver.gastrSockets sock).u16UserBufferSize (bytes ++ rest).length)
      (cuts : Cuts env cmd sock port ip
        (appSocketCb env sock
          (.received cmd (driver.gastrSockets sock).pu8UserBuffer bytes rest.length port ip)
          { driver with hif := hif }) rest chunks left after) :
      Cuts env cmd sock port ip driver (bytes ++ rest) ((bytes, rest.length) :: chunks) left after

/-- Put together, the chunks and the rest are the data. -/
theorem Cuts.flatten {env : Environment} {cmd : SocketCmd} {sock : Int} {port ip : List UInt8}
    {driver after : Driver} {data left : List UInt8} {chunks : List (List UInt8 × Nat)}
    (cuts : Cuts env cmd sock port ip driver data chunks left after) :
    (chunks.map Prod.fst).flatten ++ left = data := by
  induction cuts with
  | nothing => rfl
  | chunk some size cuts inductionHypothesis =>
      rw [List.map_cons, List.flatten_cons, List.append_assoc, inductionHypothesis]

theorem chunksOf_silent {sock : Int} {entries : List Entry}
    (silent : ∀ entry ∈ entries, entry.isCallback = false) : chunksOf sock entries = [] := by
  rw [chunksOf, List.filterMap_eq_nil_iff]
  intro entry member
  have quiet := silent entry (List.mem_reverse.mp member)
  cases entry with
  | callback => cases quiet
  | _ => rfl

theorem chunksOf_append (sock : Int) (newer older : List Entry) :
    chunksOf sock (newer ++ older) = chunksOf sock older ++ chunksOf sock newer := by
  rw [chunksOf, List.reverse_append, List.filterMap_append]
  rfl

/-! ## The loop -/

/-- A round that reads less than half the range of its size reads as much as the
buffer holds, or all that is left. -/
theorem u16Read_cases {u16ReadCount u16UserBufferSize : Nat} (count : u16ReadCount < 2 ^ 15)
    (size : u16Read u16ReadCount u16UserBufferSize < 2 ^ 15) :
    s16Diff u16ReadCount u16UserBufferSize ≤ 0 ∧
        u16Read u16ReadCount u16UserBufferSize = u16ReadCount ∧
        u16ReadCount ≤ u16UserBufferSize ∨
      s16Diff u16ReadCount u16UserBufferSize > 0 ∧
        u16Read u16ReadCount u16UserBufferSize = u16UserBufferSize ∧
        u16UserBufferSize < u16ReadCount := by
  unfold u16Read at size ⊢
  by_cases more : s16Diff u16ReadCount u16UserBufferSize > 0
  · rw [if_pos more] at size ⊢
    refine Or.inr ⟨more, rfl, ?_⟩
    unfold s16Diff sint16 u16 at more
    split at more <;> omega
  · rw [if_neg more]
    refine Or.inl ⟨not_lt.mp more, rfl, ?_⟩
    unfold s16Diff sint16 u16 at more
    split at more <;> omega

/-- With a buffer of at most half the range of its size, a round reads what fits. -/
theorem u16Read_le {u16ReadCount u16UserBufferSize : Nat} (count : u16ReadCount < 2 ^ 15)
    (size : u16UserBufferSize ≤ 2 ^ 15) :
    u16Read u16ReadCount u16UserBufferSize ≤ u16ReadCount ∧
      u16Read u16ReadCount u16UserBufferSize ≤ u16UserBufferSize := by
  unfold u16Read
  split
  · rename_i more
    unfold s16Diff sint16 u16 at more
    split at more <;> omega
  · rename_i fits
    unfold s16Diff sint16 u16 at fits
    split at fits <;> omega

/-- Without a buffer nothing is read. -/
theorem u16Read_zero {u16ReadCount : Nat} (positive : 0 < u16ReadCount)
    (count : u16ReadCount < 2 ^ 15) : u16Read u16ReadCount 0 = 0 := by
  have difference : s16Diff u16ReadCount 0 = u16ReadCount := by
    unfold s16Diff sint16 u16
    rw [Nat.sub_zero, Nat.add_mod_right, Nat.mod_eq_of_lt (by omega), if_pos count]
  unfold u16Read
  rw [difference, if_pos (by omega)]

theorem block_nonempty (memory : Nat → UInt8) (address : Nat) {count : Nat} (some : count ≠ 0) :
    block memory address count ≠ [] := by
  intro empty
  have length := length_block memory address count
  rw [empty] at length
  exact some length.symm

theorem Steady.block {chip : Chip} {memory : Nat → UInt8} {rxAddr rxSize address count : Nat}
    (steady : Steady chip memory rxAddr rxSize) (start : rxAddr ≤ address)
    (stop : address + count ≤ rxAddr + rxSize) (n : Nat) :
    Winc.block (chip n).memory address count = Winc.block memory address count := by
  unfold Winc.block
  refine List.map_congr_left fun index member => ?_
  have bound := List.mem_range.mp member
  exact steady n (address + index) (by omega) (by omega)

/-- What the callback for a chunk leaves: the chunk in the log, then what the
application has called. -/
theorem appSocketCb_after {env : Environment} {sizes : Nat → Prop} (allowed : env.Buffers sizes)
    {driver : Driver} (heard : driver.hasSocketCb = true) (sock : Int) (msg : SocketMsg) :
    Quiet driver.hif (appSocketCb env sock msg driver).hif ∧
      (appSocketCb env sock msg driver).hasSocketCb = true ∧
      AfterCalls sizes sock (driver.write (.callback sock msg))
        (appSocketCb env sock msg driver) := by
  have moves := appSocketCb_moves allowed sock msg driver
  refine ⟨moves.quiet, moves.hasSocketCb.trans heard, ?_⟩
  unfold appSocketCb
  rw [if_pos heard]
  exact (callback_moves_after allowed (.callback sock msg) driver).afterCalls sock

/-- What the loop is told of the packet and the socket. -/
structure Reading (sizes : Nat → Prop) (sock : Int) (rxAddr rxSize u32Address u16ReadCount : Nat)
    (driver : Driver) : Prop where
  rxAddrEq : driver.hif.u32RxAddr = rxAddr
  rxSizeEq : driver.hif.u32RxSize = rxSize
  buffer : BufferOk sizes (driver.gastrSockets sock)
  address : 0 < u32Address
  count : 0 < u16ReadCount ∧ u16ReadCount < 2 ^ 15

/-- What the loop is told after a chunk, by a callback that keeps the packet. -/
theorem Reading.next {sizes : Nat → Prop} {sock : Int}
    {rxAddr rxSize u32Address u16ReadCount size : Nat} {driver told : Driver}
    (reading : Reading sizes sock rxAddr rxSize u32Address u16ReadCount driver)
    (more : size < u16ReadCount) (rxAddrEq : told.hif.u32RxAddr = driver.hif.u32RxAddr)
    (rxSizeEq : told.hif.u32RxSize = driver.hif.u32RxSize)
    (buffer : BufferOk sizes (told.gastrSockets sock)) :
    Reading sizes sock rxAddr rxSize (u32Address + size) (u16ReadCount - size) told where
  rxAddrEq := rxAddrEq.trans reading.rxAddrEq
  rxSizeEq := rxSizeEq.trans reading.rxSizeEq
  buffer := buffer
  address := Nat.add_pos_left reading.address size
  count := ⟨Nat.sub_pos_of_lt more, lt_of_le_of_lt (Nat.sub_le _ _) reading.count.2⟩

/-- A buffer of at most 32768 bytes: a larger one makes the size of the next chunk
negative in the sixteen bits of `s16Diff`. -/
def FitsHalf (size : Nat) : Prop := size ≤ 2 ^ 15

/-- The chunks cut the data; nothing is left when the bus does not fail, the data
lies in the packet, the buffers are not too large and the socket stays open. -/
def Delivers (env : Environment) (sizes : Nat → Prop) (cmd : SocketCmd) (sock : Int)
    (port ip : List UInt8) (memory : Nat → UInt8) (rxAddr rxSize u32Address u16ReadCount : Nat)
    (before after : Driver) : Prop :=
  ∃ added left, after.log = added ++ before.log ∧
    Cuts env cmd sock port ip before (block memory u32Address u16ReadCount) (chunksOf sock added)
      left after ∧
    (BusOk env.chip before.hif.bus.length → (∀ size, sizes size → FitsHalf size) →
      rxAddr ≤ u32Address → u32Address + u16ReadCount ≤ rxAddr + rxSize →
      Ready (before.gastrSockets sock) → .closed sock ∉ added → left = [])

/-- A read of a chunk succeeds when the bus does not fail. -/
theorem Receives.succeeds {chip : Chip} {u32Addr u16Sz : Nat} {isDone : Bool} {hif : Hif}
    (busOk : BusOk chip hif.bus.length) (nonzero : u32Addr ≠ 0 ∧ u16Sz ≠ 0)
    (start : hif.u32RxAddr ≤ u32Addr)
    (stop : u32Addr + u16Sz ≤ hif.u32RxAddr + hif.u32RxSize)
    (bound : hif.u32RxAddr + hif.u32RxSize < 2 ^ 32) :
    (hifReceive chip u32Addr true u16Sz isDone hif).1 = m2mSuccess := by
  unfold hifReceive u32
  dsimp only
  rw [if_neg (by simp [nonzero]), if_neg (by omega), if_neg (by omega)]
  split
  · rename_i failed
    exact absurd (busOk _ le_rfl) failed
  split
  · rw [hifSetRxDone_ok (busOk.later (List.suffix_cons ..))]
  · exact busOk _ le_rfl

/-- A round that succeeds has read the next bytes of the packet: as many as the
buffer holds, or all that is left. -/
theorem Receives.chunk {env : Environment} {sizes : Nat → Prop} {sock : Int}
    {rxAddr rxSize u32Address u16ReadCount : Nat} {driver : Driver} (small : rxSize < 2 ^ 15)
    (bound : u32Address + u16ReadCount < 2 ^ 32)
    (reading : Reading sizes sock rxAddr rxSize u32Address u16ReadCount driver)
    {bytes : List UInt8} {hif : Hif}
    (receives : Receives env.chip u32Address (driver.gastrSockets sock).pu8UserBuffer.isSome
      (u16Read u16ReadCount (driver.gastrSockets sock).u16UserBufferSize)
      (decide (s16Diff u16ReadCount (driver.gastrSockets sock).u16UserBufferSize ≤ 0)) driver.hif
      (m2mSuccess, bytes, hif)) :
    let size := u16Read u16ReadCount (driver.gastrSockets sock).u16UserBufferSize
    0 < size ∧ size = min (driver.gastrSockets sock).u16UserBufferSize u16ReadCount ∧
      rxAddr ≤ u32Address ∧ u32Address + size ≤ rxAddr + rxSize ∧
      bytes = block (env.chip driver.hif.bus.length).memory u32Address size := by
  intro size
  have address := reading.address
  have count := reading.count
  have positive : size ≠ 0 := by
    intro zero
    generalize outcome : (m2mSuccess, bytes, hif) = result at receives
    cases receives with
    | refused => cases outcome
    | done nothing last =>
        -- with nothing to read the round is not the last one
        have whole : size = u16ReadCount := if_neg (not_lt.mpr (of_decide_eq_true last))
        omega
    | unread inside | read inside | readLast inside => exact inside.nonzero zero
  have buffered : (driver.gastrSockets sock).pu8UserBuffer.isSome = true := by
    rcases reading.buffer with ⟨none, empty⟩ | ⟨some, _⟩
    · refine absurd ?_ positive
      show u16Read u16ReadCount (driver.gastrSockets sock).u16UserBufferSize = 0
      rw [empty]
      exact u16Read_zero count.1 count.2
    · exact some
  rw [buffered] at receives
  obtain ⟨inside, read⟩ := receives.inPacket ⟨by omega, positive⟩
  have start := inside.start
  have fits := inside.small
  have stop := inside.stop
  rw [reading.rxAddrEq] at start
  rw [reading.rxSizeEq] at fits
  rw [reading.rxAddrEq, reading.rxSizeEq] at stop
  unfold u32 at stop
  have least : size = min (driver.gastrSockets sock).u16UserBufferSize u16ReadCount := by
    rcases u16Read_cases count.2 (lt_of_le_of_lt fits small) with
      ⟨_, whole, room⟩ | ⟨_, part, less⟩
    · exact whole.trans (min_eq_right room).symm
    · exact part.trans (min_eq_left (le_of_lt less)).symm
  have le : size ≤ u16ReadCount := le_of_eq_of_le least (min_le_right ..)
  have end' : u32Address + size ≤ rxAddr + rxSize := by omega
  exact ⟨Nat.pos_of_ne_zero positive, least, start, end', read⟩

/-- With a bus that does not fail, the next round succeeds as long as the socket
is ready and the data lies in the packet. -/
theorem Reading.succeeds {env : Environment} {sizes : Nat → Prop} {sock : Int}
    {rxAddr rxSize u32Address u16ReadCount : Nat} {driver : Driver}
    (reading : Reading sizes sock rxAddr rxSize u32Address u16ReadCount driver)
    (rxBound : rxAddr + rxSize < 2 ^ 32) (busOk : BusOk env.chip driver.hif.bus.length)
    (sizesSmall : ∀ size, sizes size → FitsHalf size) (start : rxAddr ≤ u32Address)
    (stop : u32Address + u16ReadCount ≤ rxAddr + rxSize)
    (ready : Ready (driver.gastrSockets sock)) (isDone : Bool) :
    (hifReceive env.chip u32Address (driver.gastrSockets sock).pu8UserBuffer.isSome
      (u16Read u16ReadCount (driver.gastrSockets sock).u16UserBufferSize) isDone
      driver.hif).1 = m2mSuccess := by
  have address := reading.address
  have count := reading.count
  rcases reading.buffer with ⟨none, _⟩ | ⟨_, nonzero, allowed⟩
  · exact absurd (none ▸ ready.buffer) (by decide)
  · have le := u16Read_le count.2 (sizesSmall _ allowed)
    have positive : u16Read u16ReadCount (driver.gastrSockets sock).u16UserBufferSize ≠ 0 := by
      unfold u16Read
      split <;> omega
    rw [ready.buffer]
    apply Receives.succeeds busOk ⟨by omega, positive⟩
    · rw [reading.rxAddrEq]
      exact start
    · rw [reading.rxAddrEq, reading.rxSizeEq]
      omega
    · rw [reading.rxAddrEq, reading.rxSizeEq]
      exact rxBound

/-- One more round in front of what the rest of the loop delivers. -/
theorem Delivers.chunk {env : Environment} {sizes : Nat → Prop} {cmd : SocketCmd} {sock : Int}
    {port ip : List UInt8} {memory : Nat → UInt8} {rxAddr rxSize u32Address size rest : Nat}
    {driver after : Driver} {hif : Hif} {bytes : List UInt8} {added : List Entry}
    (positive : 0 < size)
    (least : size = min (driver.gastrSockets sock).u16UserBufferSize (size + rest))
    (read : bytes = block memory u32Address size) :
    let msg := SocketMsg.received cmd (driver.gastrSockets sock).pu8UserBuffer bytes rest port ip
    let told := appSocketCb env sock msg { driver with hif := hif }
    driver.hif.bus <:+ told.hif.bus →
    told.log = added ++ .callback sock msg :: driver.log →
    (∀ entry ∈ added, entry.isCallback = false) →
    (.closed sock ∉ added → Ready (driver.gastrSockets sock) → Ready (told.gastrSockets sock)) →
    Delivers env sizes cmd sock port ip memory rxAddr rxSize (u32Address + size) rest told after →
    Delivers env sizes cmd sock port ip memory rxAddr rxSize u32Address (size + rest) driver
      after := by
  intro msg told bus log silent ready delivers
  obtain ⟨more, left, moreLog, cuts, complete⟩ := delivers
  refine ⟨more ++ (added ++ [.callback sock msg]), left, ?_, ?_, ?_⟩
  · rw [moreLog, log, List.append_assoc, List.append_assoc]
    rfl
  · have brings : chunkOf sock (.callback sock msg) = some (bytes, rest) := if_pos rfl
    have first : chunksOf sock [.callback sock msg] = [(bytes, rest)] := by
      rw [chunksOf, List.reverse_singleton, List.filterMap_cons, brings]
      rfl
    have restLength : (block memory (u32Address + size) rest).length = rest := length_block ..
    rw [chunksOf_append, chunksOf_append, chunksOf_silent silent, first, List.append_nil,
      block_append, ← read]
    have chunk := @Cuts.chunk env cmd sock port ip driver after hif bytes
      (block memory (u32Address + size) rest) left (chunksOf sock more)
    rw [restLength, List.length_append, restLength, read, length_block] at chunk
    rw [read]
    refine chunk (block_nonempty memory u32Address (Nat.ne_of_gt positive)) least ?_
    rw [← read]
    exact cuts
  · intro busOk sizesSmall start stop before stays
    have stillOpen : .closed sock ∉ added := fun member =>
      stays (List.mem_append_right _ (List.mem_append_left _ member))
    exact complete (busOk.later bus) sizesSmall (by omega) (by omega) (ready stillOpen before)
      fun member => stays (List.mem_append_left _ member)

theorem readSocketDataLoop_delivers {env : Environment} {sizes : Nat → Prop}
    (allowed : env.Buffers sizes) (cmd : SocketCmd) (sock : Int) (port ip : List UInt8)
    {memory : Nat → UInt8} {rxAddr rxSize : Nat} (steady : Steady env.chip memory rxAddr rxSize)
    (rxBound : rxAddr + rxSize < 2 ^ 32) (small : rxSize < 2 ^ 15) (fuel : Nat) :
    ∀ (u32Address u16ReadCount : Nat) (driver : Driver), u16ReadCount ≤ fuel →
      u32Address + u16ReadCount < 2 ^ 32 → driver.hasSocketCb = true →
      Reading sizes sock rxAddr rxSize u32Address u16ReadCount driver →
      Delivers env sizes cmd sock port ip memory rxAddr rxSize u32Address u16ReadCount driver
        (readSocketDataLoop env cmd sock port ip fuel u32Address u16ReadCount u16ReadCount
          driver) := by
  induction fuel with
  | zero =>
      intro u32Address u16ReadCount driver enough _ _ reading
      exact absurd reading.count.1 (by omega)
  | succ fuel inductionHypothesis =>
      intro u32Address u16ReadCount driver enough bound heard reading
      unfold readSocketDataLoop
      dsimp only
      have receives := hifReceive_receives env.chip u32Address
        (driver.gastrSockets sock).pu8UserBuffer.isSome
        (u16Read u16ReadCount (driver.gastrSockets sock).u16UserBufferSize)
        (decide (s16Diff u16ReadCount (driver.gastrSockets sock).u16UserBufferSize ≤ 0)) driver.hif
      have succeeds := fun (busOk : BusOk env.chip driver.hif.bus.length) sizesSmall start stop
          ready =>
        reading.succeeds rxBound busOk sizesSmall start stop ready
          (decide (s16Diff u16ReadCount (driver.gastrSockets sock).u16UserBufferSize ≤ 0))
      have count := reading.count
      generalize hifReceive env.chip u32Address _ _ _ driver.hif = outcome at receives succeeds ⊢
      obtain ⟨ret, bytes, hif⟩ := outcome
      dsimp only at succeeds ⊢
      by_cases succeeded : ret = m2mSuccess
      swap
      · rw [if_neg succeeded]
        exact ⟨[], _, rfl, .nothing driver hif _, fun busOk sizesSmall start stop ready _ =>
          absurd (succeeds busOk sizesSmall start stop ready) succeeded⟩
      subst succeeded
      rw [if_pos rfl]
      obtain ⟨positive, least, start, stop, found⟩ := receives.chunk small bound reading
      have read := found.trans (steady.block start stop _)
      have rx := receives.rx
      have bus := receives.bus
      generalize u16Read u16ReadCount (driver.gastrSockets sock).u16UserBufferSize = size at *
      obtain ⟨rest, rfl⟩ : ∃ rest, u16ReadCount = size + rest :=
        ⟨u16ReadCount - size, by omega⟩
      have remaining : u16 (size + rest + 2 ^ 16 - size) = rest := by
        unfold u16
        omega
      rw [remaining]
      obtain ⟨quiet, stillHeard, after⟩ := @appSocketCb_after _ _ allowed { driver with hif := hif }
        heard sock (.received cmd (driver.gastrSockets sock).pu8UserBuffer bytes rest port ip)
      obtain ⟨added, log, silent, ready⟩ := after.log
      refine Delivers.chunk positive least read (bus.trans quiet.busSuffix) log silent ready ?_
      have buffer := after.buffer reading.buffer
      generalize appSocketCb env sock _ { driver with hif := hif } = told at *
      by_cases closed : (!(told.gastrSockets sock).bIsUsed) = true ∧ rest ≠ 0
      · -- the application has closed the socket with data still to come
        rw [if_pos closed]
        refine ⟨[], _, rfl, .nothing told _ _, fun _ _ _ _ stillReady _ => ?_⟩
        rw [stillReady.used] at closed
        exact absurd closed.1 (by decide)
      rw [if_neg closed]
      by_cases last : rest = 0
      · rw [if_pos last]
        exact ⟨[], _, rfl, .nothing told told.hif _, fun _ _ _ _ _ _ => by rw [last]; rfl⟩
      rw [if_neg last]
      have next : u32 (u32Address + size) = u32Address + size := Nat.mod_eq_of_lt (by omega)
      rw [next]
      have goesOn := reading.next (show size < size + rest by omega) (quiet.rxAddr.trans rx.1)
        (quiet.rxSize.trans rx.2) buffer
      rw [Nat.add_sub_cancel_left] at goesOn
      exact inductionHypothesis (u32Address + size) rest told (by omega) (by omega) stillHeard
        goesOn

/-! ## A reply that brings data -/

theorem sint16_toNat_lt {value : Nat} (bound : value < 2 ^ 16) :
    (sint16 value).toNat < 2 ^ 15 := by
  unfold sint16
  split <;> omega

theorem uint16At_lt (bytes : List UInt8) (index : Nat) : uint16At bytes index < 2 ^ 16 := by
  unfold uint16At
  have low := (bytes.getD index 0).toNat_lt
  have high := (bytes.getD (index + 1) 0).toNat_lt
  omega

theorem fitsHalf_two : FitsHalf 2 := by
  unfold FitsHalf
  decide

theorem asksAgain_buffers (chip : Chip) : (asksAgain chip).Buffers FitsHalf := by
  refine ⟨fun _ call member => ?_, fun _ _ member => absurd member List.not_mem_nil⟩
  rw [List.mem_singleton.mp member]
  exact fitsHalf_two

end MicrochipDay.Winc
