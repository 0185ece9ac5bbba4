import MicrochipDay.Winc.Received
import MicrochipDay.Winc.Sessions

/-!
Owns what one interrupt does with its packet. Every block that is read lies in
the packet, and the chip is told exactly once that the packet is done: by the
callback, when it reads to the end or says so, and by `hif_isr` otherwise.
-/

namespace MicrochipDay.Winc

attribute [local irreducible] hifSend

/-! ## The state of a packet -/

/-- The write that tells the chip that the packet is done. -/
def BusOp.isAck : BusOp → Bool
  | .writeReg .wifiHostRcvCtrl0 value => value.getLsbD 1
  | _ => false

/-- A block outside the packet is not read. -/
def BusOp.Inside (rxAddr rxSize : Nat) : BusOp → Prop
  | .readBlock address size => rxAddr ≤ address ∧ address + size ≤ rxAddr + rxSize
  | _ => True

/-- The operations since `before` read nothing but the packet, and tell the chip
once that it is done, unless `u8HifRXDone` says that this is still to come. -/
structure Handled (rxAddr rxSize : Nat) (before : List BusOp) (hif : Hif) : Prop where
  rxAddrEq : hif.u32RxAddr = rxAddr
  rxSizeEq : hif.u32RxSize = rxSize
  interrupts : hif.interruptsOn = !hif.u8HifRXDone
  bus : ∃ ops, hif.bus = ops ++ before ∧ (∀ op ∈ ops, op.Inside rxAddr rxSize) ∧
    ops.countP BusOp.isAck = if hif.u8HifRXDone then 0 else 1

theorem BusOp.isAck_of_quiet {op : BusOp} (quiet : op.isQuiet = true) : op.isAck = false := by
  cases op with
  | writeReg register value =>
      cases register with
      | wifiHostRcvCtrl0 => cases quiet
      | _ => rfl
  | _ => rfl

theorem BusOp.inside_of_quiet {op : BusOp} (quiet : op.isQuiet = true) (rxAddr rxSize : Nat) :
    op.Inside rxAddr rxSize := by
  cases op with
  | readBlock address size => cases quiet
  | _ => trivial

section Handled

variable {rxAddr rxSize : Nat} {before : List BusOp} {hif after : Hif}

theorem Handled.busSuffix (handled : Handled rxAddr rxSize before hif) : before <:+ hif.bus := by
  obtain ⟨ops, bus, _⟩ := handled.bus
  exact ⟨ops, bus.symm⟩

/-- What is sent in between changes nothing. -/
theorem Handled.quiet (handled : Handled rxAddr rxSize before hif) (quiet : Quiet hif after) :
    Handled rxAddr rxSize before after := by
  obtain ⟨ops, bus, inside, count⟩ := handled.bus
  obtain ⟨more, moreBus, allQuiet⟩ := quiet.bus
  have none : more.countP BusOp.isAck = 0 := by
    rw [List.countP_eq_zero]
    intro op member
    rw [BusOp.isAck_of_quiet (allQuiet op member)]
    exact Bool.false_ne_true
  refine ⟨quiet.rxAddr.trans handled.rxAddrEq, quiet.rxSize.trans handled.rxSizeEq, ?_,
    more ++ ops, ?_, ?_, ?_⟩
  · rw [quiet.interrupts, quiet.rxDone]
    exact handled.interrupts
  · rw [moreBus, bus, List.append_assoc]
  · intro op member
    rcases List.mem_append.mp member with newer | older
    · exact BusOp.inside_of_quiet (allQuiet op newer) rxAddr rxSize
    · exact inside op older
  · rw [List.countP_append, none, Nat.zero_add, quiet.rxDone]
    exact count

/-- A block of the packet is read. -/
theorem Handled.read (handled : Handled rxAddr rxSize before hif) (chip : Chip)
    {u32Addr u16Sz : Nat} (inside : InPacket u32Addr u16Sz hif)
    (noWrap : u32Addr + u16Sz < 2 ^ 32) :
    Handled rxAddr rxSize before (hif.operate chip (.readBlock u32Addr u16Sz)).2 := by
  obtain ⟨ops, bus, allInside, count⟩ := handled.bus
  have start := inside.start
  have stop := inside.stop
  rw [handled.rxAddrEq] at start
  rw [handled.rxAddrEq, handled.rxSizeEq] at stop
  unfold u32 at stop
  refine ⟨handled.rxAddrEq, handled.rxSizeEq, handled.interrupts,
    .readBlock u32Addr u16Sz :: ops, congrArg _ bus, ?_, count⟩
  intro op member
  rcases List.mem_cons.mp member with rfl | older
  · exact ⟨start, by omega⟩
  · exact allInside op older

/-- The packet is done: this is the only place where the chip is told so. -/
theorem Handled.done (handled : Handled rxAddr rxSize before hif) {chip : Chip}
    (busOk : BusOk chip before.length) (pending : hif.u8HifRXDone = true) :
    Handled rxAddr rxSize before (hifSetRxDone chip hif).2 := by
  obtain ⟨ops, bus, inside, count⟩ := handled.bus
  rw [pending, if_pos rfl] at count
  rw [hifSetRxDone_ok (busOk.later handled.busSuffix)]
  refine ⟨handled.rxAddrEq, handled.rxSizeEq, rfl, _ :: _ :: ops, congrArg _ (congrArg _ bus), ?_,
    ?_⟩
  · intro op member
    rcases List.mem_cons.mp member with rfl | member
    · trivial
    rcases List.mem_cons.mp member with rfl | older
    · trivial
    · exact inside op older
  · have acknowledges (value : BitVec 32) :
        BusOp.isAck (.writeReg .wifiHostRcvCtrl0 (value ||| 2#32)) = true := by
      show (value ||| 2#32).getLsbD 1 = true
      rw [BitVec.getLsbD_or]
      exact Bool.or_true _
    rw [List.countP_cons, List.countP_cons, count, if_pos (acknowledges _)]
    rfl

/-- A call of `hif_receive` while the packet is not done yet. -/
theorem Handled.receive (handled : Handled rxAddr rxSize before hif) {chip : Chip}
    (busOk : BusOk chip before.length) (pending : hif.u8HifRXDone = true) {u32Addr u16Sz : Nat}
    (noWrap : u32Addr + u16Sz < 2 ^ 32) (pu8Buf isDone : Bool) :
    Handled rxAddr rxSize before (hifReceive chip u32Addr pu8Buf u16Sz isDone hif).2.2 := by
  have receives := hifReceive_receives chip u32Addr pu8Buf u16Sz isDone hif
  generalize hifReceive chip u32Addr pu8Buf u16Sz isDone hif = outcome at receives ⊢
  cases receives with
  | refused => exact handled
  | done => exact handled.done busOk pending
  | unread inside | read inside => exact handled.read chip inside noWrap
  | readLast inside => exact (handled.read chip inside noWrap).done busOk pending

/-- A read that neither reaches the end of the packet nor says that it is done
leaves the packet pending. -/
theorem hifReceive_pending (chip : Chip) (pending : hif.u8HifRXDone = true) {u32Addr u16Sz : Nat}
    (short : ¬ReachesEnd u32Addr u16Sz hif) (pu8Buf : Bool) :
    (hifReceive chip u32Addr pu8Buf u16Sz false hif).2.2.u8HifRXDone = true := by
  have receives := hifReceive_receives chip u32Addr pu8Buf u16Sz false hif
  generalize hifReceive chip u32Addr pu8Buf u16Sz false hif = outcome at receives ⊢
  cases receives with
  | refused | unread | read => exact pending
  | done _ last => cases last
  | readLast _ _ last =>
      rcases last with reaches | said
      · exact absurd reaches short
      · cases said

end Handled

/-! ## The socket layer -/

section Sockets

variable {env : Environment} {rxAddr rxSize : Nat} {before : List BusOp}

/-- The callback for a chunk receives nothing itself and leaves the buffer as it
should be. -/
theorem appSocketCb_quiet (allowed : env.Buffers FitsHalf) (sock : Int) (msg : SocketMsg)
    (driver : Driver) :
    Quiet driver.hif (appSocketCb env sock msg driver).hif ∧
      (BufferOk FitsHalf (driver.gastrSockets sock) →
        BufferOk FitsHalf ((appSocketCb env sock msg driver).gastrSockets sock)) := by
  refine ⟨(appSocketCb_moves allowed sock msg driver).quiet, ?_⟩
  unfold appSocketCb
  split
  · exact ((callback_moves_after allowed (.callback sock msg) driver).afterCalls sock).buffer
  · exact id

/-- A round reads no more than is left; when it is not the last one, it reads less. -/
theorem BufferOk.u16Read_le {socket : Socket} (ok : BufferOk FitsHalf socket) {u16ReadCount : Nat}
    (count : 0 < u16ReadCount ∧ u16ReadCount < 2 ^ 15) :
    u16Read u16ReadCount socket.u16UserBufferSize ≤ u16ReadCount ∧
      (s16Diff u16ReadCount socket.u16UserBufferSize > 0 →
        u16Read u16ReadCount socket.u16UserBufferSize < u16ReadCount) := by
  rcases ok with ⟨_, empty⟩ | ⟨_, _, half⟩
  · rw [empty, u16Read_zero count.1 count.2]
    exact ⟨Nat.zero_le _, fun _ => count.1⟩
  · have le := (Winc.u16Read_le count.2 half).1
    refine ⟨le, fun more => ?_⟩
    rcases u16Read_cases count.2 (lt_of_le_of_lt le count.2) with ⟨last, _⟩ | ⟨_, part, less⟩
    · exact absurd more (not_lt.mpr last)
    · exact lt_of_eq_of_lt part less

/-- A chunk that is not the last one leaves the packet pending. -/
theorem Reading.pending_of_more {chip : Chip} {sock : Int} {u32Address u16ReadCount : Nat}
    {driver : Driver} (rxBound : rxAddr + rxSize < 2 ^ 32)
    (fits : u32Address + u16ReadCount ≤ rxAddr + rxSize)
    (reading : Reading FitsHalf sock rxAddr rxSize u32Address u16ReadCount driver)
    (pending : driver.hif.u8HifRXDone = true)
    (more : s16Diff u16ReadCount (driver.gastrSockets sock).u16UserBufferSize > 0) :
    (hifReceive chip u32Address (driver.gastrSockets sock).pu8UserBuffer.isSome
      (u16Read u16ReadCount (driver.gastrSockets sock).u16UserBufferSize)
      (decide (s16Diff u16ReadCount (driver.gastrSockets sock).u16UserBufferSize ≤ 0))
      driver.hif).2.2.u8HifRXDone = true := by
  have shorter := (reading.buffer.u16Read_le reading.count).2 more
  rw [decide_eq_false (not_le.mpr more)]
  apply hifReceive_pending chip pending
  unfold ReachesEnd u32
  rw [reading.rxAddrEq, reading.rxSizeEq]
  omega

theorem readSocketDataLoop_handled (allowed : env.Buffers FitsHalf)
    (busOk : BusOk env.chip before.length) (rxBound : rxAddr + rxSize < 2 ^ 32) (cmd : SocketCmd)
    (sock : Int) (port ip : List UInt8) (fuel : Nat) :
    ∀ (u32Address u16ReadCount u16RemainingSize : Nat) (driver : Driver),
      u32Address + u16ReadCount ≤ rxAddr + rxSize →
      Reading FitsHalf sock rxAddr rxSize u32Address u16ReadCount driver →
      driver.hif.u8HifRXDone = true → Handled rxAddr rxSize before driver.hif →
      Handled rxAddr rxSize before (readSocketDataLoop env cmd sock port ip fuel u32Address
        u16ReadCount u16RemainingSize driver).hif := by
  induction fuel with
  | zero => exact fun _ _ _ _ _ _ _ handled => handled
  | succ fuel inductionHypothesis =>
      intro u32Address u16ReadCount u16RemainingSize driver fits reading pending handled
      unfold readSocketDataLoop
      dsimp only
      have count := reading.count
      have le := (reading.buffer.u16Read_le count).1
      have noWrap : u32Address +
          u16Read u16ReadCount (driver.gastrSockets sock).u16UserBufferSize < 2 ^ 32 := by omega
      have received := handled.receive busOk pending noWrap
        (driver.gastrSockets sock).pu8UserBuffer.isSome
        (decide (s16Diff u16ReadCount (driver.gastrSockets sock).u16UserBufferSize ≤ 0))
      have stillPending :=
        @Reading.pending_of_more _ _ env.chip _ _ _ _ rxBound fits reading pending
      have rounds (whole : u16Read u16ReadCount (driver.gastrSockets sock).u16UserBufferSize ≠
          u16ReadCount) :
          s16Diff u16ReadCount (driver.gastrSockets sock).u16UserBufferSize > 0 := by
        by_contra last
        exact whole (if_neg last)
      have rx := (hifReceive_receives env.chip u32Address
        (driver.gastrSockets sock).pu8UserBuffer.isSome
        (u16Read u16ReadCount (driver.gastrSockets sock).u16UserBufferSize)
        (decide (s16Diff u16ReadCount (driver.gastrSockets sock).u16UserBufferSize ≤ 0))
        driver.hif).rx
      generalize hifReceive env.chip u32Address _ _ _ driver.hif = outcome at *
      obtain ⟨ret, bytes, hif⟩ := outcome
      dsimp only at received stillPending rx ⊢
      generalize u16Read u16ReadCount (driver.gastrSockets sock).u16UserBufferSize = size at *
      have rest : u16 (u16ReadCount + 2 ^ 16 - size) = u16ReadCount - size := by
        unfold u16
        omega
      rw [rest]
      split
      swap
      · exact received
      obtain ⟨quiet, buffer⟩ := appSocketCb_quiet allowed sock (.received cmd
        (driver.gastrSockets sock).pu8UserBuffer bytes (u16 (u16RemainingSize + 2 ^ 16 - size))
        port ip) { driver with hif := hif }
      generalize appSocketCb env sock _ { driver with hif := hif } = told at quiet buffer ⊢
      have toldHandled := received.quiet quiet
      split
      · rename_i closed
        have more := rounds (by omega)
        exact toldHandled.receive busOk (quiet.rxDone.trans (stillPending more)) (by decide) _ _
      split
      · exact toldHandled
      · have more := rounds (by omega)
        have next : u32 (u32Address + size) = u32Address + size := Nat.mod_eq_of_lt (by omega)
        rw [next]
        exact inductionHypothesis _ _ _ told (by omega)
          (reading.next (by omega) (quiet.rxAddr.trans rx.1) (quiet.rxSize.trans rx.2)
            (buffer reading.buffer))
          (quiet.rxDone.trans (stillPending more)) toldHandled

/-- A reply that brings data says that it lies behind the reply, in its packet. -/
def Conforms (cmd : SocketCmd) (u16BufferSize : Nat) (reply : List UInt8) : Prop :=
  bringsData cmd u16BufferSize reply → recvReplySize ≤ uint16At reply 10 ∧
    uint16At reply 10 + (sint16 (uint16At reply 8)).toNat ≤ u16BufferSize

theorem recvReplied_handled (allowed : env.Buffers FitsHalf) (busOk : BusOk env.chip before.length)
    (rxBound : rxAddr + rxSize < 2 ^ 32) (cmd : SocketCmd)
    {u16BufferSize u32Address : Nat} (address : u32Address = rxAddr + m2mHifHdrOffset)
    (inside : u16BufferSize + m2mHifHdrOffset ≤ rxSize) {reply : List UInt8}
    (conforms : Conforms .recv u16BufferSize reply) {driver : Driver}
    (buffers : ∀ sock, BufferOk FitsHalf (driver.gastrSockets sock))
    (pending : recvReplySize < u16BufferSize → driver.hif.u8HifRXDone = true)
    (handled : Handled rxAddr rxSize before driver.hif) :
    Handled rxAddr rxSize before
      (recvReplied env cmd u16BufferSize u32Address reply driver).hif := by
  unfold recvReplied
  dsimp only
  split
  · split
    · rename_i data
      obtain ⟨behind, within⟩ := conforms ⟨Or.inl rfl, data⟩
      have half := sint16_toNat_lt (uint16At_lt reply 8)
      unfold recvReplySize at behind pending
      unfold m2mHifHdrOffset at address inside
      have begins : u32 (u32Address + uint16At reply 10) = u32Address + uint16At reply 10 :=
        Nat.mod_eq_of_lt (by omega)
      rw [begins]
      unfold socketReadSocketData
      dsimp only
      split
      · rename_i enters
        refine readSocketDataLoop_handled allowed busOk rxBound cmd _ _ _ _ _ _ _ _
          (by omega) ?_ (pending (by omega)) handled
        exact {
          rxAddrEq := handled.rxAddrEq
          rxSizeEq := handled.rxSizeEq
          buffer := by
            rw [setSocket_gastrSockets]
            exact buffers _
          address := by omega
          count := ⟨enters.1, half⟩ }
      · exact handled
    · exact handled.quiet (appSocketCb_quiet allowed _ _ (driver.setSocket _ _)).1
  · split
    · rename_i more
      exact handled.receive busOk (pending more) (by decide) _ _
    · exact handled

theorem callback_quiet (allowed : env.Buffers FitsHalf) {entry : Entry}
    (silent : entry.isCallback = true) (driver : Driver) :
    Quiet driver.hif (callback env entry driver).hif :=
  (callback_moves allowed silent driver).quiet

/-- A reply without data is handed to the application and nothing more is read. -/
theorem replied_quiet (allowed : env.Buffers FitsHalf) {cmd : SocketCmd}
    (noData : cmd ≠ .recv ∧ cmd ≠ .sslRecv ∧ cmd ≠ .recvfrom) (u16BufferSize u32Address : Nat)
    (reply : List UInt8) (driver : Driver) :
    Quiet driver.hif (replied env cmd u16BufferSize u32Address reply driver).hif := by
  cases cmd with
  | bind | sslBind | listen => exact (appSocketCb_quiet allowed _ _ driver).1
  | accept =>
      unfold replied acceptReplied
      dsimp only
      split
      · exact (appSocketCb_quiet allowed _ _ (openSlot _ _ driver)).1
      · exact (appSocketCb_quiet allowed _ _ driver).1
  | connect | sslConnect =>
      unfold replied connectReplied
      dsimp only
      split
      · exact (appSocketCb_quiet allowed _ _ (driver.setSocket _ _)).1
      · exact (appSocketCb_quiet allowed _ _ driver).1
  | send | sslSend | sendto =>
      unfold replied sendReplied
      dsimp only
      split
      · exact (appSocketCb_quiet allowed _ _ driver).1
      · exact .refl _
  | dnsResolve | ping =>
      unfold replied
      dsimp only
      split
      · exact callback_quiet allowed rfl driver
      · exact .refl _
  | recv | sslRecv | recvfrom => simp at noData
  | close | sslClose | setSocketOption | sslCreate | sslSetSockOpt => exact .refl _

theorem replySize_le {cmd : SocketCmd} {size : Nat} (known : replySize cmd = some size) :
    0 < size ∧ size ≤ 68 := by
  cases cmd <;> simp [replySize, recvReplySize, sendReplySize] at known <;> omega

theorem m2mIpCb_handled (allowed : env.Buffers FitsHalf) (busOk : BusOk env.chip before.length)
    (low : rxAddr < 2 ^ 31) (small : rxSize < 2 ^ 15) {cmd : SocketCmd}
    {u16BufferSize u32Address : Nat} (address : u32Address = rxAddr + m2mHifHdrOffset)
    (inside : u16BufferSize + m2mHifHdrOffset ≤ rxSize) {driver : Driver}
    (conforms : Conforms cmd u16BufferSize
      (block (env.chip driver.hif.bus.length).memory u32Address recvReplySize))
    (buffers : ∀ sock, BufferOk FitsHalf (driver.gastrSockets sock))
    (pending : driver.hif.u8HifRXDone = true)
    (handled : Handled rxAddr rxSize before driver.hif) :
    Handled rxAddr rxSize before (m2mIpCb env cmd u16BufferSize u32Address driver).hif := by
  unfold m2mIpCb
  cases known : replySize cmd with
  | none => exact handled
  | some size =>
      dsimp only
      obtain ⟨positive, sizeLe⟩ := replySize_le known
      have place : u32Address = rxAddr + 8 := address
      have noWrap : u32Address + size < 2 ^ 32 := by omega
      have received := handled.receive busOk pending noWrap true (decide (cmd = .ping))
      have receives :=
        hifReceive_receives env.chip u32Address true size (decide (cmd = .ping)) driver.hif
      have short (data : cmd ≠ .ping) (more : size + 8 < rxSize) :
          (hifReceive env.chip u32Address true size (decide (cmd = .ping))
            driver.hif).2.2.u8HifRXDone = true := by
        rw [decide_eq_false data]
        apply hifReceive_pending env.chip pending
        unfold ReachesEnd u32
        rw [handled.rxAddrEq, handled.rxSizeEq]
        omega
      unfold readReply
      generalize hifReceive env.chip u32Address true size (decide (cmd = .ping)) driver.hif =
        outcome at received receives short ⊢
      obtain ⟨ret, bytes, hif⟩ := outcome
      dsimp only at received short ⊢
      by_cases succeeded : ret = m2mSuccess
      swap
      · rw [if_neg succeeded]
        exact received
      subst succeeded
      rw [if_pos rfl]
      have read := (receives.inPacket ⟨by omega, by omega⟩).2
      dsimp only
      have within : u16BufferSize + 8 ≤ rxSize := inside
      cases cmd with
      | recv | sslRecv | recvfrom =>
          have sixteen : recvReplySize = size := Option.some.inj known
          rw [sixteen, ← read] at conforms
          refine @recvReplied_handled env _ _ _ allowed busOk (by omega) _ _ _ address inside
            _ ?_ { driver with hif := hif } buffers (fun more => short (by decide) (by omega))
            received
          exact fun data => conforms ⟨by decide, data.2⟩
      | _ =>
          exact received.quiet (replied_quiet allowed (by decide) u16BufferSize u32Address bytes
            { driver with hif := hif })

end Sockets

/-! ## The interrupt -/

theorem finishRx_handled {env : Environment} {rxAddr rxSize : Nat} {before : List BusOp}
    (busOk : BusOk env.chip before.length) {driver : Driver}
    (handled : Handled rxAddr rxSize before driver.hif) :
    (finishRx env driver).1 = m2mSuccess ∧
      (finishRx env driver).2.hif.u8HifRXDone = false ∧
      Handled rxAddr rxSize before (finishRx env driver).2.hif := by
  unfold finishRx
  cases pending : driver.hif.u8HifRXDone with
  | true =>
      rw [if_pos rfl]
      have done := handled.done busOk pending
      rw [hifSetRxDone_ok (busOk.later handled.busSuffix)] at done ⊢
      exact ⟨rfl, rfl, done⟩
  | false =>
      rw [if_neg Bool.false_ne_true]
      exact ⟨rfl, pending, handled⟩

theorem groupCb_handled {env : Environment} {rxAddr rxSize : Nat} {before : List BusOp}
    (allowed : env.Buffers FitsHalf) (busOk : BusOk env.chip before.length) (low : rxAddr < 2 ^ 31)
    (small : rxSize < 2 ^ 15) {u8OpCode : UInt8} {u16DataSize u32Addr : Nat}
    (address : u32Addr = rxAddr + m2mHifHdrOffset)
    (inside : u16DataSize + m2mHifHdrOffset ≤ rxSize) {driver : Driver}
    (conforms : ∀ cmd, replyCmd u8OpCode = some cmd → Conforms cmd u16DataSize
      (block (env.chip driver.hif.bus.length).memory u32Addr recvReplySize))
    (buffers : ∀ sock, BufferOk FitsHalf (driver.gastrSockets sock))
    (pending : driver.hif.u8HifRXDone = true)
    (handled : Handled rxAddr rxSize before driver.hif) :
    Handled rxAddr rxSize before
      (groupCb env .ip u8OpCode u16DataSize u32Addr driver).hif := by
  unfold groupCb
  split
  · cases known : replyCmd u8OpCode with
    | none => exact handled
    | some cmd =>
        exact m2mIpCb_handled allowed busOk low small address inside (conforms cmd known) buffers
          pending handled
  · exact handled

/-! What the chip presents when it raises its interrupt after `n` operations. -/

def packetSize (chip : Chip) (n : Nat) : Nat := (((chip n).value >>> 2) &&& 0xfff#32).toNat

def packetAddress (chip : Chip) (n : Nat) : Nat := (chip (n + 2)).value.toNat

def packetHeader (chip : Chip) (n : Nat) : List UInt8 :=
  block (chip (n + 3)).memory (packetAddress chip n) 4

/-- What `m2m_ip_cb` reads first. -/
def packetReply (chip : Chip) (n : Nat) : List UInt8 :=
  block (chip (n + 4)).memory (packetAddress chip n + m2mHifHdrOffset) recvReplySize

/-- A packet for the socket layer as the chip's firmware makes them. The register of
the interrupt has the bit that announces a packet, and not yet the one that the host
sets when it is done. -/
structure WellFormed (chip : Chip) (n : Nat) : Prop where
  raised : (chip n).value &&& 1#32 ≠ 0#32
  notDone : (chip n).value.getLsbD 1 = false
  address : packetAddress chip n < 2 ^ 31
  length : m2mHifHdrOffset ≤ uint16At (packetHeader chip n) 2 ∧
    uint16At (packetHeader chip n) 2 ≤ packetSize chip n ∧
    packetSize chip n ≤ uint16At (packetHeader chip n) 2 + 4
  group : groupOf ((packetHeader chip n).getD 0 0) = some .ip
  conforms : ∀ cmd, replyCmd ((packetHeader chip n).getD 1 0) = some cmd →
    Conforms cmd (uint16At (packetHeader chip n) 2 - m2mHifHdrOffset) (packetReply chip n)

theorem packetSize_lt (chip : Chip) (n : Nat) : packetSize chip n < 2 ^ 15 := by
  have bound : packetSize chip n ≤ 0xfff := by
    unfold packetSize
    rw [BitVec.toNat_and]
    exact Nat.and_le_right
  omega

/-- How `hif_isr` announces that it has seen the interrupt and reads the header. -/
def fetchOps (chip : Chip) (n : Nat) : List BusOp :=
  [.readBlock (packetAddress chip n) 4, .readReg .wifiHostRcvCtrl1,
    .writeReg .wifiHostRcvCtrl0 ((chip n).value &&& ~~~1#32), .readReg .wifiHostRcvCtrl0]

/-- The host interface when the header has been read. -/
def fetched (chip : Chip) (hif : Hif) : Hif :=
  { hif with
    u8HifRXDone := true
    interruptsOn := false
    u32RxAddr := packetAddress chip hif.bus.length
    u32RxSize := packetSize chip hif.bus.length
    bus := fetchOps chip hif.bus.length ++ hif.bus }

theorem hifIsr_fetched {env : Environment} {driver : Driver}
    (busOk : BusOk env.chip driver.hif.bus.length)
    (packet : WellFormed env.chip driver.hif.bus.length) :
    hifIsr env driver =
      hifPacket env (packetSize env.chip driver.hif.bus.length)
        (packetAddress env.chip driver.hif.bus.length)
        (packetHeader env.chip driver.hif.bus.length)
        { driver with hif := fetched env.chip driver.hif } := by
  have length := packet.length
  have positive : packetSize env.chip driver.hif.bus.length > 0 := by
    unfold m2mHifHdrOffset at length
    omega
  unfold hifIsr
  dsimp only
  rw [if_pos (show (driver.hif.operate env.chip (.readReg .wifiHostRcvCtrl0)).1.ret = m2mSuccess
    from busOk _ le_rfl), if_pos (show (driver.hif.operate env.chip
      (.readReg .wifiHostRcvCtrl0)).1.value &&& 1#32 ≠ 0#32 from packet.raised)]
  unfold hifInterrupt
  dsimp only
  split
  · rename_i failed
    exact absurd (busOk (driver.hif.bus.length + 1) (Nat.le_add_right ..)) failed
  split
  swap
  · rename_i zero
    exact absurd positive zero
  split
  · rename_i failed
    exact absurd (busOk (driver.hif.bus.length + 2) (Nat.le_add_right ..)) failed
  split
  · rename_i failed
    exact absurd (busOk (driver.hif.bus.length + 3) (Nat.le_add_right ..)) failed
  · rfl

/-- The header of a well-formed packet is accepted, and the rest is handed to
`m2m_ip_cb`. -/
theorem WellFormed.hifPacket_eq {env : Environment} {n : Nat} (packet : WellFormed env.chip n)
    (driver : Driver) :
    hifPacket env (packetSize env.chip n) (packetAddress env.chip n) (packetHeader env.chip n)
        driver =
      finishRx env (groupCb env .ip ((packetHeader env.chip n).getD 1 0)
        (uint16At (packetHeader env.chip n) 2 - m2mHifHdrOffset)
        (packetAddress env.chip n + m2mHifHdrOffset) driver) := by
  have length := packet.length
  have low := packet.address
  have bound := uint16At_lt (packetHeader env.chip n) 2
  unfold m2mHifHdrOffset at length ⊢
  have accepted : ¬(uint16At (packetHeader env.chip n) 2 ≠ packetSize env.chip n ∧
      u16 (packetSize env.chip n + 2 ^ 16 - uint16At (packetHeader env.chip n) 2) > 4) := by
    unfold u16
    omega
  have dataSize : u16 (uint16At (packetHeader env.chip n) 2 + 2 ^ 16 - 8) =
      uint16At (packetHeader env.chip n) 2 - 8 := by
    unfold u16
    omega
  have dataAddress : u32 (packetAddress env.chip n + 8) = packetAddress env.chip n + 8 :=
    Nat.mod_eq_of_lt (by omega)
  unfold hifPacket m2mHifHdrOffset
  dsimp only
  rw [if_neg accepted, packet.group, dataSize, dataAddress]

/-- The header lies in the packet, and reading it is no acknowledgement. -/
theorem fetched_handled (chip : Chip) (hif : Hif) (packet : WellFormed chip hif.bus.length) :
    Handled (packetAddress chip hif.bus.length) (packetSize chip hif.bus.length) hif.bus
      (fetched chip hif) := by
  have length := packet.length
  unfold m2mHifHdrOffset at length
  have silent : ((chip hif.bus.length).value &&& ~~~1#32).getLsbD 1 = false := by
    rw [BitVec.getLsbD_and, packet.notDone]
    rfl
  refine ⟨rfl, rfl, rfl, fetchOps chip hif.bus.length, rfl, ?_, ?_⟩
  · have header : packetAddress chip hif.bus.length + 4 ≤
        packetAddress chip hif.bus.length + packetSize chip hif.bus.length := by omega
    simp [fetchOps, BusOp.Inside, header]
  · show (fetchOps chip hif.bus.length).countP BusOp.isAck = 0
    simp only [fetchOps, List.countP_cons, List.countP_nil, BusOp.isAck, silent,
      Bool.false_eq_true, if_false]

/-- One interrupt with a packet for the socket layer, from a state whose sockets hold
buffers of the application. -/
theorem hifIsr_handles_packet {env : Environment} (allowed : env.Buffers FitsHalf)
    {driver : Driver} (busOk : BusOk env.chip driver.hif.bus.length)
    (packet : WellFormed env.chip driver.hif.bus.length)
    (buffers : ∀ sock, BufferOk FitsHalf (driver.gastrSockets sock)) :
    let n := driver.hif.bus.length
    let after := (hifIsr env driver).2.hif
    (hifIsr env driver).1 = m2mSuccess ∧ after.u8HifRXDone = false ∧ after.interruptsOn = true ∧
      ∃ ops, after.bus = ops ++ driver.hif.bus ∧
        (∀ op ∈ ops, op.Inside (packetAddress env.chip n) (packetSize env.chip n)) ∧
        ops.countP BusOp.isAck = 1 := by
  intro n after
  have length := packet.length
  have small := packetSize_lt env.chip n
  have low := packet.address
  have handled := fetched_handled env.chip driver.hif packet
  have outcome : (hifIsr env driver).1 = m2mSuccess ∧ after.u8HifRXDone = false ∧
      Handled (packetAddress env.chip n) (packetSize env.chip n) driver.hif.bus after := by
    show (hifIsr env driver).1 = _ ∧ (hifIsr env driver).2.hif.u8HifRXDone = _ ∧
      Handled _ _ _ (hifIsr env driver).2.hif
    rw [hifIsr_fetched busOk packet, packet.hifPacket_eq]
    refine finishRx_handled busOk (groupCb_handled allowed busOk low small rfl ?_ packet.conforms
      buffers rfl handled)
    rw [Nat.sub_add_cancel length.1]
    exact length.2.1
  obtain ⟨succeeded, done, result⟩ := outcome
  obtain ⟨ops, bus, inside, count⟩ := result.bus
  rw [done, if_neg Bool.false_ne_true] at count
  refine ⟨succeeded, done, ?_, ops, bus, inside, count⟩
  rw [result.interrupts, done]
  rfl

/-- In every state that a run reaches, one interrupt with a packet for the socket
layer: if the bus does not fail from then on, `hif_isr` succeeds whatever the
application calls in its callbacks, every block it reads lies in the packet, and
the chip is told exactly once that the packet is done. The buffers that the
application gives have at most 32768 bytes. -/
theorem run_hifIsr_handles_packet {env : Environment} (allowed : env.Buffers FitsHalf)
    {start : Driver} (started : Started start) {events : List Event}
    (given : ∀ event ∈ events, event.Buffers FitsHalf)
    (busOk : BusOk env.chip (run env events start).hif.bus.length)
    (packet : WellFormed env.chip (run env events start).hif.bus.length) :
    let driver := run env events start
    let n := driver.hif.bus.length
    let after := (hifIsr env driver).2.hif
    (hifIsr env driver).1 = m2mSuccess ∧ after.u8HifRXDone = false ∧ after.interruptsOn = true ∧
      ∃ ops, after.bus = ops ++ driver.hif.bus ∧
        (∀ op ∈ ops, op.Inside (packetAddress env.chip n) (packetSize env.chip n)) ∧
        ops.countP BusOp.isAck = 1 :=
  hifIsr_handles_packet allowed busOk packet (run_bufferOk allowed started given)

/-- A packet of 27 bytes at 4096 that answers a `recv` on a socket with a buffer of
two bytes: it brings three, and the callback calls `recv` again. -/
theorem run_hifIsr_handles_packet_received :
    let chip : Chip := fun n =>
      ⟨m2mSuccess, if n < 9 then 4#32 else if n = 9 then 109#32 else 4096#32,
        fun address => [2, 0x46, 27, 0, 0, 0, 0, 0, 0, 0, 0, 0, 0, 0, 0, 0, 3, 0, 16, 0, 0, 0,
          1, 0, 1, 2, 3].getD (address - 4096) 0⟩
    let driver := run (asksAgain chip) [.call (.socket 2 1 0), .call (.recv 0 (some 5) 2 0)]
      (socketInit uninitialised)
    (hifIsr (asksAgain chip) driver).1 = m2mSuccess ∧
      ∃ ops, (hifIsr (asksAgain chip) driver).2.hif.bus = ops ++ driver.hif.bus ∧
        ops.countP BusOp.isAck = 1 := by
  intro chip driver
  have given : ∀ event ∈ [Event.call (.socket 2 1 0), .call (.recv 0 (some 5) 2 0)],
      event.Buffers FitsHalf := by
    intro event member
    rcases List.mem_cons.mp member with rfl | member
    · trivial
    · rw [List.mem_singleton.mp member]
      exact fitsHalf_two
  have done : driver.hif.bus.length = 9 := by decide +kernel
  have packet : WellFormed chip driver.hif.bus.length := by
    rw [done]
    refine ⟨by decide, by decide, by decide, by decide, by decide, fun cmd known data => ?_⟩
    decide
  obtain ⟨succeeded, _, _, ops, bus, _, count⟩ := @run_hifIsr_handles_packet (asksAgain chip)
    (asksAgain_buffers chip) (socketInit uninitialised) ⟨uninitialised, rfl, rfl, rfl⟩
    [.call (.socket 2 1 0), .call (.recv 0 (some 5) 2 0)] given (fun _ _ => rfl) packet
  exact ⟨succeeded, ops, bus, count⟩

end MicrochipDay.Winc
