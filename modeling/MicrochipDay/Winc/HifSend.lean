import MicrochipDay.Winc.Hif

/-!
Owns what `hif_send` does on the bus. It fills the buffer that the chip has
allocated, header first, and announces it last: the chip is never told of a
packet that is not all there. What is received is left alone, and the counter
that keeps the chip awake ends as it began.
-/

namespace MicrochipDay.Winc

/-! ## Operations that receive nothing -/

/-- Operations that read no block and do not write the register of the receive
interrupt. -/
def BusOp.isQuiet : BusOp → Bool
  | .readBlock _ _ => false
  | .writeReg .wifiHostRcvCtrl0 _ => false
  | _ => true

/-- Operations that fill a buffer of the chip or announce it. -/
def BusOp.isFill : BusOp → Bool
  | .writeBlock _ _ => true
  | .writeReg .wifiHostRcvCtrl3 _ => true
  | _ => false

/-- From one state of the host interface to another by operations that receive
nothing. -/
structure Quiet (before after : Hif) : Prop where
  rxAddr : after.u32RxAddr = before.u32RxAddr
  rxSize : after.u32RxSize = before.u32RxSize
  rxDone : after.u8HifRXDone = before.u8HifRXDone
  registered : after.registered = before.registered
  interrupts : after.interruptsOn = before.interruptsOn
  bus : ∃ ops, after.bus = ops ++ before.bus ∧ ∀ op ∈ ops, op.isQuiet = true

namespace Quiet

theorem busSuffix {before after : Hif} (quiet : Quiet before after) : before.bus <:+ after.bus := by
  obtain ⟨ops, bus, _⟩ := quiet.bus
  exact ⟨ops, bus.symm⟩

theorem refl (hif : Hif) : Quiet hif hif :=
  ⟨rfl, rfl, rfl, rfl, rfl, [], rfl, fun _ member => absurd member List.not_mem_nil⟩

theorem trans {before between after : Hif} (first : Quiet before between)
    (second : Quiet between after) : Quiet before after where
  rxAddr := second.rxAddr.trans first.rxAddr
  rxSize := second.rxSize.trans first.rxSize
  rxDone := second.rxDone.trans first.rxDone
  registered := second.registered.trans first.registered
  interrupts := second.interrupts.trans first.interrupts
  bus := by
    obtain ⟨early, earlyBus, earlyQuiet⟩ := first.bus
    obtain ⟨late, lateBus, lateQuiet⟩ := second.bus
    refine ⟨late ++ early, ?_, ?_⟩
    · rw [lateBus, earlyBus, List.append_assoc]
    · intro op member
      rcases List.mem_append.mp member with newer | older
      · exact lateQuiet op newer
      · exact earlyQuiet op older

theorem operate (chip : Chip) {operation : BusOp} (quiet : operation.isQuiet = true) (hif : Hif) :
    Quiet hif (hif.operate chip operation).2 :=
  ⟨rfl, rfl, rfl, rfl, rfl, [operation], rfl, fun _ member => List.mem_singleton.mp member ▸ quiet⟩

theorem chipSleep (hif : Hif) (count : Nat) : Quiet hif { hif with u8ChipSleep := count } :=
  ⟨rfl, rfl, rfl, rfl, rfl, [], rfl, fun _ member => absurd member List.not_mem_nil⟩

end Quiet

/-! ## A sequence of operations -/

/-- Operations one after the other, until one fails. -/
def performAll (chip : Chip) : List BusOp → Hif → Int × Hif
  | [], hif => (m2mSuccess, hif)
  | operation :: rest, hif =>
      let (answer, hif) := hif.operate chip operation
      if answer.ret ≠ m2mSuccess then (answer.ret, hif) else performAll chip rest hif

/-- What has been done when a sequence ends is a beginning of it, and all of it
when no operation failed. -/
theorem performAll_spec (chip : Chip) (operations : List BusOp) (hif : Hif) :
    ∃ performed rest, performed ++ rest = operations ∧
      ((performAll chip operations hif).1 = m2mSuccess → rest = []) ∧
      (performAll chip operations hif).2 = { hif with bus := performed.reverse ++ hif.bus } := by
  induction operations generalizing hif with
  | nil => exact ⟨[], [], rfl, fun _ => rfl, rfl⟩
  | cons operation operations inductionHypothesis =>
      unfold performAll
      dsimp only
      by_cases failed : (hif.operate chip operation).1.ret ≠ m2mSuccess
      · rw [if_pos failed]
        exact ⟨[operation], operations, rfl, fun succeeded => absurd succeeded failed, rfl⟩
      · rw [if_neg failed]
        obtain ⟨performed, rest, whole, complete, result⟩ :=
          inductionHypothesis (hif.operate chip operation).2
        refine ⟨operation :: performed, rest, ?_, complete, ?_⟩
        · rw [List.cons_append, whole]
        · rw [result, List.reverse_cons, List.append_assoc]
          rfl

/-! ## Filling the buffer -/

/-- Where `hif_send` writes the control bytes and the data. -/
def HifPacket.ctrlAddress (dmaAddr : Nat) : Nat := u32 (dmaAddr + m2mHifHdrOffset)

def HifPacket.dataAddress (packet : HifPacket) (dmaAddr : Nat) : Nat :=
  let currAddr := if packet.ctrlBuf.isSome then
    u32 (HifPacket.ctrlAddress dmaAddr + packet.u16CtrlBufSize) else HifPacket.ctrlAddress dmaAddr
  u32 (currAddr + u16 (packet.u16DataOffset + 2 ^ 16 - packet.u16CtrlBufSize))

/-- All that is written for a packet: its blocks, and the announcement. -/
def HifPacket.fill (behind : Nat → UInt8) (packet : HifPacket) (dmaAddr : Nat) : List BusOp :=
  [.writeBlock dmaAddr (packet.header behind)] ++
    (packet.ctrlBuf.map (.writeBlock (HifPacket.ctrlAddress dmaAddr))).toList ++
    (packet.dataBuf.map (.writeBlock (packet.dataAddress dmaAddr))).toList ++
    [.writeReg .wifiHostRcvCtrl3 ((BitVec.ofNat 32 dmaAddr <<< 2) ||| 2#32)]

theorem performAll_last (chip : Chip) (operation : BusOp) (hif : Hif) :
    performAll chip [operation] hif =
      ((hif.operate chip operation).1.ret, (hif.operate chip operation).2) := by
  unfold performAll
  dsimp only
  by_cases failed : (hif.operate chip operation).1.ret ≠ m2mSuccess
  · rw [if_pos failed]
  · rw [if_neg failed]
    unfold performAll
    rw [not_not.mp failed]

theorem performAll_cons (chip : Chip) (operation : BusOp) (rest : List BusOp) (hif : Hif) :
    performAll chip (operation :: rest) hif =
      if (hif.operate chip operation).1.ret ≠ m2mSuccess then
        ((hif.operate chip operation).1.ret, (hif.operate chip operation).2)
      else performAll chip rest (hif.operate chip operation).2 := rfl

theorem performAll_optional (chip : Chip) (address : Nat) (buffer : Option (List UInt8))
    (rest : List BusOp) (hif : Hif) :
    performAll chip ((buffer.map (.writeBlock address)).toList ++ rest) hif =
      if (writeOptional chip address buffer hif).1 ≠ m2mSuccess then
        writeOptional chip address buffer hif
      else performAll chip rest (writeOptional chip address buffer hif).2 := by
  cases buffer with
  | none => exact (if_neg (not_not.mpr rfl)).symm
  | some bytes => exact performAll_cons ..

theorem hifSendFill_eq (chip : Chip) (behind : Nat → UInt8) (packet : HifPacket) (dmaAddr : Nat)
    (hif : Hif) :
    hifSendFill chip behind packet dmaAddr hif =
      performAll chip (packet.fill behind dmaAddr) hif := by
  unfold HifPacket.fill
  rw [List.append_assoc, List.append_assoc, List.singleton_append, performAll_cons,
    performAll_optional, performAll_optional, performAll_last]
  unfold hifSendFill
  rfl

/-! ## The whole of `hif_send` -/

/-- From one state to another by operations that neither receive nor fill. -/
structure Prepares (before after : Hif) : Prop extends Quiet before after where
  noFill : ∃ ops, after.bus = ops ++ before.bus ∧ ∀ op ∈ ops, op.isFill = false

namespace Prepares

theorem refl (hif : Hif) : Prepares hif hif :=
  ⟨.refl hif, [], rfl, fun _ member => absurd member List.not_mem_nil⟩

theorem trans {before between after : Hif} (first : Prepares before between)
    (second : Prepares between after) : Prepares before after := by
  refine ⟨first.toQuiet.trans second.toQuiet, ?_⟩
  obtain ⟨early, earlyBus, earlyNone⟩ := first.noFill
  obtain ⟨late, lateBus, lateNone⟩ := second.noFill
  refine ⟨late ++ early, ?_, ?_⟩
  · rw [lateBus, earlyBus, List.append_assoc]
  · intro op member
    rcases List.mem_append.mp member with newer | older
    · exact lateNone op newer
    · exact earlyNone op older

theorem operate (chip : Chip) {operation : BusOp} (quiet : operation.isQuiet = true)
    (noFill : operation.isFill = false) (hif : Hif) :
    Prepares hif (hif.operate chip operation).2 :=
  ⟨.operate chip quiet hif, [operation], rfl, fun _ member => List.mem_singleton.mp member ▸ noFill⟩

theorem chipSleep (hif : Hif) (count : Nat) : Prepares hif { hif with u8ChipSleep := count } :=
  ⟨.chipSleep hif count, [], rfl, fun _ member => absurd member List.not_mem_nil⟩

end Prepares

theorem hifChipWake_prepares (chip : Chip) (hif : Hif) : Prepares hif (hifChipWake chip hif).2 := by
  unfold hifChipWake
  dsimp only
  split
  · exact .refl hif
  · split
    · have woken : Prepares hif (hif.operate chip .chipWake).2 := .operate chip rfl rfl hif
      split
      · exact woken
      · exact woken.trans (.chipSleep _ _)
    · exact .chipSleep _ _

theorem hifChipSleepSc_prepares (hif : Hif) : Prepares hif (hifChipSleepSc hif) := by
  unfold hifChipSleepSc
  split
  · exact .chipSleep _ _
  · exact .refl hif

theorem hifChipSleep_prepares (chip : Chip) (hif : Hif) :
    Prepares hif (hifChipSleep chip hif).2 := by
  have counted := hifChipSleepSc_prepares hif
  unfold hifChipSleep
  dsimp only
  split
  · exact counted.trans (.operate chip rfl rfl _)
  · exact counted

/-- Between two states the chip has been asked for a buffer, and has answered with
this address. -/
def AllocatedBy (chip : Chip) (dmaAddr : Nat) (before after : Hif) : Prop :=
  ∃ asked later, after.bus = later ++ .readReg .wifiHostRcvCtrl4 :: (asked ++ before.bus) ∧
    dmaAddr = (chip (asked ++ before.bus).length).value.toNat

theorem AllocatedBy.later {chip : Chip} {dmaAddr : Nat} {before between after : Hif}
    (allocated : AllocatedBy chip dmaAddr before between) {ops : List BusOp}
    (bus : after.bus = ops ++ between.bus) : AllocatedBy chip dmaAddr before after := by
  obtain ⟨asked, later, split, address⟩ := allocated
  exact ⟨asked, ops ++ later, by rw [bus, split, List.append_assoc], address⟩

theorem AllocatedBy.earlier {chip : Chip} {dmaAddr : Nat} {before between after : Hif}
    (allocated : AllocatedBy chip dmaAddr between after) {ops : List BusOp}
    (bus : between.bus = ops ++ before.bus) : AllocatedBy chip dmaAddr before after := by
  obtain ⟨asked, later, split, address⟩ := allocated
  rw [bus, ← List.append_assoc] at split address
  exact ⟨asked ++ ops, later, split, address⟩

/-- What polling leaves: nothing filled, an address only if the chip answered it,
and a bus error only with a result that says so. -/
structure Polled (chip : Chip) (before : Hif) (outcome : Int × Nat × Bool × Hif) : Prop where
  prepared : Prepares before outcome.2.2.2
  allocated : outcome.2.1 ≠ 0 → AllocatedBy chip outcome.2.1 before outcome.2.2.2
  failed : outcome.2.2.1 = true → outcome.1 ≠ m2mSuccess
  awake : outcome.2.2.2.u8ChipSleep = before.u8ChipSleep

theorem hifSendPoll_spec (chip : Chip) (count : Nat) : ∀ (ret : Int) (hif : Hif),
    Polled chip hif (hifSendPoll chip count ret hif) := by
  induction count with
  | zero =>
      exact fun _ hif => ⟨.refl hif, fun nonzero => absurd rfl nonzero, (fun no => nomatch no), rfl⟩
  | succ count inductionHypothesis =>
      intro ret hif
      have polled : Prepares hif (hif.operate chip (.readReg .wifiHostRcvCtrl2)).2 :=
        .operate chip rfl rfl hif
      unfold hifSendPoll
      dsimp only
      by_cases failed : (hif.operate chip (.readReg .wifiHostRcvCtrl2)).1.ret ≠ m2mSuccess
      · rw [if_pos failed]
        exact ⟨polled, fun nonzero => absurd rfl nonzero, (fun no => nomatch no), rfl⟩
      rw [if_neg failed]
      by_cases ready : (hif.operate chip (.readReg .wifiHostRcvCtrl2)).1.value &&& 2#32 = 0#32
      · rw [if_pos ready]
        have read := polled.trans
          (@Prepares.operate chip (.readReg .wifiHostRcvCtrl4) rfl rfl _)
        split
        · rename_i unread
          exact ⟨read, fun nonzero => absurd rfl nonzero, fun _ => unread, rfl⟩
        · exact ⟨read, fun _ => ⟨[_], [], rfl, rfl⟩, (fun no => nomatch no), rfl⟩
      · rw [if_neg ready]
        have rest := inductionHypothesis (hif.operate chip (.readReg .wifiHostRcvCtrl2)).1.ret
          (hif.operate chip (.readReg .wifiHostRcvCtrl2)).2
        refine ⟨polled.trans rest.prepared, ?_, rest.failed, rest.awake⟩
        intro nonzero
        obtain ⟨ops, bus, _⟩ := polled.noFill
        exact (rest.allocated nonzero).earlier bus

/-- The operations of a whole `hif_send`, the oldest first, as far as they fill a
buffer: a beginning of the packet's, and all of them on success. -/
structure SendsInOrder (chip : Chip) (behind : Nat → UInt8) (packet : HifPacket) (ret : Int)
    (before after : Hif) : Prop where
  quiet : Quiet before after
  fills : ∃ ops, after.bus = ops ++ before.bus ∧
    (ops.filter BusOp.isFill = [] ∧ ret ≠ m2mSuccess ∨
      ∃ dmaAddr, AllocatedBy chip dmaAddr before after ∧ dmaAddr ≠ 0 ∧
        (ops.filter BusOp.isFill).reverse <+: packet.fill behind dmaAddr ∧
        (ret = m2mSuccess → (ops.filter BusOp.isFill).reverse = packet.fill behind dmaAddr))

theorem filter_isFill_of_noFill {ops : List BusOp} (noFill : ∀ op ∈ ops, op.isFill = false) :
    ops.filter BusOp.isFill = [] := by
  rw [List.filter_eq_nil_iff]
  intro op member
  rw [noFill op member]
  exact Bool.false_ne_true

theorem fill_isFill (behind : Nat → UInt8) (packet : HifPacket) (dmaAddr : Nat) :
    ∀ op ∈ packet.fill behind dmaAddr, op.isFill = true := by
  intro op member
  unfold HifPacket.fill at member
  cases ctrl : packet.ctrlBuf <;> cases data : packet.dataBuf <;> rw [ctrl, data] at member <;>
    simp at member <;> grind [BusOp.isFill]

theorem fill_isQuiet (behind : Nat → UInt8) (packet : HifPacket) (dmaAddr : Nat) :
    ∀ op ∈ packet.fill behind dmaAddr, op.isQuiet = true := by
  intro op member
  unfold HifPacket.fill at member
  cases ctrl : packet.ctrlBuf <;> cases data : packet.dataBuf <;> rw [ctrl, data] at member <;>
    simp at member <;> grind [BusOp.isQuiet]

namespace SendsInOrder

variable {chip : Chip} {behind : Nat → UInt8} {packet : HifPacket} {ret : Int}

/-- A send that gives up before the buffer. -/
theorem of_prepares {before after : Hif} (prepared : Prepares before after)
    (failed : ret ≠ m2mSuccess) : SendsInOrder chip behind packet ret before after := by
  obtain ⟨ops, bus, noFill⟩ := prepared.noFill
  exact ⟨prepared.toQuiet, ops, bus, Or.inl ⟨filter_isFill_of_noFill noFill, failed⟩⟩

/-- What comes before the buffer. -/
theorem after_prepares {before between after : Hif} (prepared : Prepares before between)
    (sends : SendsInOrder chip behind packet ret between after) :
    SendsInOrder chip behind packet ret before after := by
  obtain ⟨early, earlyBus, noFill⟩ := prepared.noFill
  obtain ⟨late, lateBus, fills⟩ := sends.fills
  refine ⟨prepared.toQuiet.trans sends.quiet, late ++ early, ?_, ?_⟩
  · rw [lateBus, earlyBus, List.append_assoc]
  · rw [List.filter_append, filter_isFill_of_noFill noFill, List.append_nil]
    rcases fills with none | ⟨dmaAddr, allocated, rest⟩
    · exact Or.inl none
    · exact Or.inr ⟨dmaAddr, allocated.earlier earlyBus, rest⟩

/-- What comes behind the buffer; a result other than success makes no promise. -/
theorem then_prepares {before between after : Hif} {result : Int}
    (sends : SendsInOrder chip behind packet ret before between)
    (prepared : Prepares between after) (worse : result = m2mSuccess → ret = m2mSuccess) :
    SendsInOrder chip behind packet result before after := by
  obtain ⟨early, earlyBus, fills⟩ := sends.fills
  obtain ⟨late, lateBus, noFill⟩ := prepared.noFill
  refine ⟨sends.quiet.trans prepared.toQuiet, late ++ early, ?_, ?_⟩
  · rw [lateBus, earlyBus, List.append_assoc]
  · rw [List.filter_append, filter_isFill_of_noFill noFill, List.nil_append]
    rcases fills with ⟨none, failed⟩ | ⟨dmaAddr, allocated, nonzero, started, complete⟩
    · exact Or.inl ⟨none, fun succeeded => failed (worse succeeded)⟩
    · exact Or.inr ⟨dmaAddr, allocated.later lateBus, nonzero, started,
        fun succeeded => complete (worse succeeded)⟩

end SendsInOrder

/-- The buffer is filled once the chip has allocated it. -/
theorem hifSendFill_sends (chip : Chip) (behind : Nat → UInt8) (packet : HifPacket)
    {dmaAddr : Nat} {before hif : Hif} (prepared : Prepares before hif)
    (allocated : AllocatedBy chip dmaAddr before hif) (nonzero : dmaAddr ≠ 0) :
    SendsInOrder chip behind packet (hifSendFill chip behind packet dmaAddr hif).1 before
      (hifSendFill chip behind packet dmaAddr hif).2 := by
  rw [hifSendFill_eq]
  obtain ⟨performed, rest, whole, complete, result⟩ :=
    performAll_spec chip (packet.fill behind dmaAddr) hif
  have ofPacket : ∀ op ∈ performed, op ∈ packet.fill behind dmaAddr := by
    intro op member
    rw [← whole]
    exact List.mem_append_left rest member
  have bus : (performAll chip (packet.fill behind dmaAddr) hif).2.bus =
      performed.reverse ++ hif.bus := by rw [result]
  have fills : (performed.reverse.filter BusOp.isFill).reverse = performed := by
    rw [List.filter_eq_self.mpr, List.reverse_reverse]
    intro op member
    exact fill_isFill behind packet dmaAddr op (ofPacket op (List.mem_reverse.mp member))
  obtain ⟨asked, askedBus, noFill⟩ := prepared.noFill
  have quiet : Quiet hif (performAll chip (packet.fill behind dmaAddr) hif).2 := by
    rw [result]
    refine ⟨rfl, rfl, rfl, rfl, rfl, performed.reverse, rfl, ?_⟩
    intro op member
    exact fill_isQuiet behind packet dmaAddr op (ofPacket op (List.mem_reverse.mp member))
  refine ⟨prepared.toQuiet.trans quiet, performed.reverse ++ asked, ?_,
    Or.inr ⟨dmaAddr, allocated.later bus, nonzero, ?_, ?_⟩⟩
  · rw [bus, askedBus, List.append_assoc]
  · rw [List.filter_append, filter_isFill_of_noFill noFill, List.append_nil, fills, ← whole]
    exact List.prefix_append performed rest
  · intro succeeded
    rw [List.filter_append, filter_isFill_of_noFill noFill, List.append_nil, fills, ← whole,
      complete succeeded, List.append_nil]

theorem hifSendPolled_sends (chip : Chip) (behind : Nat → UInt8) (packet : HifPacket)
    {before : Hif} {outcome : Int × Nat × Bool × Hif} (polls : Polled chip before outcome) :
    SendsInOrder chip behind packet (hifSendPolled chip behind packet outcome).1 before
      (hifSendPolled chip behind packet outcome).2 := by
  obtain ⟨ret, dmaAddr, busError, polled⟩ := outcome
  unfold hifSendPolled
  dsimp only
  by_cases unread : busError = true
  · rw [if_pos unread]
    exact .of_prepares (polls.prepared.trans (hifChipSleepSc_prepares polled))
      (polls.failed unread)
  rw [if_neg unread]
  by_cases nonzero : dmaAddr ≠ 0
  · rw [if_pos nonzero]
    have sends := hifSendFill_sends chip behind packet polls.prepared (polls.allocated nonzero)
      nonzero
    split
    · exact sends.then_prepares (hifChipSleepSc_prepares _) id
    · rename_i filled
      exact sends.then_prepares (hifChipSleep_prepares chip _) fun _ => not_not.mp filled
  · rw [if_neg nonzero]
    exact .of_prepares (polls.prepared.trans (hifChipSleep_prepares chip polled))
      (show m2mErrMemAlloc ≠ m2mSuccess by decide)

theorem hifSendAwake_sends (chip : Chip) (behind : Nat → UInt8) (packet : HifPacket) (hif : Hif) :
    SendsInOrder chip behind packet (hifSendAwake chip behind packet hif).1 hif
      (hifSendAwake chip behind packet hif).2 := by
  unfold hifSendAwake
  dsimp only
  have state : Prepares hif (hif.operate chip (.writeReg .nmiState packet.stateReg)).2 :=
    .operate chip rfl rfl hif
  split
  · rename_i failed
    exact .of_prepares (state.trans (hifChipSleepSc_prepares _)) failed
  have asked := state.trans
    (@Prepares.operate chip (.writeReg .wifiHostRcvCtrl2 2#32) rfl rfl _)
  split
  · rename_i failed
    exact .of_prepares (asked.trans (hifChipSleepSc_prepares _)) failed
  · exact (hifSendPolled_sends chip behind packet
      (hifSendPoll_spec chip pollRounds _ _)).after_prepares asked

/-- Whatever the bus answers, `hif_send` writes the blocks of its packet in order
into the buffer that the chip has allocated and announces it only behind the last
of them; on success it has done all of it. -/
theorem hifSend_announces_last (chip : Chip) (behind : Nat → UInt8) (packet : HifPacket)
    (hif : Hif) :
    SendsInOrder chip behind packet (hifSend chip behind packet hif).1 hif
      (hifSend chip behind packet hif).2 := by
  unfold hifSend
  dsimp only
  have woken := hifChipWake_prepares chip hif
  split
  · exact (hifSendAwake_sends chip behind packet _).after_prepares woken
  · rename_i failed
    exact .of_prepares woken failed

theorem hifSend_quiet (chip : Chip) (behind : Nat → UInt8) (packet : HifPacket) (hif : Hif) :
    Quiet hif (hifSend chip behind packet hif).2 :=
  (hifSend_announces_last chip behind packet hif).quiet

/-! ## Inside the buffer -/

/-- The sizes a packet is sent with are those of its buffers, the data lies
behind the control bytes, and the whole length fits its sixteen bits. -/
structure HifPacket.Fits (packet : HifPacket) : Prop where
  ctrl : (packet.ctrlBuf.getD []).length = packet.u16CtrlBufSize
  data : ∀ data, packet.dataBuf = some data → packet.u16CtrlBufSize ≤ packet.u16DataOffset ∧
    m2mHifHdrOffset + (packet.u16DataOffset + data.length) < 2 ^ 16
  noData : packet.dataBuf = none → m2mHifHdrOffset + packet.u16CtrlBufSize < 2 ^ 16

/-- One block ends before the other begins. -/
def BusOp.Precedes : BusOp → BusOp → Prop
  | .writeBlock address bytes, .writeBlock other _ => address + bytes.length ≤ other
  | _, _ => True

/-- The blocks of a packet that fits lie inside the length it announces, one
behind the other. -/
theorem HifPacket.Fits.inside {packet : HifPacket} (fits : packet.Fits) (behind : Nat → UInt8)
    {dmaAddr : Nat} (room : dmaAddr + 2 ^ 16 ≤ 2 ^ 32) :
    (∀ address bytes, .writeBlock address bytes ∈ packet.fill behind dmaAddr →
      dmaAddr ≤ address ∧ address + bytes.length ≤ dmaAddr + packet.u16Length) ∧
      (packet.fill behind dmaAddr).Pairwise BusOp.Precedes := by
  obtain ⟨u8Gid, u8Opcode, ctrlBuf, u16CtrlBufSize, dataBuf, u16DataOffset⟩ := packet
  obtain ⟨ctrl, withData, withoutData⟩ := fits
  dsimp only at ctrl withData withoutData
  have header : (HifPacket.header behind
      ⟨u8Gid, u8Opcode, ctrlBuf, u16CtrlBufSize, dataBuf, u16DataOffset⟩).length = 8 := rfl
  unfold HifPacket.fill HifPacket.dataAddress HifPacket.ctrlAddress HifPacket.u16Length u16 u32
  generalize HifPacket.header behind
    ⟨u8Gid, u8Opcode, ctrlBuf, u16CtrlBufSize, dataBuf, u16DataOffset⟩ = start at header
  unfold m2mHifHdrOffset at *
  have ctrlAddress : (dmaAddr + 8) % 2 ^ 32 = dmaAddr + 8 := Nat.mod_eq_of_lt (by omega)
  cases dataBuf with
  | none =>
      have length := withoutData rfl
      have announced : (8 + u16CtrlBufSize) % 2 ^ 16 = 8 + u16CtrlBufSize :=
        Nat.mod_eq_of_lt length
      cases ctrlBuf with
      | none =>
          simp only [announced]
          simp [BusOp.Precedes, header]
      | some ctrlBytes =>
          have size : ctrlBytes.length = u16CtrlBufSize := ctrl
          simp only [ctrlAddress, announced]
          simp [BusOp.Precedes, header, size, or_imp, forall_and]
          omega
  | some data =>
      obtain ⟨offset, length⟩ := withData data rfl
      have announced :
          (8 + (u16DataOffset + data.length)) % 2 ^ 16 = 8 + (u16DataOffset + data.length) :=
        Nat.mod_eq_of_lt length
      have gap : (u16DataOffset + 2 ^ 16 - u16CtrlBufSize) % 2 ^ 16 =
          u16DataOffset - u16CtrlBufSize := by omega
      cases ctrlBuf with
      | none =>
          have size : 0 = u16CtrlBufSize := ctrl
          have dataAddress : (dmaAddr + 8 + (u16DataOffset - u16CtrlBufSize)) % 2 ^ 32 =
              dmaAddr + 8 + (u16DataOffset - u16CtrlBufSize) := Nat.mod_eq_of_lt (by omega)
          simp only [ctrlAddress, announced, gap, Option.isSome_none, Bool.false_eq_true, if_false,
            dataAddress]
          simp [BusOp.Precedes, header, or_imp, forall_and]
          omega
      | some ctrlBytes =>
          have size : ctrlBytes.length = u16CtrlBufSize := ctrl
          have behindCtrl : (dmaAddr + 8 + u16CtrlBufSize) % 2 ^ 32 =
              dmaAddr + 8 + u16CtrlBufSize := Nat.mod_eq_of_lt (by omega)
          have dataAddress :
              (dmaAddr + 8 + u16CtrlBufSize + (u16DataOffset - u16CtrlBufSize)) % 2 ^ 32 =
                dmaAddr + 8 + u16CtrlBufSize + (u16DataOffset - u16CtrlBufSize) :=
            Nat.mod_eq_of_lt (by omega)
          simp only [ctrlAddress, announced, gap, Option.isSome_some, if_true, behindCtrl,
            dataAddress]
          simp [BusOp.Precedes, header, size, or_imp, forall_and]
          omega

/-- `hif_send` of a packet that fits writes nothing outside the buffer that the
chip has allocated for its length during the call, and announces it behind the
last block; `room` says that the buffer lies below the end of the address space. -/
theorem hifSend_fills_its_buffer (chip : Chip) (behind : Nat → UInt8) {packet : HifPacket}
    (fits : packet.Fits) (hif : Hif)
    (room : ∀ dmaAddr, AllocatedBy chip dmaAddr hif (hifSend chip behind packet hif).2 →
      dmaAddr + 2 ^ 16 ≤ 2 ^ 32) :
    ∃ ops dmaAddr, (hifSend chip behind packet hif).2.bus = ops ++ hif.bus ∧
      (ops.filter BusOp.isFill).reverse <+: packet.fill behind dmaAddr ∧
      ((hifSend chip behind packet hif).1 = m2mSuccess →
        (ops.filter BusOp.isFill).reverse = packet.fill behind dmaAddr) ∧
      (ops.filter BusOp.isFill ≠ [] →
        dmaAddr ≠ 0 ∧ AllocatedBy chip dmaAddr hif (hifSend chip behind packet hif).2) ∧
      (∀ address bytes, .writeBlock address bytes ∈ ops →
        dmaAddr ≤ address ∧ address + bytes.length ≤ dmaAddr + packet.u16Length) ∧
      ((ops.filter BusOp.isFill).reverse).Pairwise BusOp.Precedes := by
  obtain ⟨ops, bus, outcome⟩ := (hifSend_announces_last chip behind packet hif).fills
  have writes (address : Nat) (bytes : List UInt8) (member : .writeBlock address bytes ∈ ops) :
      .writeBlock address bytes ∈ (ops.filter BusOp.isFill).reverse :=
    List.mem_reverse.mpr (List.mem_filter.mpr ⟨member, rfl⟩)
  rcases outcome with ⟨none, failed⟩ | ⟨dmaAddr, allocated, nonzero, started, complete⟩
  · rw [none] at writes
    refine ⟨ops, 0, bus, ?_, fun succeeded => absurd succeeded failed, fun some => absurd none some,
      fun address bytes member => absurd (writes address bytes member) List.not_mem_nil, ?_⟩
    · rw [none]
      exact List.nil_prefix
    · rw [none]
      exact .nil
  · obtain ⟨inside, apart⟩ := fits.inside behind (room dmaAddr allocated)
    exact ⟨ops, dmaAddr, bus, started, complete, fun _ => ⟨nonzero, allocated⟩,
      fun address bytes member =>
        inside address bytes (started.subset (writes address bytes member)),
      apart.sublist started.sublist⟩

theorem hifSend_fills_its_buffer_granted :
    ∃ ops dmaAddr, (hifSend (fun _ => ⟨m2mSuccess, 4#32, fun _ => 0⟩) (fun _ => 0)
        ⟨.ip, 0x45, some [1, 2], 2, some [7], 4⟩ ⟨true, 0, false, 0, 0, fun _ => false, true,
          []⟩).2.bus = ops ++ [] ∧
      ∀ address bytes, .writeBlock address bytes ∈ ops →
        dmaAddr ≤ address ∧ address + bytes.length ≤ dmaAddr + 13 := by
  have fits : HifPacket.Fits ⟨.ip, 0x45, some [1, 2], 2, some [7], 4⟩ :=
    ⟨rfl, fun data given => by cases given; decide, fun none => nomatch none⟩
  obtain ⟨ops, dmaAddr, bus, _, _, _, inside, _⟩ := hifSend_fills_its_buffer
    (fun _ => ⟨m2mSuccess, 4#32, fun _ => 0⟩) (fun _ => 0) fits
    ⟨true, 0, false, 0, 0, fun _ => false, true, []⟩
    (fun dmaAddr ⟨_, _, _, address⟩ => by
      rw [address]
      show (4#32).toNat + 2 ^ 16 ≤ 2 ^ 32
      decide)
  exact ⟨ops, dmaAddr, bus, inside⟩

/-! ## The counter that keeps the chip awake -/

theorem hifChipSleepSc_count (hif : Hif) :
    (hifChipSleepSc hif).u8ChipSleep = hif.u8ChipSleep - 1 := by
  unfold hifChipSleepSc
  split
  · rfl
  · omega

theorem hifChipSleep_count (chip : Chip) (hif : Hif) :
    (hifChipSleep chip hif).2.u8ChipSleep = hif.u8ChipSleep - 1 := by
  rw [← hifChipSleepSc_count]
  unfold hifChipSleep
  dsimp only
  split
  · rfl
  · rfl

theorem hifChipWake_count (chip : Chip) {hif : Hif} (idle : hif.u8HifRXDone = false)
    (room : hif.u8ChipSleep < 255) :
    (hifChipWake chip hif).2.u8ChipSleep =
      if (hifChipWake chip hif).1 = m2mSuccess then hif.u8ChipSleep + 1 else hif.u8ChipSleep := by
  unfold hifChipWake
  dsimp only
  rw [idle, if_neg Bool.false_ne_true]
  split
  · split
    · rfl
    · rename_i woken
      refine Eq.trans ?_ (if_pos (not_not.mp woken)).symm
      exact Nat.mod_eq_of_lt (show hif.u8ChipSleep + 1 < 256 by omega)
  · rw [if_pos rfl]
    exact Nat.mod_eq_of_lt (by omega)

theorem performAll_count (chip : Chip) (operations : List BusOp) (hif : Hif) :
    (performAll chip operations hif).2.u8ChipSleep = hif.u8ChipSleep := by
  obtain ⟨performed, rest, whole, complete, result⟩ := performAll_spec chip operations hif
  rw [result]

theorem hifSendPolled_count (chip : Chip) (behind : Nat → UInt8) (packet : HifPacket)
    {before : Hif} {outcome : Int × Nat × Bool × Hif} (polls : Polled chip before outcome) :
    (hifSendPolled chip behind packet outcome).2.u8ChipSleep = before.u8ChipSleep - 1 := by
  obtain ⟨ret, dmaAddr, busError, polled⟩ := outcome
  have awake : polled.u8ChipSleep = before.u8ChipSleep := polls.awake
  unfold hifSendPolled
  dsimp only
  rw [hifSendFill_eq]
  split
  · rw [hifChipSleepSc_count, awake]
  split
  · split
    · rw [hifChipSleepSc_count, performAll_count, awake]
    · rw [hifChipSleep_count, performAll_count, awake]
  · rw [hifChipSleep_count, awake]

theorem hifSendAwake_count (chip : Chip) (behind : Nat → UInt8) (packet : HifPacket) (hif : Hif) :
    (hifSendAwake chip behind packet hif).2.u8ChipSleep = hif.u8ChipSleep - 1 := by
  unfold hifSendAwake
  dsimp only
  split
  · rw [hifChipSleepSc_count]
    rfl
  split
  · rw [hifChipSleepSc_count]
    rfl
  · rw [hifSendPolled_count chip behind packet (hifSendPoll_spec chip pollRounds _ _)]
    rfl

/-- Between packets `hif_send` leaves the counter as it found it, however it ends.
While a packet is being received it does not count up, but still counts down. -/
theorem hifSend_count (chip : Chip) (behind : Nat → UInt8) (packet : HifPacket) (hif : Hif)
    (room : hif.u8ChipSleep < 255) :
    (hifSend chip behind packet hif).2.u8ChipSleep =
      if hif.u8HifRXDone then hif.u8ChipSleep - 1 else hif.u8ChipSleep := by
  unfold hifSend
  dsimp only
  cases receiving : hif.u8HifRXDone with
  | true =>
      have wake : hifChipWake chip hif = (m2mSuccess, hif) := by
        unfold hifChipWake
        rw [if_pos receiving]
      rw [wake, if_pos rfl, if_pos rfl]
      exact hifSendAwake_count chip behind packet hif
  | false =>
      have count := hifChipWake_count chip receiving room
      split
      · rename_i woken
        rw [if_pos woken] at count
        rw [hifSendAwake_count, count, if_neg Bool.false_ne_true]
        rfl
      · rename_i failed
        rw [if_neg failed] at count
        rw [count, if_neg Bool.false_ne_true]

theorem hifSetRxDone_u8ChipSleep (chip : Chip) (hif : Hif) :
    (hifSetRxDone chip hif).2.u8ChipSleep = hif.u8ChipSleep := by
  unfold hifSetRxDone
  dsimp only
  split <;> rfl

theorem hifReceive_u8ChipSleep (chip : Chip) (u32Addr : Nat) (pu8Buf : Bool) (u16Sz : Nat)
    (isDone : Bool) (hif : Hif) :
    (hifReceive chip u32Addr pu8Buf u16Sz isDone hif).2.2.u8ChipSleep = hif.u8ChipSleep := by
  unfold hifReceive
  dsimp only
  split
  · split
    · exact hifSetRxDone_u8ChipSleep ..
    · rfl
  split
  · rfl
  split
  · rfl
  split
  · rfl
  split
  · exact hifSetRxDone_u8ChipSleep ..
  · rfl

end MicrochipDay.Winc
