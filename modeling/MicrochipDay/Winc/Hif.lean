import Mathlib.Data.List.Basic
import Mathlib.Data.BitVec

/-!
Owns the host interface of the Wi-Fi chip (m2m_hif.c): the bus operations, the
counters that keep the chip awake, `hif_send` and `hif_receive`. The interrupt
routine `hif_isr` stands in `Winc.Dispatch`, behind the callbacks it calls.

The bus below (nmbus.c, nmspi.c) and `chip_wake`, `chip_sleep` (nmasic.c) are a
function that answers one operation after the other; an answer may be an error.
-/

namespace MicrochipDay.Winc

/-! ## Results and registers -/

def m2mSuccess : Int := 0
def m2mErrRcv : Int := -2
def m2mErrMemAlloc : Int := -3
def m2mErrBusFail : Int := -6
def m2mErrFail : Int := -12

/-- The registers of the host interface, and `NMI_STATE_REG`. -/
inductive HifReg where
  | nmiState
  | wifiHostRcvCtrl0
  | wifiHostRcvCtrl1
  | wifiHostRcvCtrl2
  | wifiHostRcvCtrl3
  | wifiHostRcvCtrl4
deriving DecidableEq, Repr

/-- `M2M_REQ_GROUP_*`, in the order of their numbers. -/
inductive HifGroup where
  | main
  | wifi
  | ip
  | hif
  | ota
  | ssl
  | crypto
  | sigma
deriving DecidableEq, Repr

def HifGroup.number : HifGroup → UInt8
  | .main => 0
  | .wifi => 1
  | .ip => 2
  | .hif => 3
  | .ota => 4
  | .ssl => 5
  | .crypto => 6
  | .sigma => 7

/-- `M2M_HIF_HDR_OFFSET`: `sizeof(tstrHifHdr) + 4`. -/
def m2mHifHdrOffset : Nat := 8

/-! ## The bus -/

inductive BusOp where
  | readReg (register : HifReg)
  | writeReg (register : HifReg) (value : BitVec 32)
  | readBlock (address size : Nat)
  | writeBlock (address : Nat) (bytes : List UInt8)
  | chipWake
  | chipSleep
deriving DecidableEq, Repr

/-- What the chip answers: the result of the operation, the register read, and
the memory a block is read from. -/
structure BusAnswer where
  ret : Int
  value : BitVec 32
  memory : Nat → UInt8

/-- What the chip answers to the bus operation that follows `n` others. -/
abbrev Chip := Nat → BusAnswer

/-- `gstrHifCxt`, with the state of the chip's interrupt line and the bus
operations done so far, the newest first. -/
structure Hif where
  powerSave : Bool
  u8ChipSleep : Nat
  u8HifRXDone : Bool
  u32RxAddr : Nat
  u32RxSize : Nat
  registered : HifGroup → Bool
  interruptsOn : Bool
  bus : List BusOp

namespace Hif

/-- One operation on the bus. -/
def operate (chip : Chip) (operation : BusOp) (hif : Hif) : BusAnswer × Hif :=
  (chip hif.bus.length, { hif with bus := operation :: hif.bus })

/-- `nm_bsp_interrupt_ctrl`. -/
def interruptCtrl (enable : Bool) (hif : Hif) : Hif := { hif with interruptsOn := enable }

end Hif

def u16 (value : Nat) : Nat := value % 2 ^ 16

def u32 (value : Nat) : Nat := value % 2 ^ 32

/-! ## Keeping the chip awake -/

/-- `hif_chip_wake`; `powerSave` is `u8ChipMode != M2M_NO_PS`. -/
def hifChipWake (chip : Chip) (hif : Hif) : Int × Hif :=
  if hif.u8HifRXDone then (m2mSuccess, hif)
  else if hif.u8ChipSleep = 0 ∧ hif.powerSave then
    let (answer, hif) := hif.operate chip .chipWake
    if answer.ret ≠ m2mSuccess then (answer.ret, hif)
    else (answer.ret, { hif with u8ChipSleep := (hif.u8ChipSleep + 1) % 256 })
  else (m2mSuccess, { hif with u8ChipSleep := (hif.u8ChipSleep + 1) % 256 })

/-- `hif_chip_sleep_sc`. -/
def hifChipSleepSc (hif : Hif) : Hif :=
  if hif.u8ChipSleep ≥ 1 then { hif with u8ChipSleep := hif.u8ChipSleep - 1 } else hif

/-- `hif_chip_sleep`. -/
def hifChipSleep (chip : Chip) (hif : Hif) : Int × Hif :=
  let hif := hifChipSleepSc hif
  if hif.u8ChipSleep = 0 ∧ hif.powerSave then
    let (answer, hif) := hif.operate chip .chipSleep
    (answer.ret, hif)
  else (m2mSuccess, hif)

/-! ## `hif_send` -/

/-- What `hif_send` is called with: the group, the opcode with its data flag
(`M2M_REQ_DATA_PKT`), the control bytes, and the data bytes if there are any. -/
structure HifPacket where
  u8Gid : HifGroup
  u8Opcode : UInt8
  ctrlBuf : Option (List UInt8)
  u16CtrlBufSize : Nat
  dataBuf : Option (List UInt8)
  u16DataOffset : Nat
deriving DecidableEq, Repr

namespace HifPacket

/-- `strHif.u16Length`. -/
def u16Length (packet : HifPacket) : Nat :=
  match packet.dataBuf with
  | some data => u16 (m2mHifHdrOffset + (packet.u16DataOffset + data.length))
  | none => u16 (m2mHifHdrOffset + packet.u16CtrlBufSize)

/-- `strHif` as it lies in memory, and the four bytes behind it on the stack:
`hif_send` writes `M2M_HIF_HDR_OFFSET` bytes from its address. -/
def header (behind : Nat → UInt8) (packet : HifPacket) : List UInt8 :=
  [packet.u8Gid.number, packet.u8Opcode &&& 0x7f, UInt8.ofNat packet.u16Length,
    UInt8.ofNat (packet.u16Length / 256), behind 0, behind 1, behind 2, behind 3]

/-- The first register written: group, opcode with its data flag, length. -/
def stateReg (packet : HifPacket) : BitVec 32 :=
  BitVec.ofNat 32 packet.u8Gid.number.toNat |||
    (BitVec.ofNat 32 packet.u8Opcode.toNat <<< 8) ||| (BitVec.ofNat 32 packet.u16Length <<< 16)

end HifPacket

/-- How often `hif_send` asks the chip whether it has allocated a buffer. -/
def pollRounds : Nat := 1000

/-- The polling loop of `hif_send`, with `count` rounds to go: the result and
the address the chip has allocated. The flag says that a failed read of the
address leaves for `ERR1`. -/
def hifSendPoll (chip : Chip) : Nat → Int → Hif → Int × Nat × Bool × Hif
  | 0, ret, hif => (ret, 0, false, hif)
  | count + 1, _, hif =>
      let (answer, hif) := hif.operate chip (.readReg .wifiHostRcvCtrl2)
      if answer.ret ≠ m2mSuccess then (answer.ret, 0, false, hif)
      else if answer.value &&& 2#32 = 0#32 then
        let (address, hif) := hif.operate chip (.readReg .wifiHostRcvCtrl4)
        if address.ret ≠ m2mSuccess then (address.ret, 0, true, hif)
        else (address.ret, address.value.toNat, false, hif)
      else hifSendPoll chip count answer.ret hif

/-- `nm_write_block` for a buffer that may be absent. -/
def writeOptional (chip : Chip) (address : Nat) (buffer : Option (List UInt8)) (hif : Hif) :
    Int × Hif :=
  match buffer with
  | some bytes =>
      let (answer, hif) := hif.operate chip (.writeBlock address bytes)
      (answer.ret, hif)
  | none => (m2mSuccess, hif)

/-- The part of `hif_send` that fills the buffer the chip has allocated and
announces it. -/
def hifSendFill (chip : Chip) (behind : Nat → UInt8) (packet : HifPacket) (dmaAddr : Nat)
    (hif : Hif) : Int × Hif :=
  let (answer, hif) := hif.operate chip (.writeBlock dmaAddr (packet.header behind))
  if answer.ret ≠ m2mSuccess then (answer.ret, hif)
  else
    let currAddr := u32 (dmaAddr + m2mHifHdrOffset)
    let (ret, hif) := writeOptional chip currAddr packet.ctrlBuf hif
    if ret ≠ m2mSuccess then (ret, hif)
    else
      let currAddr :=
        if packet.ctrlBuf.isSome then u32 (currAddr + packet.u16CtrlBufSize) else currAddr
      -- the difference of the two sizes is a 16-bit unsigned number
      let currAddr :=
        u32 (currAddr + u16 (packet.u16DataOffset + 2 ^ 16 - packet.u16CtrlBufSize))
      let (ret, hif) := writeOptional chip currAddr packet.dataBuf hif
      if ret ≠ m2mSuccess then (ret, hif)
      else
        let (answer, hif) := hif.operate chip
          (.writeReg .wifiHostRcvCtrl3 ((BitVec.ofNat 32 dmaAddr <<< 2) ||| 2#32))
        (answer.ret, hif)

/-- `hif_send` behind its polling loop. -/
def hifSendPolled (chip : Chip) (behind : Nat → UInt8) (packet : HifPacket) :
    Int × Nat × Bool × Hif → Int × Hif
  | (ret, dmaAddr, busError, hif) =>
      if busError then (ret, hifChipSleepSc hif)
      else if dmaAddr ≠ 0 then
        let (ret, hif) := hifSendFill chip behind packet dmaAddr hif
        if ret ≠ m2mSuccess then (ret, hifChipSleepSc hif) else hifChipSleep chip hif
      else (m2mErrMemAlloc, (hifChipSleep chip hif).2)

/-- `hif_send` once the chip is awake. -/
def hifSendAwake (chip : Chip) (behind : Nat → UInt8) (packet : HifPacket) (hif : Hif) :
    Int × Hif :=
  let (answer, hif) := hif.operate chip (.writeReg .nmiState packet.stateReg)
  if answer.ret ≠ m2mSuccess then (answer.ret, hifChipSleepSc hif)
  else
    let (answer, hif) := hif.operate chip (.writeReg .wifiHostRcvCtrl2 2#32)
    if answer.ret ≠ m2mSuccess then (answer.ret, hifChipSleepSc hif)
    else hifSendPolled chip behind packet (hifSendPoll chip pollRounds answer.ret hif)

/-- `hif_send`. -/
def hifSend (chip : Chip) (behind : Nat → UInt8) (packet : HifPacket) (hif : Hif) : Int × Hif :=
  let (ret, hif) := hifChipWake chip hif
  if ret = m2mSuccess then hifSendAwake chip behind packet hif else (ret, hif)

/-! ## `hif_receive` -/

/-- `hif_set_rx_done`; interrupts are edge triggered (`NM_EDGE_INTERRUPT`). -/
def hifSetRxDone (chip : Chip) (hif : Hif) : Int × Hif :=
  let hif := { hif with u8HifRXDone := false }.interruptCtrl true
  let (answer, hif) := hif.operate chip (.readReg .wifiHostRcvCtrl0)
  if answer.ret ≠ m2mSuccess then (answer.ret, hif)
  else
    let (written, hif) := hif.operate chip (.writeReg .wifiHostRcvCtrl0 (answer.value ||| 2#32))
    (written.ret, hif)

/-- `hif_receive`, with what it leaves in the buffer; `pu8Buf` says whether there
is one. -/
def hifReceive (chip : Chip) (u32Addr : Nat) (pu8Buf : Bool) (u16Sz : Nat) (isDone : Bool)
    (hif : Hif) : Int × List UInt8 × Hif :=
  if u32Addr = 0 ∨ !pu8Buf ∨ u16Sz = 0 then
    if isDone then
      let (ret, hif) := hifSetRxDone chip hif
      (ret, [], hif)
    else (m2mErrFail, [], hif)
  else if u16Sz > hif.u32RxSize then (m2mErrFail, [], hif)
  else if u32Addr < hif.u32RxAddr ∨ u32 (u32Addr + u16Sz) > u32 (hif.u32RxAddr + hif.u32RxSize) then
    (m2mErrFail, [], hif)
  else
    let (answer, hif) := hif.operate chip (.readBlock u32Addr u16Sz)
    if answer.ret ≠ m2mSuccess then (answer.ret, [], hif)
    else
      let bytes := (List.range u16Sz).map fun index => answer.memory (u32Addr + index)
      -- the difference is unsigned: it is not positive only when it is zero
      if u32 (hif.u32RxAddr + hif.u32RxSize) = u32 (u32Addr + u16Sz) ∨ isDone then
        let (ret, hif) := hifSetRxDone chip hif
        (ret, bytes, hif)
      else (answer.ret, bytes, hif)

end MicrochipDay.Winc
