import MicrochipDay.Winc.Socket

/-!
Owns the interrupt routine of the host interface, `hif_isr` (m2m_hif.c), and the
runs of the driver: calls of the application and interrupts in any order.

`hif_handle_isr` calls `hif_isr` until it succeeds; a run may call it any number
of times at any point, so the runs here include those of the program.
-/

namespace MicrochipDay.Winc

/-- The groups that `hif_isr` has a callback for. -/
def groupOf (u8Gid : UInt8) : Option HifGroup :=
  [HifGroup.wifi, .ip, .ota, .crypto, .sigma, .ssl].find? fun group => group.number = u8Gid

/-- The commands that `m2m_ip_cb` tells apart. -/
def replyCmd (u8OpCode : UInt8) : Option SocketCmd :=
  [SocketCmd.bind, .sslBind, .listen, .accept, .connect, .sslConnect, .dnsResolve, .recv, .recvfrom,
    .sslRecv, .send, .sendto, .sslSend, .ping].find? fun cmd => cmd.number = u8OpCode

def foreignAct (env : Environment) (driver : Driver) : ForeignAct → Driver
  | .receive u32Addr pu8Buf u16Sz isDone =>
      { driver with hif := (hifReceive env.chip u32Addr pu8Buf u16Sz isDone driver.hif).2.2 }
  | .call call => runCall env driver call

/-- The callback of another group. -/
def foreignCb (env : Environment) (driver : Driver) : Driver :=
  (env.foreign driver.turns).foldl (foreignAct env) { driver with turns := driver.turns + 1 }

/-- The callback of a group, if one is registered. -/
def groupCb (env : Environment) (group : HifGroup) (u8OpCode : UInt8)
    (u16DataSize u32Addr : Nat) (driver : Driver) : Driver :=
  if driver.hif.registered group then
    match group, replyCmd u8OpCode with
    | .ip, some cmd => m2mIpCb env cmd u16DataSize u32Addr driver
    | .ip, none => driver
    | _, _ => foreignCb env driver
  else driver

/-- The end of `hif_isr`: a packet whose callback has not said that it is done
is done now. -/
def finishRx (env : Environment) (driver : Driver) : Int × Driver :=
  if driver.hif.u8HifRXDone then
    let (ret, hif) := hifSetRxDone env.chip driver.hif
    (ret, { driver with hif := hif })
  else (m2mSuccess, driver)

/-- `hif_isr` from the header of its packet on. -/
def hifPacket (env : Environment) (size address : Nat) (header : List UInt8) (driver : Driver) :
    Int × Driver :=
  let u16Length := uint16At header 2
  -- the difference is a 16-bit unsigned number
  if u16Length ≠ size ∧ u16 (size + 2 ^ 16 - u16Length) > 4 then
    (m2mErrBusFail, { driver with hif := driver.hif.interruptCtrl true })
  else
    match groupOf (header.getD 0 0) with
    | some group =>
        finishRx env (groupCb env group (header.getD 1 0)
          (u16 (u16Length + 2 ^ 16 - m2mHifHdrOffset)) (u32 (address + m2mHifHdrOffset)) driver)
    | none => (m2mErrBusFail, driver)

/-- `hif_isr` from the interrupt register on, which it has read as `reg`. -/
def hifInterrupt (env : Environment) (reg : BitVec 32) (driver : Driver) : Int × Driver :=
  let (cleared, hif) := (driver.hif.interruptCtrl false).operate env.chip
    (.writeReg .wifiHostRcvCtrl0 (reg &&& ~~~1#32))
  if cleared.ret ≠ m2mSuccess then (cleared.ret, { driver with hif := hif })
  else
    let size := ((reg >>> 2) &&& 0xfff#32).toNat
    let hif := { hif with u8HifRXDone := true }
    if size > 0 then
      let (address, hif) := hif.operate env.chip (.readReg .wifiHostRcvCtrl1)
      if address.ret ≠ m2mSuccess then
        (address.ret, { driver with hif := hif.interruptCtrl true })
      else
        let hif := { hif with u32RxAddr := address.value.toNat, u32RxSize := size }
        let (header, hif) := hif.operate env.chip (.readBlock address.value.toNat 4)
        if header.ret ≠ m2mSuccess then
          (header.ret, { driver with hif := hif.interruptCtrl true })
        else
          hifPacket env size address.value.toNat
            ((List.range 4).map fun index => header.memory (address.value.toNat + index))
            { driver with hif := hif }
    else (m2mErrRcv, { driver with hif := hif })

/-- `hif_isr`. -/
def hifIsr (env : Environment) (driver : Driver) : Int × Driver :=
  let (answer, hif) := driver.hif.operate env.chip (.readReg .wifiHostRcvCtrl0)
  let driver := { driver with hif := hif }
  if answer.ret = m2mSuccess then
    if answer.value &&& 1#32 ≠ 0#32 then hifInterrupt env answer.value driver
    else (m2mErrFail, driver)
  else (answer.ret, driver)

/-! ## Runs -/

inductive Event where
  | call (call : Call)
  | interrupt
deriving DecidableEq, Repr

def step (env : Environment) (driver : Driver) : Event → Driver
  | .call call => runCall env driver call
  | .interrupt => (hifIsr env driver).2

def run (env : Environment) (events : List Event) (driver : Driver) : Driver :=
  events.foldl (step env) driver

/-- The driver when `socketInit` is done, which has found it uninitialised. -/
def Started (driver : Driver) : Prop :=
  ∃ before : Driver, before.gbSocketInit = false ∧ before.log = [] ∧ driver = socketInit before

/-! ## The smallest environment -/

/-- The variables before `socketInit`, with a callback registered. -/
def uninitialised : Driver where
  hif := ⟨true, 0, false, 0, 0, fun _ => false, true, []⟩
  gastrSockets := fun _ => .cleared
  gu16SessionID := 0
  gbSocketInit := false
  u8NextTcpSock := 0
  u8NextUdpSock := 0
  hasSocketCb := true
  hasResolveCb := true
  turns := 0
  log := []

/-- An application that does nothing in its callbacks. -/
def withChip (chip : Chip) : Environment := ⟨chip, fun _ _ => 0, fun _ => [], fun _ => []⟩

/-- An application that calls `recv` with a buffer of two bytes in each callback. -/
def asksAgain (chip : Chip) : Environment :=
  ⟨chip, fun _ _ => 0, fun _ => [.recv 0 (some 5) 2 0], fun _ => []⟩

/-- A chip that has a buffer for every packet. -/
def grants : Chip := fun _ => ⟨m2mSuccess, 4#32, fun _ => 0⟩

end MicrochipDay.Winc
