import Mathlib.Data.List.Basic
import Mathlib.Data.Nat.Bitwise

/-!
Owns the debug UART driver (usart_basic.c): its two rings, `USART_0_write` and
`USART_0_read` statement by statement, and the interrupt callbacks that come between any
two of their statements.

The main program is at one point of one call at a time. An interrupt is one step, and so is
a critical section. The two rings share no variable, so each is a machine of its own; `CTRLA`
is its one bit that the driver writes.
-/

namespace MicrochipDay.Usart

/-! ## Transmitting -/

def usart0TxBufferSize : UInt8 := 32

def usart0TxBufferMask : UInt8 := usart0TxBufferSize - 1

/-- The statement of `USART_0_write` that comes next, with the variables of the call. -/
inductive WriteAt where
  | idle
  | computeIndex (data : UInt8)
  | waitForSpace (data tmphead : UInt8)
  | storeData (data tmphead : UInt8)
  | storeIndex (data tmphead : UInt8)
  | countElement (data : UInt8)
  | enableInterrupt
deriving DecidableEq, Repr

/-- The transmit ring, the `DREIE` bit of `CTRLA`, and the bytes that were written to
`TXDATAL`, in order. -/
structure TxRing where
  txbuf : List UInt8
  txHead : UInt8
  txTail : UInt8
  txElements : UInt8
  dreie : Bool
  txdatal : List UInt8
  write : WriteAt
deriving DecidableEq, Repr

namespace TxRing

/-- `USART_0_init` at start-up, with the zeros of static storage. -/
def usart0Init : TxRing where
  txbuf := List.replicate usart0TxBufferSize.toNat 0
  txHead := 0
  txTail := 0
  txElements := 0
  dreie := false
  txdatal := []
  write := .idle

/-- One statement of `USART_0_write`. -/
def usart0Write (ring : TxRing) : TxRing :=
  match ring.write with
  | .idle => ring
  | .computeIndex data =>
      { ring with write := .waitForSpace data ((ring.txHead + 1) &&& usart0TxBufferMask) }
  | .waitForSpace data tmphead =>
      if ring.txElements = usart0TxBufferSize then ring
      else { ring with write := .storeData data tmphead }
  | .storeData data tmphead =>
      { ring with txbuf := ring.txbuf.set tmphead.toNat data, write := .storeIndex data tmphead }
  | .storeIndex data tmphead => { ring with txHead := tmphead, write := .countElement data }
  | .countElement _ => { ring with txElements := ring.txElements + 1, write := .enableInterrupt }
  | .enableInterrupt => { ring with dreie := true, write := .idle }

def usart0DefaultUdreIsrCb (ring : TxRing) : TxRing :=
  let ring :=
    if ring.txElements ≠ 0 then
      let tmptail := (ring.txTail + 1) &&& usart0TxBufferMask
      { ring with
        txTail := tmptail
        txdatal := ring.txdatal ++ [ring.txbuf.getD tmptail.toNat 0]
        txElements := ring.txElements - 1 }
    else ring
  if ring.txElements = 0 then { ring with dreie := false } else ring

end TxRing

inductive TxStep where
  /-- The main program calls `USART_0_write`, unless it is still in a call. -/
  | call (data : UInt8)
  | statement
  /-- The data register is empty: the interrupt is taken if it is enabled. -/
  | interrupt
deriving DecidableEq, Repr

/-- The ring with the bytes of the calls so far. -/
structure TxRun where
  ring : TxRing
  written : List UInt8
deriving DecidableEq, Repr

def TxRun.step (run : TxRun) : TxStep → TxRun
  | .call data =>
      if run.ring.write = .idle then
        ⟨{ run.ring with write := .computeIndex data }, run.written ++ [data]⟩
      else run
  | .statement => { run with ring := run.ring.usart0Write }
  | .interrupt =>
      if run.ring.dreie then { run with ring := run.ring.usart0DefaultUdreIsrCb } else run

def TxRun.start : TxRun := ⟨.usart0Init, []⟩

def txRun (steps : List TxStep) : TxRun := steps.foldl TxRun.step .start

/-! ## Receiving -/

def usart0RxBufferSize : UInt8 := 64

def usart0RxBufferMask : UInt8 := usart0RxBufferSize - 1

/-- The statement of `USART_0_read` that comes next, with the variable of the call. -/
inductive ReadAt where
  | idle
  | waitForData
  | computeIndex
  | storeIndex (tmptail : UInt8)
  | countElement (tmptail : UInt8)
  | returnData (tmptail : UInt8)
deriving DecidableEq, Repr

structure RxRing where
  rxbuf : List UInt8
  rxHead : UInt8
  rxTail : UInt8
  rxElements : UInt8
  read : ReadAt
deriving DecidableEq, Repr

namespace RxRing

def usart0Init : RxRing where
  rxbuf := List.replicate usart0RxBufferSize.toNat 0
  rxHead := 0
  rxTail := 0
  rxElements := 0
  read := .idle

/-- `USART_0_default_rx_isr_cb`; `data` is what it reads from `RXDATAL`. -/
def usart0DefaultRxIsrCb (ring : RxRing) (data : UInt8) : RxRing :=
  let tmphead := (ring.rxHead + 1) &&& usart0RxBufferMask
  if tmphead = ring.rxTail then ring
  else
    { ring with
      rxHead := tmphead
      rxbuf := ring.rxbuf.set tmphead.toNat data
      rxElements := ring.rxElements + 1 }

/-- One statement of `USART_0_read`, and what it returns. -/
def usart0Read (ring : RxRing) : RxRing × Option UInt8 :=
  match ring.read with
  | .idle => (ring, none)
  | .waitForData =>
      if ring.rxElements = 0 then (ring, none) else ({ ring with read := .computeIndex }, none)
  | .computeIndex =>
      ({ ring with read := .storeIndex ((ring.rxTail + 1) &&& usart0RxBufferMask) }, none)
  | .storeIndex tmptail => ({ ring with rxTail := tmptail, read := .countElement tmptail }, none)
  | .countElement tmptail =>
      ({ ring with rxElements := ring.rxElements - 1, read := .returnData tmptail }, none)
  | .returnData tmptail =>
      ({ ring with read := .idle }, some (ring.rxbuf.getD tmptail.toNat 0))

end RxRing

inductive RxStep where
  /-- The main program calls `USART_0_read`, unless it is still in a call. -/
  | call
  | statement
  /-- A byte has been received: the interrupt is taken. -/
  | interrupt (data : UInt8)
deriving DecidableEq, Repr

/-- The ring with an account of the run: the bytes that arrived while fewer than 63 were
unread, how many of them have been read, and the bytes that calls have returned. A read
takes its byte in the statement that moves `rx_tail` past it. -/
structure RxRun where
  ring : RxRing
  kept : List UInt8
  taken : Nat
  returned : List UInt8
deriving DecidableEq, Repr

/-- The bytes that were kept and that no read has taken. -/
def RxRun.unread (run : RxRun) : List UInt8 := run.kept.drop run.taken

def RxRun.step (run : RxRun) : RxStep → RxRun
  | .call =>
      if run.ring.read = .idle then
        { run with ring := { run.ring with read := .waitForData } }
      else run
  | .statement =>
      let next := run.ring.usart0Read
      let taken := match run.ring.read with
        | .storeIndex _ => run.taken + 1
        | _ => run.taken
      ⟨next.1, run.kept, taken, run.returned ++ next.2.toList⟩
  | .interrupt data =>
      { run with
        ring := run.ring.usart0DefaultRxIsrCb data
        kept := if run.unread.length < 63 then run.kept ++ [data] else run.kept }

def RxRun.start : RxRun := ⟨.usart0Init, [], 0, []⟩

def rxRun (steps : List RxStep) : RxRun := steps.foldl RxRun.step .start

/-! ## Indices and counts -/

/-- The next index of a ring of `2 ^ bits` cells. -/
theorem nextIndex_toNat {mask : UInt8} {bits : Nat} (small : bits ≤ 8)
    (isMask : mask.toNat = 2 ^ bits - 1) (index : UInt8) :
    ((index + 1) &&& mask).toNat = (index.toNat + 1) % 2 ^ bits := by
  rw [UInt8.toNat_and, UInt8.toNat_add, isMask, Nat.and_two_pow_sub_one_eq_mod]
  exact Nat.mod_mod_of_dvd _ (pow_dvd_pow 2 small)

theorem count_succ {elements : UInt8} (room : elements.toNat < 255) :
    (elements + 1).toNat = elements.toNat + 1 := by
  rw [UInt8.toNat_add]
  show (elements.toNat + 1) % 256 = _
  omega

theorem count_pred {elements : UInt8} (occupied : elements ≠ 0) :
    (elements - 1).toNat + 1 = elements.toNat := by
  have positive : elements.toNat ≠ 0 := fun none => occupied (UInt8.toNat_inj.mp none)
  have atLeast : (1 : UInt8) ≤ elements := by
    rw [UInt8.le_iff_toNat_le]
    show 1 ≤ elements.toNat
    omega
  rw [UInt8.toNat_sub_of_le _ _ atLeast]
  show elements.toNat - 1 + 1 = _
  omega

end MicrochipDay.Usart
