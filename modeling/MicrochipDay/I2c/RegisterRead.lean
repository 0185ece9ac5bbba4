import MicrochipDay.I2c.ReadPhases

/-!
Owns which data bytes a register read puts on the bus. The address NACK callback
of the write half stays set in the read half: a slave that does not acknowledge
its address there is written to, and what is written is the buffer that the read
bytes were to go into.
-/

namespace MicrochipDay.I2c

/-! ## Functions and calls -/

/-- A function that reads from a register, and where it puts the bytes. -/
inductive ReadFunction where
  | read1ByteRegister (d2 : UInt16)
  | read2ByteRegister (result : UInt16)
  | readDataBlock (data len : UInt16)
deriving DecidableEq, Repr

namespace ReadFunction

def buffer : ReadFunction → UInt16
  | .read1ByteRegister d2 => d2
  | .read2ByteRegister result => result
  | .readDataBlock data _ => data

def size : ReadFunction → UInt16
  | .read1ByteRegister _ => 1
  | .read2ByteRegister _ => 2
  | .readDataBlock _ len => len

/-- The bytes that the call stores before it opens the bus. -/
def setUp (reg : UInt8) (regAt : UInt16) (driver : Driver) : ReadFunction → Driver
  | .read1ByteRegister d2 => (driver.store regAt reg).store d2 42
  | .read2ByteRegister _ => driver.store regAt reg
  | .readDataBlock _ _ => driver.store regAt reg

end ReadFunction

/-- A call on a driver that is free. The parameter and the local of
`I2C_0_read1ByteRegister` are not at one address. -/
structure RegisterRead where
  function : ReadFunction
  before : Driver
  free : before.inUse = false
  address : UInt8
  reg : UInt8
  regAt : UInt16
  apart : function ≠ .read1ByteRegister regAt
  stale : Bool
  answers : List Answer

namespace RegisterRead

variable (call : RegisterRead)

def transfer : Transfer :=
  match call.function with
  | .read1ByteRegister d2 =>
      (call.before.read1ByteRegister call.address call.reg call.regAt d2 call.stale
        call.answers).1
  | .read2ByteRegister result =>
      (call.before.read2ByteRegister call.address call.reg call.regAt result call.stale
        call.answers).1
  | .readDataBlock data len =>
      call.before.readDataBlock call.address call.reg call.regAt data len call.stale call.answers

/-- The data bytes that the call has transmitted. -/
def transmitted : List UInt8 :=
  (dataBytes call.transfer.driver.bus).drop (dataBytes call.before.bus).length

/-- All that the call transmits are copies of the register number. -/
def NeverWrites : Prop := ∀ byte ∈ call.transmitted, byte = call.reg

/-- The memory when the transfer starts. -/
def memory : UInt16 → UInt8 := (call.function.setUp call.reg call.regAt call.before).memory

/-- The contents of the buffer when the transfer starts. -/
def content (offset : Nat) : UInt8 := call.memory (call.function.buffer + UInt16.ofNat offset)

/-- How many bytes of its buffer a call transmits. -/
def resent : Nat :=
  min (takenAfterRegister (call.answers.dropWhile (·.nack)).tail) (bufferBytes call.function.size)

end RegisterRead

/-! ## What the calls transmit -/

/-- The driver when the write half has been started. -/
theorem readRegister_eq {driver : Driver} (free : driver.inUse = false) (address : UInt8)
    (reg buffer size : UInt16) (stale : Bool) (answers : List Answer) :
    ∃ started : Driver,
      driver.readRegister address reg (.regComplete buffer size .restartRead) stale answers =
        started.closeLoop answers ∧
      Phase started .tx true (.regComplete buffer size .restartRead) ∧
      started.dataPtr = reg ∧ started.dataLength = 1 ∧ started.memory = driver.memory ∧
      started.address = address ∧
      started.bus = .address (address <<< 1) :: .flush :: driver.bus := by
  unfold Driver.readRegister
  rw [Driver.openLoop_of_free free]
  unfold Driver.i2cOpen
  rw [if_neg (by rw [free]; decide)]
  exact ⟨_, rfl, ⟨rfl, rfl, rfl, rfl, rfl, rfl⟩, rfl, rfl, rfl, rfl, rfl⟩

theorem readRegister_sends {driver : Driver} (free : driver.inUse = false) (address : UInt8)
    (reg buffer size : UInt16) (stale : Bool) (answers : List Answer) :
    (driver.readRegister address reg (.regComplete buffer size .restartRead) stale answers).Sends
      driver.bus (readBytes driver.memory reg buffer size answers) := by
  obtain ⟨started, run, phase, pointer, length, memory, _, log⟩ :=
    readRegister_eq free address reg buffer size stale answers
  have silent : dataBytes started.bus = dataBytes driver.bus := by
    rw [log]
    simp [BusAction.transmitted?]
  have sends : (started.closeLoop answers).Sends started.bus _ := register_sends phase length
  rw [pointer, memory] at sends
  rw [run]
  exact ⟨sends.noFailure, by rw [sends.bytes, silent]⟩

/-- Without bus errors no close reports a failure, so the first attempt is the
only one. -/
theorem read1Attempts_first {transfer : Transfer} (free : transfer.driver.inUse = false)
    (address : UInt8) (reg d2 : UInt16) (stale : Bool) (attempts : Nat) :
    transfer.read1Attempts address reg d2 stale (attempts + 1) =
      transfer.driver.readRegister address reg (rd1RegCompleteHandler d2) stale
        transfer.answers := by
  have sends : (transfer.driver.readRegister address reg (rd1RegCompleteHandler d2) stale
      transfer.answers).Sends transfer.driver.bus _ :=
    readRegister_sends free address reg d2 1 stale transfer.answers
  unfold Transfer.read1Attempts
  dsimp only
  rcases sends.noFailure with waiting | succeeded
  · rw [waiting]
  · rw [succeeded]

namespace RegisterRead

variable (call : RegisterRead)

theorem setUp_free : (call.function.setUp call.reg call.regAt call.before).inUse = false := by
  cases call.function <;> exact call.free

/-- The three functions differ in what they store first and in their buffer. -/
theorem transfer_eq :
    call.transfer =
      (call.function.setUp call.reg call.regAt call.before).readRegister call.address call.regAt
        (.regComplete call.function.buffer call.function.size .restartRead) call.stale
        call.answers := by
  have free := call.setUp_free
  unfold transfer
  cases named : call.function with
  | read1ByteRegister d2 =>
      rw [named] at free
      exact read1Attempts_first free call.address call.regAt d2 call.stale 1
  | read2ByteRegister result => rfl
  | readDataBlock data len => rfl

theorem memory_regAt : call.memory call.regAt = call.reg := by
  have apart := call.apart
  unfold memory
  cases named : call.function with
  | read1ByteRegister d2 =>
      rw [named] at apart
      have other : call.regAt ≠ d2 := fun same => apart (same ▸ rfl)
      show Function.update (Function.update call.before.memory call.regAt call.reg) d2 42
        call.regAt = call.reg
      rw [Function.update_of_ne other, Function.update_self]
  | read2ByteRegister result => exact Function.update_self _ _ _
  | readDataBlock data len => exact Function.update_self _ _ _

theorem transfer_sends :
    call.transfer.Sends call.before.bus
      (readBytes call.memory call.regAt call.function.buffer call.function.size call.answers) := by
  have sameBus : (call.function.setUp call.reg call.regAt call.before).bus = call.before.bus := by
    cases call.function <;> rfl
  rw [call.transfer_eq, ← sameBus]
  exact readRegister_sends call.setUp_free _ _ _ _ _ _

/-- A call that returns leaves the driver free for the next one. -/
theorem transfer_free (returned : call.transfer.error ≠ none) :
    call.transfer.driver.inUse = false := by
  rw [call.transfer_eq] at returned ⊢
  exact closeLoop_free returned

theorem transmitted_eq :
    call.transmitted =
      readBytes call.memory call.regAt call.function.buffer call.function.size call.answers := by
  unfold transmitted
  rw [call.transfer_sends.bytes, List.drop_left]

/-- **When a register read does not write.** All the data bytes of a read are
copies of the register number exactly if the bytes of its buffer that a slave
takes which refuses to be read are. -/
theorem neverWrites_iff (call : RegisterRead) :
    call.NeverWrites ↔ ∀ offset < call.resent, call.content offset = call.reg := by
  unfold NeverWrites resent
  rw [transmitted_eq]
  unfold readBytes
  cases accepted : call.answers.dropWhile (·.nack) with
  | nil => simp [takenAfterRegister]
  | cons answer answers =>
      dsimp only [List.tail_cons]
      rw [List.forall_mem_cons, call.memory_regAt]
      unfold bytesAt
      simp only [List.forall_mem_map, List.mem_range, true_and]
      rfl

/-- A read from register 5 of a sensor that acknowledges its address and the
register, not its address for reading, and then its address for writing. -/
private def refused : RegisterRead where
  function := .read1ByteRegister 1
  before := .unused
  free := Driver.unused_inUse
  address := 0x18
  reg := 5
  regAt := 0
  apart := by decide
  stale := false
  answers := [⟨false, 0⟩, ⟨false, 0⟩, ⟨true, 0⟩, ⟨false, 0⟩]

/-- The initial value of the local goes out after the register number. -/
theorem transmitted_buffer : ¬refused.NeverWrites := by
  intro never
  have sent : refused.transmitted = [5, 42] := by
    rw [transmitted_eq]
    decide
  have copy : (42 : UInt8) = 5 := by
    apply never
    rw [sent]
    decide
  exact absurd copy (by decide)

end RegisterRead

end MicrochipDay.I2c
