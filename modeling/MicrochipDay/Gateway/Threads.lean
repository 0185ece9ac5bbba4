import Mathlib.Data.List.Induction
import MicrochipDay.Gateway
import MicrochipDay.Library.EventLog

/-!
Owns the two threads of the gateway and the serial modem between them. The
thread of `on_message` and the thread of `pub_loop` take turns at any point
where they touch what they share; the modem answers commands in the order they
were written, each with one line, and sends other lines at any time.

The log has the newest event first. Commands are numbered in the order in which
their `uid` is recorded in `lastUID`; the numbers are not part of the program.
-/

namespace MicrochipDay.Gateway

open MicrochipDay.Library.Unicode
open MicrochipDay.Library.Python
open MicrochipDay.Library.EventLog

/-! ## The system -/

/-- A command whose `uid` has been recorded in `lastUID`. -/
structure Command where
  number : Nat
  uid : Value
  deriving DecidableEq

inductive Event
  | recorded (command : Command)
  /-- A status published because of an error line, and the command that the line answers. -/
  | blamed (answered : Option Command) (publication : Publication)
  /-- `lastUID = 0` in `pub_loop`. -/
  | reset (answered : Option Command)
  | reported (uid : Int) (publication : Publication)
  /-- The round on a line is over. -/
  | handled (answered : Option Command)
  deriving DecidableEq

/-- Where the thread of `on_message` stands. -/
inductive SubState
  | idle
  /-- Before `lastUID = pay['uid']`. -/
  | recording (uid pay : Value)
  /-- Before the command is written to the serial port. -/
  | writing (command : Command) (pay : Value)

/-- Where the thread of `pub_loop` stands, with the command that its line answers. -/
inductive PubState
  | reading
  /-- In the error branch, before `lastUID` is read. -/
  | reporting (answered : Option Command) (uid : Int) (msg : Text)
  /-- Before `lastUID = 0`. -/
  | resetting (answered : Option Command) (msg : Text)
  /-- Before the telemetry part of the round. -/
  | finishing (answered : Option Command) (msg : Text)
  /-- An exception has ended the thread. -/
  | ended

structure System where
  lastUID : Value
  uid : Option Int
  sub : SubState
  pub : PubState
  /-- The commands written to the modem and not answered yet, the oldest first. -/
  modem : List Command
  /-- The lines in the serial port, the oldest first, with the commands that they answer. -/
  serial : List (List UInt8 × Option Command)
  log : List Event

def System.start : System := ⟨.int 0, none, .idle, .reading, [], [], []⟩

/-! ## The past -/

def Event.command? : Event → Option Command
  | .recorded command => some command
  | _ => none

def Event.isReset : Event → Bool
  | .reset _ => true
  | _ => false

def Event.uid? : Event → Option Int
  | .reported uid _ => some uid
  | _ => none

/-- The command recorded last. -/
def newest (log : List Event) : Option Command := log.findSome? Event.command?

/-- The command whose `uid` stands in `lastUID`: the last one recorded since the last reset. -/
def holder (log : List Event) : Option Command := latestSince Event.isReset Event.command? log

/-- The value of `lastUID` that the past leaves. -/
def heldUID (log : List Event) : Value :=
  match holder log with
  | some command => command.uid
  | none => .int 0

/-- The local `uid` of `pub_loop` that the past leaves. -/
def boundUid (log : List Event) : Option Int := log.findSome? Event.uid?

def nextNumber (log : List Event) : Nat :=
  match newest log with
  | some command => command.number + 1
  | none => 0

/-! ## Steps -/

inductive Action
  /-- A message arrives and is read up to the assignment of `lastUID`. -/
  | deliver (payload : List UInt8)
  | record
  /-- The command is written, or the serial port raises. -/
  | write (taken : Bool)
  /-- The modem answers the oldest command. -/
  | answer (line : List UInt8)
  /-- The modem sends a line that answers no command. -/
  | send (line : List UInt8)
  | readLine
  | report
  | reset
  | finish

variable (host : Host)

def deliver (system : System) (payload : List UInt8) : System :=
  match system.sub with
  | .idle =>
      match readCommand host.interpreter payload with
      | some (some (uid, pay)) => { system with sub := .recording uid pay }
      | _ => system
  | _ => system

def record (system : System) : System :=
  match system.sub with
  | .recording uid pay =>
      { system with
        lastUID := uid
        sub := .writing ⟨nextNumber system.log, uid⟩ pay
        log := .recorded ⟨nextNumber system.log, uid⟩ :: system.log }
  | _ => system

def write (system : System) (taken : Bool) : System :=
  match system.sub with
  | .writing command pay =>
      if taken ∧ (commandBytes host.interpreter pay).isSome then
        { system with sub := .idle, modem := system.modem ++ [command] }
      else { system with sub := .idle }
  | _ => system

def answer (system : System) (line : List UInt8) : System :=
  match system.modem with
  | command :: modem =>
      { system with modem := modem, serial := system.serial ++ [(line, some command)] }
  | [] => system

/-- `ser.readline()` up to the first use of `lastUID`. -/
def takeLine (system : System) : System :=
  match system.pub, system.serial with
  | .reading, (line, answered) :: serial =>
      let taken := { system with serial := serial }
      match readLine host.interpreter line with
      | none => { taken with pub := .ended }
      | some none => { taken with log := .handled answered :: system.log }
      | some (some msg) =>
          if errorWord <:+: msg then
            match system.uid with
            | none => { taken with pub := .ended }
            | some uid => { taken with pub := .reporting answered uid msg }
          else { taken with pub := .finishing answered msg }
  | _, _ => system

/-- `lastUID` is read and the status published. The thread touches nothing
shared in between. -/
def report (system : System) : System :=
  match system.pub with
  | .reporting answered uid msg =>
      match publish host uid (status 0 0 0 system.lastUID) with
      | none => { system with pub := .ended }
      | some publication =>
          { system with
            pub := .resetting answered msg
            log := .blamed answered publication :: system.log }
  | _ => system

def reset (system : System) : System :=
  match system.pub with
  | .resetting answered msg =>
      { system with
        lastUID := .int 0
        pub := .finishing answered msg
        log := .reset answered :: system.log }
  | _ => system

def finish (system : System) : System :=
  match system.pub with
  | .finishing answered msg =>
      match reportTelemetry host msg with
      | none => { system with pub := .ended }
      | some none => { system with pub := .reading, log := .handled answered :: system.log }
      | some (some (uid, publication)) =>
          { system with
            uid := some uid
            pub := .reading
            log := .handled answered :: .reported uid publication :: system.log }
  | _ => system

/-- One step of a thread or of the modem; a step whose turn it is not does nothing. -/
def step (system : System) : Action → System
  | .deliver payload => deliver host system payload
  | .record => record system
  | .write taken => write host system taken
  | .answer line => answer system line
  | .send line => { system with serial := system.serial ++ [(line, none)] }
  | .readLine => takeLine host system
  | .report => report host system
  | .reset => reset system
  | .finish => finish host system

/-- Any number of steps in any order. -/
def run (actions : List Action) : System := actions.foldl (step host) .start

/-! ## What a step can do -/

/-- Every change that a step makes, with what the state and the log say before it. -/
inductive Moves (system : System) : System → Prop
  | stay : Moves system system
  | accept (uid pay : Value) (idle : system.sub = .idle) :
      Moves system { system with sub := .recording uid pay }
  | record {uid pay : Value} (turn : system.sub = .recording uid pay) :
      Moves system
        { system with
          lastUID := uid
          sub := .writing ⟨nextNumber system.log, uid⟩ pay
          log := .recorded ⟨nextNumber system.log, uid⟩ :: system.log }
  | written {command : Command} {pay : Value} (turn : system.sub = .writing command pay) :
      Moves system { system with sub := .idle, modem := system.modem ++ [command] }
  | lost {command : Command} {pay : Value} (turn : system.sub = .writing command pay) :
      Moves system { system with sub := .idle }
  | answer {command : Command} {modem : List Command} (line : List UInt8)
      (oldest : system.modem = command :: modem) :
      Moves system
        { system with modem := modem, serial := system.serial ++ [(line, some command)] }
  | send (line : List UInt8) :
      Moves system { system with serial := system.serial ++ [(line, none)] }
  | skip {line : List UInt8} {answered : Option Command}
      {serial : List (List UInt8 × Option Command)} (turn : system.pub = .reading)
      (first : system.serial = (line, answered) :: serial) :
      Moves system { system with serial := serial, log := .handled answered :: system.log }
  | error {line : List UInt8} {answered : Option Command}
      {serial : List (List UInt8 × Option Command)} {uid : Int} (msg : Text)
      (turn : system.pub = .reading) (first : system.serial = (line, answered) :: serial)
      (bound : system.uid = some uid) :
      Moves system { system with serial := serial, pub := .reporting answered uid msg }
  | plain {line : List UInt8} {answered : Option Command}
      {serial : List (List UInt8 × Option Command)} (msg : Text)
      (turn : system.pub = .reading) (first : system.serial = (line, answered) :: serial) :
      Moves system { system with serial := serial, pub := .finishing answered msg }
  | endLine {line : List UInt8} {answered : Option Command}
      {serial : List (List UInt8 × Option Command)} (turn : system.pub = .reading)
      (first : system.serial = (line, answered) :: serial) :
      Moves system { system with serial := serial, pub := .ended }
  | endRound : Moves system { system with pub := .ended }
  | blame {answered : Option Command} {uid : Int} {msg : Text} {publication : Publication}
      (turn : system.pub = .reporting answered uid msg)
      (published : publish host uid (status 0 0 0 system.lastUID) = some publication) :
      Moves system
        { system with
          pub := .resetting answered msg
          log := .blamed answered publication :: system.log }
  | reset {answered : Option Command} {msg : Text} (turn : system.pub = .resetting answered msg) :
      Moves system
        { system with
          lastUID := .int 0
          pub := .finishing answered msg
          log := .reset answered :: system.log }
  | finish {answered : Option Command} {msg : Text} (turn : system.pub = .finishing answered msg) :
      Moves system { system with pub := .reading, log := .handled answered :: system.log }
  | report {answered : Option Command} {msg : Text} {uid : Int} {publication : Publication}
      (turn : system.pub = .finishing answered msg)
      (reported : reportTelemetry host msg = some (some (uid, publication))) :
      Moves system
        { system with
          uid := some uid
          pub := .reading
          log := .handled answered :: .reported uid publication :: system.log }

variable {host}

theorem deliver_moves (system : System) (payload : List UInt8) :
    Moves host system (deliver host system payload) := by
  unfold deliver
  split
  · next idle =>
    split
    · exact .accept _ _ idle
    · exact .stay
  · exact .stay

theorem record_moves (system : System) : Moves host system (record system) := by
  unfold record
  split
  · next turn => exact .record turn
  · exact .stay

theorem write_moves (system : System) (taken : Bool) :
    Moves host system (write host system taken) := by
  unfold write
  split
  · next turn =>
    split
    · exact .written turn
    · exact .lost turn
  · exact .stay

theorem answer_moves (system : System) (line : List UInt8) :
    Moves host system (answer system line) := by
  unfold answer
  split
  · next oldest => exact .answer line oldest
  · exact .stay

theorem takeLine_moves (system : System) : Moves host system (takeLine host system) := by
  unfold takeLine
  split
  · next line answered serial turn first =>
    dsimp only
    split
    · exact .endLine turn first
    · exact .skip turn first
    · next msg _ =>
      split
      · split
        · exact .endLine turn first
        · next bound => exact .error msg turn first bound
      · exact .plain msg turn first
  · exact .stay

theorem report_moves (system : System) : Moves host system (report host system) := by
  unfold report
  split
  · next turn =>
    split
    · exact .endRound
    · next published => exact .blame turn published
  · exact .stay

theorem reset_moves (system : System) : Moves host system (reset system) := by
  unfold reset
  split
  · next turn => exact .reset turn
  · exact .stay

theorem finish_moves (system : System) : Moves host system (finish host system) := by
  unfold finish
  split
  · next turn =>
    split
    · exact .endRound
    · exact .finish turn
    · next reported => exact .report turn reported
  · exact .stay

theorem step_moves (system : System) (action : Action) :
    Moves host system (step host system action) := by
  cases action with
  | deliver payload => exact deliver_moves system payload
  | record => exact record_moves system
  | write taken => exact write_moves system taken
  | answer line => exact answer_moves system line
  | send line => exact .send line
  | readLine => exact takeLine_moves system
  | report => exact report_moves system
  | reset => exact reset_moves system
  | finish => exact finish_moves system

/-- What holds at the start and is kept by every change holds after every run. -/
theorem run_induction (host : Host) (Invariant : System → Prop) (start : Invariant .start)
    (keeps : ∀ system next, Moves host system next → Invariant system → Invariant next)
    (actions : List Action) : Invariant (run host actions) := by
  unfold run
  induction actions using List.reverseRecOn with
  | nil => exact start
  | append_singleton actions action inductionHypothesis =>
      rw [List.foldl_append]
      exact keeps _ _ (step_moves _ action) inductionHypothesis

/-! ## The variables and the past -/

/-- The two variables have the values that the past leaves. -/
structure Remembers (system : System) : Prop where
  lastUID : system.lastUID = heldUID system.log
  uid : system.uid = boundUid system.log

/-- An event that neither records, resets nor binds. -/
theorem Remembers.write {system next : System} {event : Event} (remembers : Remembers system)
    (silent : event.command? = none ∧ event.isReset = false ∧ event.uid? = none)
    (same : next.lastUID = system.lastUID ∧ next.uid = system.uid ∧
      next.log = event :: system.log) : Remembers next := by
  obtain ⟨lastUID, uid, log⟩ := same
  constructor
  · rw [lastUID, log, remembers.lastUID, heldUID, heldUID, holder, holder,
      latestSince_cons_of_silent system.log silent.2.1 silent.1]
  · rw [uid, log, remembers.uid, boundUid, boundUid, List.findSome?_cons, silent.2.2]

theorem Remembers.of_same {system next : System} (remembers : Remembers system)
    (same : next.lastUID = system.lastUID ∧ next.uid = system.uid ∧ next.log = system.log) :
    Remembers next := by
  obtain ⟨lastUID, uid, log⟩ := same
  constructor
  · rw [lastUID, log, remembers.lastUID]
  · rw [uid, log, remembers.uid]

theorem Moves.remembers {system next : System} (moves : Moves host system next)
    (remembers : Remembers system) : Remembers next := by
  cases moves with
  | record turn =>
      constructor
      · rfl
      · exact remembers.uid
  | reset turn =>
      constructor
      · rfl
      · exact remembers.uid
  | report turn reported =>
      constructor
      · exact remembers.lastUID
      · rfl
  | skip turn first => exact remembers.write ⟨rfl, rfl, rfl⟩ ⟨rfl, rfl, rfl⟩
  | blame turn published => exact remembers.write ⟨rfl, rfl, rfl⟩ ⟨rfl, rfl, rfl⟩
  | finish turn => exact remembers.write ⟨rfl, rfl, rfl⟩ ⟨rfl, rfl, rfl⟩
  | stay => exact remembers
  | accept uid pay idle => exact remembers.of_same ⟨rfl, rfl, rfl⟩
  | written turn => exact remembers.of_same ⟨rfl, rfl, rfl⟩
  | lost turn => exact remembers.of_same ⟨rfl, rfl, rfl⟩
  | answer line oldest => exact remembers.of_same ⟨rfl, rfl, rfl⟩
  | send line => exact remembers.of_same ⟨rfl, rfl, rfl⟩
  | error msg turn first bound => exact remembers.of_same ⟨rfl, rfl, rfl⟩
  | plain msg turn first => exact remembers.of_same ⟨rfl, rfl, rfl⟩
  | endLine turn first => exact remembers.of_same ⟨rfl, rfl, rfl⟩
  | endRound => exact remembers.of_same ⟨rfl, rfl, rfl⟩

theorem remembers_start : Remembers .start := ⟨rfl, rfl⟩

end MicrochipDay.Gateway
