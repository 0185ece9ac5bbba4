import MicrochipDay.Winc.Moves
import MicrochipDay.Library.EventLog

/-!
Owns the sessions of the sockets. Connections are numbered in the order in which
slots are opened, without end; the session of a slot is the number of its
connection squeezed into sixteen bits, and zero for a free slot. So a reply
finds its session in the slot only while the connection that asked for it still
holds the slot, until the numbers come round.
-/

namespace MicrochipDay.Winc

open MicrochipDay.Library.EventLog

/-! ## Connections in the log -/

/-- How many times a slot has been opened. -/
def opens : List Entry → Nat
  | [] => 0
  | .opened _ :: past => opens past + 1
  | _ :: past => opens past

/-- The number of the connection that holds a slot. -/
def holder (sock : Int) : List Entry → Option Nat
  | [] => none
  | .opened opened :: past => if opened = sock then some (opens past + 1) else holder sock past
  | .closed closed :: past => if closed = sock then none else holder sock past
  | _ :: past => holder sock past

/-- The session of a connection. -/
def sessionOf (connection : Nat) : Nat :=
  if connection = 0 then 0 else (connection - 1) % 65535 + 1

theorem holder_le_opens {sock : Int} {log : List Entry} {connection : Nat}
    (holds : holder sock log = some connection) :
    1 ≤ connection ∧ connection ≤ opens log := by
  induction log with
  | nil => cases holds
  | cons entry past inductionHypothesis =>
      cases entry with
      | opened opened =>
          rw [holder] at holds
          rw [opens]
          by_cases here : opened = sock
          · rw [if_pos here] at holds
            cases holds
            omega
          · rw [if_neg here] at holds
            have bounds := inductionHypothesis holds
            omega
      | closed closed =>
          rw [holder] at holds
          by_cases here : closed = sock
          · rw [if_pos here] at holds
            cases holds
          · rw [if_neg here] at holds
            exact inductionHypothesis holds
      | request | callback | resolved | pinged => exact inductionHypothesis holds

theorem opens_append (after before : List Entry) :
    opens (after ++ before) = opens after + opens before := by
  induction after with
  | nil => exact (Nat.zero_add _).symm
  | cons entry after inductionHypothesis =>
      cases entry with
      | opened opened =>
          rw [List.cons_append, opens, opens, inductionHypothesis]
          omega
      | closed | request | callback | resolved | pinged => exact inductionHypothesis

/-- A slot is held by the connection that held it before, or by a newer one. -/
theorem holder_append {sock : Int} {after before : List Entry} {current : Nat}
    (holds : holder sock (after ++ before) = some current) :
    holder sock before = some current ∨ opens before < current := by
  induction after with
  | nil => exact Or.inl holds
  | cons entry after inductionHypothesis =>
      cases entry with
      | opened opened =>
          rw [List.cons_append, holder] at holds
          by_cases here : opened = sock
          · rw [if_pos here] at holds
            cases holds
            rw [opens_append]
            omega
          · rw [if_neg here] at holds
            exact inductionHypothesis holds
      | closed closed =>
          rw [List.cons_append, holder] at holds
          by_cases here : closed = sock
          · rw [if_pos here] at holds
            cases holds
          · rw [if_neg here] at holds
            exact inductionHypothesis holds
      | request | callback | resolved | pinged => exact inductionHypothesis holds

theorem nextSession_sessionOf (connection : Nat) :
    nextSession (sessionOf connection) = sessionOf (connection + 1) := by
  unfold nextSession sessionOf u16
  dsimp only
  rw [if_neg (Nat.succ_ne_zero connection), Nat.add_sub_cancel]
  by_cases first : connection = 0
  · subst first
    rfl
  · rw [if_neg first]
    split <;> omega

/-- Two connections share a session only when a multiple of 65535 lies between
their numbers. -/
theorem sessionOf_injective {older newer : Nat} (positive : 1 ≤ older) (order : older ≤ newer)
    (near : newer < older + 65535) (same : sessionOf newer = sessionOf older) : newer = older := by
  unfold sessionOf at same
  rw [if_neg (by omega), if_neg (by omega)] at same
  omega

theorem sessionOf_pos {connection : Nat} (positive : 1 ≤ connection) :
    sessionOf connection ≠ 0 := by
  unfold sessionOf
  rw [if_neg (by omega)]
  omega

/-! ## The invariant -/

/-- A slot is as the connection that holds it has left it, or free. -/
def SlotAgrees (connection : Option Nat) (socket : Socket) : Prop :=
  match connection with
  | some number => socket.bIsUsed = true ∧ socket.u16SessionID = sessionOf number
  | none => socket.bIsUsed = false ∧ socket.u16SessionID = 0

/-- A request carries the session of the connection that held its slot. -/
def AskedByHolder (entry : Entry) (past : List Entry) : Prop :=
  ∀ cmd sock session, entry = .request cmd sock session →
    ∃ connection, holder sock past = some connection ∧ session = sessionOf connection

structure SessionsAgree (driver : Driver) : Prop where
  counter : driver.gu16SessionID = sessionOf (opens driver.log)
  slots : ∀ sock, SlotAgrees (holder sock driver.log) (driver.gastrSockets sock)
  requests : EveryEntry AskedByHolder driver.log

theorem SlotAgrees.congr {connection : Option Nat} {socket other : Socket}
    (agrees : SlotAgrees connection socket) (used : other.bIsUsed = socket.bIsUsed)
    (session : other.u16SessionID = socket.u16SessionID) : SlotAgrees connection other := by
  cases connection with
  | none => exact ⟨used.trans agrees.1, session.trans agrees.2⟩
  | some number => exact ⟨used.trans agrees.1, session.trans agrees.2⟩

theorem holder_callback {entry : Entry} (silent : entry.isCallback = true) (sock : Int)
    (past : List Entry) : holder sock (entry :: past) = holder sock past := by
  cases entry <;> first | rfl | cases silent

theorem opens_callback {entry : Entry} (silent : entry.isCallback = true) (past : List Entry) :
    opens (entry :: past) = opens past := by
  cases entry <;> first | rfl | cases silent

theorem askedByHolder_of_not_request {entry : Entry} {past : List Entry}
    (notRequest : ∀ cmd sock session, entry ≠ .request cmd sock session) :
    AskedByHolder entry past :=
  fun cmd sock session same => absurd same (notRequest cmd sock session)

/-- Only the connection that holds a slot can make a request on it. -/
theorem SessionsAgree.holds {driver : Driver} (agree : SessionsAgree driver) {sock : Int}
    (used : (driver.gastrSockets sock).bIsUsed = true) :
    ∃ connection, holder sock driver.log = some connection ∧
      (driver.gastrSockets sock).u16SessionID = sessionOf connection := by
  have slot := agree.slots sock
  cases held : holder sock driver.log with
  | none =>
      rw [held] at slot
      exact absurd (used.symm.trans slot.1) (by decide)
  | some connection =>
      rw [held] at slot
      exact ⟨connection, rfl, slot.2⟩

theorem SessionsAgree.open {driver : Driver} (agree : SessionsAgree driver) (sock : Int)
    (socket : Socket) : SessionsAgree (openSlot sock socket driver) where
  counter := by
    show nextSession driver.gu16SessionID = sessionOf (opens driver.log + 1)
    rw [agree.counter]
    exact nextSession_sessionOf _
  slots := by
    intro other
    show SlotAgrees (if sock = other then some (opens driver.log + 1) else holder other driver.log)
      (Function.update driver.gastrSockets sock _ other)
    by_cases same : sock = other
    · subst same
      rw [if_pos rfl, Function.update_self]
      refine ⟨rfl, ?_⟩
      show nextSession driver.gu16SessionID = sessionOf (opens driver.log + 1)
      rw [agree.counter]
      exact nextSession_sessionOf _
    · rw [if_neg same, Function.update_of_ne (Ne.symm same)]
      exact agree.slots other
  requests :=
    ⟨askedByHolder_of_not_request (fun _ _ _ impossible => nomatch impossible), agree.requests⟩

theorem SessionsAgree.close {driver : Driver} (agree : SessionsAgree driver) (sock : Int) :
    SessionsAgree ((driver.setSocket sock .cleared).write (.closed sock)) where
  counter := agree.counter
  slots := by
    intro other
    show SlotAgrees (if sock = other then none else holder other driver.log)
      (Function.update driver.gastrSockets sock .cleared other)
    by_cases same : sock = other
    · subst same
      rw [if_pos rfl, Function.update_self]
      exact ⟨rfl, rfl⟩
    · rw [if_neg same, Function.update_of_ne (Ne.symm same)]
      exact agree.slots other
  requests :=
    ⟨askedByHolder_of_not_request (fun _ _ _ impossible => nomatch impossible), agree.requests⟩

/-- Every move keeps the sessions as they should be. -/
theorem SessionsAgree.move {scope : Scope} {driver next : Driver}
    (move : Move scope driver next) (agree : SessionsAgree driver) : SessionsAgree next := by
  cases move with
  | idle sockets counter log =>
      refine ⟨?_, ?_, ?_⟩
      · rw [counter, log]
        exact agree.counter
      · intro sock
        rw [sockets, log]
        exact agree.slots sock
      · rw [log]
        exact agree.requests
  | edit sock socket used session =>
      refine ⟨agree.counter, ?_, agree.requests⟩
      intro other
      show SlotAgrees (holder other driver.log)
        (Function.update driver.gastrSockets sock socket other)
      by_cases same : other = sock
      · subst same
        rw [Function.update_self]
        exact (agree.slots other).congr used session
      · rw [Function.update_of_ne same]
        exact agree.slots other
  | «open» sock socket => exact agree.open sock socket
  | request cmd sock used =>
      refine ⟨agree.counter, agree.slots, ?_, agree.requests⟩
      intro otherCmd other session same
      cases same
      exact agree.holds used
  | close sock => exact agree.close sock
  | callback entry silent =>
      refine ⟨?_, ?_, ?_, agree.requests⟩
      · show driver.gu16SessionID = sessionOf (opens (entry :: driver.log))
        rw [opens_callback silent]
        exact agree.counter
      · intro sock
        show SlotAgrees (holder sock (entry :: driver.log)) (driver.gastrSockets sock)
        rw [holder_callback silent]
        exact agree.slots sock
      · apply askedByHolder_of_not_request
        rintro cmd sock session rfl
        cases silent

theorem Started.sessionsAgree {driver : Driver} (started : Started driver) :
    SessionsAgree driver := by
  obtain ⟨before, uninitialised, noLog, rfl⟩ := started
  unfold socketInit
  rw [uninitialised]
  refine ⟨?_, ?_, ?_⟩
  · show 0 = sessionOf (opens before.log)
    rw [noLog]
    rfl
  · intro sock
    show SlotAgrees (holder sock before.log) .cleared
    rw [noLog]
    exact ⟨rfl, rfl⟩
  · show EveryEntry AskedByHolder before.log
    rw [noLog]
    trivial

theorem run_sessionsAgree (env : Environment) {driver : Driver} (started : Started driver)
    (events : List Event) : SessionsAgree (run env events driver) :=
  (run_moves_any env events driver).keeps SessionsAgree.move started.sessionsAgree

/-! ## Replies and their connections -/

/-- A slot has the session of a request exactly while the connection that made
the request holds it, provided that fewer than 65535 slots have been opened
since that connection was. -/
theorem SessionsAgree.session_eq_iff {driver : Driver} (agree : SessionsAgree driver)
    {after before : List Entry} {cmd : SocketCmd} {sock : Int} {session connection : Nat}
    (asked : driver.log = after ++ .request cmd sock session :: before)
    (askedBy : holder sock before = some connection)
    (recent : opens driver.log < connection + 65535) :
    session = (driver.gastrSockets sock).u16SessionID ↔
      holder sock driver.log = some connection := by
  have every := agree.requests
  rw [asked] at every
  obtain ⟨number, held, carried⟩ := every.at cmd sock session rfl
  rw [askedBy] at held
  cases held
  have bounds := holder_le_opens askedBy
  have slot := agree.slots sock
  cases held : holder sock driver.log with
  | none =>
      rw [held] at slot
      rw [slot.2, carried]
      exact ⟨fun zero => absurd zero (sessionOf_pos bounds.1), fun impossible => nomatch impossible⟩
  | some current =>
      rw [held] at slot
      rw [slot.2, carried]
      constructor
      · intro same
        rw [asked] at held
        rcases holder_append held with old | new
        · exact old.symm.trans askedBy
        · have currentBounds := holder_le_opens held
          rw [← asked] at currentBounds
          have newer : connection ≤ current := by
            have older : opens (.request cmd sock session :: before) = opens before := rfl
            omega
          rw [sessionOf_injective bounds.1 newer (by omega) same.symm]
      · intro same
        cases same
        rfl

/-! ## Delivery -/

theorem Move.log_suffix {scope : Scope} {driver next : Driver}
    (move : Move scope driver next) :
    driver.log <:+ next.log := by
  cases move with
  | idle _ _ log => exact log ▸ List.suffix_rfl
  | edit => exact List.suffix_rfl
  | «open» | request | close | callback => exact List.suffix_cons ..

theorem Moves.log_suffix {scope : Scope} {driver next : Driver}
    (moves : Moves scope driver next) :
    driver.log <:+ next.log :=
  moves.keeps (P := fun later => driver.log <:+ later.log)
    (fun move suffix => suffix.trans move.log_suffix) List.suffix_rfl

theorem appSocketCb_delivers (env : Environment) {driver : Driver}
    (listening : driver.hasSocketCb = true) (sock : Int) (msg : SocketMsg) :
    (Entry.callback sock msg :: driver.log) <:+ (appSocketCb env sock msg driver).log := by
  unfold appSocketCb
  rw [if_pos listening]
  exact (callback_moves_after env.buffers_any (.callback sock msg) driver).log_suffix

/-- The socket and the session that a reply to a request for data names. -/
def replyTo (cmd : SocketCmd) (reply : List UInt8) : Option (Int × Nat) :=
  match cmd with
  | .recv | .sslRecv | .recvfrom => some (sint8At reply 12, uint16At reply 14)
  | .send | .sslSend | .sendto => some (sint8At reply 0, uint16At reply 4)
  | _ => none

/-- The requests to receive. -/
def SocketCmd.isReceive : SocketCmd → Bool
  | .recv | .sslRecv | .recvfrom => true
  | _ => false

/-- What a reply that comes too late leaves of the sockets: one to a request to
receive clears the pending flag of the slot, whoever holds it by then. -/
def staleSockets (cmd : SocketCmd) (sock : Int) (driver : Driver) : Int → Socket :=
  if cmd.isReceive then
    (driver.setSocket sock { driver.gastrSockets sock with bIsRecvPending := false }).gastrSockets
  else driver.gastrSockets

/-- A reply to a request to receive that brings data. -/
def bringsData (cmd : SocketCmd) (u16BufferSize : Nat) (reply : List UInt8) : Prop :=
  (cmd = .recv ∨ cmd = .sslRecv ∨ cmd = .recvfrom) ∧
    0 < sint16 (uint16At reply 8) ∧ sint16 (uint16At reply 8) < u16BufferSize

theorem sendReplied_of_stale (env : Environment) (cmd : SocketCmd) {reply : List UInt8}
    {driver : Driver}
    (stale : uint16At reply 4 ≠ (driver.gastrSockets (sint8At reply 0)).u16SessionID) :
    sendReplied env cmd reply driver = driver := by
  unfold sendReplied
  exact if_neg stale

theorem recvReplied_of_stale (env : Environment) (cmd : SocketCmd) (u16BufferSize u32Address : Nat)
    {reply : List UInt8} {driver : Driver}
    (stale : uint16At reply 14 ≠ (driver.gastrSockets (sint8At reply 12)).u16SessionID) :
    let after := recvReplied env cmd u16BufferSize u32Address reply driver
    after.log = driver.log ∧ after.gastrSockets = (driver.setSocket (sint8At reply 12)
      { driver.gastrSockets (sint8At reply 12) with bIsRecvPending := false }).gastrSockets := by
  unfold recvReplied
  dsimp only
  rw [setSocket_gastrSockets, if_neg stale]
  split <;> exact ⟨rfl, rfl⟩

/-- A reply whose session is not that of its slot tells the application nothing. -/
theorem replied_of_stale (env : Environment) {cmd : SocketCmd} (u16BufferSize u32Address : Nat)
    {reply : List UInt8} {driver : Driver} {sock : Int} {session : Nat}
    (names : replyTo cmd reply = some (sock, session))
    (stale : session ≠ (driver.gastrSockets sock).u16SessionID) :
    let after := replied env cmd u16BufferSize u32Address reply driver
    after.log = driver.log ∧ after.gastrSockets = staleSockets cmd sock driver := by
  cases cmd with
  | recv | sslRecv | recvfrom =>
      cases names
      exact recvReplied_of_stale env _ _ _ stale
  | send | sslSend | sendto =>
      cases names
      refine ⟨congrArg Driver.log ?_, congrArg Driver.gastrSockets ?_⟩
      · exact sendReplied_of_stale env _ stale
      · exact sendReplied_of_stale env _ stale
  | _ => cases names

theorem sendReplied_of_current (env : Environment) (cmd : SocketCmd) {reply : List UInt8}
    {driver : Driver} (listening : driver.hasSocketCb = true)
    (current : uint16At reply 4 = (driver.gastrSockets (sint8At reply 0)).u16SessionID) :
    (Entry.callback (sint8At reply 0) (.sent cmd (sint16 (uint16At reply 2))) :: driver.log) <:+
      (sendReplied env cmd reply driver).log := by
  unfold sendReplied
  rw [if_pos current]
  exact appSocketCb_delivers env listening _ _

theorem recvReplied_of_current (env : Environment) (cmd : SocketCmd)
    {u16BufferSize : Nat} (u32Address : Nat) {reply : List UInt8} {driver : Driver}
    (listening : driver.hasSocketCb = true)
    (noData : ¬(0 < sint16 (uint16At reply 8) ∧ sint16 (uint16At reply 8) < u16BufferSize))
    (current : uint16At reply 14 = (driver.gastrSockets (sint8At reply 12)).u16SessionID) :
    (Entry.callback (sint8At reply 12) (.receiveError cmd (sint16 (uint16At reply 8))
        (slice reply 2 2) (slice reply 4 4)) :: driver.log) <:+
      (recvReplied env cmd u16BufferSize u32Address reply driver).log := by
  unfold recvReplied
  dsimp only
  rw [setSocket_gastrSockets, if_pos current, if_neg noData]
  exact @appSocketCb_delivers env (driver.setSocket _ _) listening _ _

theorem replied_of_current (env : Environment) {cmd : SocketCmd} {u16BufferSize : Nat}
    (u32Address : Nat) {reply : List UInt8} {driver : Driver}
    (listening : driver.hasSocketCb = true) {sock : Int} {session : Nat}
    (names : replyTo cmd reply = some (sock, session))
    (noData : ¬bringsData cmd u16BufferSize reply)
    (current : session = (driver.gastrSockets sock).u16SessionID) :
    ∃ msg, (Entry.callback sock msg :: driver.log) <:+
      (replied env cmd u16BufferSize u32Address reply driver).log := by
  cases cmd with
  | recv | sslRecv | recvfrom =>
      cases names
      have none := fun data => noData ⟨by decide, data⟩
      exact ⟨_, recvReplied_of_current env _ u32Address listening none current⟩
  | send | sslSend | sendto =>
      cases names
      exact ⟨_, sendReplied_of_current env _ listening current⟩
  | _ => cases names

/-- Whatever the application and the chip have done since, the reply to a request
to send or to receive reaches the application's callback only if the connection
that made the request still holds its slot; then a reply without data does reach
it. One that comes too late tells the application nothing, and of the sockets it
changes at most the pending flag of the slot. -/
theorem run_reply_reaches_its_connection (env : Environment) {start : Driver}
    (started : Started start) (listening : start.hasSocketCb = true) (events : List Event)
    (hif : Hif) {after before : List Entry} {askedCmd cmd : SocketCmd} {sock : Int}
    {session connection u16BufferSize u32Address : Nat} {reply : List UInt8}
    (asked : (run env events start).log = after ++ .request askedCmd sock session :: before)
    (askedBy : holder sock before = some connection)
    (recent : opens (run env events start).log < connection + 65535)
    (names : replyTo cmd reply = some (sock, session)) :
    let driver := { run env events start with hif := hif }
    let next := replied env cmd u16BufferSize u32Address reply driver
    let told := ∃ msg, (Entry.callback sock msg :: driver.log) <:+ next.log
    (told → holder sock driver.log = some connection) ∧
      (holder sock driver.log = some connection → ¬bringsData cmd u16BufferSize reply → told) ∧
      (holder sock driver.log ≠ some connection →
        next.log = driver.log ∧ next.gastrSockets = staleSockets cmd sock driver) := by
  intro driver next told
  have agree := run_sessionsAgree env started events
  have current := agree.session_eq_iff asked askedBy recent
  have stale (gone : holder sock driver.log ≠ some connection) :
      next.log = driver.log ∧ next.gastrSockets = staleSockets cmd sock driver :=
    replied_of_stale env _ _ names fun same => gone (current.mp same)
  refine ⟨?_, ?_, stale⟩
  · rintro ⟨msg, delivered⟩
    by_contra gone
    rw [(stale gone).1] at delivered
    have longer := delivered.length_le
    rw [List.length_cons] at longer
    omega
  · intro held noData
    have heard : driver.hasSocketCb = true :=
      (run_moves_any env events start).hasSocketCb.trans listening
    exact replied_of_current env u32Address heard names noData (current.mpr held)

theorem run_reply_reaches_its_connection_sent :
    let driver := run (withChip grants) [.call (.socket 2 1 0), .call (.send 0 (some [7]))]
      (socketInit uninitialised)
    ∃ msg, (Entry.callback 0 msg :: driver.log) <:+
      (replied (withChip grants) .send 8 8 [0, 0, 1, 0, 1, 0, 0, 0] driver).log := by
  have asked : (run (withChip grants) [.call (.socket 2 1 0), .call (.send 0 (some [7]))]
      (socketInit uninitialised)).log = [] ++ .request .send 0 1 :: [.opened 0] := by
    decide +kernel
  refine (run_reply_reaches_its_connection (withChip grants)
    ⟨uninitialised, rfl, rfl, rfl⟩ rfl [.call (.socket 2 1 0), .call (.send 0 (some [7]))]
    (run (withChip grants) [.call (.socket 2 1 0), .call (.send 0 (some [7]))]
      (socketInit uninitialised)).hif
    asked rfl (by rw [asked]; decide)
    (show replyTo .send [0, 0, 1, 0, 1, 0, 0, 0] = some (0, 1) from rfl)).2.1 ?_ ?_
  · show holder 0 (run _ _ _).log = _
    rw [asked]
    rfl
  · rintro ⟨impossible, _⟩
    revert impossible
    decide

end MicrochipDay.Winc
