import MicrochipDay.Cloud.Frame

/-!
Owns the life of the program's sockets: which handles `socket()` has returned
that have not been passed to `close()` since. Only the driver's callbacks close
a socket. The state machine goes back to `tlsConnect` on a FAIL event, whether
or not what posted it has closed the socket.
-/

namespace MicrochipDay.Cloud

open MicrochipDay.Scheduler
open MicrochipDay.Library.EventLog

/-! ## Sockets in the log -/

/-- The handles that `socket()` has returned and that have not been closed since. -/
def openSockets : List Action → List Int
  | [] => []
  | .call .socket rc :: past => if 0 ≤ rc then rc :: openSockets past else openSockets past
  | .call (.close sock) _ :: past => (openSockets past).filter (· ≠ sock)
  | _ :: past => openSockets past

/-- What `tcpClientSocket` holds. -/
def storedSocket : List Action → Int
  | [] => -1
  | .call .socket rc :: _ => rc
  | _ :: past => storedSocket past

/-- Whenever `socket()` returns a handle, every earlier one has been closed, and
there is never more than one open socket. -/
def LeaksNoSocket (log : List Action) : Prop :=
  (∀ newer rc past, log = newer ++ .call .socket rc :: past → 0 ≤ rc → openSockets past = []) ∧
    ∀ past, past <:+ log → (openSockets past).length ≤ 1

/-- Whenever `socket()` returns a handle, a message on which its callback closes
the socket has arrived since each earlier handle was returned. -/
def ClosesInTime (log : List Action) : Prop :=
  ∀ newer rc between sock past,
    log = newer ++ .call .socket rc :: (between ++ .call .socket sock :: past) → 0 ≤ rc →
      0 ≤ sock → ∃ after message before, between = after ++ .callback message :: before ∧
        message.closes (storedSocket (before ++ .call .socket sock :: past)) = some sock

theorem openSockets_socket (rc : Int) (past : List Action) :
    openSockets (.call .socket rc :: past) =
      if 0 ≤ rc then rc :: openSockets past else openSockets past := rfl

theorem openSockets_close (sock rc : Int) (past : List Action) :
    openSockets (.call (.close sock) rc :: past) = (openSockets past).filter (· ≠ sock) := rfl

theorem mem_openSockets_cons {sock : Int} {entry : Action} {past : List Action} :
    sock ∈ openSockets (entry :: past) ↔
      entry = .call .socket sock ∧ 0 ≤ sock ∨
        sock ∈ openSockets past ∧ ∀ rc, entry ≠ .call (.close sock) rc := by
  cases entry with
  | call call rc =>
      cases call with
      | socket =>
          rw [openSockets_socket]
          by_cases opened : 0 ≤ rc
          · simp only [opened, if_true, List.mem_cons, Action.call.injEq, true_and]
            grind
          · simp only [opened, if_false, Action.call.injEq, true_and]
            grind
      | close closed =>
          have another : (∀ other, Action.call (.close closed) rc ≠ .call (.close sock) other) ↔
              sock ≠ closed := by
            constructor
            · rintro never rfl
              exact never rc rfl
            · rintro different other same
              cases same
              exact different rfl
          rw [openSockets_close, List.mem_filter, another]
          simp
      | _ => simp [openSockets]
  | _ => simp [openSockets]

theorem mem_openSockets {sock : Int} {log : List Action} :
    sock ∈ openSockets log ↔ ∃ between past, log = between ++ .call .socket sock :: past ∧
      0 ≤ sock ∧ ∀ rc, .call (.close sock) rc ∉ between := by
  induction log with
  | nil => simp [openSockets]
  | cons entry past inductionHypothesis =>
      rw [mem_openSockets_cons, inductionHypothesis]
      constructor
      · rintro (⟨rfl, opened⟩ | ⟨⟨between, older, rfl, opened, kept⟩, notClosed⟩)
        · exact ⟨[], past, rfl, opened, fun _ => List.not_mem_nil⟩
        · refine ⟨entry :: between, older, rfl, opened, fun rc member => ?_⟩
          rcases List.mem_cons.mp member with here | later
          · exact notClosed rc here.symm
          · exact kept rc later
      · intro ⟨between, older, split, opened, kept⟩
        cases between with
        | nil =>
            obtain ⟨rfl, rfl⟩ := List.cons_eq_cons.mp split
            exact Or.inl ⟨rfl, opened⟩
        | cons first rest =>
            obtain ⟨rfl, rfl⟩ := List.cons_eq_cons.mp split
            have keptRest := fun rc member => kept rc (List.mem_cons_of_mem entry member)
            refine Or.inr ⟨⟨rest, older, rfl, opened, keptRest⟩, ?_⟩
            rintro rc rfl
            exact kept rc List.mem_cons_self

/-! ## The callbacks close, and nothing else -/

structure SocketView where
  tcpClientSocket : Int
  /-- The socket that the running callback has still to close. -/
  closing : Option Int

/-- A callback that closes a socket does so at once. -/
def socketLog : LogMachine SocketView Action where
  initial := ⟨-1, none⟩
  next := fun view action =>
    match action with
    | .callback message => { view with closing := message.closes view.tcpClientSocket }
    | .call .socket rc => { view with tcpClientSocket := rc }
    | .call (.close _) _ => { view with closing := none }
    | _ => view
  Allowed := fun view action =>
    match action with
    | .call (.close sock) _ => view.closing = some sock
    | _ => view.closing = none

theorem socketLog_tcpClientSocket (log : List Action) :
    (socketLog.state log).tcpClientSocket = storedSocket log := by
  induction log with
  | nil => rfl
  | cons entry past inductionHypothesis =>
      rw [LogMachine.state_cons]
      cases entry with
      | call call rc =>
          cases call with
          | socket => rfl
          | _ => exact inductionHypothesis
      | _ => exact inductionHypothesis

/-- The callback for a message is to close the socket. -/
def ClosesFrom (base : List Action) (sock : Int) (entry : Action) (before : List Action) : Prop :=
  ∃ message, entry = .callback message ∧
    message.closes (storedSocket (before ++ base)) = some sock

/-- A socket has been closed or is being closed if a message for that has arrived. -/
theorem closed_iff_message {base between : List Action} {sock : Int}
    (accepted : socketLog.Accepts (between ++ base))
    (idle : (socketLog.state base).closing = none) :
    ((∃ rc, .call (.close sock) rc ∈ between) ∨
        (socketLog.state (between ++ base)).closing = some sock) ↔
      SomeEntry (ClosesFrom base sock) between := by
  induction between with
  | nil => simp [SomeEntry, idle]
  | cons entry between inductionHypothesis =>
      obtain ⟨allowed, acceptedBefore⟩ := LogMachine.accepts_cons.mp accepted
      have before := inductionHypothesis acceptedBefore
      have stored := socketLog_tcpClientSocket (between ++ base)
      rw [List.cons_append, LogMachine.state_cons]
      unfold SomeEntry
      rw [← before]
      cases entry with
      | callback message =>
          have idleBefore : (socketLog.state (between ++ base)).closing = none := allowed
          have next :
              (socketLog.next (socketLog.state (between ++ base)) (.callback message)).closing =
                message.closes (storedSocket (between ++ base)) := stored ▸ rfl
          rw [next, idleBefore]
          simp [ClosesFrom, or_comm]
      | call call rc =>
          cases call with
          | close closed =>
              have closing : (socketLog.state (between ++ base)).closing = some closed := allowed
              have next : (socketLog.next (socketLog.state (between ++ base))
                (.call (.close closed) rc)).closing = none := rfl
              rw [next, closing]
              simp [ClosesFrom, exists_or, or_comm, eq_comm]
          | _ => simp [ClosesFrom, socketLog]
      | _ => simp [ClosesFrom, socketLog]

theorem idle_of_socket {past : List Action} {rc : Int}
    (accepted : socketLog.Accepts (.call .socket rc :: past)) :
    (socketLog.state past).closing = none :=
  (LogMachine.accepts_cons.mp accepted).1

theorem idle_after_socket {past : List Action} {rc : Int}
    (accepted : socketLog.Accepts (.call .socket rc :: past)) :
    (socketLog.state (.call .socket rc :: past)).closing = none :=
  (LogMachine.accepts_cons.mp accepted).1

theorem length_openSockets_le {log : List Action}
    (closed : ∀ newer rc past, log = newer ++ .call .socket rc :: past → 0 ≤ rc →
      openSockets past = [])
    {past : List Action} (suffix : past <:+ log) : (openSockets past).length ≤ 1 := by
  induction past with
  | nil => exact Nat.zero_le _
  | cons entry past inductionHypothesis =>
      have bounded := inductionHypothesis ((List.suffix_cons entry past).trans suffix)
      obtain ⟨newer, split⟩ := suffix
      cases entry with
      | call call rc =>
          cases call with
          | socket =>
              rw [openSockets_socket]
              split
              · rename_i opened
                rw [closed newer rc past split.symm opened]
                exact Nat.le_refl 1
              · exact bounded
          | close sock =>
              rw [openSockets_close]
              exact (List.length_filter_le _ _).trans bounded
          | _ => exact bounded
      | _ => exact bounded

theorem leaksNoSocket_iff {log : List Action} (accepted : socketLog.Accepts log) :
    LeaksNoSocket log ↔ ClosesInTime log := by
  constructor
  · intro ⟨closed, _⟩ newer rc between sock past split opened sockOpened
    have allClosed := closed newer rc _ split opened
    have wasClosed : ∃ rc, .call (.close sock) rc ∈ between := by
      by_contra never
      have stillOpen : sock ∈ openSockets (between ++ .call .socket sock :: past) :=
        mem_openSockets.mpr ⟨between, past, rfl, sockOpened, fun rc member => never ⟨rc, member⟩⟩
      simp [allClosed] at stillOpen
    rw [split] at accepted
    have acceptedPast := (LogMachine.accepts_cons.mp accepted.of_append).2
    have idle : (socketLog.state (.call .socket sock :: past)).closing = none :=
      idle_after_socket acceptedPast.of_append
    have some := (closed_iff_message acceptedPast idle).mp (Or.inl wasClosed)
    obtain ⟨after, _, before, rfl, message, rfl, closes⟩ := someEntry_iff.mp some
    exact ⟨after, message, before, rfl, closes⟩
  · intro inTime
    have closed : ∀ newer rc past, log = newer ++ .call .socket rc :: past → 0 ≤ rc →
        openSockets past = [] := by
      intro newer rc past split opened
      apply List.eq_nil_iff_forall_not_mem.mpr
      intro sock member
      obtain ⟨between, older, rfl, sockOpened, kept⟩ := mem_openSockets.mp member
      obtain ⟨after, message, before, messageSplit, closes⟩ :=
        inTime newer rc between sock older split opened sockOpened
      rw [split] at accepted
      have acceptedPast := (LogMachine.accepts_cons.mp accepted.of_append).2
      have idle : (socketLog.state (.call .socket sock :: older)).closing = none :=
        idle_after_socket acceptedPast.of_append
      have arrived : SomeEntry (ClosesFrom (.call .socket sock :: older) sock) between :=
        someEntry_iff.mpr ⟨after, _, before, messageSplit, message, rfl, closes⟩
      rcases (closed_iff_message acceptedPast idle).mpr arrived with ⟨rc, wasClosed⟩ | closing
      · exact kept rc wasClosed
      · rw [idle_of_socket accepted.of_append] at closing
        exact absurd closing (by simp)
    exact ⟨closed, fun past suffix => length_openSockets_le closed suffix⟩

/-! ## The program's log -/

/-- Every close in the log belongs to a message, and none is outstanding. -/
structure LogsSockets (board : Board) : Prop where
  accepted : socketLog.Accepts board.log
  reached : socketLog.state board.log = ⟨board.tcpClientSocket, none⟩

namespace LogsSockets

variable (world : World) {board other : Board}

theorem of_quiet_entries (logs : LogsSockets board) (entries : List Action)
    (log : other.log = entries ++ board.log) (quiet : ∀ entry ∈ entries, entry.isQuiet = true)
    (handle : other.tcpClientSocket = board.tcpClientSocket) : LogsSockets other := by
  have follows : socketLog.Accepts (entries ++ board.log) ∧
      socketLog.state (entries ++ board.log) = ⟨board.tcpClientSocket, none⟩ := by
    clear log
    induction entries with
    | nil => exact ⟨logs.accepted, logs.reached⟩
    | cons entry entries inductionHypothesis =>
        obtain ⟨entryQuiet, entriesQuiet⟩ := List.forall_mem_cons.mp quiet
        obtain ⟨accepted, reached⟩ := inductionHypothesis entriesQuiet
        have idle := congrArg SocketView.closing reached
        rw [List.cons_append, LogMachine.accepts_cons, LogMachine.state_cons]
        cases entry with
        | callback message => simp [Action.isQuiet] at entryQuiet
        | call call rc =>
            cases call with
            | socket => simp [Action.isQuiet] at entryQuiet
            | close sock => simp [Action.isQuiet] at entryQuiet
            | _ => exact ⟨⟨idle, accepted⟩, reached⟩
        | _ => exact ⟨⟨idle, accepted⟩, reached⟩
  constructor
  · rw [log]
    exact follows.1
  · rw [log, handle]
    exact follows.2

theorem of_quiet (logs : LogsSockets board) (quiet : Quiet board other) : LogsSockets other := by
  obtain ⟨core, entries, log, entriesQuiet⟩ := quiet
  exact logs.of_quiet_entries entries log entriesQuiet (congrArg CoreVariables.tcpClientSocket core)

theorem entered (logs : LogsSockets board) (message : WincMessage) :
    LogsSockets (board.entered world message) := by
  have idle := congrArg SocketView.closing logs.reached
  have accepted : socketLog.Accepts (.callback message :: board.log) :=
    LogMachine.accepts_cons.mpr ⟨idle, logs.accepted⟩
  have reached : socketLog.state (.callback message :: board.log) =
      ⟨board.tcpClientSocket, message.closes board.tcpClientSocket⟩ := by
    rw [LogMachine.state_cons, logs.reached]
    rfl
  unfold Board.entered
  cases closes : message.closes board.tcpClientSocket with
  | none =>
      rw [closes] at reached
      exact ⟨accepted, reached⟩
  | some sock =>
      rw [closes] at reached
      constructor
      · exact LogMachine.accepts_cons.mpr ⟨congrArg SocketView.closing reached, accepted⟩
      · show socketLog.next (socketLog.state (.callback message :: board.log)) _ = _
        rw [reached]
        rfl

theorem socketCalled (logs : LogsSockets board) : LogsSockets (board.socketCalled world) := by
  have idle := congrArg SocketView.closing logs.reached
  constructor
  · exact LogMachine.accepts_cons.mpr ⟨idle, logs.accepted⟩
  · show socketLog.next (socketLog.state board.log) _ = _
    rw [logs.reached]
    rfl

theorem deliver (logs : LogsSockets board) (message : WincMessage) :
    LogsSockets (Cloud.deliver world board message) :=
  (logs.entered world message).of_quiet (deliver_serves world message).quiet

/-- One entry is written that is not about sockets. -/
theorem write (logs : LogsSockets board) {entry : Action}
    (log : other.log = entry :: board.log)
    (handle : other.tcpClientSocket = board.tcpClientSocket) (quiet : entry.isQuiet = true) :
    LogsSockets other :=
  logs.of_quiet_entries [entry] log (by simpa using quiet) handle

theorem of_same (logs : LogsSockets board) (log : other.log = board.log)
    (handle : other.tcpClientSocket = board.tcpClientSocket) : LogsSockets other :=
  logs.of_quiet_entries [] log (by simp) handle

theorem callNextCallback (logs : LogsSockets board) :
    LogsSockets (board.callNextCallback world) := by
  unfold Board.callNextCallback SchedulerState.schedulerTimeoutCallNextCallback
  split
  · exact logs
  · rename_i callbackTimer remaining _
    have popped : LogsSockets (board.setScheduler remaining) := logs.of_same rfl rfl
    have called :
        LogsSockets (timerCallback world (board.setScheduler remaining) callbackTimer).1 := by
      rcases callbackTimer with - | - | -
      · exact popped
      · exact popped.of_quiet (publishADC_serves world (Serves.refl _)).quiet
      · unfold timerCallback ledToggle
        dsimp only
        split
        · exact popped.write rfl rfl rfl
        · exact popped.of_same rfl rfl
    dsimp only
    split
    · exact called.of_same rfl rfl
    · exact called

theorem ledUserHandler (logs : LogsSockets board) (state : CloudState) (ev : CloudEvent) :
    LogsSockets (Cloud.ledUserHandler board state ev) := by
  obtain ⟨connection, scheduler, observed⟩ := ledUserHandler_frame board state ev
  rw [observed]
  exact logs.of_same rfl rfl

theorem errorHandler (logs : LogsSockets board) :
    LogsSockets
      { (Cloud.errorHandler board).1 with currentState := (Cloud.errorHandler board).2 } := by
  obtain ⟨scheduler, handled⟩ := errorHandler_frame board
  rw [handled]
  exact logs.write rfl rfl rfl

theorem enterNextState (logs : LogsSockets board) :
    LogsSockets (Cloud.enterNextState world board) := by
  have started : LogsSockets (board.start (handler board.currentState)) := logs.write rfl rfl rfl
  have ran : LogsSockets ((handler board.currentState).run world board).1 := by
    by_cases socket : handler board.currentState = .tlsConnect
    · rw [socket] at started ⊢
      exact (started.socketCalled world).of_quiet (tlsConnect_serves world).quiet
    · by_cases timer : handler board.currentState = .startSending
      · rw [timer] at started ⊢
        exact started.of_same rfl rfl
      · exact started.of_quiet (Handler.run_serves world _ socket timer).quiet
  exact ran.write rfl rfl rfl

theorem keptByParts : KeptByParts world LogsSockets where
  polls board step logs := by
    cases step with
    | message message => exact logs.deliver world message
    | rtc step => exact logs.of_same rfl rfl
  calls _ logs := logs.callNextCallback world
  observes board logs := by
    have consumed : LogsSockets ({ board with occuredEvent := .noEvent }.write
      (.consume board.currentState board.occuredEvent)) := logs.write rfl rfl rfl
    exact consumed.ledUserHandler board.currentState board.occuredEvent
  handles _ logs := logs.errorHandler
  enters _ logs := logs.enterNextState world

theorem run (turns : List Turn) : LogsSockets (Cloud.run world turns) := by
  have initial : LogsSockets Board.initial := ⟨trivial, rfl⟩
  have started := initial.of_quiet (cloudStartApp_quiet world (Quiet.refl Board.initial))
  exact (keptByParts world).run started turns

end LogsSockets

/-! ## Every run -/

/-- A run leaks no socket exactly if, before each handle that `socket()`
returns, a message has arrived on which its callback closes the handle before:
the socket did not connect, or its connection ended, or the Wi-Fi was lost while
`tcpClientSocket` held it. -/
theorem run_leaksNoSocket_iff (world : World) (turns : List Turn) :
    LeaksNoSocket (run world turns).log ↔ ClosesInTime (run world turns).log :=
  leaksNoSocket_iff (LogsSockets.run world turns).accepted

/-- A world in which `socket()` returns a new handle each time, `connect()` is
refused at once, and all else succeeds. -/
private def refusing : World :=
  { World.accepting with
    reply := fun log call =>
      match call with
      | .socket => (log.countP fun entry =>
          match entry with
          | .call .socket _ => true
          | _ => false : Nat)
      | .connect _ _ => -1
      | _ => m2mSuccess }

/-- The program gets as far as `tlsConnect`, twice. -/
private def connectsTwice : List Turn :=
  [Turn.ofMessages [], Turn.ofMessages [.wifi .dhcpConf],
    Turn.ofMessages [.ping pingErrSuccess], Turn.ofMessages [.dns 1], Turn.ofMessages []]

theorem run_leaksSocket :
    openSockets (run refusing connectsTwice).log = [1, 0] ∧
      ¬LeaksNoSocket (run refusing connectsTwice).log := by
  have both : openSockets (run refusing connectsTwice).log = [1, 0] := by decide +kernel
  refine ⟨both, fun leaks => ?_⟩
  have bounded := leaks.2 _ List.suffix_rfl
  rw [both] at bounded
  exact absurd bounded (by decide)

end MicrochipDay.Cloud
