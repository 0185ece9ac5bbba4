import MicrochipDay.Cloud.Continues

/-!
Owns what a failed start-up leads to. `CLOUD_startApp` returns early and posts
a failure, but the state stays INIT, where `errorHandler` leads back to INIT and
the table of handlers to `wifiConnect`: the first turn of the loop goes on
without the calls that failed and those that were left out.
-/

namespace MicrochipDay.Cloud

open MicrochipDay.Umqtt
open MicrochipDay.MqttClient
open MicrochipDay.Scheduler
open MicrochipDay.Library.EventLog

/-! ## What is asked of a run -/

/-- `wifiInit` and `tlsInit` have succeeded. -/
def Initialised (past : List Action) : Prop :=
  ∀ call ∈ startUpCalls, .call call m2mSuccess ∈ past

/-- `mqttTopicInit` has run: running it again would change nothing. -/
def TopicsNamed (world : World) (board : Board) : Prop := mqttTopicInit world board = board

/-- `m2m_wifi_connect` is called or a CONNECT packet handed over. -/
def Action.connects : Action → Bool
  | .call .m2mWifiConnect _ => true
  | .call (.send _ bytes) _ => packetType bytes = some umqttConnectType
  | _ => false

/-- Nothing has been connected before the start-up was complete. -/
structure StartedUpFirst (world : World) (board : Board) : Prop where
  initialised : EveryEntry (fun entry past => entry.connects = true → Initialised past) board.log
  named : (∃ entry ∈ board.log, entry.connects = true) → TopicsNamed world board

/-- The calls succeed, each given the log that it finds. -/
def CallsSucceed (world : World) (log : List Action) : List DriverCall → Prop
  | [] => True
  | call :: rest =>
      world.reply log call = m2mSuccess ∧
        CallsSucceed world (.call call m2mSuccess :: log) rest

/-- Every call of the start-up succeeds. -/
def StartUpSucceeds (world : World) : Prop := CallsSucceed world [] startUpCalls

instance (past : List Action) : Decidable (Initialised past) :=
  inferInstanceAs (Decidable (∀ call ∈ startUpCalls, Action.call call m2mSuccess ∈ past))

/-! ## Start-up -/

section StartUp

variable (world : World)

/-- The two calls of an initialisation were made in vain: one of them is missing
among the entries as a success. -/
structure InitFails (caller : Caller) (first second : DriverCall) (entries : List Action) :
    Prop where
  missing : .call first m2mSuccess ∉ entries ∨ .call second m2mSuccess ∉ entries
  calls : ∀ entry ∈ entries, entry = .receiveEvent caller .fail ∨
    ∃ rc, entry = .call first rc ∨ entry = .call second rc

/-- `wifiInit` and `tlsInit`, by their outcome. -/
theorem initSteps_cases (board : Board) (caller : Caller) {first second : DriverCall}
    (different : second ≠ first) :
    (CallsSucceed world board.log [first, second] ∧
      initSteps world board caller first second =
        ({ board with
          log := .call second m2mSuccess :: .call first m2mSuccess :: board.log }, .success)) ∨
    (¬CallsSucceed world board.log [first, second] ∧ ∃ entries,
      InitFails caller first second entries ∧
        initSteps world board caller first second =
          ({ board with occuredEvent := .fail, log := entries ++ board.log }, .fail)) := by
  unfold initSteps
  dsimp only [Board.callDriver, CallsSucceed]
  by_cases firstDone : world.reply board.log first = m2mSuccess
  · rw [firstDone]
    by_cases secondDone :
        world.reply (board.write (.call first m2mSuccess)).log second = m2mSuccess
    · rw [secondDone]
      exact Or.inl ⟨⟨rfl, secondDone, trivial⟩, rfl⟩
    · refine Or.inr ⟨fun done => secondDone done.2.1, [.receiveEvent caller .fail,
        .call second (world.reply (board.write (.call first m2mSuccess)).log second),
        .call first m2mSuccess], ⟨Or.inr ?_, by simp⟩, ?_⟩
      · simp [different, Ne.symm secondDone]
      · rw [if_neg (not_not_intro rfl), if_pos secondDone]
        rfl
  · refine Or.inr ⟨fun done => firstDone done.1, [.receiveEvent caller .fail,
      .call first (world.reply board.log first)], ⟨Or.inl ?_, by simp⟩, ?_⟩
    · simp [Ne.symm firstDone]
    · rw [if_pos firstDone]
      rfl

/-- Nothing of the start-up connects. -/
theorem InitFails.connects {caller : Caller} {first second : DriverCall} {entries : List Action}
    (fails : InitFails caller first second entries)
    (starting : first ∈ startUpCalls ∧ second ∈ startUpCalls) :
    ∀ entry ∈ entries, entry.connects = false := by
  have silent (call : DriverCall) (rc : Int) (starting : call ∈ startUpCalls) :
      (Action.call call rc).connects = false := by
    cases call <;> first | rfl | simp [startUpCalls] at starting
  intro entry member
  rcases fails.calls entry member with rfl | ⟨rc, rfl | rfl⟩
  · rfl
  · exact silent first rc starting.1
  · exact silent second rc starting.2

/-- What the start-up leaves, by its outcome: nothing is connected yet, an event
is pending, and the log has all the calls exactly if they succeed. -/
structure StartedApp (board : Board) : Prop where
  connects : ∀ entry ∈ board.log, entry.connects = false
  pending : board.occuredEvent ≠ .noEvent
  initialised : Initialised board.log ↔ StartUpSucceeds world
  named : StartUpSucceeds world → TopicsNamed world board

/-- A start-up that returns after an initialisation has failed. -/
theorem InitFails.startedApp {world : World} {caller : Caller} {first second : DriverCall}
    {entries older : List Action} {board : Board} (fails : InitFails caller first second entries)
    (starting : first ∈ startUpCalls ∧ second ∈ startUpCalls)
    (failed : ¬StartUpSucceeds world)
    (log : board.log = .receiveEvent .startApp .fail :: (entries ++ older))
    (event : board.occuredEvent = .fail)
    (before : ∀ entry ∈ older, entry.connects = false ∧
      entry ≠ .call first m2mSuccess ∧ entry ≠ .call second m2mSuccess) :
    StartedApp world board := by
  have inside {call : DriverCall} (initialised : Initialised board.log)
      (starting : call ∈ startUpCalls)
      (other : ∀ entry ∈ older, entry ≠ .call call m2mSuccess) :
      Action.call call m2mSuccess ∈ entries := by
    have member := initialised call starting
    rw [log, List.mem_cons, List.mem_append] at member
    rcases member with posted | inside | before
    · exact Action.noConfusion posted
    · exact inside
    · exact absurd rfl (other _ before)
  constructor
  · intro entry member
    rw [log, List.mem_cons, List.mem_append] at member
    rcases member with rfl | inside | older
    · rfl
    · exact fails.connects starting entry inside
    · exact (before entry older).1
  · rw [event]
    exact CloudEvent.noConfusion
  · refine iff_of_false ?_ failed
    intro initialised
    rcases fails.missing with missing | missing
    · exact missing (inside initialised starting.1 fun entry older => (before entry older).2.1)
    · exact missing (inside initialised starting.2 fun entry older => (before entry older).2.2)
  · exact fun done => absurd done failed

theorem startUpSucceeds_iff :
    StartUpSucceeds world ↔
      CallsSucceed world [] [.nmBspInit, .m2mWifiInit] ∧
        CallsSucceed world
          [.call .m2mWifiInit m2mSuccess, .call .nmBspInit m2mSuccess]
          [.m2mSslInit, .m2mSslSetActiveCiphersuites] := by
  simp [StartUpSucceeds, startUpCalls, CallsSucceed, and_assoc]

theorem cloudStartApp_started : StartedApp world (cloudStartApp world Board.initial) := by
  unfold cloudStartApp wifiInit tlsInit
  obtain ⟨wifiDone, wifi⟩ | ⟨wifiFailed, entries, fails, wifi⟩ :=
    initSteps_cases world Board.initial .wifiInit (by decide : DriverCall.m2mWifiInit ≠ .nmBspInit)
  · rw [wifi]
    obtain ⟨tlsDone, tls⟩ | ⟨tlsFailed, entries, fails, tls⟩ :=
      initSteps_cases world
        (mqttTopicInit world
          { Board.initial with
            log := .call .m2mWifiInit m2mSuccess :: .call .nmBspInit m2mSuccess ::
              Board.initial.log })
        .tlsInit (by decide : DriverCall.m2mSslSetActiveCiphersuites ≠ .m2mSslInit)
    · have done : StartUpSucceeds world := (startUpSucceeds_iff world).mpr ⟨wifiDone, tlsDone⟩
      simp only [ne_eq, not_true_eq_false, if_false, tls]
      constructor
      · simp [cloudReceiveEvent, Action.connects, Board.initial, mqttTopicInit]
      · exact CloudEvent.noConfusion
      · refine iff_of_true ?_ done
        simp [Initialised, startUpCalls, cloudReceiveEvent, mqttTopicInit]
      · exact fun _ => rfl
    · have failed : ¬StartUpSucceeds world := fun done =>
        tlsFailed ((startUpSucceeds_iff world).mp done).2
      simp only [ne_eq, not_true_eq_false, if_false, tls, reduceCtorEq, not_false_eq_true, if_true]
      apply fails.startedApp (by simp [startUpCalls]) failed rfl rfl
      simp [mqttTopicInit, Board.initial, Action.connects]
  · have failed : ¬StartUpSucceeds world := fun done =>
      wifiFailed ((startUpSucceeds_iff world).mp done).1
    rw [wifi]
    simp only [ne_eq, reduceCtorEq, not_false_eq_true, if_true]
    apply fails.startedApp (by simp [startUpCalls]) failed rfl rfl
    simp [Board.initial]

end StartUp

/-! ## The first turn -/

section FirstTurn

variable (world : World) (board : Board)

/-- No timer callback leaves the state or resets the board this early. -/
theorem callNextCallback_runs (early : board.wdtConnect < 100) :
    (board.callNextCallback world).inReset = board.inReset ∧
      (board.callNextCallback world).currentState = board.currentState := by
  cases taken : board.scheduler.takeExpired with
  | none =>
      rw [callNextCallback_of_none world taken]
      exact ⟨rfl, rfl⟩
  | some pair =>
      obtain ⟨timer, remaining⟩ := pair
      cases timer with
      | schedulerDummy =>
          unfold Board.callNextCallback SchedulerState.schedulerTimeoutCallNextCallback
          rw [taken]
          exact ⟨rfl, rfl⟩
      | user id =>
          cases id with
          | sendTask =>
              have core := callNextCallback_sendTask world taken
              exact ⟨congrArg CoreVariables.inReset core, congrArg CoreVariables.currentState core⟩
          | toggleLed =>
              have core := callNextCallback_toggleLed world taken early
              exact ⟨congrArg CoreVariables.inReset core, congrArg CoreVariables.currentState core⟩

/-- In the state INIT the handler is `wifiConnect`. -/
theorem enterNextState_connects (state : board.currentState = .init) :
    ∃ newer entries rc, (enterNextState world board).log =
        newer ++ .call .m2mWifiConnect rc :: (entries ++ board.log) ∧
      ∀ entry ∈ entries, entry.startsUp = false := by
  let started := board.start .wifiConnect
  let opened := (started.callDriver world .socketInit).1
  refine ⟨.entered .wifiConnect :: if world.reply opened.log .m2mWifiConnect ≠ m2mSuccess then
      [.receiveEvent (.handler .wifiConnect) .fail] else [],
    [.call .socketInit (world.reply started.log .socketInit),
      .started .wifiConnect board.umqttConn.state board.subInit],
    world.reply opened.log .m2mWifiConnect, ?_, by simp [Action.startsUp, startUpCalls]⟩
  unfold enterNextState
  rw [state]
  show .entered .wifiConnect ::
    Board.log (if world.reply opened.log .m2mWifiConnect ≠ m2mSuccess then
      cloudReceiveEvent (.handler .wifiConnect) .fail (opened.callDriver world .m2mWifiConnect).1
    else (opened.callDriver world .m2mWifiConnect).1) = _
  by_cases refused : world.reply opened.log .m2mWifiConnect ≠ m2mSuccess
  · rw [if_pos refused, if_pos refused]
    rfl
  · rw [if_neg refused, if_neg refused]
    rfl

theorem errorHandler_init (state : board.currentState = .init) :
    errorHandler board = (board.write (.errorHandler .init), .init) := by
  have notSending : (board.write (.errorHandler board.currentState)).currentState ≠ .sending := by
    show board.currentState ≠ .sending
    rw [state]
    decide
  unfold errorHandler
  dsimp only
  rw [if_neg notSending]
  simp only [Board.write, state, errorState]

/-- An event is taken out and, if it is a failure, `errorHandler` run: the state
INIT stays. -/
theorem consumeEvent_enters (state : board.currentState = .init) :
    ∃ dispatched, consumeEvent world board = enterNextState world dispatched ∧
      dispatched.currentState = .init ∧ ∃ entries, dispatched.log = entries ++ board.log ∧
        ∀ entry ∈ entries, entry.startsUp = false := by
  obtain ⟨connection, scheduler, observed⟩ := observed_frame board
  have log : board.observed.log = .consume board.currentState board.occuredEvent :: board.log := by
    rw [observed]
  have stays : board.observed.currentState = .init := by
    rw [observed]
    exact state
  rw [consumeEvent_eq]
  split
  · refine ⟨{ board.observed.write (.errorHandler .init) with currentState := .init }, ?_, rfl,
      [.errorHandler .init, .consume board.currentState board.occuredEvent],
      congrArg (Action.errorHandler .init :: ·) log, by simp [Action.startsUp]⟩
    rw [errorHandler_init board.observed stays]
  · exact ⟨board.observed, rfl, stays, [.consume board.currentState board.occuredEvent], log,
      by simp [Action.startsUp]⟩

/-- After a start-up the first turn calls `m2m_wifi_connect`, and in between
nothing of the start-up is called. -/
theorem takeTurn_connects (turn : Turn) (core : board.core = Board.initial.core)
    (pending : board.occuredEvent ≠ .noEvent) :
    ∃ newer entries rc, (takeTurn world board turn).log =
        newer ++ .call .m2mWifiConnect rc :: (entries ++ board.log) ∧
      ∀ entry ∈ entries, entry.startsUp = false := by
  obtain ⟨scheduler, polled⟩ := polled_core world board turn
  rw [core] at polled
  have early : (board.polled world turn).wdtConnect < 100 := by
    rw [show (board.polled world turn).wdtConnect = 0 from congrArg CoreVariables.wdtConnect polled]
    decide
  obtain ⟨reset, state⟩ := callNextCallback_runs world (board.polled world turn) early
  have running : ((board.polled world turn).callNextCallback world).inReset = false :=
    reset.trans (congrArg CoreVariables.inReset polled)
  have tested : (board.tested world turn).currentState = .init := by
    have kept : (board.tested world turn).currentState =
        ((board.polled world turn).callNextCallback world).currentState := by
      apply tested_keeps world turn fun next => next.currentState =
        ((board.polled world turn).callNextCallback world).currentState
      · exact fun _ _ same => same
      · rfl
    rw [kept, state]
    exact congrArg CoreVariables.currentState polled
  have continues := tested_continues world board turn
  obtain ⟨older, logged, oldRunning⟩ := continues.log
  obtain ⟨dispatched, consumed, init, between, loggedBetween, betweenRunning⟩ :=
    consumeEvent_enters world (board.tested world turn) tested
  obtain ⟨newer, entries, rc, written, newRunning⟩ :=
    enterNextState_connects world dispatched init
  refine ⟨newer, entries ++ (between ++ older), rc, ?_, ?_⟩
  · have awake : board.inReset = false := congrArg CoreVariables.inReset core
    unfold takeTurn
    rw [if_neg (by rw [awake]; decide), cloudRunTask_eq, if_neg (by rw [running]; decide),
      if_pos (continues.pending pending), consumed, written, loggedBetween, logged]
    simp only [List.append_assoc]
  · simp only [List.forall_mem_append]
    exact ⟨newRunning, betweenRunning, oldRunning⟩

end FirstTurn

/-! ## Runs -/

theorem topicsNamed_iff {world : World} {board : Board} :
    TopicsNamed world board ↔ board.names = (mqttTopicInit world board).names := by
  constructor
  · intro named
    rw [TopicsNamed.eq_1] at named
    exact (congrArg Board.names named).symm
  · intro same
    obtain ⟨clientid, topics⟩ := Prod.mk.inj same
    obtain ⟨topicSub, topic⟩ := Prod.mk.inj topics
    have conn : (mqttTopicInit world board).umqttConn = board.umqttConn := by
      show { board.umqttConn with clientid := (mqttTopicInit world board).umqttConn.clientid } =
        board.umqttConn
      rw [show (mqttTopicInit world board).umqttConn.clientid = board.umqttConn.clientid from
        clientid.symm]
    show { board with
      umqttConn := (mqttTopicInit world board).umqttConn
      mqttTopicSub := (mqttTopicInit world board).mqttTopicSub
      mqttTopic := (mqttTopicInit world board).mqttTopic } = board
    rw [conn, show (mqttTopicInit world board).mqttTopicSub = board.mqttTopicSub from topicSub.symm,
      show (mqttTopicInit world board).mqttTopic = board.mqttTopic from topic.symm]

/-- **What a failed start-up leads to.** A run connects nothing before the
start-up is complete exactly if every call of the start-up succeeds; else the
first turn of the loop already goes on to `m2m_wifi_connect`. -/
theorem run_startedUpFirst_iff (world : World) (turns : List Turn) :
    StartedUpFirst world (run world turns) ↔ turns = [] ∨ StartUpSucceeds world := by
  have started := cloudStartApp_started world
  obtain ⟨names, ⟨newer, logged, running⟩, -⟩ :=
    turns_continue world (cloudStartApp world Board.initial) turns
  constructor
  · intro first
    cases turns with
    | nil => exact Or.inl rfl
    | cons turn turns =>
        obtain ⟨later, entries, rc, written, between⟩ := takeTurn_connects world
          (cloudStartApp world Board.initial) turn (cloudStartApp_core world Board.initial)
          started.pending
        obtain ⟨-, ⟨after, loggedAfter, -⟩, -⟩ :=
          turns_continue world (takeTurn world (cloudStartApp world Board.initial) turn) turns
        have log : (run world (turn :: turns)).log = (after ++ later) ++
            .call .m2mWifiConnect rc :: (entries ++ (cloudStartApp world Board.initial).log) := by
          rw [List.append_assoc, ← written]
          exact loggedAfter
        have every := first.initialised
        rw [log] at every
        have initialised := every.at rfl
        refine Or.inr (started.initialised.mp fun call member => ?_)
        -- none of the calls is made while the loop runs
        rcases List.mem_append.mp (initialised call member) with inside | before
        · have never := between _ inside
          simp [Action.startsUp, member] at never
        · exact before
  · intro condition
    have silent : EveryEntry (fun entry past => entry.connects = true → Initialised past)
        (cloudStartApp world Board.initial).log :=
      everyEntry_of_forall fun entry member _ connects =>
        absurd connects (by simp [started.connects entry member])
    rcases condition with rfl | succeeds
    · refine ⟨silent, fun ⟨entry, member, connects⟩ => ?_⟩
      exact absurd connects (by simp [started.connects entry member])
    · have initialised := started.initialised.mpr succeeds
      constructor
      · show EveryEntry _ (turns.foldl (takeTurn world) (cloudStartApp world Board.initial)).log
        rw [logged]
        refine everyEntry_append.mpr ⟨everyEntry_of_forall ?_, silent⟩
        intro entry _ past _ call member
        exact List.mem_append_right _ (initialised call member)
      · intro _
        have named := topicsNamed_iff.mp (started.named succeeds)
        exact topicsNamed_iff.mpr (names.trans named)

/-- A world whose TLS layer cannot be initialised. -/
private def noTls : World :=
  World.steady fun call => if call = .m2mSslInit then -1 else m2mSuccess

/-- The first turn joins the network although TLS is not there. -/
theorem run_skipsFailedStartUp : ¬StartedUpFirst noTls (run noTls [.ofMessages []]) := by
  intro first
  have initialised := first.initialised
  revert initialised
  decide +kernel

end MicrochipDay.Cloud
