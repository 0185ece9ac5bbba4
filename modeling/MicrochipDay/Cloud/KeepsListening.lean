import MicrochipDay.Cloud.Listening

/-!
Owns which runs keep the client listening: what the timers and the handlers do
to the connection, and the equivalence for whole runs.
-/

namespace MicrochipDay.Cloud

open MicrochipDay.Umqtt
open MicrochipDay.MqttClient
open MicrochipDay.Scheduler

/-! ## Timers -/

section Sends

variable (world : World) {board : Board}

/-- Some more sends, and none exactly if `send()` accepts no packet. -/
theorem sendLog_view (sock : Option Int) (log : List Action) (packets : List (List UInt8)) :
    ∃ accepted, listening (sendLog world sock log packets) =
        { listening log with outstanding := (listening log).outstanding + accepted } ∧
      (accepted = 0 ↔ ¬SendAccepted world sock log packets) := by
  induction packets generalizing log with
  | nil => exact ⟨0, rfl, by simp [SendAccepted]⟩
  | cons bytes packets inductionHypothesis =>
      obtain ⟨accepted, view, none⟩ := inductionHypothesis
        (.call (.send sock bytes) (world.reply log (.send sock bytes)) :: log)
      unfold SendAccepted
      by_cases first : world.reply log (.send sock bytes) = m2mSuccess
      · have one :
            listening (.call (.send sock bytes) (world.reply log (.send sock bytes)) :: log) =
              { listening log with outstanding := (listening log).outstanding + 1 } := if_pos first
        refine ⟨accepted + 1, ?_, by simp [first]⟩
        rw [sendLog, view, one, Nat.add_assoc, Nat.add_comm 1]
      · have same :
            listening (.call (.send sock bytes) (world.reply log (.send sock bytes)) :: log) =
              listening log := if_neg first
        refine ⟨accepted, ?_, by simpa [first] using none⟩
        rw [sendLog, view, same]

theorem sendLog_deaf_iff (sock : Option Int) (log : List Action) (packets : List (List UInt8)) :
    (listening (sendLog world sock log packets)).Deaf ↔
      (listening log).Deaf ∧ ¬SendAccepted world sock log packets := by
  obtain ⟨accepted, view, none⟩ := sendLog_view world sock log packets
  rw [view, ← none]
  simp only [Listening.Deaf, Nat.add_eq_zero_iff, and_assoc]

theorem publishADC_event : (publishADC world board).1.occuredEvent = board.occuredEvent := by
  unfold publishADC
  dsimp only
  split
  · simp only [Board.write, subscribe, publish, sendAll_eq]
  · simp only [Board.write, publish, sendAll_eq]

theorem publishADC_deaf_iff :
    (listening (publishADC world board).1.log).Deaf ↔
      (listening board.log).Deaf ∧
        ¬SendAccepted world (PacketOp.publishADC.socket board) board.log
          (PacketOp.publishADC.packets world board) := by
  rw [PacketOp.publishADC_log, ← sendLog_deaf_iff]
  rfl

section Taken

variable {remaining : SchedulerState TimerId}

theorem callbackRestores_of_taken {timer : Timer TimerId}
    (taken : board.scheduler.takeExpired = some (timer, remaining)) :
    CallbackRestores world board ↔
      (timer = .user .sendTask ∧
        SendAccepted world (PacketOp.publishADC.socket board) board.log
          (PacketOp.publishADC.packets world board)) ∨
      (timer = .user .toggleLed ∧ board.wdtConnect ≥ 100) := by
  unfold CallbackRestores
  rw [taken]
  cases timer with
  | schedulerDummy => simp
  | user id => cases id <;> simp

/-- The board behind a callback that may ask to be called again. -/
theorem callNextCallback_of_some {timer : Timer TimerId}
    (taken : board.scheduler.takeExpired = some (timer, remaining)) :
    ∃ scheduler, board.callNextCallback world =
      (timerCallback world (board.setScheduler remaining) timer).1.setScheduler scheduler := by
  unfold Board.callNextCallback SchedulerState.schedulerTimeoutCallNextCallback
  rw [taken]
  dsimp only
  split
  · exact ⟨_, rfl⟩
  · exact ⟨(timerCallback world (board.setScheduler remaining) timer).1.scheduler, rfl⟩

end Taken

/-- What a timer callback does to the client: it hears again exactly if `restores`
says so, which includes that the board is reset. -/
structure CallbackLeaves (restores : Prop) (board after : Board) : Prop where
  event : after.occuredEvent = board.occuredEvent
  state : after.currentState = board.currentState
  resets : board.inReset = false → after.inReset = true → restores
  deaf : after.inReset = false →
    ((listening after.log).Deaf ↔ (listening board.log).Deaf ∧ ¬restores)

namespace CallbackLeaves

variable {restores : Prop} {after : Board}

/-- A callback that touches neither the client nor the log. -/
theorem of_same (never : ¬restores) (event : after.occuredEvent = board.occuredEvent)
    (state : after.currentState = board.currentState) (runs : after.inReset = board.inReset)
    (log : after.log = board.log) : CallbackLeaves restores board after where
  event := event
  state := state
  resets := by
    intro running reset
    rw [← runs, reset] at running
    cases running
  deaf := by
    intro _
    rw [log]
    exact (and_iff_left never).symm

theorem congr {others : Prop} (same : restores ↔ others)
    (leaves : CallbackLeaves restores board after) : CallbackLeaves others board after :=
  propext same ▸ leaves

/-- The timers are no part of the client. -/
theorem setScheduler {before scheduler : SchedulerState TimerId}
    (leaves : CallbackLeaves restores (board.setScheduler before) after) :
    CallbackLeaves restores board (after.setScheduler scheduler) :=
  ⟨leaves.event, leaves.state, leaves.resets, leaves.deaf⟩

end CallbackLeaves

theorem publishADC_leaves (board : Board) :
    CallbackLeaves (SendAccepted world (PacketOp.publishADC.socket board) board.log
      (PacketOp.publishADC.packets world board)) board (publishADC world board).1 := by
  have core := (publishADC_serves world (Serves.refl board)).core
  have stays : (publishADC world board).1.inReset = board.inReset :=
    congrArg CoreVariables.inReset core
  refine ⟨publishADC_event world, congrArg CoreVariables.currentState core, ?_, ?_⟩
  · intro runs reset
    rw [← stays, reset] at runs
    cases runs
  · exact fun _ => publishADC_deaf_iff world

/-- `LED_toggle` counts, and resets the board after a hundred rounds. -/
theorem toggleLed_leaves (board : Board) :
    CallbackLeaves (board.wdtConnect ≥ 100) board
      (timerCallback world board (.user .toggleLed)).1 := by
  by_cases due : board.wdtConnect ≥ 100
  · have resets : timerCallback world board (.user .toggleLed) =
        ({ board with inReset := true }.write .reset, 0) := if_pos due
    rw [resets]
    refine ⟨rfl, rfl, fun _ _ => due, fun runs => ?_⟩
    exact absurd runs (by simp [Board.write])
  · have counts : timerCallback world board (.user .toggleLed) =
        ({ board with wdtConnect := board.wdtConnect + 1 }, toggleDelay) := if_neg due
    rw [counts]
    exact .of_same due rfl rfl rfl rfl

/-- What a timer callback does to the client, unless it resets the board. -/
theorem callNextCallback_leaves (board : Board) :
    CallbackLeaves (CallbackRestores world board) board (board.callNextCallback world) := by
  cases taken : board.scheduler.takeExpired with
  | none =>
      have never : ¬CallbackRestores world board := by
        unfold CallbackRestores
        rw [taken]
        exact id
      rw [callNextCallback_of_none world taken]
      exact .of_same never rfl rfl rfl rfl
  | some pair =>
      obtain ⟨timer, remaining⟩ := pair
      obtain ⟨scheduler, called⟩ := callNextCallback_of_some world taken
      rw [called]
      apply CallbackLeaves.congr (callbackRestores_of_taken world taken).symm
      apply @CallbackLeaves.setScheduler _ _ _ remaining
      cases timer with
      | schedulerDummy => exact .of_same (by simp) rfl rfl rfl rfl
      | user id =>
          cases id with
          | sendTask =>
              refine (publishADC_leaves world (board.setScheduler remaining)).congr ?_
              simp only [true_and, reduceCtorEq, false_and, or_false, Timer.user.injEq]
              rfl
          | toggleLed =>
              refine (toggleLed_leaves world (board.setScheduler remaining)).congr ?_
              simp only [true_and, reduceCtorEq, false_and, false_or, Timer.user.injEq]
              rfl

/-! ## Handlers -/

theorem request_view (board : Board) (handler : Handler) (call : DriverCall)
    (silent : ∀ (view : Listening) rc, view.next (.call call rc) = view) :
    let after := if (board.callDriver world call).2 ≠ m2mSuccess then
        cloudReceiveEvent (.handler handler) .fail (board.callDriver world call).1
      else (board.callDriver world call).1
    listening after.log = listening board.log ∧
      (after.occuredEvent = board.occuredEvent ∨ after.occuredEvent = .fail) := by
  have called : listening (board.callDriver world call).1.log = listening board.log := silent _ _
  dsimp only
  split
  · exact ⟨called, .inr rfl⟩
  · exact ⟨called, .inl rfl⟩

/-- What is left of a deaf connection by a handler, and what it posts. -/
def Handler.Leaves (handler : Handler) (board after : Board) : Prop :=
  ((listening after.log).Deaf ↔ (listening board.log).Deaf ∧ handler ≠ .tlsConnect ∧
      ¬(handler = .mqttConnect ∧ SendAccepted world (some board.tcpClientSocket)
        (.started .mqttConnect board.umqttConn.state board.subInit :: board.log)
        (mqttClientConnect board.umqttConn).2)) ∧
    (after.occuredEvent = board.occuredEvent ∨ after.occuredEvent = .fail)

theorem Handler.leaves_of_view {handler : Handler} {after : Board}
    (noSocket : handler ≠ .tlsConnect) (noSend : handler ≠ .mqttConnect)
    (view : listening after.log = listening board.log ∧
      (after.occuredEvent = board.occuredEvent ∨ after.occuredEvent = .fail)) :
    handler.Leaves world board after := by
  refine ⟨?_, view.2⟩
  rw [view.1]
  simp [noSocket, noSend]

/-- `tlsConnect` opens a new connection, which has not completed a send. -/
theorem tlsConnect_leaves (board : Board) :
    Handler.tlsConnect.Leaves world board (Handler.tlsConnect.run world board).1 := by
  let opened := (board.start .tlsConnect).socketCalled world
  let reported := if world.reply (board.start .tlsConnect).log .socket < 0 then
      cloudReceiveEvent (.handler .tlsConnect) .fail opened
    else opened
  have reportedView : listening reported.log = listening opened.log ∧
      (reported.occuredEvent = board.occuredEvent ∨ reported.occuredEvent = .fail) := by
    dsimp only [reported]
    split
    · exact ⟨rfl, .inr rfl⟩
    · exact ⟨rfl, .inl rfl⟩
  obtain ⟨view, event⟩ := request_view world reported .tlsConnect
    (.connect reported.tcpClientSocket reported.endpointIp) fun _ _ => rfl
  have silent : (listening (Handler.tlsConnect.run world board).1.log).heard = false :=
    (congrArg Listening.heard (view.trans reportedView.1)).trans rfl
  refine ⟨?_, ?_⟩
  · constructor
    · intro deaf
      exact absurd (silent.symm.trans deaf.1) (by simp)
    · exact fun left => absurd rfl left.2.1
  · rcases event with same | fails
    · rcases reportedView.2 with unchanged | failed
      · exact .inl (same.trans unchanged)
      · exact .inr (same.trans failed)
    · exact .inr fails

/-- `mqttConnect` sends at once. -/
theorem mqttConnect_leaves (board : Board) :
    Handler.mqttConnect.Leaves world board (Handler.mqttConnect.run world board).1 := by
  have sent : (Handler.mqttConnect.run world board).1 =
      { initUmqtt (board.start .mqttConnect) with
        umqttConn := (mqttClientConnect board.umqttConn).1
        log := sendLog world (some board.tcpClientSocket) (board.start .mqttConnect).log
          (mqttClientConnect board.umqttConn).2 } := by
    show (Cloud.mqttConnect world (board.start .mqttConnect)).1 = _
    unfold Cloud.mqttConnect
    dsimp only
    rw [sendAll_eq]
    rfl
  refine ⟨?_, ?_⟩
  · rw [sent]
    refine (sendLog_deaf_iff world _ _ _).trans ?_
    simp [Board.start, Board.write, listening, Listening.next]
  · rw [sent]
    exact .inl rfl

theorem Handler.run_leaves (handler : Handler) (board : Board) :
    handler.Leaves world board (handler.run world board).1 := by
  cases handler with
  | wifiConnect =>
      exact leaves_of_view world (by decide) (by decide) (request_view world
        ((board.start .wifiConnect).callDriver world .socketInit).1 .wifiConnect .m2mWifiConnect
        fun _ _ => rfl)
  | waitForInternet =>
      exact leaves_of_view world (by decide) (by decide) ⟨rfl, .inl rfl⟩
  | requestDns =>
      exact leaves_of_view world (by decide) (by decide) (request_view world
        { board.start .requestDns with endpointIp := 0 } .requestDns .gethostbyname fun _ _ => rfl)
  | tlsConnect => exact tlsConnect_leaves world board
  | mqttConnect => exact mqttConnect_leaves world board
  | startSending =>
      exact leaves_of_view world (by decide) (by decide) ⟨rfl, .inl rfl⟩

theorem handler_eq_tlsConnect_iff (state : CloudState) :
    handler state = .tlsConnect ↔ state = .dnsRequest := by
  cases state <;> decide

theorem handler_eq_mqttConnect_iff (state : CloudState) :
    handler state = .mqttConnect ↔ state = .tlsConnect := by
  cases state <;> decide

theorem enterNextState_view (board : Board) :
    let after := enterNextState world board
    ((listening after.log).Deaf ↔ (listening board.log).Deaf ∧ board.currentState ≠ .dnsRequest ∧
        ¬(board.currentState = .tlsConnect ∧ SendAccepted world (some board.tcpClientSocket)
          (.started .mqttConnect board.umqttConn.state board.subInit :: board.log)
          (mqttClientConnect board.umqttConn).2)) ∧
      (after.occuredEvent = board.occuredEvent ∨ after.occuredEvent = .fail) := by
  have ran := Handler.run_leaves world (handler board.currentState) board
  unfold Handler.Leaves at ran
  rw [ne_eq, handler_eq_tlsConnect_iff, handler_eq_mqttConnect_iff] at ran
  exact ran

theorem consumeSuccess_view (board : Board) (success : board.occuredEvent = .success) :
    ((listening (consumeEvent world board).log).Deaf ↔
        (listening board.log).Deaf ∧ ¬HandlerRestores world board) ∧
      (consumeEvent world board).occuredEvent ≠ .success := by
  obtain ⟨connection, scheduler, observed⟩ := observed_frame board
  have entered := enterNextState_view world board.observed
  have notFail : board.occuredEvent ≠ .fail := by
    rw [success]
    decide
  rw [consumeEvent_eq, if_neg notFail]
  rw [observed, success] at entered ⊢
  refine ⟨entered.1.trans ?_, ?_⟩
  · unfold HandlerRestores
    rw [success]
    refine and_congr_right' ?_
    cases state : board.currentState <;> simp
  · rcases entered.2 with same | fails
    · rw [same]
      exact CloudEvent.noConfusion
    · rw [fails]
      exact CloudEvent.noConfusion

theorem consumeFail_view (board : Board) (fails : board.occuredEvent = .fail) :
    ((listening (consumeEvent world board).log).Deaf ↔
        (listening board.log).Deaf ∧ ¬HandlerRestores world board) ∧
      (consumeEvent world board).occuredEvent ≠ .success := by
  obtain ⟨connection, scheduler, observed⟩ := observed_frame board
  obtain ⟨scheduler, handled⟩ := errorHandler_frame board.observed
  have entered := enterNextState_view world
    { (errorHandler board.observed).1 with currentState := (errorHandler board.observed).2 }
  rw [consumeEvent_eq, if_pos fails]
  rw [handled, observed] at entered ⊢
  refine ⟨entered.1.trans ?_, ?_⟩
  · unfold HandlerRestores
    rw [fails]
    refine and_congr_right' ?_
    cases state : board.currentState <;> simp [errorState]
  · rcases entered.2 with same | failed
    · rw [same]
      exact CloudEvent.noConfusion
    · rw [failed]
      exact CloudEvent.noConfusion

/-- Handling an event leaves a deaf connection deaf unless the handler opens a new
one or sends, and it leaves no success pending. -/
theorem consumeEvent_view (board : Board) (pending : board.occuredEvent ≠ .noEvent) :
    ((listening (consumeEvent world board).log).Deaf ↔
        (listening board.log).Deaf ∧ ¬HandlerRestores world board) ∧
      (consumeEvent world board).occuredEvent ≠ .success := by
  cases event : board.occuredEvent with
  | success => exact consumeSuccess_view world board event
  | fail => exact consumeFail_view world board event
  | noEvent => exact absurd event pending

/-! ## Turns -/

/-- The counter changes nothing but the timers before the event is tested. -/
theorem tested_eq (board : Board) (turn : Turn) :
    ∃ scheduler, board.tested world turn =
      ((board.polled world turn).callNextCallback world).setScheduler scheduler :=
  tested_keeps world turn
    (fun tested => ∃ scheduler, tested =
      ((board.polled world turn).callNextCallback world).setScheduler scheduler)
    (by
      rintro _ step ⟨scheduler, rfl⟩
      exact ⟨_, rfl⟩)
    ⟨_, rfl⟩

theorem hears_iff_of_no_success {board : Board} (none : board.occuredEvent ≠ .success) :
    board.Hears ↔ ¬(listening board.log).Deaf := by
  rw [board.hears_iff, eventSends_iff]
  simp [none]

theorem not_left_iff (deaf called handled : Prop) :
    ¬((deaf ∧ ¬called) ∧ ¬handled) ↔ (deaf → called ∨ handled) := by
  tauto

/-- Testing the event sees the client as the timer has left it. -/
theorem tested_view (board : Board) (turn : Turn) :
    let tested := board.tested world turn
    let called := (board.polled world turn).callNextCallback world
    ((listening tested.log).Deaf ↔ (listening called.log).Deaf) ∧
      (HandlerRestores world tested ↔ HandlerRestores world called) ∧
      tested.inReset = called.inReset := by
  obtain ⟨scheduler, tested⟩ := tested_eq world board turn
  dsimp only
  rw [tested]
  exact ⟨Iff.rfl, Iff.rfl, rfl⟩

/-- No event leads to no handler. -/
theorem not_handlerRestores_of_noEvent {board : Board} (empty : board.occuredEvent = .noEvent) :
    ¬HandlerRestores world board := by
  unfold HandlerRestores
  rw [empty]
  simp

/-- Behind the last message of a turn, a deaf client hears again exactly if the
timer or the event brings a send, opens a new connection or resets the board. -/
theorem takeTurn_hears_iff (board : Board) (turn : Turn) (running : board.inReset = false) :
    let polled := board.polled world turn
    ((takeTurn world board turn).inReset = false → (takeTurn world board turn).Hears) ↔
      ((listening polled.log).Deaf →
        CallbackRestores world polled ∨ HandlerRestores world (polled.callNextCallback world)) := by
  intro polled
  have leaves := callNextCallback_leaves world polled
  obtain ⟨testedDeaf, testedHandler, testedReset⟩ := tested_view world board turn
  have awake : polled.inReset = false := by
    obtain ⟨scheduler, core⟩ := polled_core world board turn
    exact (congrArg CoreVariables.inReset core).trans running
  unfold takeTurn
  rw [if_neg (by simp [running]), cloudRunTask_eq]
  by_cases reset : (polled.callNextCallback world).inReset = true
  · rw [if_pos reset]
    exact ⟨fun _ _ => .inl (leaves.resets awake reset), fun _ runs =>
      absurd (runs.symm.trans reset) (by simp)⟩
  · have runs : (polled.callNextCallback world).inReset = false := by simpa using reset
    have testedRuns := testedReset.trans runs
    rw [if_neg reset]
    by_cases pending : (board.tested world turn).occuredEvent ≠ .noEvent
    · obtain ⟨consumed, noSuccess⟩ := consumeEvent_view world (board.tested world turn) pending
      have stays : (consumeEvent world (board.tested world turn)).inReset = false :=
        (congrArg (fun detection => detection.2.2)
          (consumeEvent_detection world (board.tested world turn))).trans testedRuns
      rw [if_pos pending, hears_iff_of_no_success noSuccess, consumed, testedHandler, testedDeaf,
        leaves.deaf runs, ← not_left_iff]
      exact ⟨fun hears => hears stays, fun hears _ => hears⟩
    · have empty : (board.tested world turn).occuredEvent = .noEvent := by simpa using pending
      have noSuccess : (board.tested world turn).occuredEvent ≠ .success := by
        rw [empty]
        decide
      have never := not_handlerRestores_of_noEvent world empty
      rw [testedHandler] at never
      rw [if_neg pending, hears_iff_of_no_success noSuccess, testedDeaf, leaves.deaf runs,
        ← not_left_iff, and_iff_left never]
      exact ⟨fun hears => hears testedRuns, fun hears _ => hears⟩

/-! ## Polls -/

theorem isSocketMessage_of_deafens {step : PollStep} (deafens : Deafens world board step) :
    step.isSocketMessage = true := by
  unfold Deafens at deafens
  split at deafens
  · rfl
  · rfl
  · contradiction

/-- What deafens the client gives it nothing. -/
theorem not_restores_of_deafens {step : PollStep} (deafens : Deafens world board step) :
    ¬Restores world board step := by
  unfold Deafens at deafens
  split at deafens
  · next sock pstrRecv =>
    have stays : (WincMessage.socket sock (.recv (some pstrRecv))).closes board.tcpClientSocket =
        none := if_pos deafens.2.1
    show ¬(WincMessage.socket sock (.recv (some pstrRecv))).closes board.tcpClientSocket = _
    rw [stays]
    simp
  · exact deafens.2.2.2
  · contradiction

/-- The board behind a message hears if it is not deaf, and otherwise exactly if the
message leaves an event that sends. -/
theorem pollStep_hears_iff (ready : RxReady board.umqttConn) (step : PollStep) :
    (pollStep world board step).Hears ↔
      ((listening (pollStep world board step).log).Deaf → LeavesSend world board step) := by
  rw [Board.hears_iff, leavesSend_iff world ready]

/-- What a turn asks for from some board of its poll on. -/
def RestHears (board : Board) (steps : List PollStep) : Prop :=
  PollHears world board steps ∧
    ((listening (steps.foldl (pollStep world) board).log).Deaf →
      CallbackRestores world (steps.foldl (pollStep world) board) ∨
        HandlerRestores world ((steps.foldl (pollStep world) board).callNextCallback world))

/-- The client listens in the rest of a turn exactly if every message that deafens
it is made good for, and so is the deafness that the rest begins with. -/
theorem restHears_iff (known : LogsSockets board) (ready : RxReady board.umqttConn)
    (steps : List PollStep) :
    RestHears world board steps ↔
      ((listening board.log).Deaf → HearsAgain world board steps) ∧
        PollKeeps world board steps := by
  induction steps generalizing board with
  | nil => simp [RestHears, PollHears, HearsAgain, PollKeeps]
  | cons step steps inductionHypothesis =>
      have rest := inductionHypothesis ((LogsSockets.keptByParts world).polls _ step known)
        (pollStep_rxReady world ready step)
      have deaf := pollStep_deaf_iff world known.handleKnown ready step
      have hears := pollStep_hears_iff world ready step
      have unfolded : RestHears world board (step :: steps) ↔
          (step.isSocketMessage = true → (pollStep world board step).Hears) ∧
            RestHears world (pollStep world board step) steps := and_assoc
      rw [unfolded, rest, hears, deaf, HearsAgain, PollKeeps]
      -- only what the two lemmas say of the message matters from here on
      have socketMessage := @isSocketMessage_of_deafens world board step
      have givesNothing := @not_restores_of_deafens world board step
      generalize Deafens world board step = deafens at *
      generalize Restores world board step = restores at *
      generalize LeavesSend world board step = leaves at *
      generalize (listening board.log).Deaf = deafBefore at *
      constructor
      · rintro ⟨heard, again, keeps⟩
        refine ⟨fun deafBefore => ?_, fun deafens => ?_, keeps⟩
        · by_cases restored : restores
          · exact .inl restored
          · exact .inr ⟨fun message => heard message (.inl ⟨deafBefore, restored⟩),
              again (.inl ⟨deafBefore, restored⟩)⟩
        · exact ⟨heard (socketMessage deafens) (.inr deafens), again (.inr deafens)⟩
      · rintro ⟨hearsAgain, deafened, keeps⟩
        refine ⟨fun message => ?_, ?_, keeps⟩
        · rintro (⟨deafBefore, notRestored⟩ | deafens)
          · exact ((hearsAgain deafBefore).resolve_left notRestored).1 message
          · exact (deafened deafens).1
        · rintro (⟨deafBefore, notRestored⟩ | deafens)
          · exact ((hearsAgain deafBefore).resolve_left notRestored).2
          · exact (deafened deafens).2

/-! ## Runs -/

/-- Between two turns the client is not deaf. -/
theorem turn_hears_iff (logs : LogsSockets board) (ready : RxReady board.umqttConn)
    (listens : board.inReset = false → ¬(listening board.log).Deaf) (turn : Turn) :
    TurnHears world board turn ↔ TurnKeeps world board turn := by
  unfold TurnHears TurnKeeps
  refine imp_congr_right fun running => ?_
  have ends := takeTurn_hears_iff world board turn running
  dsimp only at ends
  rw [ends]
  refine (restHears_iff world logs ready turn.poll).trans ?_
  simp [listens running]

/-- A turn that ends without a reset leaves no success pending. -/
theorem takeTurn_noSuccess (turn : Turn) (running : board.inReset = false) :
    (takeTurn world board turn).inReset = false →
      (takeTurn world board turn).occuredEvent ≠ .success := by
  apply takeTurn_cases world board turn fun after =>
    after.inReset = false → after.occuredEvent ≠ .success
  · exact fun reset => absurd (running.symm.trans reset) (by simp)
  · exact fun reset runs => absurd (runs.symm.trans reset) (by simp)
  · exact fun _ pending _ => (consumeEvent_view world _ pending).2
  · intro _ empty _
    rw [empty]
    decide

/-- A turn in which the client listens leaves it so. -/
theorem takeTurn_listens (turn : Turn) (hears : TurnHears world board turn)
    (listens : board.inReset = false → ¬(listening board.log).Deaf) :
    (takeTurn world board turn).inReset = false →
      ¬(listening (takeTurn world board turn).log).Deaf := by
  intro stays
  by_cases running : board.inReset = false
  · have noSuccess := takeTurn_noSuccess world turn running stays
    exact (hears_iff_of_no_success noSuccess).mp ((hears running).2 stays)
  · have stopped : takeTurn world board turn = board := if_pos (by simpa using running)
    rw [stopped] at stays ⊢
    exact listens stays

theorem everyTurn_hears_iff (turns : List Turn) (logs : LogsSockets board)
    (ready : RxReady board.umqttConn)
    (listens : board.inReset = false → ¬(listening board.log).Deaf) :
    EveryTurn world (TurnHears world) board turns ↔
      EveryTurn world (TurnKeeps world) board turns := by
  induction turns generalizing board with
  | nil => exact Iff.rfl
  | cons turn turns inductionHypothesis =>
      have first := turn_hears_iff world logs ready listens turn
      unfold EveryTurn
      rw [← first]
      refine and_congr_right fun hears => ?_
      exact inductionHypothesis ((LogsSockets.keptByParts world).takeTurn turn logs)
        ((rxReady_kept world).takeTurn turn ready) (takeTurn_listens world turn hears listens)

/-- Quiet entries do not deliver anything on a connection. -/
theorem listening_heard {entries : List Action} (log : List Action)
    (quiet : ∀ entry ∈ entries, entry.isQuiet = true) :
    (listening (entries ++ log)).heard = (listening log).heard := by
  induction entries with
  | nil => rfl
  | cons entry entries inductionHypothesis =>
      obtain ⟨first, rest⟩ := List.forall_mem_cons.mp quiet
      refine Eq.trans ?_ (inductionHypothesis rest)
      show ((listening (entries ++ log)).next entry).heard = _
      unfold Listening.next
      split
      all_goals first | contradiction | rfl | (split <;> rfl)

theorem initSteps_rxReady (ready : RxReady board.umqttConn) (caller : Caller)
    (first second : DriverCall) :
    RxReady (initSteps world board caller first second).1.umqttConn := by
  unfold initSteps
  dsimp only
  split
  · exact ready
  · split
    · exact ready
    · exact ready

theorem cloudStartApp_rxReady : RxReady (cloudStartApp world Board.initial).umqttConn := by
  have initial : RxReady Board.initial.umqttConn :=
    { valid :=
        { positive := by decide
          storage := (umqttConn_hasStorage CString.empty).rxStorage
          inside := by decide
          filled := Nat.zero_le _ }
      capacity := rfl }
  have wifi : RxReady (wifiInit world Board.initial).1.umqttConn :=
    initSteps_rxReady world initial _ _ _
  have named : RxReady (mqttTopicInit world (wifiInit world Board.initial).1).umqttConn :=
    wifi.of_rxbuff rfl
  have tls := initSteps_rxReady world named .tlsInit .m2mSslInit .m2mSslSetActiveCiphersuites
  unfold cloudStartApp
  dsimp only
  split
  · exact wifi
  · split
    · exact tls
    · exact tls

end Sends

section Decidability

variable (world : World)

instance decidablePollHears : ∀ board steps, Decidable (PollHears world board steps)
  | _, [] => isTrue trivial
  | board, step :: rest =>
      have := decidablePollHears (pollStep world board step) rest
      inferInstanceAs (Decidable (_ ∧ _))

instance (board : Board) (turn : Turn) : Decidable (TurnHears world board turn) :=
  inferInstanceAs (Decidable (_ → _ ∧ (_ → _)))

instance (view : Listening) : Decidable view.Deaf :=
  inferInstanceAs (Decidable (_ ∧ _ ∧ _))

end Decidability

/-- A session up to the first CONNACK. -/
private def connecting : List Turn :=
  [.ofMessages [], .ofMessages [.wifi .dhcpConf], .ofMessages [.ping pingErrSuccess],
    .ofMessages [.dns 1], .ofMessages [.socket 1 (.connect (some 0))],
    .ofMessages [.socket 1 .send],
    .ofMessages [.socket 1 (.recv (some connackSegment))]]

/-- `publishADC` is called, its two sends are completed and the SUBACK arrives. -/
private def subscribed : List Turn :=
  connecting ++ [⟨[.rtc (.count 1), .rtc .interrupt], []⟩,
    .ofMessages [.socket 1 .send, .socket 1 .send],
    .ofMessages [.socket 1 (.recv (some ⟨[0x90, 3, 0, 1, 0], 5, by decide⟩))]]

end MicrochipDay.Cloud
