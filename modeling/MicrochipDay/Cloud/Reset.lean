import MicrochipDay.Cloud.SendTask

/-!
Owns when `LED_toggle` resets the board: at its 101st call. `LED_userHandler`
starts the timer when a ping fails, but when a ping succeeds again it neither
stops the timer nor clears `wdt_connect`, so that the calls of all outages, and
those made while the board is online, are counted together.
-/

namespace MicrochipDay.Cloud

open MicrochipDay.Scheduler

/-! ## A turn -/

section Turns

variable (world : World)

/-- `LED_toggle` is called. -/
def Toggles (board : Board) (turn : Turn) : Prop :=
  board.inReset = false ∧
    (board.polled world turn).scheduler.executeQueueHead = some (.user .toggleLed)

/-- `LED_toggle` calls `RSTCTRL_reset`. -/
def Resets (board : Board) (turn : Turn) : Prop :=
  board.inReset = false ∧ (takeTurn world board turn).inReset = true

/-- An outage ends: SUCCESS is observed while waiting for internet, with the
connection known to be lost. -/
def Recovers (board : Board) (turn : Turn) : Prop :=
  ((board.polled world turn).callNextCallback world).inReset = false ∧
    (board.tested world turn).occuredEvent = .success ∧
    (board.tested world turn).currentState = .waitForInternet ∧
    (board.tested world turn).isInternetConnection = false

instance (board : Board) (turn : Turn) : Decidable (Toggles world board turn) :=
  inferInstanceAs (Decidable (_ ∧ _))

instance (board : Board) (turn : Turn) : Decidable (Recovers world board turn) :=
  inferInstanceAs (Decidable (_ ∧ _ ∧ _ ∧ _))

/-- The calls of `LED_toggle` in some turns. -/
def toggleCalls : Board → List Turn → Nat
  | _, [] => 0
  | board, turn :: rest =>
      (if Toggles world board turn then 1 else 0) +
        toggleCalls (takeTurn world board turn) rest

/-- What holds of every turn and the board before it. -/
def EveryTurn (Holds : Board → Turn → Prop) : Board → List Turn → Prop
  | _, [] => True
  | board, turn :: rest =>
      Holds board turn ∧ EveryTurn Holds (takeTurn world board turn) rest

instance everyTurnDecidable (Holds : Board → Turn → Prop)
    [∀ board turn, Decidable (Holds board turn)] :
    (board : Board) → (turns : List Turn) → Decidable (EveryTurn world Holds board turns)
  | _, [] => isTrue trivial
  | board, turn :: rest =>
      have := everyTurnDecidable Holds (takeTurn world board turn) rest
      inferInstanceAs (Decidable (_ ∧ _))

variable (board : Board)

/-! ### The offline detection in a turn -/

/-- While it polls, the program touches nothing of the core but the timers. -/
theorem polled_core (turn : Turn) :
    ∃ scheduler, (board.polled world turn).core = { board.core with scheduler := scheduler } := by
  apply polled_keeps world turn fun polled =>
    ∃ scheduler, polled.core = { board.core with scheduler := scheduler }
  · intro board step ⟨scheduler, same⟩
    cases step with
    | message message =>
        refine ⟨scheduler, ?_⟩
        show (deliver world board message).core = _
        rw [deliver_core, same]
    | rtc step =>
        refine ⟨board.scheduler.rtcStep step, ?_⟩
        show ({ board.core with scheduler := _ } : CoreVariables) = _
        rw [same]
        rfl
  · exact ⟨board.scheduler, rfl⟩

theorem polled_detection (turn : Turn) :
    (board.polled world turn).core.detection = board.core.detection := by
  obtain ⟨scheduler, core⟩ := polled_core world board turn
  rw [core]
  rfl

theorem tested_detection (turn : Turn) :
    (board.tested world turn).core.detection =
      ((board.polled world turn).callNextCallback world).core.detection := by
  apply tested_keeps world turn fun tested =>
    tested.core.detection = ((board.polled world turn).callNextCallback world).core.detection
  · exact fun _ _ same => same
  · rfl

/-- What the observer makes of an event. -/
def observed (isInternetConnection : Bool) : CloudState → CloudEvent → Bool
  | .waitForInternet, .fail => false
  | .waitForInternet, .success => true
  | _, _ => isInternetConnection

theorem ledUserHandler_detection (state : CloudState) (ev : CloudEvent) :
    (ledUserHandler board state ev).core.detection =
      (observed board.isInternetConnection state ev, board.wdtConnect, board.inReset) := by
  unfold ledUserHandler
  split
  · split
    · rfl
    · rename_i lost
      simp only [observed, CoreVariables.detection, Board.core, lost]
  · rfl
  · rename_i notFail notSuccess
    unfold observed
    split
    · exact (notFail rfl rfl).elim
    · exact (notSuccess rfl rfl).elim
    · rfl

theorem errorHandler_detection :
    (Board.core
      { (errorHandler board).1 with currentState := (errorHandler board).2 }).detection =
      board.core.detection := by
  obtain ⟨scheduler, handled⟩ := errorHandler_frame board
  rw [handled]
  rfl

theorem enterNextState_detection :
    (enterNextState world board).core.detection = board.core.detection :=
  Handler.run_detection world _

theorem consumeEvent_detection :
    (consumeEvent world board).core.detection =
      (observed board.isInternetConnection board.currentState board.occuredEvent,
        board.wdtConnect, board.inReset) := by
  unfold consumeEvent
  dsimp only
  rw [enterNextState_detection]
  split
  · rw [errorHandler_detection, ledUserHandler_detection]
    rfl
  · rw [ledUserHandler_detection]
    rfl

/-! ### The timer of `LED_toggle` -/

variable {board}

/-- The timer waits only while the connection is lost. -/
def CoreVariables.TogglesOffline (core : CoreVariables) : Prop :=
  ∃ waits, Schedules core.scheduler .toggleLed waits ∧ (waits → core.isInternetConnection = false)

theorem pollStep_togglesOffline (offline : board.core.TogglesOffline) (step : PollStep) :
    (pollStep world board step).core.TogglesOffline := by
  cases step with
  | message message =>
      show (deliver world board message).core.TogglesOffline
      rw [deliver_core]
      exact offline
  | rtc step =>
      obtain ⟨waits, schedules, lost⟩ := offline
      exact ⟨waits, schedules.rtcStep step, lost⟩

theorem callNextCallback_togglesOffline (offline : board.core.TogglesOffline) :
    (board.callNextCallback world).core.TogglesOffline := by
  cases taken : board.scheduler.takeExpired with
  | none =>
      rw [callNextCallback_of_none world taken]
      exact offline
  | some pair =>
      obtain ⟨callbackTimer, remaining⟩ := pair
      obtain ⟨waits, schedules, lost⟩ := offline
      obtain ⟨id, rfl, first, remains⟩ := schedules.takeExpired taken
      cases id with
      | sendTask =>
          rw [callNextCallback_sendTask world taken]
          exact ⟨waits, (remains.create .sendTask publishInterval).congr (by simp), lost⟩
      | toggleLed =>
          have waited := schedules.of_executeQueueHead first
          by_cases due : board.wdtConnect ≥ 100
          · rw [callNextCallback_reset world taken due]
            exact ⟨_, remains, fun both => absurd rfl both.1⟩
          · rw [callNextCallback_toggleLed world taken (UInt32.not_le.mp due)]
            exact ⟨waits, (remains.create .toggleLed toggleDelay).congr (by simp [waited]), lost⟩

theorem ledUserHandler_togglesOffline (offline : board.core.TogglesOffline) (state : CloudState)
    (ev : CloudEvent)
    (stays : ev = .success → state = .waitForInternet → board.isInternetConnection = true) :
    (ledUserHandler board state ev).core.TogglesOffline := by
  unfold ledUserHandler
  obtain ⟨waits, schedules, lost⟩ := offline
  split
  · split
    · have restarted := (schedules.delete .toggleLed).create .toggleLed 0
      exact ⟨_, restarted, fun _ => rfl⟩
    · exact ⟨waits, schedules, lost⟩
  · have online := stays rfl rfl
    refine ⟨waits, schedules, fun waited => ?_⟩
    have nowLost : board.isInternetConnection = false := lost waited
    rw [online] at nowLost
    exact nowLost
  · exact ⟨waits, schedules, lost⟩

theorem errorHandler_togglesOffline (offline : board.core.TogglesOffline) :
    (Board.core
      { (errorHandler board).1 with currentState := (errorHandler board).2 }).TogglesOffline := by
  obtain ⟨waits, schedules, lost⟩ := offline
  unfold errorHandler
  dsimp only
  split
  · exact ⟨waits, (schedules.delete .sendTask).congr (by simp), lost⟩
  · exact ⟨waits, schedules, lost⟩

theorem enterNextState_togglesOffline (offline : board.core.TogglesOffline) :
    (enterNextState world board).core.TogglesOffline := by
  obtain ⟨waits, schedules, lost⟩ := offline
  have same := congrArg Prod.fst
    (enterNextState_detection world board)
  refine ⟨waits, ?_, fun waited => same.trans (lost waited)⟩
  show Schedules ((handler board.currentState).run world board).1.scheduler _ _
  by_cases sends : handler board.currentState = .startSending
  · rw [sends]
    exact ((schedules.delete .sendTask).create .sendTask 0).congr (by simp)
  · rw [Handler.run_scheduler world _ sends]
    exact schedules

theorem consumeEvent_togglesOffline (offline : board.core.TogglesOffline)
    (stays : board.occuredEvent = .success → board.currentState = .waitForInternet →
      board.isInternetConnection = true) :
    (consumeEvent world board).core.TogglesOffline := by
  have consumed : (Board.core ({ board with occuredEvent := .noEvent }.write
    (.consume board.currentState board.occuredEvent))).TogglesOffline := offline
  apply consumeEvent_keeps world fun board => board.core.TogglesOffline
  · exact ledUserHandler_togglesOffline consumed board.currentState board.occuredEvent stays
  · exact fun _ => errorHandler_togglesOffline
  · exact fun _ => enterNextState_togglesOffline world

/-- What a timer callback does to the offline detection. -/
def counted (core : CoreVariables) : Bool × UInt32 × Bool :=
  if core.scheduler.executeQueueHead = some (.user .toggleLed) then
    if core.wdtConnect ≥ 100 then (core.isInternetConnection, core.wdtConnect, true)
    else (core.isInternetConnection, core.wdtConnect + 1, core.inReset)
  else core.detection

theorem callNextCallback_detection {timer : TimerId} {waits : Prop}
    (schedules : Schedules board.scheduler timer waits) :
    (board.callNextCallback world).core.detection = counted board.core := by
  unfold counted
  cases taken : board.scheduler.takeExpired with
  | none =>
      have empty : board.core.scheduler.executeQueueHead = none := by
        unfold SchedulerState.takeExpired at taken
        exact Option.map_eq_none_iff.mp taken
      rw [callNextCallback_of_none world taken, if_neg (by simp [empty])]
  | some pair =>
      obtain ⟨callbackTimer, remaining⟩ := pair
      obtain ⟨id, rfl, first, _⟩ := schedules.takeExpired taken
      have firstOfCore : board.core.scheduler.executeQueueHead = some (.user id) := first
      cases id with
      | sendTask =>
          rw [callNextCallback_sendTask world taken, if_neg (by simp [firstOfCore])]
          rfl
      | toggleLed =>
          rw [if_pos firstOfCore]
          by_cases due : board.wdtConnect ≥ 100
          · rw [callNextCallback_reset world taken due]
            exact (if_pos due).symm
          · rw [callNextCallback_toggleLed world taken (UInt32.not_le.mp due)]
            exact (if_neg due).symm

theorem counted_connection (core : CoreVariables) :
    (counted core).1 = core.isInternetConnection := by
  unfold counted
  split_ifs
  · rfl
  · rfl
  · rfl

section Turn

variable {turn : Turn}

theorem polled_togglesOffline (offline : board.core.TogglesOffline) (turn : Turn) :
    (board.polled world turn).core.TogglesOffline :=
  polled_keeps world turn (fun board => board.core.TogglesOffline)
    (fun _ step offline => pollStep_togglesOffline world offline step) offline

theorem tested_togglesOffline (offline : board.core.TogglesOffline) (turn : Turn) :
    (board.tested world turn).core.TogglesOffline := by
  have called := callNextCallback_togglesOffline world (polled_togglesOffline world offline turn)
  apply tested_keeps world turn fun board => board.core.TogglesOffline
  · intro board step ⟨waits, schedules, lost⟩
    exact ⟨waits, schedules.rtcStep step, lost⟩
  · exact called

/-- Polling and the timer callbacks do not look at the connection. -/
theorem tested_connection (offline : board.core.TogglesOffline) (turn : Turn) :
    (board.tested world turn).isInternetConnection = board.isInternetConnection := by
  obtain ⟨waits, schedules, _⟩ := polled_togglesOffline world offline turn
  have detection := (tested_detection world board turn).trans
    (callNextCallback_detection world schedules)
  have connection := congrArg Prod.fst detection
  rw [counted_connection] at connection
  exact connection.trans (congrArg Prod.fst (polled_detection world board turn))

theorem takeTurn_togglesOffline (offline : board.core.TogglesOffline)
    (stays : ¬Recovers world board turn) : (takeTurn world board turn).core.TogglesOffline := by
  have tested := tested_togglesOffline world offline turn
  apply takeTurn_cases world board turn fun board => board.core.TogglesOffline
  · exact fun _ => offline
  · exact fun _ => callNextCallback_togglesOffline world (polled_togglesOffline world offline turn)
  · intro running _
    apply consumeEvent_togglesOffline world tested
    intro success waiting
    by_contra lost
    exact stays ⟨running, success, waiting, Bool.eq_false_iff.mpr lost⟩
  · exact fun _ _ => tested

/-- A turn that does not end an outage keeps the connection lost. -/
theorem takeTurn_lost (offline : board.core.TogglesOffline) (stays : ¬Recovers world board turn)
    (lost : board.isInternetConnection = false) :
    (takeTurn world board turn).isInternetConnection = false := by
  have connection := (tested_connection world offline turn).trans lost
  have called := congrArg Prod.fst (tested_detection world board turn)
  apply takeTurn_cases world board turn fun board => board.isInternetConnection = false
  · exact fun _ => lost
  · exact fun _ => called.symm.trans connection
  · intro running _
    have observes := congrArg Prod.fst
      (consumeEvent_detection world (board.tested world turn))
    apply observes.trans
    dsimp only
    rw [connection]
    unfold observed
    split
    · rfl
    · rename_i waiting success
      exact absurd ⟨running, success, waiting, connection⟩ stays
    · rfl
  · exact fun _ _ => connection

/-- `LED_toggle` is called only while the connection is lost. -/
theorem lost_of_toggles (offline : board.core.TogglesOffline)
    (toggles : Toggles world board turn) : board.isInternetConnection = false := by
  obtain ⟨waits, schedules, lost⟩ := polled_togglesOffline world offline turn
  have polled := lost (schedules.of_executeQueueHead toggles.2)
  exact (congrArg Prod.fst (polled_detection world board turn)).symm.trans polled

theorem takeTurn_watchdog {timer : TimerId} {waits : Prop}
    (schedules : Schedules (board.polled world turn).scheduler timer waits)
    (running : board.inReset = false) :
    (takeTurn world board turn).core.detection.2 =
      (counted (board.polled world turn).core).2 := by
  have detection := callNextCallback_detection world schedules
  rw [← detection]
  apply takeTurn_cases world board turn fun after => after.core.detection.2 =
    ((board.polled world turn).callNextCallback world).core.detection.2
  · intro reset
    exact absurd (running.symm.trans reset) (by simp)
  · exact fun _ => rfl
  · intro _ _
    have called := congrArg Prod.snd (tested_detection world board turn)
    rw [consumeEvent_detection]
    exact called
  · intro _ _
    rw [tested_detection]

end Turn

/-! ## Runs -/

theorem run_concat (turns : List Turn) (turn : Turn) :
    run world (turns ++ [turn]) = takeTurn world (run world turns) turn := by
  unfold run
  rw [List.foldl_append]
  rfl

theorem toggleCalls_concat (board : Board) (turns : List Turn) (turn : Turn) :
    toggleCalls world board (turns ++ [turn]) = toggleCalls world board turns +
      if Toggles world (turns.foldl (takeTurn world) board) turn then 1 else 0 := by
  induction turns generalizing board with
  | nil => exact Nat.add_comm _ _
  | cons first rest inductionHypothesis =>
      have later := inductionHypothesis (takeTurn world board first)
      rw [List.cons_append, toggleCalls, later, ← Nat.add_assoc]
      rfl

/-- The calls of `LED_toggle` in a run. -/
def runToggleCalls (turns : List Turn) : Nat :=
  toggleCalls world (cloudStartApp world Board.initial) turns

theorem runToggleCalls_concat (turns : List Turn) (turn : Turn) :
    runToggleCalls world (turns ++ [turn]) = runToggleCalls world turns +
      if Toggles world (run world turns) turn then 1 else 0 :=
  toggleCalls_concat world _ turns turn

theorem run_polled_schedules (turns : List Turn) (turn : Turn) :
    ((run world turns).polled world turn).core.Publishes :=
  polled_keeps world turn (fun board => board.core.Publishes)
    (fun _ step publishes => pollStep_publishes world publishes step) (run_publishes world turns)

/-- `wdt_connect` counts the calls, and the call that would make it 101 resets. -/
theorem run_watchdog (turns : List Turn) (turn : Turn)
    (running : (run world turns).inReset = false) :
    (takeTurn world (run world turns) turn).core.detection.2 =
      if Toggles world (run world turns) turn then
        if (run world turns).wdtConnect ≥ 100 then ((run world turns).wdtConnect, true)
        else ((run world turns).wdtConnect + 1, false)
      else ((run world turns).wdtConnect, false) := by
  have polled := congrArg Prod.snd (polled_detection world (run world turns) turn)
  have wdtConnect : ((run world turns).polled world turn).core.wdtConnect =
    (run world turns).wdtConnect := congrArg Prod.fst polled
  have inReset : ((run world turns).polled world turn).core.inReset = false :=
    (congrArg Prod.snd polled).trans running
  have toggles : Toggles world (run world turns) turn ↔
      ((run world turns).polled world turn).core.scheduler.executeQueueHead =
        some (.user .toggleLed) := by
    unfold Toggles
    simp only [running, true_and]
    rfl
  rw [takeTurn_watchdog world (run_polled_schedules world turns turn) running]
  unfold counted
  simp only [toggles, wdtConnect, inReset]
  split_ifs
  · rfl
  · rfl
  · exact polled.trans (congrArg (Prod.mk _) running)

/-- While the program runs, `wdt_connect` is the number of calls of `LED_toggle`. -/
theorem run_wdtConnect (turns : List Turn) (running : (run world turns).inReset = false) :
    (run world turns).wdtConnect.toNat = runToggleCalls world turns ∧
      runToggleCalls world turns ≤ 100 := by
  induction turns using List.reverseRecOn with
  | nil =>
      have core := cloudStartApp_core world Board.initial
      have cleared : (run world []).wdtConnect = 0 := congrArg CoreVariables.wdtConnect core
      rw [cleared]
      exact ⟨rfl, Nat.zero_le _⟩
  | append_singleton turns turn inductionHypothesis =>
      rw [run_concat] at running ⊢
      rw [runToggleCalls_concat]
      have before : (run world turns).inReset = false := by
        by_contra reset
        simp only [takeTurn, Bool.not_eq_false] at reset running
        rw [if_pos reset, reset] at running
        exact absurd running (by simp)
      obtain ⟨calls, bounded⟩ := inductionHypothesis before
      have watchdog := run_watchdog world turns turn before
      by_cases toggles : Toggles world (run world turns) turn
      · rw [if_pos toggles] at watchdog
        by_cases due : (run world turns).wdtConnect ≥ 100
        · rw [if_pos due] at watchdog
          have reset : (takeTurn world (run world turns) turn).inReset = true :=
            congrArg Prod.snd watchdog
          exact absurd (running.symm.trans reset) (by simp)
        · rw [if_neg due] at watchdog
          have next : (takeTurn world (run world turns) turn).wdtConnect =
            (run world turns).wdtConnect + 1 := congrArg Prod.fst watchdog
          have early : (run world turns).wdtConnect.toNat < 100 := UInt32.not_le.mp due
          rw [next, if_pos toggles, UInt32.toNat_add, calls]
          constructor
          · exact Nat.mod_eq_of_lt (by simp; omega)
          · omega
      · rw [if_neg toggles] at watchdog
        have next : (takeTurn world (run world turns) turn).wdtConnect =
          (run world turns).wdtConnect := congrArg Prod.fst watchdog
        rw [next, if_neg toggles]
        exact ⟨calls, bounded⟩

/-- The board resets at the 101st call. -/
theorem run_resets_iff (turns : List Turn) (turn : Turn) :
    Resets world (run world turns) turn ↔
      Toggles world (run world turns) turn ∧ runToggleCalls world turns = 100 := by
  unfold Resets
  constructor
  · intro ⟨running, reset⟩
    obtain ⟨calls, bounded⟩ := run_wdtConnect world turns running
    have watchdog := congrArg Prod.snd (run_watchdog world turns turn running)
    have reset : (takeTurn world (run world turns) turn).core.detection.2.2 = true := reset
    rw [reset] at watchdog
    split_ifs at watchdog with toggles due
    · have reached : 100 ≤ (run world turns).wdtConnect.toNat := due
      exact ⟨toggles, by omega⟩
  · intro ⟨toggles, calls⟩
    have running := toggles.1
    have due : (run world turns).wdtConnect ≥ 100 := by
      show 100 ≤ (run world turns).wdtConnect.toNat
      rw [(run_wdtConnect world turns running).1, calls]
    have watchdog := congrArg Prod.snd (run_watchdog world turns turn running)
    rw [if_pos toggles, if_pos due] at watchdog
    exact ⟨running, watchdog⟩

/-! ## Resets while offline -/

/-- Whenever the board resets, the connection has been lost all the time since
the first of the last hundred calls of `LED_toggle`, the last of which resets. -/
def ResetsOffline (turns : List Turn) : Prop :=
  ∀ before turn, before ++ [turn] <+: turns → Resets world (run world before) turn →
    99 ≤ runToggleCalls world before ∧
      ∀ first called, first ++ [called] <+: before ++ [turn] →
        Toggles world (run world first) called →
        runToggleCalls world before < runToggleCalls world first + 100 →
          ∀ part, first <+: part → part <+: before →
            (run world part).isInternetConnection = false

theorem everyTurn_at {Holds : Board → Turn → Prop} {board : Board} {turns before : List Turn}
    {turn : Turn} (every : EveryTurn world Holds board turns)
    (isPart : before ++ [turn] <+: turns) :
    Holds (before.foldl (takeTurn world) board) turn := by
  induction before generalizing board turns with
  | nil =>
      obtain ⟨rest, rfl⟩ := isPart
      exact every.1
  | cons first earlier inductionHypothesis =>
      obtain ⟨rest, rfl⟩ := isPart
      exact inductionHypothesis every.2 ⟨rest, rfl⟩

/-- As long as no outage ends, `LED_toggle` is called only in an outage. -/
theorem run_togglesOffline (turns : List Turn)
    (stays : ∀ before turn, before ++ [turn] <+: turns → ¬Recovers world (run world before) turn) :
    (run world turns).core.TogglesOffline := by
  induction turns using List.reverseRecOn with
  | nil =>
      show (cloudStartApp world Board.initial).core.TogglesOffline
      rw [cloudStartApp_core]
      exact ⟨False, Schedules.initial TimerId.toggleLed, False.elim⟩
  | append_singleton turns turn inductionHypothesis =>
      have offline := inductionHypothesis fun before turn isPart =>
        stays before turn (isPart.trans (List.prefix_append _ _))
      rw [run_concat]
      exact takeTurn_togglesOffline world offline (stays turns turn List.prefix_rfl)

theorem run_staysLost {first part : List Turn} (isPart : first <+: part)
    (stays : ∀ before turn, before ++ [turn] <+: part → ¬Recovers world (run world before) turn)
    (lost : (run world first).isInternetConnection = false) :
    (run world part).isInternetConnection = false := by
  obtain ⟨more, rfl⟩ := isPart
  induction more using List.reverseRecOn with
  | nil => rwa [List.append_nil]
  | append_singleton more turn inductionHypothesis =>
      have staysBefore : ∀ before turn, before ++ [turn] <+: first ++ more →
          ¬Recovers world (run world before) turn := fun before turn isPart =>
        stays before turn (isPart.trans ⟨[_], List.append_assoc _ _ _⟩)
      rw [← List.append_assoc] at stays ⊢
      rw [run_concat]
      exact takeTurn_lost world (run_togglesOffline world _ staysBefore)
        (stays _ turn List.prefix_rfl) (inductionHypothesis staysBefore)

/-- A run in which no outage ends once it has been noticed resets the board only
while it is offline. -/
theorem run_resetsOffline (turns : List Turn)
    (stays : EveryTurn world (fun board turn => ¬Recovers world board turn)
      (cloudStartApp world Board.initial) turns) : ResetsOffline world turns := by
  have everyTurn : ∀ before turn, before ++ [turn] <+: turns →
      ¬Recovers world (run world before) turn :=
    fun before turn isPart => everyTurn_at world stays isPart
  intro before turn isPart resets
  refine ⟨?_, ?_⟩
  · have calls := ((run_resets_iff world before turn).mp resets).2
    omega
  · intro first called _ toggles _ part afterFirst inBefore
    have inTurns : before <+: turns := (List.prefix_append before [turn]).trans isPart
    have offline := run_togglesOffline world first fun earlier other isEarlier =>
      everyTurn earlier other (isEarlier.trans ((afterFirst.trans inBefore).trans inTurns))
    apply run_staysLost world afterFirst
    · exact fun earlier other isEarlier =>
        everyTurn earlier other (isEarlier.trans (inBefore.trans inTurns))
    · exact lost_of_toggles world offline toggles

end Turns

/-- Internet is waited for, and a ping fails. -/
private def outage : List Turn :=
  [Turn.ofMessages [], Turn.ofMessages [.wifi .dhcpConf],
    Turn.ofMessages [.ping pingErrDestUnreach]]

/-- The timer of `LED_toggle` expires a hundred times. -/
private def hundredCalls : List Turn :=
  List.replicate 100 ⟨[.rtc (.count 1001), .rtc .interrupt], []⟩

private def lastCall : Turn := ⟨[.rtc (.count 1001), .rtc .interrupt], []⟩

theorem run_resetsOffline_outage :
    ResetsOffline World.accepting (outage ++ hundredCalls ++ [lastCall]) :=
  run_resetsOffline World.accepting _ (by decide +kernel)

/-- The same, but the next ping succeeds. -/
private def recovered : List Turn :=
  outage ++ [Turn.ofMessages [.ping pingErrSuccess]] ++ hundredCalls

theorem run_resetsOnline : ¬ResetsOffline World.accepting (recovered ++ [lastCall]) := by
  intro offline
  have resets : Resets World.accepting (run World.accepting recovered) lastCall := by
    unfold Resets
    decide +kernel
  have toggles : Toggles World.accepting (run World.accepting recovered) lastCall := by
    decide +kernel
  have online : (run World.accepting recovered).isInternetConnection = true := by
    decide +kernel
  have lost := (offline recovered lastCall List.prefix_rfl resets).2 recovered lastCall
    List.prefix_rfl toggles (by omega) recovered List.prefix_rfl List.prefix_rfl
  exact absurd (online.symm.trans lost) (by simp)

end MicrochipDay.Cloud
