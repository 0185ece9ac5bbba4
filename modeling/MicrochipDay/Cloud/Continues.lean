import MicrochipDay.Cloud.Reset

/-!
Owns what a running program keeps: the texts of `mqttTopicInit`, the calls of the
start-up, which it never makes again, and that something is pending.
-/

namespace MicrochipDay.Cloud

open MicrochipDay.Scheduler

/-- The program has run on: the names are the same, no call of the start-up was
made and a pending event is still pending. -/
structure Continues (before after : Board) : Prop where
  names : after.names = before.names
  log : ∃ entries, after.log = entries ++ before.log ∧ ∀ entry ∈ entries, entry.startsUp = false
  pending : before.occuredEvent ≠ .noEvent → after.occuredEvent ≠ .noEvent

namespace Continues

variable {before board other : Board}

theorem refl (board : Board) : Continues board board := ⟨rfl, ⟨[], rfl, by simp⟩, id⟩

theorem of_same (continues : Continues before board) (names : other.names = board.names)
    (log : other.log = board.log) (event : other.occuredEvent = board.occuredEvent) :
    Continues before other where
  names := names.trans continues.names
  log := by rw [log]; exact continues.log
  pending := by rw [event]; exact continues.pending

theorem write (continues : Continues before board) (entry : Action)
    (running : entry.startsUp = false) : Continues before (board.write entry) where
  names := continues.names
  log := by
    obtain ⟨entries, logged, none⟩ := continues.log
    refine ⟨entry :: entries, ?_, List.forall_mem_cons.mpr ⟨running, none⟩⟩
    rw [Board.write, logged]
    rfl
  pending := continues.pending

theorem callDriver (world : World) (continues : Continues before board) (call : DriverCall)
    (running : call ∉ startUpCalls) : Continues before (board.callDriver world call).1 :=
  continues.write _ (decide_eq_false running)

theorem trans (first : Continues before board) (second : Continues board other) :
    Continues before other where
  names := second.names.trans first.names
  log := by
    obtain ⟨older, logged, none⟩ := first.log
    obtain ⟨newer, loggedAfter, noneAfter⟩ := second.log
    refine ⟨newer ++ older, ?_, List.forall_mem_append.mpr ⟨noneAfter, none⟩⟩
    rw [loggedAfter, logged, List.append_assoc]
  pending := second.pending ∘ first.pending

theorem of_serves (continues : Continues before board) (serves : Serves board other) :
    Continues before other := by
  refine continues.trans ⟨serves.names, ?_, serves.pending⟩
  obtain ⟨entries, logged, allServe⟩ := serves.log
  refine ⟨entries, logged, fun entry member => ?_⟩
  have running := (Bool.and_eq_true_iff.mp (allServe entry member)).2
  rwa [Bool.not_eq_true'] at running

end Continues

section Steps

variable (world : World) {before board : Board}

theorem entered_continues (continues : Continues before board) (message : WincMessage) :
    Continues before (board.entered world message) := by
  have entered := continues.write (.callback message) rfl
  unfold Board.entered
  split
  · exact entered.callDriver world (.close _) (by simp [startUpCalls])
  · exact entered

theorem pollStep_continues (continues : Continues before board) (step : PollStep) :
    Continues before (pollStep world board step) := by
  cases step with
  | message message =>
      exact (entered_continues world continues message).of_serves (deliver_serves world message)
  | rtc step => exact continues.of_same rfl rfl rfl

/-! ### Timers -/

theorem timerCallback_continues (continues : Continues before board) (timer : Timer TimerId) :
    Continues before (timerCallback world board timer).1 := by
  cases timer with
  | schedulerDummy => exact continues
  | user id =>
      cases id with
      | sendTask => exact continues.of_serves (publishADC_serves world (Serves.refl _))
      | toggleLed =>
          show Continues before (ledToggle board).1
          unfold ledToggle
          split
          · have reset : Continues before { board with inReset := true } :=
              continues.of_same rfl rfl rfl
            exact reset.write .reset rfl
          · exact continues.of_same rfl rfl rfl

theorem callNextCallback_continues (continues : Continues before board) :
    Continues before (board.callNextCallback world) := by
  unfold Board.callNextCallback SchedulerState.schedulerTimeoutCallNextCallback
  split
  · exact continues
  · rename_i timer remaining taken
    have started : Continues before (board.setScheduler remaining) :=
      continues.of_same rfl rfl rfl
    have called := timerCallback_continues world started timer
    dsimp only
    split
    · exact called.of_same rfl rfl rfl
    · exact called

/-! ### Handlers -/

theorem Handler.run_continues (continues : Continues before board) (handler : Handler) :
    Continues before (handler.run world board).1 := by
  have started : Continues before (board.start handler) := continues.write _ rfl
  by_cases socket : handler = .tlsConnect
  · subst socket
    have opened := started.callDriver world .socket (by simp [startUpCalls])
    have stored : Continues before ((board.start .tlsConnect).socketCalled world) :=
      opened.of_same rfl rfl rfl
    exact stored.of_serves (tlsConnect_serves world)
  · by_cases timer : handler = .startSending
    · subst timer
      exact started.of_same rfl rfl rfl
    · exact started.of_serves (handler.run_serves world socket timer)

theorem enterNextState_continues (continues : Continues before board) :
    Continues before (enterNextState world board) := by
  have returned := (handler board.currentState).run_continues world continues
  have entered : Continues before
      { ((handler board.currentState).run world board).1 with
        currentState := ((handler board.currentState).run world board).2 } :=
    returned.of_same rfl rfl rfl
  exact entered.write (.entered _) rfl

theorem errorHandler_continues (continues : Continues before board) :
    Continues before
      { (errorHandler board).1 with currentState := (errorHandler board).2 } := by
  have failed := continues.write (.errorHandler board.currentState) rfl
  obtain ⟨scheduler, handled⟩ := errorHandler_frame board
  rw [handled]
  exact failed.of_same rfl rfl rfl

/-- The event that is taken out of its variable is pending no longer. -/
theorem consumeEvent_continues (board : Board) :
    Continues { board with occuredEvent := .noEvent } (consumeEvent world board) := by
  have taken := (Continues.refl { board with occuredEvent := .noEvent }).write
    (.consume board.currentState board.occuredEvent) rfl
  obtain ⟨connection, scheduler, observed⟩ := observed_frame board
  apply consumeEvent_keeps world
  · rw [observed]
    exact taken.of_same rfl rfl rfl
  · exact fun _ => errorHandler_continues
  · exact fun _ => enterNextState_continues world

/-! ### Turns -/

/-- What the program keeps whatever becomes of the event. -/
theorem Continues.settled (continues : Continues before board) (ev : CloudEvent) :
    Continues { before with occuredEvent := .noEvent } { board with occuredEvent := ev } where
  names := continues.names
  log := continues.log
  pending := fun nothing => absurd rfl nothing

variable (board)

theorem polled_continues (turn : Turn) : Continues board (board.polled world turn) :=
  polled_keeps world turn (Continues board)
    (fun _ step kept => pollStep_continues world kept step) (Continues.refl board)

theorem called_continues (turn : Turn) :
    Continues board ((board.polled world turn).callNextCallback world) :=
  callNextCallback_continues world (polled_continues world board turn)

theorem tested_continues (turn : Turn) : Continues board (board.tested world turn) :=
  tested_keeps world turn (Continues board) (fun _ _ kept => kept.of_same rfl rfl rfl)
    (called_continues world board turn)

theorem takeTurn_continues (turn : Turn) :
    Continues { board with occuredEvent := .noEvent } (takeTurn world board turn) := by
  have tested := tested_continues world board turn
  apply takeTurn_cases world board turn
  · exact fun _ => (Continues.refl board).settled board.occuredEvent
  · exact fun _ => (called_continues world board turn).settled _
  · exact fun _ _ => (tested.settled .noEvent).trans (consumeEvent_continues world _)
  · exact fun _ _ => tested.settled _

theorem turns_continue (turns : List Turn) :
    Continues { board with occuredEvent := .noEvent } (turns.foldl (takeTurn world) board) := by
  induction turns generalizing board with
  | nil => exact (Continues.refl board).settled board.occuredEvent
  | cons turn turns inductionHypothesis =>
      exact ((takeTurn_continues world board turn).settled .noEvent).trans (inductionHypothesis _)

end Steps

end MicrochipDay.Cloud
