import MicrochipDay.Cloud.Frame
import MicrochipDay.Scheduler.Waiting
import Mathlib.Data.List.Count

/-!
Owns when the program publishes: at the end of every turn of the loop, the
timer of `publishADC` waits in one of the driver's lists exactly if the state
machine is in the sending state.
-/

namespace MicrochipDay.Cloud

open MicrochipDay.Scheduler
open MicrochipDay.Library.LinkedList

/-- `send_task` waits exactly in the sending state. -/
def CoreVariables.Publishes (core : CoreVariables) : Prop :=
  Schedules core.scheduler .sendTask (core.currentState = .sending)

section Turns

variable (world : World) {board : Board}

theorem pollStep_publishes (publishes : board.core.Publishes) (step : PollStep) :
    (pollStep world board step).core.Publishes := by
  cases step with
  | message message =>
      show (deliver world board message).core.Publishes
      rw [deliver_core]
      exact publishes
  | rtc step => exact Schedules.rtcStep publishes step

theorem callNextCallback_publishes (publishes : board.core.Publishes) :
    (board.callNextCallback world).core.Publishes := by
  cases taken : board.scheduler.takeExpired with
  | none =>
      rw [callNextCallback_of_none world taken]
      exact publishes
  | some pair =>
      obtain ⟨callbackTimer, remaining⟩ := pair
      obtain ⟨id, rfl, first, schedules⟩ := Schedules.takeExpired publishes taken
      cases id with
      | sendTask =>
          have sending := Schedules.of_executeQueueHead publishes first
          rw [callNextCallback_sendTask world taken]
          exact (schedules.create .sendTask publishInterval).congr (by simp [sending])
      | toggleLed =>
          by_cases due : board.wdtConnect ≥ 100
          · rw [callNextCallback_reset world taken due]
            exact schedules.congr (by simp)
          · rw [callNextCallback_toggleLed world taken (UInt32.not_le.mp due)]
            exact (schedules.create .toggleLed toggleDelay).congr (by simp)

theorem ledUserHandler_publishes (publishes : board.core.Publishes) (state : CloudState)
    (ev : CloudEvent) : (ledUserHandler board state ev).core.Publishes := by
  unfold ledUserHandler
  split
  · split
    · have restarted := (Schedules.delete publishes .toggleLed).create .toggleLed 0
      exact restarted.congr (by simp [Board.core])
    · exact publishes
  · exact publishes
  · exact publishes

theorem errorHandler_publishes (publishes : board.core.Publishes) :
    (Board.core
      { (errorHandler board).1 with currentState := (errorHandler board).2 }).Publishes := by
  have left : errorState board.currentState ≠ .sending := by
    cases board.currentState <;> decide
  unfold errorHandler CoreVariables.Publishes
  dsimp only [Board.core, Board.write]
  split
  · exact (Schedules.delete publishes .sendTask).congr (by simp [left])
  · rename_i notSending
    exact Schedules.congr publishes (by simp [Board.core, left, notSending])

/-- Only `startSending` leads into the sending state, and it starts the timer. -/
theorem enterNextState_publishes (publishes : board.core.Publishes) :
    (enterNextState world board).core.Publishes := by
  show Schedules ((handler board.currentState).run world board).1.scheduler _
    (((handler board.currentState).run world board).2 = .sending)
  rw [Handler.run_state]
  by_cases sends : handler board.currentState = .startSending
  · rw [sends]
    have restarted := (Schedules.delete publishes .sendTask).create .sendTask 0
    exact restarted.congr (by simp [Handler.result])
  · rw [Handler.run_scheduler world _ sends]
    have away : board.currentState ≠ .sending ∧
        (handler board.currentState).result ≠ .sending := by
      revert sends
      cases board.currentState <;> decide
    exact Schedules.congr publishes (by simp [Board.core, away])

theorem keptByParts_publishes : KeptByParts world fun board => board.core.Publishes where
  polls _ step publishes := pollStep_publishes world publishes step
  calls _ publishes := callNextCallback_publishes world publishes
  observes board publishes := by
    have consumed : (Board.core ({ board with occuredEvent := .noEvent }.write
      (.consume board.currentState board.occuredEvent))).Publishes := publishes
    exact ledUserHandler_publishes consumed board.currentState board.occuredEvent
  handles _ publishes := errorHandler_publishes publishes
  enters _ publishes := enterNextState_publishes world publishes

end Turns

theorem run_publishes (world : World) (turns : List Turn) : (run world turns).core.Publishes := by
  have initial : Board.initial.core.Publishes :=
    (Schedules.initial TimerId.sendTask).congr (by simp [Board.core, Board.initial])
  have started : (cloudStartApp world Board.initial).core.Publishes := by
    rw [cloudStartApp_core]
    exact initial
  exact (keptByParts_publishes world).run started turns

/-- At the end of every turn, `send_task` is once in one of the two lists, which
end in null, if the state machine is in the sending state, and in neither
otherwise. -/
theorem run_sendTask_iff_sending (world : World) (turns : List Turn) :
    ∃ active queue : List (Timer TimerId),
      Linked (run world turns).scheduler.link (run world turns).scheduler.listHead active ∧
      Linked (run world turns).scheduler.link (run world turns).scheduler.executeQueueHead
        queue ∧
      active.count (.user .sendTask) + queue.count (.user .sendTask) =
        if (run world turns).currentState = .sending then 1 else 0 := by
  obtain ⟨table, represents, wellFormed, waits⟩ := run_publishes world turns
  refine ⟨table.active, table.queue, represents.active, represents.queue, ?_⟩
  rw [wellFormed.activeNodup.count, wellFormed.queueNodup.count]
  unfold Timetable.Waits at waits
  by_cases sending : (run world turns).currentState = .sending
  · rw [if_pos sending]
    rcases waits.mpr sending with active | queued
    · have notQueued := fun member => wellFormed.disjoint active member
      rw [if_pos active, if_neg notQueued]
    · have notActive := fun member => wellFormed.disjoint member queued
      rw [if_neg notActive, if_pos queued]
  · have neither := not_or.mp (mt waits.mp sending)
    rw [if_neg sending, if_neg neither.1, if_neg neither.2]

end MicrochipDay.Cloud
