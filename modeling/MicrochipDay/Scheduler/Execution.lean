import MicrochipDay.Scheduler.Order
import MicrochipDay.Scheduler.Refinement

/-!
Owns the runs of a program on the timeout driver: timers created and deleted,
in the main loop or in a callback, callbacks called and returning, and the
counter with its interrupt, in any order. A history of what happened to the
timers is kept beside the driver's state; nothing reads it.
-/

namespace MicrochipDay.Scheduler

open MicrochipDay.Library.LinkedList

variable {User : Type}

/-! ## Runs -/

inductive TimerEvent (User : Type) where
  /-- Created or rescheduled, with its absolute time before that is cut to 32 bits. -/
  | created (timer : Timer User) (deadline : Nat)
  | deleted (timer : Timer User)
  /-- Taken off the queue; its callback is called. -/
  | dispatched (timer : Timer User)
deriving DecidableEq, Repr

def TimerEvent.timer : TimerEvent User → Timer User
  | .created timer _ => timer
  | .deleted timer => timer
  | .dispatched timer => timer

/-- A program on the driver: the callbacks that have been called and have not
returned, innermost first, and what happened to the timers, newest first. -/
structure Execution (User : Type) where
  scheduler : SchedulerState User
  calling : List (Timer User)
  history : List (TimerEvent User)

def Execution.initial (User : Type) : Execution User := ⟨schedulerTimeoutInit User, [], []⟩

inductive Operation (User : Type) where
  | create (id : User) (timeout : UInt32)
  | delete (id : User)
  | rtc (step : SchedulerState.RtcStep)
deriving DecidableEq, Repr

inductive Step (User : Type) where
  | operation (operation : Operation User)
  /-- `scheduler_timeout_call_next_callback`, up to the call. -/
  | callNextCallback
  /-- The innermost callback returns the time to its next call, or 0. -/
  | callbackReturns (reschedule : UInt32)
deriving DecidableEq, Repr

section Run

variable [DecidableEq User] [Fintype User]

/-- The absolute time that `scheduler_timeout_create` computes, without the cut
to 32 bits. -/
def SchedulerState.deadline (state : SchedulerState User) (timer : Timer User)
    (timeout : UInt32) : Nat :=
  let state := (state.schedulerTimeoutDelete timer).setOvfEnable false
  timeout.toNat + state.absoluteTimeOfLastTimeout.toNat +
    (state.schedulerMakeAbsolute 0 - state.absoluteTimeOfLastTimeout).toNat

namespace Execution

def create (execution : Execution User) (timer : Timer User) (timeout : UInt32) :
    Execution User :=
  { execution with
    scheduler := execution.scheduler.schedulerTimeoutCreate timer timeout
    history := .created timer (execution.scheduler.deadline timer timeout) :: execution.history }

def delete (execution : Execution User) (timer : Timer User) : Execution User :=
  { execution with
    scheduler := execution.scheduler.schedulerTimeoutDelete timer
    history := .deleted timer :: execution.history }

def perform (execution : Execution User) : Operation User → Execution User
  | .create id timeout => execution.create (.user id) timeout
  | .delete id => execution.delete (.user id)
  | .rtc step => { execution with scheduler := execution.scheduler.rtcStep step }

def callNextCallback (execution : Execution User) : Execution User :=
  match execution.scheduler.takeExpired with
  | none => execution
  | some (callbackTimer, remaining) =>
      { scheduler := remaining
        calling := callbackTimer :: execution.calling
        history := .dispatched callbackTimer :: execution.history }

def callbackReturns (execution : Execution User) (reschedule : UInt32) : Execution User :=
  match execution.calling with
  | [] => execution
  | callbackTimer :: outer =>
      let execution := { execution with calling := outer }
      if reschedule ≠ 0 then execution.create callbackTimer reschedule else execution

def step (execution : Execution User) : Step User → Execution User
  | .operation operation => execution.perform operation
  | .callNextCallback => execution.callNextCallback
  | .callbackReturns reschedule => execution.callbackReturns reschedule

def run (execution : Execution User) (steps : List (Step User)) : Execution User :=
  steps.foldl step execution

end Execution

/-- The state after some steps from start-up. -/
def runFromStart (steps : List (Step User)) : Execution User :=
  (Execution.initial User).run steps

theorem runFromStart_concat (steps : List (Step User)) (step : Step User) :
    runFromStart (steps ++ [step]) = (runFromStart steps).step step := by
  unfold runFromStart Execution.run
  rw [List.foldl_append]
  rfl

/-! ### What a step of the program can do -/

namespace Execution

variable {execution : Execution User} {table : Timetable User}

omit [Fintype User] in
/-- Nothing, if no timer has expired, or the callback of the first one that has is called. -/
theorem callNextCallback_cases (represents : Represents execution.scheduler table)
    (listed : table.Listed) :
    execution.callNextCallback = execution ∨
      ∃ id rest remaining, table.queue = .user id :: rest ∧
        Represents remaining table.dequeue ∧
        execution.callNextCallback =
          { scheduler := remaining
            calling := .user id :: execution.calling
            history := .dispatched (.user id) :: execution.history } := by
  unfold callNextCallback
  cases waiting : table.queue with
  | nil =>
      rw [represents.takeExpired_none waiting]
      exact Or.inl rfl
  | cons head rest =>
      obtain ⟨remaining, taken, represented⟩ := represents.takeExpired listed waiting
      rw [taken]
      cases head with
      | schedulerDummy => exact absurd (waiting ▸ List.mem_cons_self) listed.dummyNotQueued
      | user id => exact Or.inr ⟨id, rest, remaining, rfl, represented, rfl⟩

/-- The innermost callback, if there is one, is no longer called, and its timer is
created again if it asks for that. -/
theorem callbackReturns_cases (noDummy : .schedulerDummy ∉ execution.calling)
    (reschedule : UInt32) :
    ∃ calling : List (Timer User), .schedulerDummy ∉ calling ∧
      (execution.callbackReturns reschedule = { execution with calling := calling } ∨
        ∃ id, execution.callbackReturns reschedule =
          ({ execution with calling := calling } : Execution User).create (.user id)
            reschedule) := by
  unfold callbackReturns
  cases entered : execution.calling with
  | nil =>
      have same : execution = { execution with calling := [] } := by rw [← entered]
      exact ⟨[], List.not_mem_nil, Or.inl same⟩
  | cons callbackTimer outer =>
      rw [entered] at noDummy
      refine ⟨outer, List.not_mem_of_not_mem_cons noDummy, ?_⟩
      dsimp only
      split
      · cases callbackTimer with
        | schedulerDummy => exact absurd List.mem_cons_self noDummy
        | user id => exact Or.inr ⟨id, rfl⟩
      · exact Or.inl rfl

end Execution

/-! ### A call of the driver as a run -/

def SchedulerState.operate (state : SchedulerState User) :
    Operation User → SchedulerState User
  | .create id timeout => state.schedulerTimeoutCreate (.user id) timeout
  | .delete id => state.schedulerTimeoutDelete (.user id)
  | .rtc step => state.rtcStep step

theorem run_operations (execution : Execution User) (operations : List (Operation User)) :
    (execution.run (operations.map Step.operation)).scheduler =
        operations.foldl SchedulerState.operate execution.scheduler ∧
      (execution.run (operations.map Step.operation)).calling = execution.calling := by
  induction operations generalizing execution with
  | nil => exact ⟨rfl, rfl⟩
  | cons operation rest inductionHypothesis =>
      have followed := inductionHypothesis (execution.perform operation)
      cases operation with
      | create id timeout => exact followed
      | delete id => exact followed
      | rtc step => exact followed

/-- The steps of one call, whose callback performs some operations. -/
def callSteps (operations : List (Operation User)) (reschedule : UInt32) : List (Step User) :=
  Step.callNextCallback :: operations.map Step.operation ++ [Step.callbackReturns reschedule]

/-- The driver's function does in one go what a run does in steps. -/
theorem schedulerTimeoutCallNextCallback_eq_run (execution : Execution User)
    (operations : List (Operation User)) (reschedule : UInt32)
    (expired : execution.scheduler.executeQueueHead ≠ none) :
    SchedulerState.schedulerTimeoutCallNextCallback id (fun _ scheduler => scheduler)
        (fun scheduler _ => (operations.foldl SchedulerState.operate scheduler, reschedule))
        execution.scheduler =
      (execution.run (callSteps operations reschedule)).scheduler := by
  cases taken : execution.scheduler.takeExpired with
  | none =>
      unfold SchedulerState.takeExpired at taken
      exact absurd (Option.map_eq_none_iff.mp taken) expired
  | some pair =>
      obtain ⟨callbackTimer, remaining⟩ := pair
      have called : execution.callNextCallback =
          ⟨remaining, callbackTimer :: execution.calling,
            .dispatched callbackTimer :: execution.history⟩ := by
        unfold Execution.callNextCallback
        rw [taken]
      have followed := run_operations execution.callNextCallback operations
      have whole : execution.run (callSteps operations reschedule) =
          (execution.callNextCallback.run (operations.map Step.operation)).callbackReturns
            reschedule := by
        unfold callSteps Execution.run
        rw [List.foldl_append]
        rfl
      rw [called] at followed
      unfold SchedulerState.schedulerTimeoutCallNextCallback
      rw [whole, called]
      unfold Execution.callbackReturns
      rw [followed.2]
      dsimp only [id]
      rw [taken]
      dsimp only
      split
      · rw [← followed.1]
        rfl
      · exact followed.1.symm

end Run

end MicrochipDay.Scheduler
