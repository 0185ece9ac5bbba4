import MicrochipDay.Scheduler.Refinement

/-!
Owns what the driver's operations do to whether one timer waits, for programs
that do not look further into the driver's lists.
-/

namespace MicrochipDay.Scheduler

variable {User : Type} [DecidableEq User] [Fintype User]

/-- The driver's lists are in order, and the timer is in one of them exactly if
`waits` holds. -/
def Schedules (scheduler : SchedulerState User) (id : User) (waits : Prop) : Prop :=
  ∃ table, Represents scheduler table ∧ table.WellFormed ∧ (table.Waits id ↔ waits)

namespace Schedules

variable {scheduler : SchedulerState User} {id : User} {waits : Prop}

omit [DecidableEq User] [Fintype User] in
theorem congr {other : Prop} (schedules : Schedules scheduler id waits) (same : waits ↔ other) :
    Schedules scheduler id other := by
  obtain ⟨table, represents, wellFormed, present⟩ := schedules
  exact ⟨table, represents, wellFormed, present.trans same⟩

theorem delete (schedules : Schedules scheduler id waits) (other : User) :
    Schedules (scheduler.schedulerTimeoutDelete (.user other)) id (id ≠ other ∧ waits) := by
  obtain ⟨table, represents, wellFormed, present⟩ := schedules
  refine ⟨_, represents.schedulerTimeoutDelete wellFormed other,
    wellFormed.delete (.user other), ?_⟩
  rw [Timetable.waits_delete wellFormed.toListed, present]

theorem create (schedules : Schedules scheduler id waits) (other : User) (timeout : UInt32) :
    Schedules (scheduler.schedulerTimeoutCreate (.user other) timeout) id (id = other ∨ waits) := by
  obtain ⟨table, represents, wellFormed, present⟩ := schedules
  refine ⟨_, represents.schedulerTimeoutCreate wellFormed other timeout,
    wellFormed.create timeout, ?_⟩
  rw [Timetable.waits_create wellFormed.toListed, present]

theorem rtcStep (schedules : Schedules scheduler id waits) (step : SchedulerState.RtcStep) :
    Schedules (scheduler.rtcStep step) id waits := by
  obtain ⟨table, represents, wellFormed, present⟩ := schedules
  refine ⟨_, represents.rtcStep wellFormed step, wellFormed.rtcStep step, ?_⟩
  rw [Timetable.waits_rtcStep, present]

omit [DecidableEq User] [Fintype User] in
/-- The first timer of the queue waits. -/
theorem of_executeQueueHead (schedules : Schedules scheduler id waits)
    (first : scheduler.executeQueueHead = some (.user id)) : waits := by
  obtain ⟨table, represents, _, present⟩ := schedules
  rw [represents.queue.head_eq] at first
  exact present.mp (Or.inr (List.mem_of_mem_head? first))

omit [Fintype User] in
/-- What `scheduler_timeout_call_next_callback` takes off the queue. -/
theorem takeExpired (schedules : Schedules scheduler id waits) {callbackTimer : Timer User}
    {remaining : SchedulerState User}
    (taken : scheduler.takeExpired = some (callbackTimer, remaining)) :
    ∃ first, callbackTimer = .user first ∧ scheduler.executeQueueHead = some (.user first) ∧
      Schedules remaining id (id ≠ first ∧ waits) := by
  obtain ⟨table, represents, wellFormed, present⟩ := schedules
  have listed := wellFormed.toListed
  cases waiting : table.queue with
  | nil => simp [represents.takeExpired_none waiting] at taken
  | cons head rest =>
      obtain ⟨after, takenHead, representsAfter⟩ := represents.takeExpired listed waiting
      rw [takenHead, Option.some.injEq, Prod.mk.injEq] at taken
      obtain ⟨rfl, rfl⟩ := taken
      cases head with
      | schedulerDummy => exact absurd (waiting ▸ List.mem_cons_self) listed.dummyNotQueued
      | user first =>
          refine ⟨first, rfl, ?_, _, representsAfter, wellFormed.dequeue, ?_⟩
          · rw [represents.queue.head_eq, waiting, List.head?_cons]
          · rw [Timetable.waits_dequeue listed waiting, present]

omit [DecidableEq User] [Fintype User] in
theorem initial (id : User) : Schedules (schedulerTimeoutInit User) id False :=
  ⟨_, Represents.initial, Timetable.initial_wellFormed,
    by simp [Timetable.Waits, Timetable.initial]⟩

end Schedules

end MicrochipDay.Scheduler
