import MicrochipDay.Scheduler.Bookkeeping

/-!
Owns when the counter's interrupt is enabled without a timer to serve. Deleting
a timer while only the queue has any leaves it so, unless the deleted timer is
the first of the queue; and so does `scheduler_timeout_init`, until a timer is
created.
-/

namespace MicrochipDay.Scheduler

variable {User : Type}

/-- The interrupt handler finds a timer whenever it may run. -/
def SchedulerState.Guarded (state : SchedulerState User) : Prop :=
  state.rtc.ovfEnable = true → state.listHead ≠ none

def Timetable.Guarded (table : Timetable User) : Prop :=
  table.rtc.ovfEnable = true → table.active ≠ []

theorem Represents.guarded_iff {state : SchedulerState User} {table : Timetable User}
    (represents : Represents state table) : state.Guarded ↔ table.Guarded := by
  unfold SchedulerState.Guarded Timetable.Guarded
  rw [represents.rtc, represents.active.head_eq]
  simp

/-! ## Operations on the timetable -/

namespace Timetable

variable [DecidableEq User] {table : Timetable User} {timer : Timer User}

theorem guarded_rearm : table.rearm.Guarded := by
  apply rearm_cases Guarded
  · intro _ enabled
    exact absurd enabled (by simp [stop, enableInterrupt])
  · intro head first _ _
    rw [load_active]
    intro idle
    simp [idle] at first
  · intro head _ _ _
    simp [pushDummy]

theorem guarded_deleteQueued (occupied : table.active ≠ []) :
    (table.deleteQueued timer).Guarded := by
  unfold deleteQueued
  cases table.queue with
  | nil => exact fun _ => occupied
  | cons head rest =>
      dsimp only
      split
      · exact guarded_rearm
      · exact fun _ => occupied

theorem guarded_delete (occupied : table.active ≠ []) : (table.delete timer).Guarded := by
  unfold delete
  cases active : table.active with
  | nil => exact absurd active occupied
  | cons head rest =>
      dsimp only
      split
      · exact guarded_rearm
      · split
        · exact fun _ => List.cons_ne_nil _ _
        · apply guarded_deleteQueued
          exact occupied

/-- Without an active timer, searching the queue enables the interrupt. -/
theorem guarded_delete_idle (idle : table.active = []) :
    (table.delete timer).Guarded ↔
      table.queue = [] ∧ table.Guarded ∨ table.queue.head? = some timer := by
  unfold delete deleteQueued
  rw [idle]
  cases queue : table.queue with
  | nil => simp
  | cons head rest =>
      by_cases first : timer = head
      · simp only [first, if_true]
        simp [guarded_rearm]
      · simp only [first, if_false]
        simp [Guarded, enableInterrupt, idle, Ne.symm first]

theorem guarded_create (listed : table.Listed) (id : User) (timeout : UInt32) :
    (table.create (.user id) timeout).Guarded := by
  intro _ idle
  have member : .user id ∈ (table.create (.user id) timeout).active :=
    (mem_create_active timeout listed).mpr (Or.inl rfl)
  simp [idle] at member

theorem guarded_rtcStep (guarded : table.Guarded) (step : SchedulerState.RtcStep) :
    (table.rtcStep step).Guarded := by
  cases step with
  | count ticks => exact guarded
  | interrupt =>
      unfold rtcStep expire
      dsimp only
      split
      · cases table.active with
        | nil => exact guarded
        | cons head rest =>
            dsimp only
            rw [rearm_clearFlag]
            exact guarded_rearm
      · exact guarded

end Timetable

/-! ## Runs -/

section Run

variable [DecidableEq User] [Fintype User]

/-- With this step an operation of the driver returns. -/
def Execution.Returns (execution : Execution User) : Step User → Prop
  | .operation (.create _ _) => True
  | .operation (.delete _) => True
  | .operation (.rtc (.count _)) => False
  | .operation (.rtc .interrupt) =>
      execution.scheduler.rtc.ovfFlag = true ∧ execution.scheduler.rtc.ovfEnable = true
  | .callNextCallback => execution.scheduler.executeQueueHead = none
  | .callbackReturns _ => execution.calling ≠ []

/-- Some operation has returned in these steps from start-up. -/
def HasReturned (steps : List (Step User)) : Prop :=
  ∃ before step, before ++ [step] <+: steps ∧ (runFromStart before).Returns step

def Creates (steps : List (Step User)) : Prop :=
  ∃ id timeout, Step.operation (.create id timeout) ∈ steps

/-- No timer has been created yet. -/
structure Execution.Untouched (execution : Execution User) : Prop where
  listHead : execution.scheduler.listHead = none
  executeQueueHead : execution.scheduler.executeQueueHead = none
  ovfEnable : execution.scheduler.rtc.ovfEnable = true
  calling : execution.calling = []

namespace Execution.Untouched

variable {execution : Execution User}

theorem delete (untouched : execution.Untouched) (id : User) :
    (execution.delete (.user id)).Untouched := by
  have unchanged : execution.scheduler.schedulerTimeoutDelete (.user id) =
      execution.scheduler.setNext (.user id) none := by
    unfold SchedulerState.schedulerTimeoutDelete
    rw [Represents.deleteHelper_empty .active untouched.listHead]
    dsimp only
    rw [Represents.deleteHelper_empty .executeQueue untouched.executeQueueHead]
    rfl
  unfold Execution.delete
  rw [unchanged]
  exact ⟨untouched.listHead, untouched.executeQueueHead, untouched.ovfEnable, untouched.calling⟩

theorem rtcStep (untouched : execution.Untouched) (step : SchedulerState.RtcStep) :
    (execution.perform (.rtc step)).Untouched := by
  have unserved : execution.scheduler.rtcStep .interrupt = execution.scheduler := by
    unfold SchedulerState.rtcStep SchedulerState.rtcCntVect
    dsimp only
    rw [untouched.listHead]
    simp
  unfold Execution.perform
  cases step with
  | count ticks =>
      exact
        ⟨untouched.listHead, untouched.executeQueueHead, untouched.ovfEnable, untouched.calling⟩
  | interrupt =>
      dsimp only
      rw [unserved]
      exact untouched

theorem step (untouched : execution.Untouched) {step : Step User}
    (other : ∀ id timeout, step ≠ .operation (.create id timeout)) :
    (execution.step step).Untouched := by
  unfold Execution.step
  cases step with
  | operation operation =>
      cases operation with
      | create id timeout => exact absurd rfl (other id timeout)
      | delete id => exact untouched.delete id
      | rtc step => exact untouched.rtcStep step
  | callNextCallback =>
      unfold Execution.callNextCallback SchedulerState.takeExpired
      rw [untouched.executeQueueHead]
      exact untouched
  | callbackReturns reschedule =>
      unfold Execution.callbackReturns
      rw [untouched.calling]
      exact untouched

end Execution.Untouched

theorem runFromStart_untouched (steps : List (Step User)) (none : ¬Creates steps) :
    (runFromStart steps).Untouched := by
  induction steps using List.reverseRecOn with
  | nil => exact ⟨rfl, rfl, rfl, rfl⟩
  | append_singleton steps step inductionHypothesis =>
      rw [runFromStart_concat]
      apply (inductionHypothesis ?_).step
      · intro id timeout created
        apply none
        exact ⟨id, timeout, by simp [created]⟩
      · intro ⟨id, timeout, member⟩
        apply none
        exact ⟨id, timeout, List.mem_append_left _ member⟩

/-- The step is not one of the deletions that go wrong. -/
def Execution.Careful (execution : Execution User) : Step User → Prop
  | .operation (.delete id) => execution.scheduler.listHead = none →
      execution.scheduler.executeQueueHead = none ∨
        execution.scheduler.executeQueueHead = some (.user id)
  | _ => True

namespace Execution.Holds

variable {execution : Execution User} {table : Timetable User}

theorem guarded_delete_iff (holds : execution.Holds table) (id : User) :
    (execution.delete (.user id)).scheduler.Guarded ↔ (table.delete (.user id)).Guarded :=
  (holds.represents.schedulerTimeoutDelete holds.wellFormed id).guarded_iff

theorem guarded_delete (holds : execution.Holds table) (guarded : execution.scheduler.Guarded)
    {id : User} (careful : execution.Careful (.operation (.delete id))) :
    (execution.delete (.user id)).scheduler.Guarded := by
  unfold Execution.Careful at careful
  rw [holds.represents.active.head_eq, holds.represents.queue.head_eq] at careful
  rw [holds.guarded_delete_iff]
  by_cases idle : table.active = []
  · rw [Timetable.guarded_delete_idle idle]
    simp only [idle, List.head?_nil, List.head?_eq_none_iff, true_imp_iff] at careful
    exact careful.imp_left fun empty => ⟨empty, holds.represents.guarded_iff.mp guarded⟩
  · exact Timetable.guarded_delete idle

theorem careful_of_guarded_delete (holds : execution.Holds table) {id : User}
    (guarded : (execution.delete (.user id)).scheduler.Guarded) :
    execution.Careful (.operation (.delete id)) := by
  unfold Execution.Careful
  rw [holds.represents.active.head_eq, holds.represents.queue.head_eq]
  intro idle
  rw [holds.guarded_delete_iff,
    Timetable.guarded_delete_idle (List.head?_eq_none_iff.mp idle)] at guarded
  exact guarded.imp_left fun empty => List.head?_eq_none_iff.mpr empty.1

theorem guarded_create (holds : execution.Holds table) (id : User) (timeout : UInt32) :
    (execution.create (.user id) timeout).scheduler.Guarded := by
  have created := holds.represents.schedulerTimeoutCreate holds.wellFormed id timeout
  apply created.guarded_iff.mpr
  exact Timetable.guarded_create holds.wellFormed.toListed id timeout

omit [Fintype User] in
theorem guarded_callNextCallback (holds : execution.Holds table)
    (guarded : execution.scheduler.Guarded) :
    execution.callNextCallback.scheduler.Guarded := by
  rcases Execution.callNextCallback_cases holds.represents holds.wellFormed.toListed with
    same | ⟨id, rest, remaining, waiting, represents, called⟩
  · rw [same]
    exact guarded
  · rw [called]
    exact represents.guarded_iff.mpr (holds.represents.guarded_iff.mp guarded)

theorem guarded_callbackReturns (holds : execution.Holds table)
    (guarded : execution.scheduler.Guarded) (reschedule : UInt32) :
    (execution.callbackReturns reschedule).scheduler.Guarded := by
  obtain ⟨calling, noDummy, same | ⟨id, same⟩⟩ :=
    Execution.callbackReturns_cases holds.calling reschedule
  · rw [same]
    exact guarded
  · rw [same]
    exact (holds.inside noDummy).guarded_create id reschedule

theorem guarded_step (holds : execution.Holds table) (guarded : execution.scheduler.Guarded)
    {step : Step User} (careful : execution.Careful step) :
    (execution.step step).scheduler.Guarded := by
  cases step with
  | operation operation =>
      cases operation with
      | create id timeout => exact holds.guarded_create id timeout
      | delete id => exact holds.guarded_delete guarded careful
      | rtc step =>
          have stepped := holds.represents.rtcStep holds.wellFormed step
          apply stepped.guarded_iff.mpr
          exact Timetable.guarded_rtcStep (holds.represents.guarded_iff.mp guarded) step
  | callNextCallback => exact holds.guarded_callNextCallback guarded
  | callbackReturns reschedule => exact holds.guarded_callbackReturns guarded reschedule

end Execution.Holds

theorem HasReturned.concat {before : List (Step User)} {step : Step User}
    (returns : (runFromStart before).Returns step) : HasReturned (before ++ [step]) :=
  ⟨before, step, List.prefix_rfl, returns⟩

/-- From the first created timer on, careful steps keep the interrupt handler
from finding no timer. -/
theorem runFromStart_guarded (steps : List (Step User)) (creates : Creates steps)
    (careful : ∀ before step, before ++ [step] <+: steps →
      (runFromStart before).Careful step) :
    (runFromStart steps).scheduler.Guarded := by
  induction steps using List.reverseRecOn with
  | nil =>
      obtain ⟨_, _, member⟩ := creates
      exact absurd member List.not_mem_nil
  | append_singleton steps step inductionHypothesis =>
      obtain ⟨table, holds⟩ := runFromStart_holds steps
      rw [runFromStart_concat]
      by_cases created : Creates steps
      · have guarded := inductionHypothesis created fun before step part =>
          careful before step (part.trans (List.prefix_append steps _))
        exact holds.guarded_step guarded (careful steps step List.prefix_rfl)
      · obtain ⟨id, timeout, member⟩ := creates
        rcases List.mem_append.mp member with earlier | last
        · exact absurd ⟨id, timeout, earlier⟩ created
        · rw [← List.mem_singleton.mp last]
          exact holds.guarded_create id timeout

/-- The interrupt is enabled only with a timer to serve, in every state of a run
after an operation has returned, exactly if the first operation that returns
creates a timer, and a timer that is deleted while only the queue has any is
the first of the queue. -/
theorem runFromStart_guarded_iff (steps : List (Step User)) :
    (∀ part, part <+: steps → HasReturned part → (runFromStart part).scheduler.Guarded) ↔
      (∀ part, part <+: steps → HasReturned part → Creates part) ∧
        ∀ before id, before ++ [.operation (.delete id)] <+: steps →
          (runFromStart before).scheduler.listHead = none →
            (runFromStart before).scheduler.executeQueueHead = none ∨
              (runFromStart before).scheduler.executeQueueHead = some (.user id) := by
  constructor
  · intro guarded
    have creates : ∀ part, part <+: steps → HasReturned part → Creates part := by
      intro part isPart returned
      by_contra none
      have untouched := runFromStart_untouched part none
      exact guarded part isPart returned untouched.ovfEnable untouched.listHead
    refine ⟨creates, ?_⟩
    intro before id isPart
    have after := guarded _ isPart (HasReturned.concat trivial)
    rw [runFromStart_concat] at after
    obtain ⟨table, holds⟩ := runFromStart_holds before
    exact holds.careful_of_guarded_delete after
  · intro ⟨creates, careful⟩ part isPart returned
    apply runFromStart_guarded part (creates part isPart returned)
    intro before step isStep
    cases step with
    | operation operation =>
        cases operation with
        | delete id => exact careful before id (isStep.trans isPart)
        | create id timeout => trivial
        | rtc step => trivial
    | callNextCallback => trivial
    | callbackReturns reschedule => trivial

/-- One timer has expired and waits for its callback while another one, which
has not been created, is deleted. -/
private def deletedWhileQueued : List (Step Bool) :=
  [.operation (.create false 10), .operation (.rtc (.count 11)), .operation (.rtc .interrupt),
    .operation (.delete true)]

theorem interruptEnabled_withoutTimer :
    HasReturned deletedWhileQueued ∧
      (runFromStart deletedWhileQueued).scheduler.rtc.ovfEnable = true ∧
      (runFromStart deletedWhileQueued).scheduler.listHead = none :=
  ⟨⟨deletedWhileQueued.take 3, .operation (.delete true), List.prefix_rfl, trivial⟩,
    by decide +kernel, by decide +kernel⟩

end Run

end MicrochipDay.Scheduler
