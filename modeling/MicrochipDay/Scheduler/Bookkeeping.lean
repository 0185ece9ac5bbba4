import MicrochipDay.Scheduler.Execution

/-!
Owns the proof that the driver loses and duplicates no timer: in every run its
two lists hold exactly the timers that were created and neither deleted nor
dispatched since, each once, and the active list is in order.
-/

namespace MicrochipDay.Scheduler

open MicrochipDay.Library.LinkedList

variable {User : Type} [DecidableEq User]

/-! ## What the history says -/

abbrev History (User : Type) : Type := List (TimerEvent User)

namespace History

def isAbout (timer : Timer User) (event : TimerEvent User) : Bool := event.timer = timer

/-- Created or rescheduled, and neither deleted nor dispatched since. -/
def Pending (history : History User) (timer : Timer User) : Prop :=
  ∃ deadline, history.find? (isAbout timer) = some (.created timer deadline)

/-- What last happened to the first timer is older than what last happened to
the second one. -/
def Before (history : History User) (first second : Timer User) : Prop :=
  history.findIdx (isAbout second) < history.findIdx (isAbout first)

/-- Every absolute time that was computed fits 32 bits. -/
def NoWrap (history : History User) : Prop :=
  ∀ timer deadline, TimerEvent.created timer deadline ∈ history → deadline < 2 ^ 32

variable {history : History User} {event : TimerEvent User} {timer first second : Timer User}

theorem pending_cons_other (other : event.timer ≠ timer) :
    Pending (event :: history) timer ↔ Pending history timer := by
  unfold Pending
  rw [List.find?_cons_of_neg (by simpa [isAbout] using other)]

theorem pending_created (deadline : Nat) : Pending (.created timer deadline :: history) timer :=
  ⟨deadline, List.find?_cons_of_pos (by simp [isAbout, TimerEvent.timer])⟩

theorem not_pending_cons (about : event.timer = timer)
    (other : ∀ deadline, event ≠ .created timer deadline) :
    ¬Pending (event :: history) timer := by
  rintro ⟨deadline, found⟩
  rw [List.find?_cons_of_pos (by simpa [isAbout] using about)] at found
  exact other deadline (Option.some.inj found)

theorem before_cons_other (notFirst : event.timer ≠ first) (notSecond : event.timer ≠ second)
    (before : Before history first second) : Before (event :: history) first second := by
  unfold Before at *
  rw [List.findIdx_cons, List.findIdx_cons]
  simpa [isAbout, notFirst, notSecond] using before

theorem before_cons_about (notFirst : event.timer ≠ first) (about : event.timer = second) :
    Before (event :: history) first second := by
  unfold Before
  rw [List.findIdx_cons, List.findIdx_cons]
  have different : second ≠ first := fun same => notFirst (about.trans same)
  simp [isAbout, about, different]

omit [DecidableEq User] in
theorem NoWrap.of_cons (noWrap : NoWrap (event :: history)) : NoWrap history :=
  fun timer deadline member => noWrap timer deadline (List.mem_cons_of_mem event member)

/-- The order of timers with equal times; the dummy has no creation and comes
first. -/
def Older (history : History User) (first second : Timer User) : Prop :=
  first = .schedulerDummy ∨ Before history first second

end History

/-! ## The invariant of runs -/

/-- The driver of a running program holds a timetable that agrees with the history. -/
structure Execution.Holds (execution : Execution User) (table : Timetable User) : Prop where
  represents : Represents execution.scheduler table
  wellFormed : table.WellFormed
  calling : .schedulerDummy ∉ execution.calling
  pending : ∀ id, table.Waits id ↔ History.Pending execution.history (.user id)
  ordered : History.NoWrap execution.history → table.InOrder (History.Older execution.history)

namespace Execution.Holds

variable [Fintype User] {execution : Execution User} {table : Timetable User}

omit [Fintype User] in
theorem initial : (Execution.initial User).Holds (Timetable.initial User) where
  represents := Represents.initial
  wellFormed := Timetable.initial_wellFormed
  calling := List.not_mem_nil
  pending := by
    intro id
    simp [Timetable.Waits, Timetable.initial, Execution.initial, History.Pending]
  ordered := by
    intro _
    exact ⟨List.Pairwise.nil, fun _ member => absurd member List.not_mem_nil⟩

theorem deadline_eq (holds : execution.Holds table) (id : User) (timeout : UInt32) :
    execution.scheduler.deadline (.user id) timeout =
      ((table.delete (.user id)).enableInterrupt false).deadline timeout := by
  have deleted :=
    (holds.represents.schedulerTimeoutDelete holds.wellFormed id).setOvfEnable false
  unfold SchedulerState.deadline Timetable.deadline
  dsimp only
  rw [deleted.schedulerMakeAbsolute, deleted.timeOfLastTimeout]
  unfold Timetable.absolute
  congr 2
  grind

theorem create (holds : execution.Holds table) (id : User) (timeout : UInt32) :
    (execution.create (.user id) timeout).Holds (table.create (.user id) timeout) where
  represents := holds.represents.schedulerTimeoutCreate holds.wellFormed id timeout
  wellFormed := holds.wellFormed.create timeout
  calling := holds.calling
  pending := by
    intro other
    rw [Timetable.waits_create holds.wellFormed.toListed timeout, holds.pending other]
    by_cases same : other = id
    · subst same
      simp only [true_or, true_iff]
      exact History.pending_created _
    · simp only [same, false_or]
      symm
      apply History.pending_cons_other
      intro equal
      exact same (Timer.user.inj equal).symm
  ordered := by
    intro noWrap
    have fits := noWrap (.user id) _ List.mem_cons_self
    rw [holds.deadline_eq] at fits
    apply (holds.ordered noWrap.of_cons).create holds.wellFormed fits
    · intro first second notFirst notSecond older
      rcases older with isDummy | before
      · exact Or.inl isDummy
      · exact Or.inr (History.before_cons_other notFirst.symm notSecond.symm before)
    · intro timer different
      exact Or.inr (History.before_cons_about different.symm rfl)

omit [Fintype User] in
/-- What happens to a timer that leaves the lists does not touch the others. -/
theorem leave (holds : execution.Holds table) {next : Timetable User} {id : User}
    (event : TimerEvent User) (about : event.timer = .user id)
    (other : ∀ deadline, event ≠ .created (.user id) deadline)
    (waits : ∀ other, next.Waits other ↔ other ≠ id ∧ table.Waits other)
    (ordered : ∀ Older, table.InOrder Older → next.InOrder Older) :
    (∀ other, next.Waits other ↔ History.Pending (event :: execution.history) (.user other)) ∧
      (History.NoWrap (event :: execution.history) →
        next.InOrder (History.Older (event :: execution.history))) := by
  constructor
  · intro timer
    rw [waits, holds.pending]
    by_cases same : timer = id
    · subst same
      simp [History.not_pending_cons about other]
    · have different : event.timer ≠ .user timer := by
        rw [about]
        exact fun equal => same (Timer.user.inj equal).symm
      rw [History.pending_cons_other different]
      simp [same]
  · intro noWrap
    have gone : .user id ∉ next.active := fun member =>
      ((waits id).mp (Or.inl member)).1 rfl
    apply (ordered _ (holds.ordered noWrap.of_cons)).mono
    intro first firstMember second secondMember older
    rcases older with isDummy | before
    · exact Or.inl isDummy
    · have notFirst : event.timer ≠ first := fun same => gone (about ▸ same ▸ firstMember)
      have notSecond : event.timer ≠ second := fun same => gone (about ▸ same ▸ secondMember)
      exact Or.inr (History.before_cons_other notFirst notSecond before)

theorem delete (holds : execution.Holds table) (id : User) :
    (execution.delete (.user id)).Holds (table.delete (.user id)) := by
  have listed := holds.wellFormed.toListed
  have left := holds.leave (.deleted (.user id)) rfl (fun _ => by simp)
    (fun _ => Timetable.waits_delete listed)
    (fun _ ordered => ordered.delete listed (.user id))
  exact
    { represents := holds.represents.schedulerTimeoutDelete holds.wellFormed id
      wellFormed := holds.wellFormed.delete (.user id)
      calling := holds.calling
      pending := left.1
      ordered := left.2 }

theorem rtcStep (holds : execution.Holds table) (step : SchedulerState.RtcStep) :
    (execution.perform (.rtc step)).Holds (table.rtcStep step) where
  represents := holds.represents.rtcStep holds.wellFormed step
  wellFormed := holds.wellFormed.rtcStep step
  calling := holds.calling
  pending := by
    intro id
    rw [Timetable.waits_rtcStep, holds.pending]
    rfl
  ordered := fun noWrap =>
    (holds.ordered noWrap).rtcStep holds.wellFormed.toListed step

omit [Fintype User] in
theorem callNextCallback (holds : execution.Holds table) :
    ∃ next, execution.callNextCallback.Holds next := by
  have listed := holds.wellFormed.toListed
  rcases Execution.callNextCallback_cases holds.represents listed with
    same | ⟨id, rest, remaining, waiting, represents, called⟩
  · rw [same]
    exact ⟨table, holds⟩
  · rw [called]
    have left := holds.leave (.dispatched (.user id)) rfl (fun _ => by simp)
      (fun _ => Timetable.waits_dequeue listed waiting)
      (fun _ ordered => ordered.sublist (List.Sublist.refl _) (fun _ _ => rfl) rfl)
    refine ⟨table.dequeue, ?_⟩
    exact
      { represents := represents
        wellFormed := holds.wellFormed.dequeue
        calling := by simpa using holds.calling
        pending := left.1
        ordered := left.2 }

omit [Fintype User] in
theorem inside (holds : execution.Holds table) {calling : List (Timer User)}
    (noDummy : .schedulerDummy ∉ calling) :
    ({ execution with calling := calling } : Execution User).Holds table where
  represents := holds.represents
  wellFormed := holds.wellFormed
  calling := noDummy
  pending := holds.pending
  ordered := holds.ordered

theorem callbackReturns (holds : execution.Holds table) (reschedule : UInt32) :
    ∃ next, (execution.callbackReturns reschedule).Holds next := by
  obtain ⟨calling, noDummy, same | ⟨id, same⟩⟩ :=
    Execution.callbackReturns_cases holds.calling reschedule
  · rw [same]
    exact ⟨table, holds.inside noDummy⟩
  · rw [same]
    exact ⟨_, (holds.inside noDummy).create id reschedule⟩

theorem step (holds : execution.Holds table) (step : Step User) :
    ∃ next, (execution.step step).Holds next := by
  cases step with
  | operation operation =>
      cases operation with
      | create id timeout => exact ⟨_, holds.create id timeout⟩
      | delete id => exact ⟨_, holds.delete id⟩
      | rtc step => exact ⟨_, holds.rtcStep step⟩
  | callNextCallback => exact holds.callNextCallback
  | callbackReturns reschedule => exact holds.callbackReturns reschedule

end Execution.Holds

variable [Fintype User]

theorem runFromStart_holds (steps : List (Step User)) :
    ∃ table, (runFromStart steps).Holds table := by
  induction steps using List.reverseRecOn with
  | nil => exact ⟨_, Execution.Holds.initial⟩
  | append_singleton steps step inductionHypothesis =>
      obtain ⟨table, holds⟩ := inductionHypothesis
      rw [runFromStart_concat]
      exact holds.step step

/-! ## No timer is lost or duplicated -/

/-- In every run, the two lists end in null, have no timer twice and none in
common, hold the pending timers and at most one dummy at the head of the active
list, which is in order as long as no absolute time wraps around. -/
theorem run_keepsTimers (steps : List (Step User)) :
    ∃ active queue : List (Timer User),
      Linked (runFromStart steps).scheduler.link (runFromStart steps).scheduler.listHead active ∧
      Linked (runFromStart steps).scheduler.link (runFromStart steps).scheduler.executeQueueHead
        queue ∧
      active.Nodup ∧ queue.Nodup ∧ active.Disjoint queue ∧
      (∀ id, .user id ∈ active ∨ .user id ∈ queue ↔
        History.Pending (runFromStart steps).history (.user id)) ∧
      .schedulerDummy ∉ active.tail ∧ .schedulerDummy ∉ queue ∧
      (History.NoWrap (runFromStart steps).history →
        active.Pairwise fun first second =>
          ((runFromStart steps).scheduler.timers first).absoluteTime <
              ((runFromStart steps).scheduler.timers second).absoluteTime ∨
            ((runFromStart steps).scheduler.timers first).absoluteTime =
                ((runFromStart steps).scheduler.timers second).absoluteTime ∧
              (first = .schedulerDummy ∨
                History.Before (runFromStart steps).history first second)) := by
  obtain ⟨table, holds⟩ := runFromStart_holds steps
  have listed := holds.wellFormed.toListed
  refine ⟨table.active, table.queue, holds.represents.active, holds.represents.queue,
    listed.activeNodup, listed.queueNodup, listed.disjoint, holds.pending, listed.dummyFirst,
    listed.dummyNotQueued, ?_⟩
  intro noWrap
  refine (holds.ordered noWrap).sorted.imp ?_
  intro first second before
  rw [holds.represents.absoluteTime, holds.represents.absoluteTime]
  exact before

end MicrochipDay.Scheduler
