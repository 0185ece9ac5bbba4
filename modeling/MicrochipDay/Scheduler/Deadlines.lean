import MicrochipDay.Scheduler.Bookkeeping

/-!
Owns what creating or deleting one timer does to the deadlines of the others.
Whenever the driver loads the counter again, the ticks counted since the time
base are lost: the other timers then expire that much later, and a new timer
that becomes the first one keeps them on top of its timeout.
-/

namespace MicrochipDay.Scheduler

variable {User : Type}

/-- The ticks for which the counter is loaded, when a timer lies that far ahead. -/
def inReach (period : UInt32) : UInt32 := if period > 65535 then 65535 else period

theorem inReach_of_near {period : UInt32} (near : period ≤ 65535) : inReach period = period :=
  if_neg (UInt32.not_lt.mpr near)

theorem inReach_of_far {period : UInt32} (far : period > 65535) : inReach period = 65535 :=
  if_pos far

namespace Timetable

/-- The ticks until a timer expires. -/
def remaining (table : Timetable User) (timer : Timer User) : UInt32 :=
  table.absoluteTime timer - table.absolute 0

variable {table : Timetable User} {timer : Timer User}

theorem remaining_eq : table.remaining timer = table.period timer - table.elapsed := by
  unfold remaining absolute period
  grind

/-! ## Loading the counter -/

/-- A counter that was loaded to overflow after `duration` ticks counts them up to its top. -/
theorem counted_to_top (top duration : UInt32) : top - (top - duration) = duration := by
  grind

theorem elapsed_running (running : table.isRunning = true) :
    table.elapsed =
      (if table.rtc.ovfFlag then 65535 else table.rtc.cnt.toUInt32) - table.lastTimerLoad := by
  unfold elapsed
  rw [if_pos running]

theorem elapsed_load {duration : UInt32} (fits : duration ≤ 65535) :
    (table.load duration).elapsed = if table.rtc.ovfFlag then duration else 0 := by
  have counted := elapsed_running (show (table.load duration).isRunning = true by rw [load])
  have flag : (table.load duration).rtc.ovfFlag = table.rtc.ovfFlag := by rw [load_rtc]
  have base : (table.load duration).lastTimerLoad = 65535 - duration := by rw [load]
  have loaded : (table.load duration).rtc.cnt.toUInt32 = 65535 - duration := by
    rw [load_rtc]
    exact counterValue fits
  rw [counted, loaded, flag, base]
  by_cases overflowed : table.rtc.ovfFlag = true
  · rw [if_pos overflowed, if_pos overflowed]
    exact counted_to_top _ duration
  · rw [if_neg overflowed, if_neg overflowed]
    exact UInt32.sub_self _

variable [DecidableEq User]

/-- The first timer when the counter is loaded: the head, or the dummy where
the head is too far away. -/
theorem rearm_head {head : Timer User} (first : table.active.head? = some head) :
    ∃ next, table.rearm.active.head? = some next ∧
      table.rearm.period next = inReach (table.period head) := by
  by_cases near : table.period head ≤ 65535
  · rw [rearm_of_near first near, inReach_of_near near]
    refine ⟨head, by rw [load_active, first], ?_⟩
    unfold period
    rw [load_absoluteTime, load_timeOfLastTimeout]
  · have far := UInt32.not_le.mp near
    rw [rearm_of_far first far, inReach_of_far far]
    refine ⟨.schedulerDummy, by rw [load_active]; rfl, ?_⟩
    unfold period
    rw [load_absoluteTime, load_timeOfLastTimeout, pushDummy_absoluteTime_dummy]
    show table.timeOfLastTimeout + 65535 - table.timeOfLastTimeout = 65535
    grind

theorem elapsed_rearm {head : Timer User} (first : table.active.head? = some head) :
    table.rearm.elapsed =
      if table.rtc.ovfFlag then inReach (table.period head) else 0 := by
  by_cases near : table.period head ≤ 65535
  · rw [rearm_of_near first near, elapsed_load near, inReach_of_near near]
  · have far := UInt32.not_le.mp near
    rw [rearm_of_far first far, elapsed_load (UInt32.le_refl _), inReach_of_far far]
    rfl

theorem rearm_timeOfLastTimeout (occupied : table.active ≠ []) :
    table.rearm.timeOfLastTimeout = table.timeOfLastTimeout := by
  apply rearm_cases fun result => result.timeOfLastTimeout = table.timeOfLastTimeout
  · intro none
    exact absurd none occupied
  · intro _ _ _
    rw [load_timeOfLastTimeout]
  · intro _ _ _
    rw [load_timeOfLastTimeout]
    rfl

theorem period_rearm {id : User} (occupied : table.active ≠ []) :
    table.rearm.period (.user id) = table.period (.user id) := by
  unfold period
  rw [rearm_absoluteTime, rearm_timeOfLastTimeout occupied]

/-! ## Deleting -/

/-- Deleting the timer loads the counter again. -/
def Rearms (table : Timetable User) (timer : Timer User) : Prop :=
  table.active.head? = some timer ∨ timer ∉ table.active ∧ table.queue.head? = some timer

/-- The lists without a timer; nothing is loaded. -/
def without (table : Timetable User) (timer : Timer User) : Timetable User :=
  { table with active := table.active.erase timer, queue := table.queue.erase timer }

theorem deleteQueued_first (first : table.queue.head? = some timer) :
    table.deleteQueued timer = { table with queue := table.queue.erase timer }.rearm := by
  unfold deleteQueued
  cases waiting : table.queue with
  | nil => simp [waiting] at first
  | cons head rest =>
      obtain rfl : head = timer := by simpa [waiting] using first
      simp

theorem deleteQueued_behind (notFirst : table.queue.head? ≠ some timer) :
    ∃ enable, table.deleteQueued timer =
      { table.enableInterrupt enable with queue := table.queue.erase timer } := by
  unfold deleteQueued
  cases waiting : table.queue with
  | nil =>
      refine ⟨table.rtc.ovfEnable, ?_⟩
      show table = { table.enableInterrupt table.rtc.ovfEnable with queue := [] }
      rw [← waiting]
      rfl
  | cons head rest =>
      have notHead : timer ≠ head := by
        rintro rfl
        simp [waiting] at notFirst
      refine ⟨true, ?_⟩
      simp only [notHead, if_false]
      rw [List.erase_cons_tail (by simpa using notHead.symm)]

theorem delete_of_notMem (notActive : timer ∉ table.active) :
    ∃ enable, table.delete timer = (table.enableInterrupt enable).deleteQueued timer := by
  unfold delete
  cases active : table.active with
  | nil => exact ⟨table.rtc.ovfEnable, rfl⟩
  | cons head rest =>
      rw [active] at notActive
      have notHead : timer ≠ head := List.ne_of_not_mem_cons notActive
      have notBehind : timer ∉ rest := List.not_mem_of_not_mem_cons notActive
      refine ⟨true, ?_⟩
      simp only [notHead, notBehind, if_false]

theorem delete_of_rearms (listed : table.Listed) (rearms : table.Rearms timer) :
    table.delete timer = (table.without timer).rearm := by
  rcases rearms with first | ⟨notActive, first⟩
  · unfold delete without
    cases active : table.active with
    | nil => simp [active] at first
    | cons head rest =>
        obtain rfl : head = timer := by simpa [active] using first
        have notQueued : head ∉ table.queue :=
          fun member => listed.disjoint (active ▸ List.mem_cons_self) member
        simp [List.erase_of_not_mem notQueued]
  · obtain ⟨enable, deleted⟩ := delete_of_notMem notActive
    have firstMasked : (table.enableInterrupt enable).queue.head? = some timer := first
    rw [deleted, deleteQueued_first firstMasked, ← rearm_enableInterrupt enable]
    unfold without
    rw [List.erase_of_not_mem notActive]
    rfl

theorem delete_of_not_rearms (listed : table.Listed) (stays : ¬table.Rearms timer) :
    ∃ enable, table.delete timer = (table.without timer).enableInterrupt enable := by
  unfold Rearms at stays
  rw [not_or, not_and] at stays
  by_cases member : timer ∈ table.active
  · unfold delete without
    cases active : table.active with
    | nil => simp [active] at member
    | cons head rest =>
        have notHead : timer ≠ head := by
          rintro rfl
          simp [active] at stays
        have behind : timer ∈ rest := by
          simpa [active, notHead] using member
        have notQueued : timer ∉ table.queue :=
          fun queued => listed.disjoint member queued
        refine ⟨true, ?_⟩
        simp only [notHead, behind, if_true, if_false]
        rw [List.erase_cons_tail (by simpa using notHead.symm), List.erase_of_not_mem notQueued]
        rfl
  · obtain ⟨enable, deleted⟩ := delete_of_notMem member
    have notFirst : (table.enableInterrupt enable).queue.head? ≠ some timer := stays.2 member
    obtain ⟨enableAfter, unloaded⟩ := deleteQueued_behind notFirst
    refine ⟨enableAfter, ?_⟩
    rw [deleted, unloaded]
    unfold without
    rw [List.erase_of_not_mem member]
    rfl

instance (table : Timetable User) (timer : Timer User) : Decidable (table.Rearms timer) :=
  inferInstanceAs (Decidable (_ ∨ _ ∧ _))

/-- The ticks for which the counter is loaded when the timer is no longer there. -/
def dueWithout (table : Timetable User) (timer : Timer User) : UInt32 :=
  match table.active.erase timer with
  | [] => 65535
  | head :: _ => inReach (table.period head)

/-- The ticks counted since the time base, as the driver has them after a
deletion that leaves a timer active. -/
def elapsedWithout (table : Timetable User) (timer : Timer User) : UInt32 :=
  if table.Rearms timer then if table.rtc.ovfFlag then table.dueWithout timer else 0
  else table.elapsed

private theorem first_without (others : table.active.erase timer ≠ []) : ∃ head,
    (table.without timer).active.head? = some head ∧
      table.dueWithout timer = inReach (table.period head) := by
  unfold without dueWithout
  cases left : table.active.erase timer with
  | nil => exact absurd left others
  | cons head rest => exact ⟨head, rfl, rfl⟩

section Delete

variable (wellFormed : table.WellFormed) (others : table.active.erase timer ≠ [])
include wellFormed others

theorem delete_elapsed : (table.delete timer).elapsed = table.elapsedWithout timer := by
  obtain ⟨head, first, due⟩ := first_without others
  unfold elapsedWithout
  by_cases rearms : table.Rearms timer
  · rw [delete_of_rearms wellFormed.toListed rearms, elapsed_rearm first, if_pos rearms, due]
    rfl
  · obtain ⟨enable, deleted⟩ := delete_of_not_rearms wellFormed.toListed rearms
    rw [deleted, if_neg rearms]
    rfl

theorem delete_period (id : User) :
    (table.delete timer).period (.user id) = table.period (.user id) := by
  by_cases rearms : table.Rearms timer
  · rw [delete_of_rearms wellFormed.toListed rearms, period_rearm others]
    rfl
  · obtain ⟨enable, deleted⟩ := delete_of_not_rearms wellFormed.toListed rearms
    rw [deleted]
    rfl

theorem delete_first : ∃ next, (table.delete timer).active.head? = some next ∧
    (table.delete timer).period next = table.dueWithout timer := by
  obtain ⟨head, first, due⟩ := first_without others
  rw [due]
  by_cases rearms : table.Rearms timer
  · rw [delete_of_rearms wellFormed.toListed rearms]
    exact rearm_head first
  · obtain ⟨enable, deleted⟩ := delete_of_not_rearms wellFormed.toListed rearms
    have sameHead : table.active.head? = some head := by
      unfold Rearms at rearms
      unfold without at first
      cases active : table.active with
      | nil => simp [active] at first
      | cons front rest =>
          have notFront : front ≠ timer := by
            rintro rfl
            simp [active] at rearms
          simpa [active, List.erase_cons_tail, notFront] using first
    have near := wellFormed.near head sameHead
    rw [deleted, inReach_of_near near]
    exact ⟨head, first, rfl⟩

end Delete

/-- No timer of the program is active but this one. -/
def NoOther (table : Timetable User) (timer : Timer User) : Prop :=
  ∀ id, .user id ∈ table.active → .user id = timer

/-- The other active timers of the program expire when they would have. -/
def KeepsOthers (table next : Timetable User) (timer : Timer User) : Prop :=
  ∀ id, .user id ≠ timer → .user id ∈ table.active →
    next.remaining (.user id) = table.remaining (.user id)

theorem others_of_mem {id : User} (different : .user id ≠ timer)
    (member : .user id ∈ table.active) : table.active.erase timer ≠ [] := by
  apply List.ne_nil_of_mem
  exact (List.mem_erase_of_ne different).mpr member

omit [DecidableEq User] in
/-- The others keep their deadlines if no ticks get lost. -/
theorem keepsOthers_iff {next : Timetable User}
    (period : ∀ id, .user id ≠ timer → .user id ∈ table.active →
      next.period (.user id) = table.period (.user id)) :
    table.KeepsOthers next timer ↔ table.NoOther timer ∨ next.elapsed = table.elapsed := by
  constructor
  · intro keeps
    by_cases lone : table.NoOther timer
    · exact Or.inl lone
    · simp only [NoOther, not_forall] at lone
      obtain ⟨id, member, different⟩ := lone
      have same := keeps id different member
      rw [remaining_eq, remaining_eq, period id different member] at same
      right
      grind
  · intro condition id different member
    rw [remaining_eq, remaining_eq, period id different member]
    rcases condition with lone | same
    · exact absurd (lone id member) different
    · rw [same]

theorem delete_keepsOthers_iff (wellFormed : table.WellFormed) :
    table.KeepsOthers (table.delete timer) timer ↔
      table.NoOther timer ∨ table.elapsedWithout timer = table.elapsed := by
  by_cases others : table.active.erase timer = []
  · have lone : table.NoOther timer := by
      intro id member
      by_contra different
      exact others_of_mem different member others
    constructor
    · exact fun _ => Or.inl lone
    · exact fun _ id different member => absurd (lone id member) different
  · rw [keepsOthers_iff fun id _ _ => delete_period wellFormed others id,
      delete_elapsed wellFormed others]

/-! ## Creating -/

section Insert

variable {id : User} {time : UInt32}

/-- A new first timer starts to count at once, any other one leaves the counter
alone. -/
theorem insert_elapsed {next : Timer User} (first : table.active.head? = some next)
    (different : next ≠ .user id) :
    (table.insert (.user id) time).elapsed =
      if table.absoluteTime next ≤ time then table.elapsed else 0 := by
  have sameTime : (table.setTime (.user id) time).absoluteTime next = table.absoluteTime next :=
    Function.update_of_ne different _ _
  have firstExpires : (table.setTime (.user id) time).expiresBy time next =
      decide (table.absoluteTime next ≤ time) := by
    unfold expiresBy
    rw [sameTime]
  obtain ⟨rest, active⟩ := List.head?_eq_some_iff.mp first
  have sameActive : (table.setTime (.user id) time).active = next :: rest := active
  unfold insert
  dsimp only
  rw [sameActive]
  by_cases expires : table.absoluteTime next ≤ time
  · rw [List.takeWhile_cons_of_pos (by simp [firstExpires, expires]), if_pos expires]
    rfl
  · rw [List.takeWhile_cons_of_neg (by simp [firstExpires, expires]), if_neg expires]
    dsimp only
    rw [elapsed_rearm rfl]
    rfl

theorem insert_elapsed_of_idle (idle : table.active = []) :
    (table.insert (.user id) time).elapsed = 0 := by
  have sameActive : (table.setTime (.user id) time).active = [] := idle
  unfold insert
  dsimp only
  rw [sameActive, List.takeWhile_nil]
  dsimp only
  rw [elapsed_rearm rfl]
  rfl

theorem insert_period (other : User) :
    (table.insert (.user id) time).period (.user other) =
      (table.setTime (.user id) time).period (.user other) := by
  apply insert_cases time fun result =>
    result.period (.user other) = (table.setTime (.user id) time).period (.user other)
  · rw [period_rearm (List.cons_ne_nil _ _)]
    rfl
  · intro _ _ _ _
    rfl

end Insert

omit [DecidableEq User] in
/-- Whether a timer expires before a new one, in ticks from the time base. -/
theorem le_absolute_iff (table : Timetable User) {timeout : UInt32}
    (notBefore : table.timeOfLastTimeout ≤ table.absoluteTime timer)
    (fits : table.deadline timeout < 2 ^ 32) :
    table.absoluteTime timer ≤ table.absolute timeout ↔
      (table.period timer).toNat ≤ timeout.toNat + table.elapsed.toNat := by
  unfold period
  rw [UInt32.le_iff_toNat_le, absolute_toNat fits, UInt32.toNat_sub_of_le _ _ notBefore]
  rw [UInt32.le_iff_toNat_le] at notBefore
  unfold deadline
  omega

section Create

variable {id : User} {timeout : UInt32} {Older : Timer User → Timer User → Prop}

theorem create_elapsed (wellFormed : table.WellFormed) (ordered : table.InOrder Older)
    (others : table.active.erase (.user id) ≠ [])
    (fits : ((table.delete (.user id)).enableInterrupt false).deadline timeout < 2 ^ 32) :
    (table.create (.user id) timeout).elapsed =
      if (table.dueWithout (.user id)).toNat ≤
          timeout.toNat + (table.elapsedWithout (.user id)).toNat then
        table.elapsedWithout (.user id)
      else 0 := by
  obtain ⟨next, first, due⟩ := delete_first wellFormed others
  have member := List.mem_of_mem_head? first
  have different : next ≠ .user id := by
    rintro rfl
    exact ((mem_delete_active wellFormed.toListed).mp member).1 rfl
  have notBefore := (ordered.delete wellFormed.toListed (.user id)).notBefore next member
  have firstMasked : ((table.delete (.user id)).enableInterrupt false).active.head? =
    some next := first
  rw [create_eq_insert fits, insert_elapsed firstMasked different]
  have sooner := le_absolute_iff ((table.delete (.user id)).enableInterrupt false) notBefore fits
  simp only [sooner]
  rw [← due, ← delete_elapsed wellFormed others]
  rfl

theorem create_period (wellFormed : table.WellFormed)
    (others : table.active.erase (.user id) ≠ [])
    (fits : ((table.delete (.user id)).enableInterrupt false).deadline timeout < 2 ^ 32)
    {other : User} (different : other ≠ id) :
    (table.create (.user id) timeout).period (.user other) = table.period (.user other) := by
  have differentTimer : Timer.user other ≠ .user id := fun same => different (Timer.user.inj same)
  rw [create_eq_insert fits, insert_period, ← delete_period wellFormed others other]
  unfold period setTime
  dsimp only
  rw [Function.update_of_ne differentTimer]
  rfl

theorem create_period_self
    (fits : ((table.delete (.user id)).enableInterrupt false).deadline timeout < 2 ^ 32) :
    (table.create (.user id) timeout).period (.user id) =
      timeout + (table.delete (.user id)).elapsed := by
  rw [create_eq_insert fits, insert_period]
  unfold period setTime
  dsimp only
  rw [Function.update_self]
  show timeout + (table.delete (.user id)).timeOfLastTimeout + (table.delete (.user id)).elapsed -
    (table.delete (.user id)).timeOfLastTimeout = _
  grind

/-- The only timer is created anew. -/
theorem create_lone (wellFormed : table.WellFormed) (occupied : table.active ≠ [])
    (lone : table.active.erase (.user id) = [])
    (fits : ((table.delete (.user id)).enableInterrupt false).deadline timeout < 2 ^ 32) :
    table.Rearms (.user id) ∧ (table.create (.user id) timeout).remaining (.user id) = timeout := by
  have rearms : table.Rearms (.user id) := by
    left
    cases active : table.active with
    | nil => exact absurd active occupied
    | cons head rest =>
        by_cases same : head = .user id
        · rw [same, List.head?_cons]
        · rw [active, List.erase_cons_tail (by simpa using same)] at lone
          exact absurd lone (List.cons_ne_nil _ _)
  have deleted := delete_of_rearms wellFormed.toListed rearms
  have idle : (table.without (.user id)).active = [] := lone
  rw [rearm_of_nil idle] at deleted
  have idleAfter : ((table.delete (.user id)).enableInterrupt false).active = [] := by
    rw [deleted]
    exact idle
  refine ⟨rearms, ?_⟩
  rw [remaining_eq, create_period_self fits, create_eq_insert fits,
    insert_elapsed_of_idle idleAfter, deleted]
  show timeout + 0 - 0 = timeout
  grind

theorem create_keepsOthers_iff (wellFormed : table.WellFormed) (ordered : table.InOrder Older)
    (occupied : table.active ≠ [])
    (fits : ((table.delete (.user id)).enableInterrupt false).deadline timeout < 2 ^ 32) :
    (table.KeepsOthers (table.create (.user id) timeout) (.user id) ∧
        (table.create (.user id) timeout).remaining (.user id) = timeout) ↔
      table.NoOther (.user id) ∧ table.Rearms (.user id) ∨
        table.elapsedWithout (.user id) = table.elapsed ∧
          (table.elapsed = 0 ∨
            (table.dueWithout (.user id)).toNat ≤ timeout.toNat + table.elapsed.toNat) := by
  by_cases others : table.active.erase (.user id) = []
  · have created := create_lone wellFormed occupied others fits
    have lone : table.NoOther (.user id) := by
      intro other member
      by_contra different
      exact others_of_mem different member others
    have keeps : table.KeepsOthers (table.create (.user id) timeout) (.user id) :=
      fun other different member => absurd (lone other member) different
    simp only [keeps, created, lone, true_and, true_or]
  · have period : ∀ other, Timer.user other ≠ .user id → .user other ∈ table.active →
        (table.create (.user id) timeout).period (.user other) = table.period (.user other) :=
      fun other different _ =>
        create_period wellFormed others fits fun same => different (congrArg Timer.user same)
    rw [keepsOthers_iff period, remaining_eq, create_period_self fits,
      delete_elapsed wellFormed others, create_elapsed wellFormed ordered others fits]
    by_cases rearms : table.Rearms (.user id)
    · have settled : (table.dueWithout (.user id)).toNat ≤
            timeout.toNat + (table.elapsedWithout (.user id)).toNat ∨
          table.elapsedWithout (.user id) = 0 := by
        unfold elapsedWithout
        rw [if_pos rearms]
        split
        · left
          omega
        · right
          rfl
      have own : timeout + table.elapsedWithout (.user id) - table.elapsedWithout (.user id) =
          timeout := by
        grind
      have same : (if (table.dueWithout (.user id)).toNat ≤
            timeout.toNat + (table.elapsedWithout (.user id)).toNat then
          table.elapsedWithout (.user id) else 0) = table.elapsedWithout (.user id) := by
        grind
      rw [same]
      grind
    · have unloaded : table.elapsedWithout (.user id) = table.elapsed := if_neg rearms
      rw [unloaded]
      grind

end Create

/-- When deleting a timer loses no ticks that another one needs. -/
def DeleteKeeps (table : Timetable User) (timer : Timer User) : Prop :=
  table.NoOther timer ∨ ¬table.Rearms timer ∨
    table.elapsed = if table.rtc.ovfFlag then table.dueWithout timer else 0

/-- When creating a timer loses no ticks: neither its deletion does, nor does it
become the first timer after some have been counted. -/
def CreateKeeps (table : Timetable User) (timer : Timer User) (timeout : UInt32) : Prop :=
  table.NoOther timer ∧ table.Rearms timer ∨
    (¬table.Rearms timer ∨
      table.elapsed = if table.rtc.ovfFlag then table.dueWithout timer else 0) ∧
    (table.elapsed = 0 ∨
      (table.dueWithout timer).toNat ≤ timeout.toNat + table.elapsed.toNat)

theorem elapsedWithout_eq_iff :
    table.elapsedWithout timer = table.elapsed ↔
      ¬table.Rearms timer ∨
        table.elapsed = if table.rtc.ovfFlag then table.dueWithout timer else 0 := by
  unfold elapsedWithout
  by_cases rearms : table.Rearms timer
  · simp only [rearms, if_true, not_true, false_or]
    exact eq_comm
  · simp only [rearms, if_false, not_false_iff, true_or]

end Timetable

/-! ## The driver -/

variable [DecidableEq User] [Fintype User]

/-- The timetable that the driver's variables hold. -/
def SchedulerState.timetable (state : SchedulerState User) : Timetable User where
  active := state.listFrom state.listHead
  queue := state.listFrom state.executeQueueHead
  absoluteTime := fun timer => (state.timers timer).absoluteTime
  timeOfLastTimeout := state.absoluteTimeOfLastTimeout
  lastTimerLoad := state.lastTimerLoad
  isRunning := state.isRunning
  rtc := state.rtc

/-- The ticks until a timer expires: its absolute time less that of now. -/
def SchedulerState.remaining (state : SchedulerState User) (timer : Timer User) : UInt32 :=
  (state.timers timer).absoluteTime - state.schedulerMakeAbsolute 0

/-- The other active timers of the program expire when they would have. -/
def SchedulerState.KeepsOthers (state next : SchedulerState User) (timer : Timer User) : Prop :=
  ∀ id, .user id ≠ timer → .user id ∈ state.listFrom state.listHead →
    next.remaining (.user id) = state.remaining (.user id)

namespace Represents

variable {state next : SchedulerState User} {table nextTable : Timetable User}

omit [DecidableEq User] in
theorem timetable_eq (represents : Represents state table) : state.timetable = table := by
  unfold SchedulerState.timetable
  rw [listFrom_eq represents.active, listFrom_eq represents.queue,
    funext represents.absoluteTime, represents.timeOfLastTimeout, represents.lastTimerLoad,
    represents.isRunning, represents.rtc]

omit [DecidableEq User] [Fintype User] in
theorem remaining_eq (represents : Represents state table) (timer : Timer User) :
    state.remaining timer = table.remaining timer := by
  unfold SchedulerState.remaining Timetable.remaining
  rw [represents.absoluteTime, represents.schedulerMakeAbsolute]

omit [DecidableEq User] in
theorem keepsOthers_iff (represents : Represents state table)
    (nextRepresents : Represents next nextTable) (timer : Timer User) :
    state.KeepsOthers next timer ↔ table.KeepsOthers nextTable timer := by
  unfold SchedulerState.KeepsOthers Timetable.KeepsOthers
  simp only [listFrom_eq represents.active, represents.remaining_eq, nextRepresents.remaining_eq]

end Represents

/-- While the counter runs and no time wraps around, deleting a timer keeps the
deadlines of the others exactly if the counter is not loaded again or no ticks
have been counted that get lost; creating one keeps them and sets its own
exactly if in addition the new timer does not become the first one after some
ticks. -/
theorem keepsOthers_iff_noTicksLost (steps : List (Step User)) (id : User)
    (running : (runFromStart steps).scheduler.isRunning = true)
    (noWrap : History.NoWrap (runFromStart steps).history) :
    ((runFromStart steps).scheduler.KeepsOthers
        ((runFromStart steps).scheduler.schedulerTimeoutDelete (.user id)) (.user id) ↔
      (runFromStart steps).scheduler.timetable.DeleteKeeps (.user id)) ∧
    ∀ timeout, (runFromStart steps).scheduler.deadline (.user id) timeout < 2 ^ 32 →
      ((runFromStart steps).scheduler.KeepsOthers
            ((runFromStart steps).scheduler.schedulerTimeoutCreate (.user id) timeout)
            (.user id) ∧
          ((runFromStart steps).scheduler.schedulerTimeoutCreate (.user id) timeout).remaining
            (.user id) = timeout ↔
        (runFromStart steps).scheduler.timetable.CreateKeeps (.user id) timeout) := by
  obtain ⟨table, holds⟩ := runFromStart_holds steps
  have wellFormed := holds.wellFormed
  have occupied : table.active ≠ [] := by
    intro idle
    rw [holds.represents.isRunning, wellFormed.running, idle] at running
    exact absurd running (by simp)
  rw [holds.represents.timetable_eq]
  constructor
  · have deleted := holds.represents.schedulerTimeoutDelete wellFormed id
    rw [holds.represents.keepsOthers_iff deleted, Timetable.delete_keepsOthers_iff wellFormed,
      Timetable.elapsedWithout_eq_iff]
    rfl
  · intro timeout fits
    have created := holds.represents.schedulerTimeoutCreate wellFormed id timeout
    rw [holds.deadline_eq] at fits
    rw [holds.represents.keepsOthers_iff created, created.remaining_eq,
      Timetable.create_keepsOthers_iff wellFormed (holds.ordered noWrap) occupied fits,
      Timetable.elapsedWithout_eq_iff]
    rfl

/-- A timer created in front of another one that has been counting for a while. -/
private def createdInFront : List (Step (Fin 2)) :=
  [.operation (.create 0 1000), .operation (.rtc (.count 400))]

private theorem createdInFront_noWrap :
    History.NoWrap (runFromStart createdInFront).history := by
  have history : (runFromStart createdInFront).history = [.created (.user 0) 1000] := by
    decide +kernel
  intro timer deadline member
  rw [history, List.mem_singleton] at member
  cases member
  decide

theorem keepsOthers_iff_noTicksLost_createdInFront :
    ((runFromStart createdInFront).scheduler.KeepsOthers
        ((runFromStart createdInFront).scheduler.schedulerTimeoutDelete (.user 1)) (.user 1) ↔
      (runFromStart createdInFront).scheduler.timetable.DeleteKeeps (.user 1)) ∧
    ((runFromStart createdInFront).scheduler.KeepsOthers
          ((runFromStart createdInFront).scheduler.schedulerTimeoutCreate (.user 1) 100)
          (.user 1) ∧
        ((runFromStart createdInFront).scheduler.schedulerTimeoutCreate (.user 1) 100).remaining
          (.user 1) = 100 ↔
      (runFromStart createdInFront).scheduler.timetable.CreateKeeps (.user 1) 100) :=
  have keeps := keepsOthers_iff_noTicksLost createdInFront 1 (by decide +kernel)
    createdInFront_noWrap
  ⟨keeps.1, keeps.2 100 (by decide +kernel)⟩

theorem create_movesDeadlines :
    History.NoWrap (runFromStart createdInFront).history ∧
      (runFromStart createdInFront).scheduler.isRunning = true ∧
      .user 0 ∈ (runFromStart createdInFront).scheduler.listFrom
        (runFromStart createdInFront).scheduler.listHead ∧
      (runFromStart createdInFront).scheduler.remaining (.user 0) = 600 ∧
      ((runFromStart createdInFront).scheduler.schedulerTimeoutCreate (.user 1) 100).remaining
        (.user 0) = 1000 ∧
      ((runFromStart createdInFront).scheduler.schedulerTimeoutCreate (.user 1) 100).remaining
        (.user 1) = 500 :=
  ⟨createdInFront_noWrap, by decide +kernel⟩

end MicrochipDay.Scheduler
