import MicrochipDay.Library.LinkedList
import MicrochipDay.Scheduler.Operations
import Mathlib.Data.Fintype.Option

/-!
Owns when the timeout driver holds a timetable: its links lead through the
timers of the timetable's two lists, and its variables and registers hold what
the timetable says.
-/

namespace MicrochipDay.Scheduler

open MicrochipDay.Library.LinkedList

variable {User : Type}

namespace SchedulerState

def link (state : SchedulerState User) (timer : Timer User) : Option (Timer User) :=
  (state.timers timer).next

end SchedulerState

open SchedulerState

/-- The pointers and the variables of the driver hold a timetable. -/
structure Represents (state : SchedulerState User) (table : Timetable User) : Prop where
  active : Linked state.link state.listHead table.active
  queue : Linked state.link state.executeQueueHead table.queue
  absoluteTime : ∀ timer, (state.timers timer).absoluteTime = table.absoluteTime timer
  timeOfLastTimeout : state.absoluteTimeOfLastTimeout = table.timeOfLastTimeout
  lastTimerLoad : state.lastTimerLoad = table.lastTimerLoad
  isRunning : state.isRunning = table.isRunning
  rtc : state.rtc = table.rtc

namespace Represents

variable {state : SchedulerState User} {table : Timetable User} {timer : Timer User}

/-! ## Registers -/

theorem schedulerMakeAbsolute (represents : Represents state table) (timeout : UInt32) :
    state.schedulerMakeAbsolute timeout = table.absolute timeout := by
  unfold SchedulerState.schedulerMakeAbsolute Timetable.absolute Timetable.elapsed
  rw [represents.timeOfLastTimeout, represents.isRunning, represents.rtc,
    represents.lastTimerLoad]
  split
  · rfl
  · simp

theorem setOvfEnable (represents : Represents state table) (enable : Bool) :
    Represents (state.setOvfEnable enable) (table.enableInterrupt enable) where
  active := represents.active
  queue := represents.queue
  absoluteTime := represents.absoluteTime
  timeOfLastTimeout := represents.timeOfLastTimeout
  lastTimerLoad := represents.lastTimerLoad
  isRunning := represents.isRunning
  rtc := by
    unfold SchedulerState.setOvfEnable Timetable.enableInterrupt
    rw [represents.rtc]

theorem clearOvfFlag (represents : Represents state table) :
    Represents state.clearOvfFlag table.clearFlag where
  active := represents.active
  queue := represents.queue
  absoluteTime := represents.absoluteTime
  timeOfLastTimeout := represents.timeOfLastTimeout
  lastTimerLoad := represents.lastTimerLoad
  isRunning := represents.isRunning
  rtc := by
    unfold SchedulerState.clearOvfFlag Timetable.clearFlag
    rw [represents.rtc]

theorem schedulerStopTimeouts (represents : Represents state table) :
    Represents state.schedulerStopTimeouts table.stop where
  active := represents.active
  queue := represents.queue
  absoluteTime := represents.absoluteTime
  timeOfLastTimeout := rfl
  lastTimerLoad := represents.lastTimerLoad
  isRunning := rfl
  rtc := (represents.setOvfEnable false).rtc

/-- Writing a value to the counter and starting it. -/
theorem startFrom (represents : Represents state table) (value : UInt32) :
    Represents
      { ({ state with
          lastTimerLoad := value
          rtc := { state.rtc with cnt := value.toUInt16 } } : SchedulerState User).setOvfEnable true
        with isRunning := true }
      { table with
        lastTimerLoad := value
        isRunning := true
        rtc := ⟨value.toUInt16, table.rtc.ovfFlag, true⟩ } where
  active := represents.active
  queue := represents.queue
  absoluteTime := represents.absoluteTime
  timeOfLastTimeout := represents.timeOfLastTimeout
  lastTimerLoad := rfl
  isRunning := rfl
  rtc := by
    unfold SchedulerState.setOvfEnable
    rw [represents.rtc]

theorem load (represents : Represents state table) (duration : UInt32) :
    Represents
      { (state.schedulerSetTimerDuration duration).setOvfEnable true with isRunning := true }
      (table.load duration) :=
  represents.startFrom (65535 - duration)

/-! ## Links and times -/

variable [DecidableEq User]

theorem link_setNext (next : Option (Timer User)) :
    (state.setNext timer next).link = Function.update state.link timer next := by
  funext other
  unfold SchedulerState.link SchedulerState.setNext
  by_cases same : other = timer
  · subst same
    simp
  · simp [same]

theorem link_setAbsoluteTime (time : UInt32) :
    (state.setAbsoluteTime timer time).link = state.link := by
  funext other
  unfold SchedulerState.link SchedulerState.setAbsoluteTime
  by_cases same : other = timer
  · subst same
    simp
  · simp [same]

theorem absoluteTime_setNext (next : Option (Timer User)) (other : Timer User) :
    ((state.setNext timer next).timers other).absoluteTime =
      (state.timers other).absoluteTime := by
  unfold SchedulerState.setNext
  by_cases same : other = timer
  · subst same
    simp
  · simp [same]

omit [DecidableEq User] in
/-- Writes to links and heads that leave the registers and the times alone. -/
theorem relink (represents : Represents state table) {next : SchedulerState User}
    {active queue : List (Timer User)}
    (activeLinked : Linked next.link next.listHead active)
    (queueLinked : Linked next.link next.executeQueueHead queue)
    (times : ∀ other, (next.timers other).absoluteTime = (state.timers other).absoluteTime)
    (base : next.absoluteTimeOfLastTimeout = state.absoluteTimeOfLastTimeout)
    (load : next.lastTimerLoad = state.lastTimerLoad)
    (running : next.isRunning = state.isRunning) (rtc : next.rtc = state.rtc) :
    Represents next { table with active := active, queue := queue } where
  active := activeLinked
  queue := queueLinked
  absoluteTime := fun other => (times other).trans (represents.absoluteTime other)
  timeOfLastTimeout := base.trans represents.timeOfLastTimeout
  lastTimerLoad := load.trans represents.lastTimerLoad
  isRunning := running.trans represents.isRunning
  rtc := rtc.trans represents.rtc

/-- The link of a timer that is in no list may change. -/
theorem setNext (represents : Represents state table) (next : Option (Timer User))
    (notActive : timer ∉ table.active) (notQueued : timer ∉ table.queue) :
    Represents (state.setNext timer next) table := by
  refine represents.relink ?_ ?_ (absoluteTime_setNext next) rfl rfl rfl rfl
  · rw [link_setNext]
    exact represents.active.update_of_notMem next notActive
  · rw [link_setNext]
    exact represents.queue.update_of_notMem next notQueued

theorem setAbsoluteTime (represents : Represents state table) (timer : Timer User)
    (time : UInt32) :
    Represents (state.setAbsoluteTime timer time) (table.setTime timer time) where
  active := by
    rw [link_setAbsoluteTime]
    exact represents.active
  queue := by
    rw [link_setAbsoluteTime]
    exact represents.queue
  absoluteTime := by
    intro other
    unfold SchedulerState.setAbsoluteTime Timetable.setTime
    by_cases same : other = timer
    · subst same
      simp
    · simp [same, represents.absoluteTime]
  timeOfLastTimeout := represents.timeOfLastTimeout
  lastTimerLoad := represents.lastTimerLoad
  isRunning := represents.isRunning
  rtc := represents.rtc

/-! ## Loading the counter -/

theorem pushDummy (represents : Represents state table)
    (notActive : .schedulerDummy ∉ table.active) (notQueued : .schedulerDummy ∉ table.queue) :
    Represents
      { (state.setAbsoluteTime .schedulerDummy (state.absoluteTimeOfLastTimeout + 65535)).setNext
          .schedulerDummy state.listHead with listHead := some .schedulerDummy }
      table.pushDummy := by
  have timed := represents.setAbsoluteTime .schedulerDummy
    (state.absoluteTimeOfLastTimeout + 65535)
  rw [represents.timeOfLastTimeout] at timed ⊢
  refine timed.relink ?_ ?_ (absoluteTime_setNext state.listHead) rfl rfl rfl rfl
  · have linked := timed.active.push notActive
    rw [← link_setNext] at linked
    exact linked
  · have linked := timed.queue.update_of_notMem state.listHead notQueued
    rw [← link_setNext] at linked
    exact linked

theorem schedulerStartTimerAtHead (represents : Represents state table)
    (listed : table.Listed) : Represents state.schedulerStartTimerAtHead table.rearm := by
  have masked := represents.setOvfEnable false
  have maskedListed := listed.enableInterrupt false
  rw [← Timetable.rearm_enableInterrupt false]
  unfold SchedulerState.schedulerStartTimerAtHead
  dsimp only
  have headEq := masked.active.head_eq
  cases first : (state.setOvfEnable false).listHead with
  | none =>
      dsimp only
      rw [first] at headEq
      rw [Timetable.rearm_of_nil (List.head?_eq_none_iff.mp headEq.symm)]
      exact masked.schedulerStopTimeouts
  | some head =>
      dsimp only
      rw [first] at headEq
      have period : ((state.setOvfEnable false).timers head).absoluteTime -
          (state.setOvfEnable false).absoluteTimeOfLastTimeout =
            (table.enableInterrupt false).period head := by
        rw [masked.absoluteTime, masked.timeOfLastTimeout]
        rfl
      rw [period]
      split
      · rename_i far
        rw [Timetable.rearm_of_far headEq.symm far]
        have pushed := masked.pushDummy
          (maskedListed.far_ne_dummy headEq.symm far) listed.dummyNotQueued
        rw [first] at pushed
        exact pushed.load 65535
      · rename_i near
        rw [Timetable.rearm_of_near headEq.symm (UInt32.not_lt.mp near)]
        exact masked.load _

/-- Unlinking the timer behind `point` takes it out of the one list and leaves
the other alone. -/
theorem unlinkActive (represents : Represents state table) (listed : table.Listed)
    {front back : List (Timer User)} {point : Timer User}
    (split : table.active = front ++ point :: timer :: back) :
    Represents (state.setNext point (state.timers timer).next)
      { table with active := front ++ point :: back } := by
  have pointNotQueued : point ∉ table.queue := by
    apply listed.disjoint
    simp [split]
  refine represents.relink ?_ ?_ (absoluteTime_setNext _) rfl rfl rfl rfl
  · rw [link_setNext]
    have linked := represents.active
    rw [split] at linked
    exact linked.unlink
  · rw [link_setNext]
    exact represents.queue.update_of_notMem _ pointNotQueued

theorem unlinkQueued (represents : Represents state table) (listed : table.Listed)
    {front back : List (Timer User)} {point : Timer User}
    (split : table.queue = front ++ point :: timer :: back) :
    Represents (state.setNext point (state.timers timer).next)
      { table with queue := front ++ point :: back } := by
  have pointNotActive : point ∉ table.active := by
    intro member
    exact listed.disjoint member (by simp [split])
  refine represents.relink ?_ ?_ (absoluteTime_setNext _) rfl rfl rfl rfl
  · rw [link_setNext]
    exact represents.active.update_of_notMem _ pointNotActive
  · rw [link_setNext]
    have linked := represents.queue
    rw [split] at linked
    exact linked.unlink

end Represents

/-! ## Walking the lists -/

def timerEquiv : Option User ≃ Timer User where
  toFun
    | none => .schedulerDummy
    | some id => .user id
  invFun
    | .schedulerDummy => none
    | .user id => some id
  left_inv := fun timer => by cases timer <;> rfl
  right_inv := fun timer => by cases timer <;> rfl

instance [Fintype User] : Fintype (Timer User) := Fintype.ofEquiv (Option User) timerEquiv

theorem card_timer [Fintype User] : Fintype.card (Timer User) = Fintype.card User + 1 := by
  rw [← Fintype.card_congr timerEquiv, Fintype.card_option]

section Walk

variable {state : SchedulerState User} {timer : Timer User}

theorem walk_eq {head : Option (Timer User)} {cells : List (Timer User)}
    {steps : Nat} (linked : Linked state.link head cells) (enough : cells.length ≤ steps) :
    state.walk steps head = cells := by
  induction cells generalizing head steps with
  | nil =>
      rw [linked_nil] at linked
      subst linked
      cases steps <;> rfl
  | cons cell rest inductionHypothesis =>
      obtain ⟨rfl, linked⟩ := linked
      cases steps with
      | zero => simp at enough
      | succ steps =>
          rw [SchedulerState.walk]
          congr 1
          exact inductionHypothesis linked (Nat.le_of_succ_le_succ enough)

/-- A walk follows the links and looks at nothing else. -/
theorem walk_congr {other : SchedulerState User} (timers : other.timers = state.timers)
    (steps : Nat) (point : Option (Timer User)) :
    other.walk steps point = state.walk steps point := by
  induction steps generalizing point with
  | zero => rfl
  | succ steps inductionHypothesis =>
      cases point with
      | none => rfl
      | some timer => rw [SchedulerState.walk, SchedulerState.walk, inductionHypothesis, timers]

variable [DecidableEq User]

omit [DecidableEq User] in
theorem listFrom_congr [Fintype User] {other : SchedulerState User}
    (timers : other.timers = state.timers) (head : Option (Timer User)) :
    other.listFrom head = state.listFrom head :=
  walk_congr timers _ head

omit [DecidableEq User] in
theorem listFrom_eq [Fintype User] {head : Option (Timer User)} {cells : List (Timer User)}
    (linked : Linked state.link head cells) : state.listFrom head = cells := by
  unfold SchedulerState.listFrom
  apply walk_eq linked
  rw [← card_timer]
  exact linked.length_le

theorem findPrev_absent {prevTimer : Timer User} {cells : List (Timer User)}
    (absent : timer ∉ cells) : SchedulerState.findPrev timer prevTimer cells = none := by
  induction cells generalizing prevTimer with
  | nil => rfl
  | cons cell rest inductionHypothesis =>
      have different : cell ≠ timer := fun same => absent (same ▸ List.mem_cons_self)
      rw [SchedulerState.findPrev, if_neg different]
      exact inductionHypothesis fun member => absent (List.mem_cons_of_mem cell member)

/-- The search stops at the timer that is linked to the wanted one. -/
theorem findPrev_present {prevTimer : Timer User} {cells : List (Timer User)}
    (notPrev : prevTimer ≠ timer) (present : timer ∈ cells) :
    ∃ front point back, prevTimer :: cells = front ++ point :: timer :: back ∧
      timer ∉ front ∧ point ≠ timer ∧
      SchedulerState.findPrev timer prevTimer cells = some point := by
  induction cells generalizing prevTimer with
  | nil => exact absurd present List.not_mem_nil
  | cons cell rest inductionHypothesis =>
      rw [SchedulerState.findPrev]
      by_cases found : cell = timer
      · subst found
        exact ⟨[], prevTimer, rest, rfl, List.not_mem_nil, notPrev, if_pos rfl⟩
      · have inRest : timer ∈ rest := (List.mem_cons.mp present).resolve_left (Ne.symm found)
        obtain ⟨front, point, back, split, before, different, search⟩ :=
          inductionHypothesis found inRest
        refine ⟨prevTimer :: front, point, back, ?_, ?_, different, ?_⟩
        · rw [split]
          rfl
        · exact List.not_mem_cons_of_ne_of_not_mem notPrev.symm before
        · rw [if_neg found]
          exact search

end Walk

/-! ## Inserting into the active list -/

section Insert

variable {state : SchedulerState User} {timer : Timer User} {timers : List (Timer User)}

def SchedulerState.expiresBy (state : SchedulerState User) (time : UInt32)
    (timer : Timer User) : Bool :=
  (state.timers timer).absoluteTime ≤ time

/-- The search for the insertion point stops behind the timers that expire by
then. -/
theorem insertPoint_eq (time : UInt32) (prevPoint : Option (Timer User)) :
    state.insertPoint time prevPoint timers =
      ((timers.takeWhile (state.expiresBy time)).getLast?).or prevPoint := by
  induction timers generalizing prevPoint with
  | nil => simp [SchedulerState.insertPoint]
  | cons cell rest inductionHypothesis =>
      rw [SchedulerState.insertPoint]
      by_cases later : (state.timers cell).absoluteTime > time
      · have stops : state.expiresBy time cell = false :=
          decide_eq_false (UInt32.not_le.mpr later)
        simp [later, stops]
      · have passes : state.expiresBy time cell = true :=
          decide_eq_true (UInt32.not_lt.mp later)
        rw [if_neg later, inductionHypothesis, List.takeWhile_cons_of_pos passes]
        cases last : (rest.takeWhile (state.expiresBy time)).getLast? <;>
          simp [List.getLast?_cons, last]

variable [DecidableEq User]

/-- Linking a timer in at the head, in place of the dummy if that is there. -/
theorem linked_insertHead (linked : Linked state.link state.listHead timers)
    (fresh : timer ∉ timers) :
    Linked
      (state.setNext timer
        (if state.listHead = some .schedulerDummy then (state.timers .schedulerDummy).next
          else state.listHead)).link
      (some timer) (timer :: Timetable.withoutDummy timers) := by
  have remaining : Linked state.link
      (if state.listHead = some .schedulerDummy then state.link .schedulerDummy
        else state.listHead)
      (Timetable.withoutDummy timers) := by
    cases timers with
    | nil =>
        rw [linked_nil] at linked
        simp [linked, Timetable.withoutDummy]
    | cons head rest =>
        cases head with
        | schedulerDummy => simpa [linked.1, Timetable.withoutDummy] using linked.2
        | user id => simpa [linked.1, Timetable.withoutDummy] using linked.2
  have pushed := remaining.push fun member =>
    fresh ((Timetable.withoutDummy_sublist timers).subset member)
  rw [← Represents.link_setNext] at pushed
  exact pushed

/-- Linking a timer in behind another one. -/
theorem linked_insertAfter {front back : List (Timer User)} {point : Timer User}
    (linked : Linked state.link state.listHead (front ++ point :: back))
    (fresh : timer ∉ front ++ point :: back) :
    Linked ((state.setNext timer (state.timers point).next).setNext point (some timer)).link
      state.listHead (front ++ point :: timer :: back) := by
  rw [Represents.link_setNext, Represents.link_setNext]
  exact linked.insertAfter fresh

end Insert

end MicrochipDay.Scheduler
