import MicrochipDay.Scheduler.Representation

/-!
Owns the proof that the timeout driver carries out the operations on a
timetable: every operation of the driver on what represents a timetable leads
to what represents the result.
-/

namespace MicrochipDay.Scheduler

open MicrochipDay.Library.LinkedList
open SchedulerState

variable {User : Type}

namespace SchedulerState

variable [DecidableEq User]

/-- The end of `scheduler_sorted_insert`, after the test for a wrapped time. -/
def placeTimer [Fintype User] (state : SchedulerState User) (timer : Timer User)
    (time : UInt32) : SchedulerState User × Bool :=
  match state.insertPoint time none (state.listFrom state.listHead) with
  | none =>
      let state := (state.schedulerSetTimerDuration 65535).clearOvfFlag
      let next :=
        if state.listHead = some .schedulerDummy then (state.timers .schedulerDummy).next
        else state.listHead
      ({ state.setNext timer next with listHead := some timer }, true)
  | some prevPoint =>
      let state := state.setNext timer (state.timers prevPoint).next
      (state.setNext prevPoint (some timer), false)

/-- The end of `scheduler_timeout_create`, after the insertion. -/
def finishCreate (inserted : SchedulerState User × Bool) : SchedulerState User :=
  if inserted.2 then inserted.1.schedulerStartTimerAtHead
  else if inserted.1.isRunning then inserted.1.setOvfEnable true
  else inserted.1

/-- The interrupt handler, once it has read the head of the active list. -/
def serveHead [Fintype User] (state : SchedulerState User) (head : Timer User) :
    SchedulerState User :=
  let next := (state.timers head).next
  let state :=
    { state with
      absoluteTimeOfLastTimeout := (state.timers head).absoluteTime, lastTimerLoad := 0 }
  let state := if head ≠ .schedulerDummy then state.schedulerEnqueueCallback head else state
  ({ state with listHead := next }).schedulerStartTimerAtHead.clearOvfFlag

theorem rtcCntVect_eq [Fintype User] (state : SchedulerState User) :
    state.rtcCntVect = state.listHead.map state.serveHead := rfl

end SchedulerState

namespace Represents

variable [DecidableEq User] [Fintype User] {state : SchedulerState User} {table : Timetable User}
  {timer : Timer User}

/-! ## Deleting a timer -/

omit [Fintype User] in
theorem erase_behind {front back : List (Timer User)} {point : Timer User}
    (before : timer ∉ front) (different : point ≠ timer) :
    (front ++ point :: timer :: back).erase timer = front ++ point :: back := by
  rw [List.erase_append_right _ before, List.erase_cons_tail (by simpa using different),
    List.erase_cons_head]

section DeleteHelper

variable (list : ListName)

theorem deleteHelper_empty (empty : state.head list = none) :
    state.schedulerTimeoutDeleteHelper list timer = (state, false) := by
  unfold SchedulerState.schedulerTimeoutDeleteHelper
  rw [empty]

theorem deleteHelper_head (first : state.head list = some timer) :
    state.schedulerTimeoutDeleteHelper list timer =
      (((state.setOvfEnable false).setHead (state.timers timer).next list)
        |>.schedulerStartTimerAtHead, true) := by
  unfold SchedulerState.schedulerTimeoutDeleteHelper
  rw [first]
  exact if_pos rfl

theorem deleteHelper_behind {head point : Timer User} {rest : List (Timer User)}
    (first : state.head list = some head)
    (linked : Linked state.link (some head) (head :: rest)) (notHead : timer ≠ head)
    (search : SchedulerState.findPrev timer head rest = some point) :
    state.schedulerTimeoutDeleteHelper list timer =
      (((state.setOvfEnable false).setNext point (state.timers timer).next).setOvfEnable true,
        true) := by
  unfold SchedulerState.schedulerTimeoutDeleteHelper
  have linked : Linked (state.setOvfEnable false).link (some head) (head :: rest) := linked
  rw [first]
  dsimp only
  rw [if_neg notHead, listFrom_eq linked, List.drop_one, List.tail_cons, search]
  rfl

theorem deleteHelper_absent {head : Timer User} {rest : List (Timer User)}
    (first : state.head list = some head)
    (linked : Linked state.link (some head) (head :: rest)) (notHead : timer ≠ head)
    (absent : timer ∉ rest) :
    state.schedulerTimeoutDeleteHelper list timer =
      ((state.setOvfEnable false).setOvfEnable true, false) := by
  unfold SchedulerState.schedulerTimeoutDeleteHelper
  have linked : Linked (state.setOvfEnable false).link (some head) (head :: rest) := linked
  rw [first]
  dsimp only
  rw [if_neg notHead, listFrom_eq linked, List.drop_one, List.tail_cons, findPrev_absent absent]

end DeleteHelper

theorem deleteQueued (represents : Represents state table) (listed : table.Listed)
    (timer : Timer User) :
    Represents (state.schedulerTimeoutDeleteHelper .executeQueue timer).1
      (table.deleteQueued timer) := by
  have first : state.head .executeQueue = table.queue.head? := represents.queue.head_eq
  unfold Timetable.deleteQueued
  cases waiting : table.queue with
  | nil =>
      rw [waiting] at first
      rw [deleteHelper_empty .executeQueue first]
      exact represents
  | cons head rest =>
      have masked := represents.setOvfEnable false
      have maskedListed := listed.enableInterrupt false
      have linked := represents.queue
      rw [waiting] at first linked
      rw [linked.1] at linked
      dsimp only
      by_cases isHead : timer = head
      · subst isHead
        have taken : Represents
            ((state.setOvfEnable false).setHead (state.timers timer).next .executeQueue)
            { table.enableInterrupt false with queue := rest } := by
          refine masked.relink masked.active linked.2 ?_ rfl rfl rfl rfl
          exact fun _ => rfl
        have remaining : rest.Sublist table.queue := waiting ▸ List.sublist_cons_self timer rest
        rw [deleteHelper_head .executeQueue first, if_pos rfl,
          ← Timetable.rearm_enableInterrupt false]
        exact taken.schedulerStartTimerAtHead
          (maskedListed.shrink (List.Sublist.refl _) remaining)
      · rw [if_neg isHead]
        by_cases present : timer ∈ rest
        · obtain ⟨front, point, back, split, before, different, search⟩ :=
            findPrev_present (Ne.symm isHead) present
          have unlinked := masked.unlinkQueued maskedListed (waiting.trans split)
          rw [← erase_behind before different, ← split,
            List.erase_cons_tail (by simpa using Ne.symm isHead)] at unlinked
          rw [deleteHelper_behind .executeQueue first linked isHead search]
          exact unlinked.setOvfEnable true
        · rw [deleteHelper_absent .executeQueue first linked isHead present,
            List.erase_of_not_mem present, ← waiting]
          exact masked.setOvfEnable true

/-- Both searches of `scheduler_timeout_delete`. -/
theorem deleteListed (represents : Represents state table) (listed : table.Listed)
    (timer : Timer User) :
    Represents
      (if (state.schedulerTimeoutDeleteHelper .active timer).2 then
        (state.schedulerTimeoutDeleteHelper .active timer).1
      else ((state.schedulerTimeoutDeleteHelper .active timer).1.schedulerTimeoutDeleteHelper
        .executeQueue timer).1)
      (table.delete timer) := by
  have first : state.head .active = table.active.head? := represents.active.head_eq
  unfold Timetable.delete
  cases waiting : table.active with
  | nil =>
      rw [waiting] at first
      rw [deleteHelper_empty .active first]
      exact represents.deleteQueued listed timer
  | cons head rest =>
      have masked := represents.setOvfEnable false
      have maskedListed := listed.enableInterrupt false
      have linked := represents.active
      rw [waiting] at first linked
      rw [linked.1] at linked
      dsimp only
      by_cases isHead : timer = head
      · subst isHead
        have taken : Represents
            ((state.setOvfEnable false).setHead (state.timers timer).next .active)
            { table.enableInterrupt false with active := rest } := by
          refine masked.relink linked.2 masked.queue ?_ rfl rfl rfl rfl
          exact fun _ => rfl
        have remaining : rest.Sublist table.active := waiting ▸ List.sublist_cons_self timer rest
        rw [deleteHelper_head .active first, if_pos rfl, if_pos rfl,
          ← Timetable.rearm_enableInterrupt false]
        exact taken.schedulerStartTimerAtHead
          (maskedListed.shrink remaining (List.Sublist.refl _))
      · rw [if_neg isHead]
        by_cases present : timer ∈ rest
        · obtain ⟨front, point, back, split, before, different, search⟩ :=
            findPrev_present (Ne.symm isHead) present
          have unlinked := masked.unlinkActive maskedListed (waiting.trans split)
          rw [← erase_behind before different, ← split,
            List.erase_cons_tail (by simpa using Ne.symm isHead)] at unlinked
          rw [deleteHelper_behind .active first linked isHead search, if_pos rfl, if_pos present]
          exact unlinked.setOvfEnable true
        · rw [deleteHelper_absent .active first linked isHead present, if_neg present]
          exact (masked.setOvfEnable true).deleteQueued (listed.enableInterrupt true) timer

theorem schedulerTimeoutDelete (represents : Represents state table)
    (wellFormed : table.WellFormed) (id : User) :
    Represents (state.schedulerTimeoutDelete (.user id)) (table.delete (.user id)) := by
  have deleted := represents.deleteListed wellFormed.toListed (.user id)
  apply deleted.setNext none
  · rw [Timetable.mem_delete_active wellFormed.toListed]
    exact fun both => both.1 rfl
  · rw [Timetable.delete_queue wellFormed.toListed]
    exact wellFormed.queueNodup.not_mem_erase

/-! ## Creating a timer -/

omit [Fintype User] in
theorem subtractFrom (represents : Represents state table) (base : UInt32)
    {cells : List (Timer User)} (nodup : cells.Nodup) :
    Represents
      (cells.foldl
        (fun state timer =>
          state.setAbsoluteTime timer ((state.timers timer).absoluteTime - base)) state)
      { table with
        absoluteTime := fun timer =>
          if timer ∈ cells then table.absoluteTime timer - base
          else table.absoluteTime timer } := by
  induction cells generalizing state table with
  | nil => simpa using represents
  | cons cell rest inductionHypothesis =>
      obtain ⟨fresh, restNodup⟩ := List.nodup_cons.mp nodup
      rw [List.foldl_cons, represents.absoluteTime]
      have timed := represents.setAbsoluteTime cell (table.absoluteTime cell - base)
      have done := inductionHypothesis timed restNodup
      constructor
      case absoluteTime =>
        intro other
        rw [done.absoluteTime]
        unfold Timetable.setTime
        by_cases same : other = cell
        · subst same
          simp [fresh]
        · simp [same]
      case active => exact done.active
      case queue => exact done.queue
      case timeOfLastTimeout => exact done.timeOfLastTimeout
      case lastTimerLoad => exact done.lastTimerLoad
      case isRunning => exact done.isRunning
      case rtc => exact done.rtc

theorem schedulerRebaseList (represents : Represents state table) (listed : table.Listed) :
    Represents state.schedulerRebaseList.1 table.rebase := by
  have subtracted := represents.subtractFrom (table.absolute 0) listed.activeNodup
  unfold SchedulerState.schedulerRebaseList
  rw [listFrom_eq represents.active, represents.schedulerMakeAbsolute]
  constructor
  case timeOfLastTimeout =>
    show _ - _ = table.timeOfLastTimeout - table.absolute 0
    rw [subtracted.timeOfLastTimeout]
  case active => exact subtracted.active
  case queue => exact subtracted.queue
  case absoluteTime => exact subtracted.absoluteTime
  case lastTimerLoad => exact subtracted.lastTimerLoad
  case isRunning => exact subtracted.isRunning
  case rtc => exact subtracted.rtc

omit [DecidableEq User] [Fintype User] in
theorem expiresBy_eq (represents : Represents state table) (time : UInt32) :
    state.expiresBy time = table.expiresBy time := by
  funext timer
  unfold SchedulerState.expiresBy Timetable.expiresBy
  rw [represents.absoluteTime]

theorem schedulerSortedInsert_eq :
    state.schedulerSortedInsert timer =
      if (state.timers timer).absoluteTime < state.absoluteTimeOfLastTimeout then
        placeTimer
          ((state.setNext timer none).schedulerRebaseList.1.setAbsoluteTime timer
            ((state.timers timer).absoluteTime +
              (65535 - (state.setNext timer none).schedulerRebaseList.2 + 1)))
          timer
          ((state.timers timer).absoluteTime +
            (65535 - (state.setNext timer none).schedulerRebaseList.2 + 1))
      else placeTimer (state.setNext timer none) timer (state.timers timer).absoluteTime := by
  unfold SchedulerState.schedulerSortedInsert
  by_cases wraps : (state.timers timer).absoluteTime < state.absoluteTimeOfLastTimeout
  · rw [if_pos wraps]
    have wraps' : (state.timers timer).absoluteTime <
      (state.setNext timer none).absoluteTimeOfLastTimeout := wraps
    dsimp only
    rw [if_pos wraps']
    rfl
  · rw [if_neg wraps]
    have wraps' : ¬(state.timers timer).absoluteTime <
      (state.setNext timer none).absoluteTimeOfLastTimeout := wraps
    dsimp only
    rw [if_neg wraps']
    rfl

omit [DecidableEq User] [Fintype User] in
/-- Writing a value to the counter and clearing the flag. -/
theorem resetFrom (represents : Represents state table) (value : UInt32) :
    Represents
      ({ state with
          lastTimerLoad := value
          rtc := { state.rtc with cnt := value.toUInt16 } } : SchedulerState User).clearOvfFlag
      { table.clearFlag with
        lastTimerLoad := value
        rtc := ⟨value.toUInt16, table.clearFlag.rtc.ovfFlag, table.clearFlag.rtc.ovfEnable⟩ } where
  active := represents.active
  queue := represents.queue
  absoluteTime := represents.absoluteTime
  timeOfLastTimeout := represents.timeOfLastTimeout
  lastTimerLoad := rfl
  isRunning := represents.isRunning
  rtc := by
    unfold SchedulerState.clearOvfFlag Timetable.clearFlag
    rw [represents.rtc]

omit [Fintype User] in
/-- Linking a timer in at the head, in place of the dummy if that is there. -/
theorem insertHead (represents : Represents state table) (notActive : timer ∉ table.active)
    (notQueued : timer ∉ table.queue) :
    Represents
      { state.setNext timer
          (if state.listHead = some .schedulerDummy then (state.timers .schedulerDummy).next
            else state.listHead) with
        listHead := some timer }
      { table with active := timer :: Timetable.withoutDummy table.active } := by
  have kept := represents.queue.update_of_notMem
    (if state.listHead = some .schedulerDummy then state.link .schedulerDummy
      else state.listHead) notQueued
  rw [← link_setNext] at kept
  exact represents.relink (linked_insertHead represents.active notActive) kept
    (absoluteTime_setNext _) rfl rfl rfl rfl

omit [Fintype User] in
/-- Linking a timer in behind another one. -/
theorem insertAfter (represents : Represents state table) (listed : table.Listed)
    (notActive : timer ∉ table.active) (notQueued : timer ∉ table.queue)
    {front back : List (Timer User)} {point : Timer User}
    (split : table.active = front ++ point :: back) :
    Represents
      ((state.setNext timer (state.timers point).next).setNext point (some timer))
      { table with active := front ++ point :: timer :: back } := by
  have pointNotQueued : point ∉ table.queue := by
    apply listed.disjoint
    simp [split]
  refine represents.relink ?_ ?_ ?_ rfl rfl rfl rfl
  · have linked := represents.active
    rw [split] at linked notActive
    exact linked_insertAfter linked notActive
  · rw [link_setNext, link_setNext]
    exact (represents.queue.update_of_notMem _ notQueued).update_of_notMem _ pointNotQueued
  · intro other
    rw [absoluteTime_setNext, absoluteTime_setNext]

omit [Fintype User] in
theorem placeFirst {id : User} (represents : Represents state table) (listed : table.Listed)
    (notActive : .user id ∉ table.active) (notQueued : .user id ∉ table.queue)
    {reset : SchedulerState User} {value : UInt32}
    (isReset : reset =
      ({ state with
          lastTimerLoad := value
          rtc := { state.rtc with cnt := value.toUInt16 } } : SchedulerState User).clearOvfFlag) :
    Represents
      { reset.setNext (.user id)
          (if reset.listHead = some Timer.schedulerDummy then (reset.timers .schedulerDummy).next
            else reset.listHead) with
        listHead := some (.user id) }.schedulerStartTimerAtHead
      { table.clearFlag with
        active := .user id :: Timetable.withoutDummy table.active }.rearm := by
  have represented := represents.resetFrom value
  rw [← isReset] at represented
  have inserted := represented.insertHead notActive notQueued
  have started := inserted.schedulerStartTimerAtHead
    ((listed.insertFirst notActive notQueued).sublist (List.Sublist.refl _)
      (List.Sublist.refl _) rfl rfl)
  rw [Timetable.rearm_of_counter] at started
  exact started

omit [Fintype User] in
theorem placeBehind {id : User} (represents : Represents state table) (listed : table.Listed)
    (notActive : .user id ∉ table.active) (notQueued : .user id ∉ table.queue)
    {head point : Timer User} {earlier later : List (Timer User)}
    (split : table.active = head :: earlier ++ later)
    (last : (head :: earlier).getLast? = some point) :
    Represents
      (finishCreate
        ((state.setNext (.user id) (state.timers point).next).setNext point (some (.user id)),
          false))
      { table.enableInterrupt (table.isRunning || table.rtc.ovfEnable) with
        active := head :: earlier ++ .user id :: later } := by
  obtain ⟨front, frontSplit⟩ := List.getLast?_eq_some_iff.mp last
  have active : table.active = front ++ point :: later := by
    rw [split, frontSplit, List.append_assoc]
    rfl
  have linked := represents.insertAfter listed notActive notQueued active
  have longer : head :: earlier ++ Timer.user id :: later =
      front ++ point :: Timer.user id :: later := by
    rw [frontSplit, List.append_assoc]
    rfl
  rw [longer]
  unfold SchedulerState.finishCreate
  rw [if_neg (by simp)]
  cases running : table.isRunning with
  | false =>
      rw [if_neg (by rw [linked.isRunning]; simp [running])]
      exact linked
  | true =>
      rw [if_pos (by rw [linked.isRunning]; exact running)]
      exact linked.setOvfEnable true

/-- The timer goes in, whether at the head or behind another timer. -/
theorem placeTimer {id : User} {time : UInt32}
    (represents : Represents state (table.setTime (.user id) time))
    (wellFormed : table.WellFormed) (notActive : .user id ∉ table.active)
    (notQueued : .user id ∉ table.queue) :
    Represents (finishCreate (state.placeTimer (.user id) time))
      (table.insert (.user id) time) := by
  have timed := wellFormed.setTime notActive time
  unfold SchedulerState.placeTimer Timetable.insert
  dsimp only
  rw [listFrom_eq represents.active, insertPoint_eq, represents.expiresBy_eq, Option.or_none]
  cases before : (table.setTime (.user id) time).active.takeWhile
      ((table.setTime (.user id) time).expiresBy time) with
  | nil => exact represents.placeFirst timed.toListed notActive notQueued rfl
  | cons head earlier =>
      have split := (List.takeWhile_append_dropWhile
        (p := (table.setTime (.user id) time).expiresBy time)
        (l := (table.setTime (.user id) time).active)).symm
      rw [before] at split
      cases last : (head :: earlier).getLast? with
      | none => simp at last
      | some point => exact represents.placeBehind timed.toListed notActive notQueued split last

omit [Fintype User] in
theorem rebase_setTime (first second : UInt32) :
    ((table.setTime timer first).rebase).setTime timer second =
      table.rebase.setTime timer second := by
  unfold Timetable.setTime Timetable.rebase
  congr 1
  funext other
  by_cases same : other = timer
  · simp [same]
  · simp [same, Timetable.absolute, Timetable.elapsed]

/-- `scheduler_sorted_insert` of a timer that is in no list. -/
theorem schedulerSortedInsert (represents : Represents state table)
    (wellFormed : table.WellFormed) {id : User} (notActive : .user id ∉ table.active)
    (notQueued : .user id ∉ table.queue) (time : UInt32) :
    Represents
      (finishCreate ((state.setAbsoluteTime (.user id) time).schedulerSortedInsert (.user id)))
      (if time < table.timeOfLastTimeout then
        table.rebase.insert (.user id) (time + (65535 - table.absolute 0 + 1))
      else table.insert (.user id) time) := by
  have timed := represents.setAbsoluteTime (.user id) time
  have ownTime : (table.setTime (.user id) time).absoluteTime (.user id) = time :=
    Function.update_self ..
  have unlinked := timed.setNext none notActive notQueued
  rw [schedulerSortedInsert_eq, timed.absoluteTime, ownTime, timed.timeOfLastTimeout]
  by_cases wraps : time < table.timeOfLastTimeout
  · have rebased := unlinked.schedulerRebaseList (wellFormed.setTime notActive time).toListed
    have base : ((state.setAbsoluteTime (.user id) time).setNext (.user id) none)
        |>.schedulerRebaseList.2 = table.absolute 0 := unlinked.schedulerMakeAbsolute 0
    have retimed := rebased.setAbsoluteTime (.user id) (time + (65535 - table.absolute 0 + 1))
    rw [rebase_setTime] at retimed
    rw [if_pos wraps]
    have wrapsToo : time < (table.setTime (.user id) time).timeOfLastTimeout := wraps
    rw [if_pos wrapsToo, base]
    exact retimed.placeTimer wellFormed.rebase notActive notQueued
  · rw [if_neg wraps]
    have wrapsNot : ¬time < (table.setTime (.user id) time).timeOfLastTimeout := wraps
    rw [if_neg wrapsNot]
    exact unlinked.placeTimer wellFormed notActive notQueued

theorem schedulerTimeoutCreate (represents : Represents state table)
    (wellFormed : table.WellFormed) (id : User) (timeout : UInt32) :
    Represents (state.schedulerTimeoutCreate (.user id) timeout)
      (table.create (.user id) timeout) := by
  have deleted := (represents.schedulerTimeoutDelete wellFormed id).setOvfEnable false
  have deletedWellFormed := (wellFormed.delete (.user id)).enableInterrupt false
  have notActive : .user id ∉ (table.delete (.user id)).active := by
    rw [Timetable.mem_delete_active wellFormed.toListed]
    exact fun both => both.1 rfl
  have notQueued : .user id ∉ (table.delete (.user id)).queue := by
    rw [Timetable.delete_queue wellFormed.toListed]
    exact wellFormed.queueNodup.not_mem_erase
  have inserted := deleted.schedulerSortedInsert deletedWellFormed notActive notQueued
    (((state.schedulerTimeoutDelete (.user id)).setOvfEnable false).schedulerMakeAbsolute timeout)
  rw [deleted.schedulerMakeAbsolute] at inserted
  unfold SchedulerState.schedulerTimeoutCreate
  dsimp only
  rw [deleted.schedulerMakeAbsolute]
  exact inserted

/-! ## Expiry -/

theorem schedulerEnqueueCallback (represents : Represents state table)
    (disjoint : table.active.Disjoint table.queue) (notActive : timer ∉ table.active)
    (notQueued : timer ∉ table.queue) :
    Represents (state.schedulerEnqueueCallback timer)
      { table with queue := table.queue ++ [timer] } := by
  have unlinked := represents.setNext none notActive notQueued
  unfold SchedulerState.schedulerEnqueueCallback
  dsimp only
  rw [listFrom_eq unlinked.queue]
  cases last : table.queue.getLast? with
  | none =>
      have empty := List.getLast?_eq_none_iff.mp last
      refine unlinked.relink unlinked.active ?_ (fun _ => rfl) rfl rfl rfl rfl
      rw [empty]
      refine ⟨rfl, ?_⟩
      show (state.setNext timer none).link timer = none
      rw [link_setNext, Function.update_self]
  | some point =>
      obtain ⟨front, split⟩ := List.getLast?_eq_some_iff.mp last
      have pointNotActive : point ∉ table.active := by
        intro member
        exact disjoint member (by simp [split])
      refine unlinked.relink ?_ ?_ (absoluteTime_setNext _) rfl rfl rfl rfl
      · rw [link_setNext]
        exact unlinked.active.update_of_notMem _ pointNotActive
      · have linked := represents.queue
        rw [split] at linked notQueued
        have appended := linked.append notQueued
        rw [← link_setNext, ← link_setNext] at appended
        rw [split, List.append_assoc]
        exact appended

omit [DecidableEq User] [Fintype User] in
/-- The head leaves the active list; the interrupt handler still holds it. -/
theorem dropHead (represents : Represents state table) {head : Timer User}
    {rest : List (Timer User)} (waiting : table.active = head :: rest) :
    Represents
      { state with
        listHead := (state.timers head).next
        absoluteTimeOfLastTimeout := (state.timers head).absoluteTime
        lastTimerLoad := 0 }
      { table with
        active := rest
        timeOfLastTimeout := table.absoluteTime head
        lastTimerLoad := 0 } where
  active := by
    have linked := represents.active
    rw [waiting] at linked
    exact linked.2
  queue := represents.queue
  absoluteTime := represents.absoluteTime
  timeOfLastTimeout := represents.absoluteTime head
  lastTimerLoad := rfl
  isRunning := represents.isRunning
  rtc := represents.rtc

/-- The handler writes the head of the active list after it has queued the
timer; it might as well have done so before. -/
theorem enqueue_listHead (state : SchedulerState User) (timer : Timer User)
    (head : Option (Timer User)) :
    { state.schedulerEnqueueCallback timer with listHead := head } =
      ({ state with listHead := head } : SchedulerState User).schedulerEnqueueCallback timer := by
  have sameQueue : (({ state with listHead := head } : SchedulerState User).setNext timer
      none).listFrom state.executeQueueHead =
        (state.setNext timer none).listFrom state.executeQueueHead := by
    apply listFrom_congr
    rfl
  unfold SchedulerState.schedulerEnqueueCallback
  dsimp only
  rw [show (({ state with listHead := head } : SchedulerState User).setNext timer
      none).executeQueueHead = state.executeQueueHead from rfl,
    show (state.setNext timer none).executeQueueHead = state.executeQueueHead from rfl, sameQueue]
  cases ((state.setNext timer none).listFrom state.executeQueueHead).getLast? with
  | none => rfl
  | some point => rfl

theorem serveHead (represents : Represents state table) (listed : table.Listed)
    {head : Timer User} {rest : List (Timer User)} (waiting : table.active = head :: rest) :
    Represents (state.serveHead head) (table.takeHead head rest).rearm.clearFlag := by
  have dropped := represents.dropHead waiting
  have fresh := (List.nodup_cons.mp (waiting ▸ listed.activeNodup)).1
  have disjoint := List.disjoint_cons_left.mp (waiting ▸ listed.disjoint)
  apply clearOvfFlag
  refine Represents.schedulerStartTimerAtHead ?_ (listed.takeHead waiting)
  cases head with
  | schedulerDummy => exact dropped
  | user id =>
      have queued := dropped.schedulerEnqueueCallback disjoint.2 fresh disjoint.1
      have commutes := enqueue_listHead
        { state with
          absoluteTimeOfLastTimeout := (state.timers (.user id)).absoluteTime
          lastTimerLoad := 0 }
        (.user id) (state.timers (.user id)).next
      rw [← commutes] at queued
      exact queued

theorem rtcCntVect (represents : Represents state table) (listed : table.Listed) :
    Represents (state.rtcCntVect.getD state) table.expire := by
  unfold Timetable.expire
  rw [rtcCntVect_eq, represents.active.head_eq]
  cases waiting : table.active with
  | nil => exact represents
  | cons head rest => exact represents.serveHead listed waiting

omit [Fintype User] in
/-- Taking the next expired timer off the queue. -/
theorem takeExpired (represents : Represents state table) (listed : table.Listed)
    {callbackTimer : Timer User} {rest : List (Timer User)}
    (waiting : table.queue = callbackTimer :: rest) :
    ∃ remaining, state.takeExpired = some (callbackTimer, remaining) ∧
      Represents remaining table.dequeue := by
  have linked := represents.queue
  have fresh := (List.nodup_cons.mp (waiting ▸ listed.queueNodup)).1
  have notActive : callbackTimer ∉ table.active := fun member =>
    listed.disjoint member (waiting ▸ List.mem_cons_self)
  have sameTable : { table.enableInterrupt table.rtc.ovfEnable with queue := rest } =
      table.dequeue := by
    unfold Timetable.dequeue
    rw [waiting]
    rfl
  rw [waiting] at linked
  unfold SchedulerState.takeExpired
  rw [linked.1, Option.map_some]
  refine ⟨_, rfl, ?_⟩
  have masked := represents.setOvfEnable false
  have taken : Represents
      { state.setOvfEnable false with executeQueueHead := (state.timers callbackTimer).next }
      { table.enableInterrupt false with queue := rest } := by
    refine masked.relink masked.active linked.2 (fun _ => rfl) rfl rfl rfl rfl
  have unlinked := taken.setNext none notActive fresh
  rw [← sameTable, represents.rtc]
  cases table.rtc.ovfEnable with
  | false => exact unlinked
  | true => exact unlinked.setOvfEnable true

omit [Fintype User] in
theorem takeExpired_none (represents : Represents state table) (empty : table.queue = []) :
    state.takeExpired = none := by
  have headEq := represents.queue.head_eq
  rw [empty] at headEq
  unfold SchedulerState.takeExpired
  rw [headEq]
  rfl

theorem count (represents : Represents state table) (ticks : UInt16) :
    Represents (state.rtcStep (.count ticks)) (table.count ticks) := by
  unfold SchedulerState.rtcStep Timetable.count
  dsimp only
  rw [represents.rtc]
  exact
    { active := represents.active
      queue := represents.queue
      absoluteTime := represents.absoluteTime
      timeOfLastTimeout := represents.timeOfLastTimeout
      lastTimerLoad := represents.lastTimerLoad
      isRunning := represents.isRunning
      rtc := rfl }

theorem rtcStep (represents : Represents state table) (wellFormed : table.WellFormed)
    (step : RtcStep) : Represents (state.rtcStep step) (table.rtcStep step) := by
  cases step with
  | count ticks => exact represents.count ticks
  | interrupt =>
      unfold SchedulerState.rtcStep Timetable.rtcStep
      dsimp only
      rw [represents.rtc]
      split
      · exact represents.rtcCntVect wellFormed.toListed
      · exact represents

end Represents

/-! ## Start-up -/

theorem Represents.initial :
    Represents (schedulerTimeoutInit User) (Timetable.initial User) where
  active := rfl
  queue := rfl
  absoluteTime := fun _ => rfl
  timeOfLastTimeout := rfl
  lastTimerLoad := rfl
  isRunning := rfl
  rtc := rfl

end MicrochipDay.Scheduler
