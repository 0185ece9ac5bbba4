import MicrochipDay.Scheduler.Deadlines

/-!
Owns what happens to the time base when a new timer's absolute time goes beyond 32 bits:
`scheduler_sorted_insert` then counts all times from now on, and adds 65536 ticks to the
new timer's.

The results are about the two steps of `scheduler_timeout_create` that compute the time
and put the timer into the list, for every active list, whether or not a run leads to it.
-/

namespace MicrochipDay.Scheduler

open MicrochipDay.Library.LinkedList

variable {User : Type}

namespace SchedulerState

variable {state : SchedulerState User} {timer : Timer User} {time timeout : UInt32}

/-! ## The counter -/

/-- The ticks counted since the time base was set. -/
def elapsed (state : SchedulerState User) : UInt32 :=
  if state.isRunning then
    (if state.rtc.ovfFlag then 65535 else state.rtc.cnt.toUInt32) - state.lastTimerLoad
  else 0

/-- The registers as they stand in another state. -/
def withCounterOf (state before : SchedulerState User) : SchedulerState User :=
  { state with lastTimerLoad := before.lastTimerLoad, rtc := before.rtc }

theorem schedulerMakeAbsolute_eq :
    state.schedulerMakeAbsolute timeout =
      timeout + state.absoluteTimeOfLastTimeout + state.elapsed := by
  unfold schedulerMakeAbsolute elapsed
  dsimp only
  split
  · rfl
  · rw [UInt32.add_zero]

theorem remaining_eq (other : Timer User) :
    state.remaining other =
      (state.timers other).absoluteTime - (state.absoluteTimeOfLastTimeout + state.elapsed) := by
  unfold remaining
  rw [schedulerMakeAbsolute_eq, UInt32.zero_add]

theorem elapsed_withCounterOf {before : SchedulerState User}
    (running : state.isRunning = before.isRunning) :
    (state.withCounterOf before).elapsed = before.elapsed := by
  unfold elapsed withCounterOf
  dsimp only
  rw [running]

/-- Two states have the same time base and the same counter. -/
structure SameBase (state next : SchedulerState User) : Prop where
  timeOfLastTimeout : next.absoluteTimeOfLastTimeout = state.absoluteTimeOfLastTimeout
  isRunning : next.isRunning = state.isRunning
  lastTimerLoad : next.lastTimerLoad = state.lastTimerLoad
  rtc : next.rtc = state.rtc

namespace SameBase

variable {next : SchedulerState User}

theorem elapsed (same : SameBase state next) : next.elapsed = state.elapsed := by
  unfold SchedulerState.elapsed
  rw [same.isRunning, same.lastTimerLoad, same.rtc]

theorem refl (state : SchedulerState User) : SameBase state state := ⟨rfl, rfl, rfl, rfl⟩

theorem trans {last : SchedulerState User} (first : SameBase state next)
    (second : SameBase next last) : SameBase state last where
  timeOfLastTimeout := second.timeOfLastTimeout.trans first.timeOfLastTimeout
  isRunning := second.isRunning.trans first.isRunning
  lastTimerLoad := second.lastTimerLoad.trans first.lastTimerLoad
  rtc := second.rtc.trans first.rtc

variable [DecidableEq User]

theorem setNext (state : SchedulerState User) (timer : Timer User)
    (next : Option (Timer User)) : SameBase state (state.setNext timer next) :=
  ⟨rfl, rfl, rfl, rfl⟩

theorem setAbsoluteTime (state : SchedulerState User) (timer : Timer User) (time : UInt32) :
    SameBase state (state.setAbsoluteTime timer time) := ⟨rfl, rfl, rfl, rfl⟩

theorem subtractFrom (base : UInt32) (cells : List (Timer User)) (state : SchedulerState User) :
    SameBase state
      (cells.foldl
        (fun state timer =>
          state.setAbsoluteTime timer ((state.timers timer).absoluteTime - base)) state) := by
  induction cells generalizing state with
  | nil => exact refl state
  | cons cell rest inductionHypothesis =>
      exact (setAbsoluteTime state cell _).trans (inductionHypothesis _)

end SameBase

/-! ## Placing a timer -/

/-- A value is written to the counter, and the flag is cleared. -/
def reset (state : SchedulerState User) (value : UInt32) : SchedulerState User :=
  ({ state with
      lastTimerLoad := value
      rtc := { state.rtc with cnt := value.toUInt16 } } : SchedulerState User).clearOvfFlag

theorem elapsed_reset {value : UInt32} (fits : value.toUInt16.toUInt32 = value) :
    (state.reset value).elapsed = 0 := by
  unfold elapsed reset clearOvfFlag
  dsimp only
  split
  · rw [if_neg (by decide), fits, UInt32.sub_self]
  · rfl

section Place

variable [DecidableEq User] [Fintype User] {timers : List (Timer User)}

/-- Linking the timer in at the head. -/
def linkFirst (state : SchedulerState User) (timer : Timer User) : SchedulerState User :=
  { state.setNext timer
      (if state.listHead = some .schedulerDummy then (state.timers .schedulerDummy).next
        else state.listHead) with
    listHead := some timer }

/-- Linking it in behind another one. -/
def linkBehind (state : SchedulerState User) (timer point : Timer User) : SchedulerState User :=
  (state.setNext timer (state.timers point).next).setNext point (some timer)

omit [Fintype User] in
theorem sameBase_linkFirst : SameBase state (state.linkFirst timer) := ⟨rfl, rfl, rfl, rfl⟩

omit [Fintype User] in
theorem sameBase_linkBehind (point : Timer User) :
    SameBase state (state.linkBehind timer point) := ⟨rfl, rfl, rfl, rfl⟩

/-- The timers of the active list that the search leaves in front. -/
def earlier (state : SchedulerState User) (time : UInt32) : List (Timer User) :=
  (state.listFrom state.listHead).takeWhile (state.expiresBy time)

/-- Both ends of `scheduler_sorted_insert`. -/
theorem placeTimer_cases (state : SchedulerState User) (timer : Timer User) (time : UInt32) :
    (state.earlier time = [] ∧ ∃ value, value.toUInt16.toUInt32 = value ∧
      state.placeTimer timer time = ((state.reset value).linkFirst timer, true)) ∨
    ∃ point, (state.earlier time).getLast? = some point ∧
      state.placeTimer timer time = (state.linkBehind timer point, false) := by
  unfold placeTimer earlier
  rw [Scheduler.insertPoint_eq, Option.or_none]
  cases search :
      ((state.listFrom state.listHead).takeWhile (state.expiresBy time)).getLast? with
  | none =>
      have none := List.getLast?_eq_none_iff.mp search
      exact Or.inl ⟨none, _, Timetable.counterValue (UInt32.le_refl _), rfl⟩
  | some point => exact Or.inr ⟨point, rfl, rfl⟩

theorem placeTimer_absoluteTime (other : Timer User) :
    ((state.placeTimer timer time).1.timers other).absoluteTime =
      (state.timers other).absoluteTime := by
  rcases placeTimer_cases state timer time with ⟨-, value, -, placed⟩ | ⟨point, -, placed⟩
  · rw [placed]
    exact Represents.absoluteTime_setNext _ other
  · rw [placed]
    exact (Represents.absoluteTime_setNext _ other).trans
      (Represents.absoluteTime_setNext _ other)

theorem placeTimer_timeOfLastTimeout :
    (state.placeTimer timer time).1.absoluteTimeOfLastTimeout =
      state.absoluteTimeOfLastTimeout := by
  rcases placeTimer_cases state timer time with ⟨-, value, -, placed⟩ | ⟨point, -, placed⟩
  · rw [placed, sameBase_linkFirst.timeOfLastTimeout]
    rfl
  · rw [placed, (sameBase_linkBehind point).timeOfLastTimeout]

theorem placeTimer_isRunning :
    (state.placeTimer timer time).1.isRunning = state.isRunning := by
  rcases placeTimer_cases state timer time with ⟨-, value, -, placed⟩ | ⟨point, -, placed⟩
  · rw [placed, sameBase_linkFirst.isRunning]
    rfl
  · rw [placed, (sameBase_linkBehind point).isRunning]

/-- Where the timer comes first the counter is loaded, and the elapsed ticks are gone. -/
theorem placeTimer_elapsed :
    (state.placeTimer timer time).1.elapsed =
      if state.earlier time = [] then 0 else state.elapsed := by
  rcases placeTimer_cases state timer time with
    ⟨none, value, fits, placed⟩ | ⟨point, last, placed⟩
  · rw [placed, if_pos none, sameBase_linkFirst.elapsed, elapsed_reset fits]
  · have some : state.earlier time ≠ [] := by
      intro none
      rw [none] at last
      contradiction
    rw [placed, if_neg some, (sameBase_linkBehind point).elapsed]

/-- The list with the timer in it, behind the timers that expire by then. -/
def placed (state : SchedulerState User) (timer : Timer User) (time : UInt32)
    (timers : List (Timer User)) : List (Timer User) :=
  match timers.takeWhile (state.expiresBy time) with
  | [] => timer :: Timetable.withoutDummy timers
  | first :: earlier => first :: earlier ++ timer :: timers.dropWhile (state.expiresBy time)

theorem placeTimer_list (linked : Linked state.link state.listHead timers)
    (fresh : timer ∉ timers) :
    (state.placeTimer timer time).1.listFrom (state.placeTimer timer time).1.listHead =
      state.placed timer time timers := by
  apply listFrom_eq
  unfold placed
  rcases placeTimer_cases state timer time with ⟨none, value, -, placed⟩ | ⟨point, last, placed⟩
  · unfold earlier at none
    rw [listFrom_eq linked] at none
    rw [placed, none]
    exact linked_insertHead linked fresh
  · unfold earlier at last
    rw [listFrom_eq linked] at last
    obtain ⟨front, frontEq⟩ := List.getLast?_eq_some_iff.mp last
    have split := (List.takeWhile_append_dropWhile
      (p := state.expiresBy time) (l := timers)).symm
    rw [frontEq, List.append_assoc, List.singleton_append] at split
    have inserted := linked_insertAfter (split ▸ linked) (split ▸ fresh)
    rw [placed]
    cases before : timers.takeWhile (state.expiresBy time) with
    | nil =>
        rw [before] at last
        contradiction
    | cons first rest =>
        dsimp only
        rw [← before, frontEq, List.append_assoc, List.singleton_append]
        exact inserted

end Place

/-! ## A new absolute time -/

section Insert

variable [DecidableEq User] [Fintype User]

/-- `scheduler_timeout_create` from the computation of the absolute time to the end of
`scheduler_sorted_insert`. -/
def insertTimeout (state : SchedulerState User) (timer : Timer User) (timeout : UInt32) :
    SchedulerState User × Bool :=
  (state.setAbsoluteTime timer (state.schedulerMakeAbsolute timeout)).schedulerSortedInsert timer

theorem schedulerTimeoutCreate_eq (state : SchedulerState User) (timer : Timer User)
    (timeout : UInt32) :
    state.schedulerTimeoutCreate timer timeout =
      finishCreate
        (((state.schedulerTimeoutDelete timer).setOvfEnable false).insertTimeout timer timeout) :=
  rfl

/-- The state in which `scheduler_sorted_insert` tests the time. -/
def timed (state : SchedulerState User) (timer : Timer User) (timeout : UInt32) :
    SchedulerState User :=
  (state.setAbsoluteTime timer (state.schedulerMakeAbsolute timeout)).setNext timer none

omit [Fintype User] in
theorem sameBase_timed : SameBase state (state.timed timer timeout) :=
  (SameBase.setAbsoluteTime state timer _).trans (SameBase.setNext _ timer none)

omit [Fintype User] in
theorem absoluteTime_setAbsoluteTime (state : SchedulerState User) (timer : Timer User)
    (time : UInt32) (other : Timer User) :
    ((state.setAbsoluteTime timer time).timers other).absoluteTime =
      Function.update (fun other => (state.timers other).absoluteTime) timer time other := by
  unfold setAbsoluteTime
  by_cases same : other = timer
  · subst same
    simp
  · simp [same]

omit [Fintype User] in
theorem absoluteTime_timed (other : Timer User) :
    ((state.timed timer timeout).timers other).absoluteTime =
      Function.update (fun other => (state.timers other).absoluteTime) timer
        (state.schedulerMakeAbsolute timeout) other :=
  (Represents.absoluteTime_setNext _ other).trans (absoluteTime_setAbsoluteTime _ _ _ other)

/-- The new timer's time fits into 32 bits. -/
def Fits (state : SchedulerState User) (timeout : UInt32) : Prop :=
  timeout.toNat + state.absoluteTimeOfLastTimeout.toNat + state.elapsed.toNat < 2 ^ 32

omit [DecidableEq User] [Fintype User] in
theorem wraps_iff (counted : state.elapsed ≤ 65535) (small : timeout.toNat < 2 ^ 31) :
    state.schedulerMakeAbsolute timeout < state.absoluteTimeOfLastTimeout ↔
      ¬state.Fits timeout := by
  have ticks : state.elapsed.toNat ≤ 65535 := counted
  have base := state.absoluteTimeOfLastTimeout.toNat_lt
  unfold Fits
  rw [schedulerMakeAbsolute_eq, UInt32.lt_iff_toNat_lt, UInt32.toNat_add, UInt32.toNat_add]
  omega

theorem insertTimeout_eq (state : SchedulerState User) (timer : Timer User) (timeout : UInt32) :
    state.insertTimeout timer timeout =
      if state.schedulerMakeAbsolute timeout < state.absoluteTimeOfLastTimeout then
        placeTimer
          ((state.timed timer timeout).schedulerRebaseList.1.setAbsoluteTime timer
            (state.schedulerMakeAbsolute timeout +
              (65535 - (state.timed timer timeout).schedulerRebaseList.2 + 1)))
          timer
          (state.schedulerMakeAbsolute timeout +
            (65535 - (state.timed timer timeout).schedulerRebaseList.2 + 1))
      else (state.timed timer timeout).placeTimer timer (state.schedulerMakeAbsolute timeout) := by
  have own := absoluteTime_setAbsoluteTime state timer (state.schedulerMakeAbsolute timeout) timer
  rw [Function.update_self] at own
  unfold insertTimeout
  rw [Represents.schedulerSortedInsert_eq, own]
  rfl

theorem insertTimeout_of_fits (counted : state.elapsed ≤ 65535) (small : timeout.toNat < 2 ^ 31)
    (fits : state.Fits timeout) :
    state.insertTimeout timer timeout =
      (state.timed timer timeout).placeTimer timer (state.schedulerMakeAbsolute timeout) := by
  rw [insertTimeout_eq, if_neg]
  intro wraps
  exact (wraps_iff counted small).mp wraps fits

theorem schedulerRebaseList_base :
    state.schedulerRebaseList.2 = state.absoluteTimeOfLastTimeout + state.elapsed := by
  show state.schedulerMakeAbsolute 0 = _
  rw [schedulerMakeAbsolute_eq, UInt32.zero_add]

/-- After rebasing, the time base lies as far back as ticks are counted. -/
theorem schedulerRebaseList_timeOfLastTimeout :
    state.schedulerRebaseList.1.absoluteTimeOfLastTimeout + state.elapsed = 0 := by
  have kept := SameBase.subtractFrom (state.schedulerMakeAbsolute 0)
    (state.listFrom state.listHead) state
  have base : state.schedulerRebaseList.1.absoluteTimeOfLastTimeout =
      state.absoluteTimeOfLastTimeout - state.schedulerMakeAbsolute 0 :=
    congrArg (· - _) kept.timeOfLastTimeout
  rw [base, schedulerMakeAbsolute_eq]
  grind

theorem schedulerRebaseList_counter :
    state.schedulerRebaseList.1.isRunning = state.isRunning ∧
      state.schedulerRebaseList.1.elapsed = state.elapsed := by
  have kept := SameBase.subtractFrom (state.schedulerMakeAbsolute 0)
    (state.listFrom state.listHead) state
  exact ⟨kept.isRunning, kept.elapsed⟩

/-- The correction is one range of the 16-bit counter too much. -/
private theorem corrected_eq (base range : UInt32) :
    timeout + base + (range - base + 1) = timeout + (range + 1) := by
  grind

/-- Where the time wraps around, the timer is placed in a list whose times are counted
from now on, 65536 ticks later than it should be. -/
theorem insertTimeout_of_wraps (counted : state.elapsed ≤ 65535) (small : timeout.toNat < 2 ^ 31)
    (wraps : ¬state.Fits timeout) :
    ∃ rebased : SchedulerState User, rebased.isRunning = state.isRunning ∧
      rebased.elapsed = state.elapsed ∧ rebased.absoluteTimeOfLastTimeout + state.elapsed = 0 ∧
      (rebased.timers timer).absoluteTime = timeout + 65536 ∧
      state.insertTimeout timer timeout = rebased.placeTimer timer (timeout + 65536) := by
  have base := @sameBase_timed _ state timer timeout _
  have counter := @schedulerRebaseList_counter _ (state.timed timer timeout) _ _
  have time : state.schedulerMakeAbsolute timeout +
      (65535 - (state.timed timer timeout).schedulerRebaseList.2 + 1) = timeout + 65536 := by
    rw [schedulerRebaseList_base, base.timeOfLastTimeout, base.elapsed, schedulerMakeAbsolute_eq,
      UInt32.add_assoc timeout, corrected_eq]
    rfl
  have zero := @schedulerRebaseList_timeOfLastTimeout _ (state.timed timer timeout) _ _
  rw [base.elapsed] at zero
  refine ⟨(state.timed timer timeout).schedulerRebaseList.1.setAbsoluteTime timer
    (timeout + 65536), counter.1.trans base.isRunning, ?_, zero, ?_, ?_⟩
  · exact (SameBase.setAbsoluteTime _ timer _).elapsed.trans (counter.2.trans base.elapsed)
  · rw [absoluteTime_setAbsoluteTime, Function.update_self]
  · rw [insertTimeout_eq, if_pos ((wraps_iff counted small).mpr wraps), time]

end Insert

/-! ## Remaining times -/

/-- An active list that is ordered by the time that remains to each of its timers. -/
structure ActiveList (state : SchedulerState User) (timers : List (Timer User)) : Prop where
  linked : Linked state.link state.listHead timers
  ordered : timers.Pairwise fun first second => state.remaining first ≤ state.remaining second

/-- No timer's time is before now in 32 bits, or one of them is due after the new timer. -/
def Comparable (state : SchedulerState User) (timers : List (Timer User)) (timeout : UInt32) :
    Prop :=
  (∀ other ∈ timers, state.schedulerMakeAbsolute 0 ≤ (state.timers other).absoluteTime) ∨
    ∃ other ∈ timers, state.schedulerMakeAbsolute timeout < (state.timers other).absoluteTime

/-- The timer is in the list and due after its timeout, the others when they were, and the
list is ordered by the time that remains. -/
structure KeepsTimeBase [Fintype User] (state next : SchedulerState User) (timer : Timer User)
    (timeout : UInt32) : Prop where
  listed : timer ∈ next.listFrom next.listHead
  own : next.remaining timer = timeout
  others : ∀ other ∈ state.listFrom state.listHead, next.remaining other = state.remaining other
  ordered : (next.listFrom next.listHead).Pairwise
    fun first second => next.remaining first ≤ next.remaining second

section Remaining

variable {timers : List (Timer User)} {other : Timer User}

theorem makeAbsolute_toNat (fits : state.Fits timeout) :
    (state.schedulerMakeAbsolute 0).toNat + timeout.toNat =
      (state.schedulerMakeAbsolute timeout).toNat := by
  unfold Fits at fits
  rw [schedulerMakeAbsolute_eq, schedulerMakeAbsolute_eq, UInt32.toNat_add, UInt32.toNat_add,
    UInt32.toNat_add, UInt32.toNat_add]
  show (((0 : Nat) + _) % _ + _) % _ + _ = _
  omega

theorem remaining_toNat_of_le
    (notBefore : state.schedulerMakeAbsolute 0 ≤ (state.timers other).absoluteTime) :
    (state.remaining other).toNat + (state.schedulerMakeAbsolute 0).toNat =
      (state.timers other).absoluteTime.toNat := by
  have below := UInt32.le_iff_toNat_le.mp notBefore
  unfold remaining
  rw [UInt32.toNat_sub_of_le _ _ notBefore]
  omega

theorem remaining_toNat_of_lt
    (before : (state.timers other).absoluteTime < state.schedulerMakeAbsolute 0) :
    (state.remaining other).toNat + (state.schedulerMakeAbsolute 0).toNat =
      2 ^ 32 + (state.timers other).absoluteTime.toNat := by
  have below := UInt32.lt_iff_toNat_lt.mp before
  have range := (state.schedulerMakeAbsolute 0).toNat_lt
  unfold remaining
  rw [UInt32.toNat_sub]
  omega

/-- A timer that is due after the new one has more time left. -/
theorem timeout_lt_remaining (fits : state.Fits timeout)
    (later : state.schedulerMakeAbsolute timeout < (state.timers other).absoluteTime) :
    timeout < state.remaining other := by
  have now := makeAbsolute_toNat fits
  have laterNat := UInt32.lt_iff_toNat_lt.mp later
  have notBefore : state.schedulerMakeAbsolute 0 ≤ (state.timers other).absoluteTime :=
    UInt32.le_iff_toNat_le.mpr (by omega)
  have remaining := remaining_toNat_of_le notBefore
  rw [UInt32.lt_iff_toNat_lt]
  omega

/-- A timer whose time has passed the 32 bits has more time left than any new timer whose
time has not. -/
theorem timeout_lt_remaining_of_lt (fits : state.Fits timeout)
    (before : (state.timers other).absoluteTime < state.schedulerMakeAbsolute 0) :
    timeout < state.remaining other := by
  have now := makeAbsolute_toNat fits
  have range := (state.schedulerMakeAbsolute timeout).toNat_lt
  have remaining := remaining_toNat_of_lt before
  rw [UInt32.lt_iff_toNat_lt]
  omega

theorem remaining_le_timeout (fits : state.Fits timeout)
    (notBefore : state.schedulerMakeAbsolute 0 ≤ (state.timers other).absoluteTime)
    (due : (state.timers other).absoluteTime ≤ state.schedulerMakeAbsolute timeout) :
    state.remaining other ≤ timeout := by
  have now := makeAbsolute_toNat fits
  have dueNat := UInt32.le_iff_toNat_le.mp due
  have remaining := remaining_toNat_of_le notBefore
  rw [UInt32.le_iff_toNat_le]
  omega

/-- The list falls into the timers that expire by then and those from the first one on that
does not. -/
theorem ActiveList.split (active : state.ActiveList timers) (time : UInt32) :
    ∀ first ∈ timers.takeWhile (state.expiresBy time),
      ∀ second ∈ timers.dropWhile (state.expiresBy time),
        state.remaining first ≤ state.remaining second := by
  have ordered := active.ordered
  rw [← List.takeWhile_append_dropWhile (p := state.expiresBy time) (l := timers)] at ordered
  exact (List.pairwise_append.mp ordered).2.2

theorem absoluteTime_le_of_mem_takeWhile
    (member : other ∈ timers.takeWhile (state.expiresBy time)) :
    (state.timers other).absoluteTime ≤ time := by
  have passes := List.mem_takeWhile_imp member
  exact of_decide_eq_true passes

theorem mem_dropWhile_of_lt (member : other ∈ timers)
    (later : time < (state.timers other).absoluteTime) :
    other ∈ timers.dropWhile (state.expiresBy time) := by
  rw [← List.takeWhile_append_dropWhile (p := state.expiresBy time) (l := timers)] at member
  rcases List.mem_append.mp member with front | back
  · exact absurd (absoluteTime_le_of_mem_takeWhile front) (UInt32.not_le.mpr later)
  · exact back

/-- In a list that can be compared, the timers in front have no more time left than the new
one. -/
theorem front_le (fits : state.Fits timeout) (active : state.ActiveList timers)
    (comparable : state.Comparable timers timeout) :
    ∀ other ∈ timers.takeWhile (state.expiresBy (state.schedulerMakeAbsolute timeout)),
      state.remaining other ≤ timeout := by
  intro other member
  have due := absoluteTime_le_of_mem_takeWhile member
  by_cases before : (state.timers other).absoluteTime < state.schedulerMakeAbsolute 0
  · rcases comparable with none | ⟨later, laterInList, afterTimeout⟩
    · have inList := (List.takeWhile_sublist _).subset member
      exact absurd before (UInt32.not_lt.mpr (none other inList))
    · -- the timer behind it is due before the wrap, this one after it
      have back := mem_dropWhile_of_lt laterInList afterTimeout
      have order := UInt32.le_iff_toNat_le.mp (active.split _ other member later back)
      have now := makeAbsolute_toNat fits
      have laterNat := UInt32.lt_iff_toNat_lt.mp afterTimeout
      have range := (state.timers later).absoluteTime.toNat_lt
      have remaining := remaining_toNat_of_lt before
      have laterRemaining := remaining_toNat_of_le
        (UInt32.le_iff_toNat_le.mpr (by omega) :
          state.schedulerMakeAbsolute 0 ≤ (state.timers later).absoluteTime)
      omega
  · exact remaining_le_timeout fits (UInt32.not_lt.mp before) due

/-- The timers behind have at least as much time left, whatever the list. -/
theorem le_back (fits : state.Fits timeout) (active : state.ActiveList timers) :
    ∀ other ∈ timers.dropWhile (state.expiresBy (state.schedulerMakeAbsolute timeout)),
      timeout ≤ state.remaining other := by
  have ordered := active.ordered.sublist
    (List.dropWhile_sublist (state.expiresBy (state.schedulerMakeAbsolute timeout)))
  cases behind :
      timers.dropWhile (state.expiresBy (state.schedulerMakeAbsolute timeout)) with
  | nil => exact fun other member => absurd member List.not_mem_nil
  | cons first rest =>
      have stops : state.expiresBy (state.schedulerMakeAbsolute timeout) first = false := by
        have stops := List.head?_dropWhile_not
          (state.expiresBy (state.schedulerMakeAbsolute timeout)) timers
        simpa [behind] using stops
      have later : state.schedulerMakeAbsolute timeout < (state.timers first).absoluteTime :=
        UInt32.not_le.mp (of_decide_eq_false stops)
      rw [behind] at ordered
      have firstLater := UInt32.le_of_lt (timeout_lt_remaining fits later)
      intro other member
      rcases List.mem_cons.mp member with rfl | inRest
      · exact firstLater
      · exact UInt32.le_trans firstLater ((List.pairwise_cons.mp ordered).1 other inRest)

end Remaining

/-! ### In the range of 32 bits -/

private theorem span_congr {α : Type} {first second : α → Bool} {cells : List α}
    (same : ∀ cell ∈ cells, first cell = second cell) :
    cells.takeWhile first = cells.takeWhile second ∧
      cells.dropWhile first = cells.dropWhile second := by
  induction cells with
  | nil => exact ⟨rfl, rfl⟩
  | cons cell rest inductionHypothesis =>
      have tails := inductionHypothesis fun other member =>
        same other (List.mem_cons_of_mem cell member)
      rw [List.takeWhile_cons, List.takeWhile_cons, List.dropWhile_cons, List.dropWhile_cons,
        same cell List.mem_cons_self, tails.1, tails.2]
      exact ⟨rfl, rfl⟩

section Placed

variable {timers : List (Timer User)}

theorem placed_ordered {remaining : Timer User → UInt32}
    (ordered : timers.Pairwise fun first second => remaining first ≤ remaining second)
    (front : ∀ other ∈ timers.takeWhile (state.expiresBy time),
      remaining other ≤ remaining timer)
    (back : ∀ other ∈ timers.dropWhile (state.expiresBy time),
      remaining timer ≤ remaining other) :
    (state.placed timer time timers).Pairwise
      fun first second => remaining first ≤ remaining second := by
  have split := (List.takeWhile_append_dropWhile
    (p := state.expiresBy time) (l := timers)).symm
  unfold placed
  cases before : timers.takeWhile (state.expiresBy time) with
  | nil =>
      have shorter := Timetable.withoutDummy_sublist timers
      rw [before, List.nil_append] at split
      rw [← split] at back
      refine List.pairwise_cons.mpr ⟨?_, ordered.sublist shorter⟩
      intro other member
      exact back other (shorter.subset member)
  | cons first earlier =>
      dsimp only
      rw [← before]
      rw [split] at ordered
      obtain ⟨frontOrdered, backOrdered, across⟩ := List.pairwise_append.mp ordered
      refine List.pairwise_append.mpr
        ⟨frontOrdered, List.pairwise_cons.mpr ⟨back, backOrdered⟩, ?_⟩
      intro earlierTimer inFront laterTimer inBack
      rcases List.mem_cons.mp inBack with rfl | behind
      · exact front earlierTimer inFront
      · exact across earlierTimer inFront laterTimer behind

theorem mem_placed : timer ∈ state.placed timer time timers := by
  unfold placed
  split
  · exact List.mem_cons_self
  · simp

/-- Where no timer is due after the new one, it comes last. -/
theorem placed_last (occupied : timers ≠ [])
    (due : ∀ other ∈ timers, (state.timers other).absoluteTime ≤ time) :
    state.placed timer time timers = timers ++ [timer] := by
  have all : ∀ other ∈ timers, state.expiresBy time other = true := fun other member =>
    decide_eq_true (due other member)
  unfold placed
  rw [List.takeWhile_eq_self_iff.mpr all, List.dropWhile_eq_nil_iff.mpr all]
  cases timers with
  | nil => contradiction
  | cons first rest => rfl

end Placed

section Keeps

variable [DecidableEq User] {timers : List (Timer User)} {next : SchedulerState User}

theorem expiresBy_timed (fresh : timer ∉ timers) :
    ∀ other ∈ timers, (state.timed timer timeout).expiresBy time other =
      state.expiresBy time other := by
  intro other member
  have different : other ≠ timer := fun same => fresh (same ▸ member)
  unfold expiresBy
  rw [absoluteTime_timed, Function.update_of_ne different]

theorem linked_timed (active : state.ActiveList timers) (fresh : timer ∉ timers) :
    Linked (state.timed timer timeout).link (state.timed timer timeout).listHead timers := by
  unfold timed
  rw [Represents.link_setNext, Represents.link_setAbsoluteTime]
  exact active.linked.update_of_notMem none fresh

theorem placed_timed (fresh : timer ∉ timers) :
    (state.timed timer timeout).placed timer time timers = state.placed timer time timers := by
  obtain ⟨front, back⟩ := span_congr (@expiresBy_timed _ state timer time timeout _ _ fresh)
  unfold placed
  rw [front, back]

/-- With the counter as it was, the new timer has its timeout left, and the others what
they had. -/
theorem remaining_of_timed
    (times : ∀ other, (next.timers other).absoluteTime =
      ((state.timed timer timeout).timers other).absoluteTime)
    (base : next.absoluteTimeOfLastTimeout = state.absoluteTimeOfLastTimeout)
    (ticks : next.elapsed = state.elapsed) :
    next.remaining = Function.update state.remaining timer timeout := by
  funext other
  rw [remaining_eq, times, absoluteTime_timed, base, ticks]
  by_cases same : other = timer
  · subst same
    rw [Function.update_self, Function.update_self, schedulerMakeAbsolute_eq]
    grind
  · rw [Function.update_of_ne same, Function.update_of_ne same, remaining_eq]

variable [Fintype User]

theorem keepsTimeBase_iff_comparable (fits : state.Fits timeout)
    (active : state.ActiveList timers) (fresh : timer ∉ timers)
    (remaining : next.remaining = Function.update state.remaining timer timeout)
    (list : next.listFrom next.listHead =
      state.placed timer (state.schedulerMakeAbsolute timeout) timers) :
    state.KeepsTimeBase next timer timeout ↔ state.Comparable timers timeout := by
  have own : next.remaining timer = timeout := by
    rw [remaining, Function.update_self]
  have others : ∀ other ∈ timers, next.remaining other = state.remaining other := by
    intro other member
    have different : other ≠ timer := fun same => fresh (same ▸ member)
    rw [remaining, Function.update_of_ne different]
  constructor
  · intro keeps
    by_contra incomparable
    obtain ⟨some, none⟩ := not_or.mp incomparable
    obtain ⟨wrapped, notAfter⟩ := not_forall.mp some
    obtain ⟨member, notAfter⟩ := Classical.not_imp.mp notAfter
    have before := UInt32.not_le.mp notAfter
    have due : ∀ other ∈ timers,
        (state.timers other).absoluteTime ≤ state.schedulerMakeAbsolute timeout := by
      intro other inList
      exact UInt32.not_lt.mp fun later => none ⟨other, inList, later⟩
    -- the new timer is the last one, behind one that is due only after the wrap
    have ordered := keeps.ordered
    rw [list, placed_last (List.ne_nil_of_mem member) due] at ordered
    have order := (List.pairwise_append.mp ordered).2.2 wrapped member timer (by simp)
    rw [own, others wrapped member] at order
    exact absurd (timeout_lt_remaining_of_lt fits before) (UInt32.not_lt.mpr order)
  · intro comparable
    refine ⟨list ▸ mem_placed, own, ?_, ?_⟩
    · rw [listFrom_eq active.linked]
      exact others
    · rw [list]
      apply placed_ordered
      · refine active.ordered.imp_of_mem ?_
        intro first second firstMember secondMember order
        rw [others first firstMember, others second secondMember]
        exact order
      · intro other member
        rw [own, others other ((List.takeWhile_sublist _).subset member)]
        exact front_le fits active comparable other member
      · intro other member
        rw [own, others other ((List.dropWhile_sublist _).subset member)]
        exact le_back fits active other member

end Keeps

/-! ## The time base -/

section TimeBase

variable [DecidableEq User] [Fintype User] {timers : List (Timer User)}

/-- A timer that is due no later stays in front of the new one. -/
def StaysFirst (state : SchedulerState User) (timers : List (Timer User)) (timeout : UInt32) :
    Prop :=
  ∃ first, timers.head? = some first ∧
    (state.timers first).absoluteTime ≤ state.schedulerMakeAbsolute timeout

theorem earlier_timed_iff (active : state.ActiveList timers) (fresh : timer ∉ timers) :
    (state.timed timer timeout).earlier (state.schedulerMakeAbsolute timeout) = [] ↔
      ¬state.StaysFirst timers timeout := by
  obtain ⟨front, -⟩ := span_congr
    (@expiresBy_timed _ state timer (state.schedulerMakeAbsolute timeout) timeout _ _ fresh)
  unfold earlier StaysFirst
  rw [listFrom_eq (linked_timed active fresh), front]
  cases timers with
  | nil => simp
  | cons first rest => simp [List.takeWhile_cons, expiresBy]

/-- Where the time wraps around, the new timer does not have its timeout left, with
whatever part of the elapsed ticks the counter still has. -/
theorem own_of_wraps (counted : state.elapsed ≤ 65535) (small : timeout.toNat < 2 ^ 31)
    (wraps : ¬state.Fits timeout) {next : SchedulerState User}
    (times : next.timers = (state.insertTimeout timer timeout).1.timers)
    (base : next.absoluteTimeOfLastTimeout =
      (state.insertTimeout timer timeout).1.absoluteTimeOfLastTimeout)
    (ticks : next.elapsed = 0 ∨ next.elapsed = state.elapsed) :
    next.remaining timer ≠ timeout := by
  obtain ⟨rebased, -, -, zero, own, inserted⟩ := insertTimeout_of_wraps counted small wraps
  have below : state.elapsed.toNat ≤ 65535 := counted
  have baseEq : next.absoluteTimeOfLastTimeout + state.elapsed = 0 := by
    rw [base, inserted, placeTimer_timeOfLastTimeout, zero]
  have time : (next.timers timer).absoluteTime = timeout + 65536 := by
    rw [times, inserted, placeTimer_absoluteTime, own]
  rw [remaining_eq, time]
  intro same
  have lost : (65536 : UInt32) = next.absoluteTimeOfLastTimeout + next.elapsed := by
    grind
  rcases ticks with none | kept
  · have sum : (65536 : UInt32) + state.elapsed = 0 := by
      rw [lost, none, UInt32.add_zero, baseEq]
    have sumNat := congrArg UInt32.toNat sum
    rw [UInt32.toNat_add] at sumNat
    have literal : (65536 : UInt32).toNat = 65536 := rfl
    have zeroNat : (0 : UInt32).toNat = 0 := rfl
    omega
  · rw [kept, baseEq] at lost
    exact absurd lost (by decide)

theorem insertTimeout_isRunning (counted : state.elapsed ≤ 65535)
    (small : timeout.toNat < 2 ^ 31) :
    (state.insertTimeout timer timeout).1.isRunning = state.isRunning := by
  by_cases fits : state.Fits timeout
  · rw [insertTimeout_of_fits counted small fits, placeTimer_isRunning, sameBase_timed.isRunning]
  · obtain ⟨rebased, running, -, -, -, inserted⟩ := insertTimeout_of_wraps counted small fits
    rw [inserted, placeTimer_isRunning, running]

/-- The counter is as it was, or loaded for a timer that comes first. -/
theorem insertTimeout_elapsed (counted : state.elapsed ≤ 65535) (small : timeout.toNat < 2 ^ 31) :
    (state.insertTimeout timer timeout).1.elapsed = 0 ∨
      (state.insertTimeout timer timeout).1.elapsed = state.elapsed := by
  by_cases fits : state.Fits timeout
  · rw [insertTimeout_of_fits counted small fits, placeTimer_elapsed, sameBase_timed.elapsed]
    split
    · exact Or.inl rfl
    · exact Or.inr rfl
  · obtain ⟨rebased, -, ticks, -, -, inserted⟩ := insertTimeout_of_wraps counted small fits
    rw [inserted, placeTimer_elapsed, ticks]
    split
    · exact Or.inl rfl
    · exact Or.inr rfl

/-- In the range of 32 bits, a state with the times and the list that the insertion leaves
keeps the time base if its counter still has the elapsed ticks. -/
theorem keepsTimeBase_of_fits_iff (active : state.ActiveList timers) (fresh : timer ∉ timers)
    (counted : state.elapsed ≤ 65535) (small : timeout.toNat < 2 ^ 31)
    (fits : state.Fits timeout) (next : SchedulerState User)
    (times : next.timers = (state.insertTimeout timer timeout).1.timers)
    (head : next.listHead = (state.insertTimeout timer timeout).1.listHead)
    (base : next.absoluteTimeOfLastTimeout =
      (state.insertTimeout timer timeout).1.absoluteTimeOfLastTimeout)
    (ticks : next.elapsed = state.elapsed) :
    state.KeepsTimeBase next timer timeout ↔ state.Comparable timers timeout := by
  have inserted := @insertTimeout_of_fits _ state timer timeout _ _ counted small fits
  apply keepsTimeBase_iff_comparable fits active fresh
  · apply remaining_of_timed
    · intro other
      rw [times, inserted, placeTimer_absoluteTime]
    · rw [base, inserted, placeTimer_timeOfLastTimeout, sameBase_timed.timeOfLastTimeout]
    · exact ticks
  · rw [listFrom_congr times, head, inserted,
      placeTimer_list (linked_timed active fresh) fresh, placed_timed fresh]

theorem insertTimeout_elapsed_iff (active : state.ActiveList timers) (fresh : timer ∉ timers)
    (counted : state.elapsed ≤ 65535) (small : timeout.toNat < 2 ^ 31)
    (fits : state.Fits timeout) :
    (state.insertTimeout timer timeout).1.elapsed = state.elapsed ↔
      state.elapsed = 0 ∨ state.StaysFirst timers timeout := by
  have first := @earlier_timed_iff _ state timer timeout _ _ _ active fresh
  rw [insertTimeout_of_fits counted small fits, placeTimer_elapsed, sameBase_timed.elapsed]
  by_cases stays : state.StaysFirst timers timeout
  · rw [if_neg fun none => first.mp none stays]
    exact ⟨fun _ => Or.inr stays, fun _ => rfl⟩
  · rw [if_pos (first.mpr stays), or_iff_left stays]
    exact eq_comm

/-- A timer that comes first has the ticks that the counter loses on top of its timeout. -/
theorem own_of_loaded (fits : state.Fits timeout) (counted : state.elapsed ≤ 65535)
    (small : timeout.toNat < 2 ^ 31) (ticks : (state.insertTimeout timer timeout).1.elapsed = 0) :
    (state.insertTimeout timer timeout).1.remaining timer = timeout + state.elapsed := by
  rw [remaining_eq, ticks, insertTimeout_of_fits counted small fits, placeTimer_absoluteTime,
    placeTimer_timeOfLastTimeout, absoluteTime_timed, Function.update_self,
    sameBase_timed.timeOfLastTimeout, schedulerMakeAbsolute_eq]
  grind

/-- The new timer and the others have the time left that they should have, in order,
exactly if the new timer's time fits into 32 bits and the times of the list can be
compared with it. With the counter as `scheduler_sorted_insert` leaves it, there must also
be no ticks that it loses for a timer that comes first. -/
theorem insertTimeout_keepsTimeBase_iff (active : state.ActiveList timers)
    (fresh : timer ∉ timers) (counted : state.elapsed ≤ 65535)
    (small : timeout.toNat < 2 ^ 31) :
    (state.KeepsTimeBase ((state.insertTimeout timer timeout).1.withCounterOf state) timer
        timeout ↔
      state.Fits timeout ∧ state.Comparable timers timeout) ∧
    (state.KeepsTimeBase (state.insertTimeout timer timeout).1 timer timeout ↔
      state.Fits timeout ∧ state.Comparable timers timeout ∧
        (state.elapsed = 0 ∨ state.StaysFirst timers timeout)) := by
  have running := @insertTimeout_isRunning _ state timer timeout _ _ counted small
  have ticks := elapsed_withCounterOf running
  have left := @insertTimeout_elapsed _ state timer timeout _ _ counted small
  by_cases fits : state.Fits timeout
  · have kept := insertTimeout_elapsed_iff active fresh counted small fits
    constructor
    · rw [keepsTimeBase_of_fits_iff active fresh counted small fits
        ((state.insertTimeout timer timeout).1.withCounterOf state) rfl rfl rfl ticks]
      exact (and_iff_right fits).symm
    · constructor
      · intro keeps
        have same : (state.insertTimeout timer timeout).1.elapsed = state.elapsed := by
          rcases left with loaded | same
          · have own := keeps.own
            rw [own_of_loaded fits counted small loaded] at own
            rw [loaded]
            grind
          · exact same
        have comparable :=
          (keepsTimeBase_of_fits_iff active fresh counted small fits _ rfl rfl rfl same).mp keeps
        exact ⟨fits, comparable, kept.mp same⟩
      · rintro ⟨-, comparable, none⟩
        exact (keepsTimeBase_of_fits_iff active fresh counted small fits _ rfl rfl rfl
          (kept.mpr none)).mpr comparable
  · constructor
    · constructor
      · intro keeps
        exact absurd keeps.own (own_of_wraps counted small fits rfl rfl (Or.inr ticks))
      · intro both
        exact absurd both.1 fits
    · constructor
      · intro keeps
        exact absurd keeps.own (own_of_wraps counted small fits rfl rfl left)
      · intro both
        exact absurd both.1 fits

end TimeBase

end SchedulerState

open SchedulerState

/-- After 49 days: the first timer is due 4000 ticks from now, and the counter stands
1000 ticks after the last timeout, 7296 ticks before the time base reaches its end. -/
def after49Days : SchedulerState Bool where
  timers := fun timer => ⟨none, if timer = .user false then 4294965000 else 0⟩
  listHead := some (.user false)
  executeQueueHead := none
  absoluteTimeOfLastTimeout := 4294960000
  lastTimerLoad := 60535
  isRunning := true
  rtc := ⟨61535, false, true⟩

theorem after49Days_active : after49Days.ActiveList [.user false] where
  linked := ⟨rfl, rfl⟩
  ordered := List.pairwise_singleton _ _

/-- A timeout of 5000 ticks keeps the time base in both accounts. -/
theorem insertTimeout_keepsTimeBase_iff_after49Days :
    after49Days.KeepsTimeBase
        ((after49Days.insertTimeout (.user true) 5000).1.withCounterOf after49Days) (.user true)
          5000 ∧
      after49Days.KeepsTimeBase (after49Days.insertTimeout (.user true) 5000).1 (.user true)
        5000 := by
  have both := @insertTimeout_keepsTimeBase_iff _ after49Days (.user true) 5000 _ _ _
    after49Days_active (by decide) (by decide +kernel) (by decide +kernel)
  have fits : after49Days.Fits 5000 := by
    unfold Fits
    decide +kernel
  have comparable : after49Days.Comparable [.user false] 5000 := by
    refine Or.inl ?_
    decide +kernel
  have first : after49Days.StaysFirst [.user false] 5000 := ⟨.user false, rfl, by decide +kernel⟩
  exact ⟨both.1.mpr ⟨fits, comparable⟩, both.2.mpr ⟨fits, comparable, Or.inr first⟩⟩

/-- A timeout of 10000 ticks goes beyond the end of the time base: 75536 ticks are left to
the new timer. -/
theorem insertTimeout_losesTimeBase :
    ((after49Days.insertTimeout (.user true) 10000).1.remaining (.user true) = 75536 ∧
      ¬after49Days.KeepsTimeBase
        ((after49Days.insertTimeout (.user true) 10000).1.withCounterOf after49Days) (.user true)
          10000) ∧
      ¬after49Days.KeepsTimeBase (after49Days.insertTimeout (.user true) 10000).1 (.user true)
        10000 := by
  refine ⟨⟨by decide +kernel, ?_⟩, ?_⟩
  · intro keeps
    exact absurd keeps.own (by decide +kernel)
  · intro keeps
    exact absurd keeps.own (by decide +kernel)

end MicrochipDay.Scheduler
