import MicrochipDay.Scheduler
import Mathlib.Data.List.Nodup
import Mathlib.Data.List.TakeWhile

/-!
Owns the timetable: what the timeout driver keeps, with lists in place of its
linked lists, the driver's operations on it, and the invariant that they keep.

The timetable is this development's account of what the driver is for, not a
translation of it. `Scheduler.Refinement` proves that the driver's pointers
carry the operations out.
-/

namespace MicrochipDay.Scheduler

structure Timetable (User : Type) where
  active : List (Timer User)
  queue : List (Timer User)
  absoluteTime : Timer User → UInt32
  timeOfLastTimeout : UInt32
  lastTimerLoad : UInt32
  isRunning : Bool
  rtc : Rtc

namespace Timetable

variable {User : Type}

/-! ## The counter -/

/-- The ticks counted since the time base was set. -/
def elapsed (table : Timetable User) : UInt32 :=
  if table.isRunning then
    (if table.rtc.ovfFlag then 65535 else table.rtc.cnt.toUInt32) - table.lastTimerLoad
  else 0

/-- The absolute time that lies `timeout` ticks ahead. -/
def absolute (table : Timetable User) (timeout : UInt32) : UInt32 :=
  timeout + table.timeOfLastTimeout + table.elapsed

def enableInterrupt (table : Timetable User) (enable : Bool) : Timetable User :=
  { table with rtc := { table.rtc with ovfEnable := enable } }

def clearFlag (table : Timetable User) : Timetable User :=
  { table with rtc := { table.rtc with ovfFlag := false } }

/-- The counter is loaded so that it overflows after `duration` ticks. -/
def load (table : Timetable User) (duration : UInt32) : Timetable User :=
  { table with
    lastTimerLoad := 65535 - duration
    isRunning := true
    rtc := ⟨(65535 - duration).toUInt16, table.rtc.ovfFlag, true⟩ }

def stop (table : Timetable User) : Timetable User :=
  { table.enableInterrupt false with timeOfLastTimeout := 0, isRunning := false }

section Load

variable (table : Timetable User) (duration : UInt32)

@[simp] theorem load_active : (table.load duration).active = table.active := by
  rw [load]

@[simp] theorem load_queue : (table.load duration).queue = table.queue := by
  rw [load]

@[simp] theorem load_absoluteTime :
    (table.load duration).absoluteTime = table.absoluteTime := by
  rw [load]

@[simp] theorem load_timeOfLastTimeout :
    (table.load duration).timeOfLastTimeout = table.timeOfLastTimeout := by
  rw [load]

@[simp] theorem load_rtc :
    (table.load duration).rtc = ⟨(65535 - duration).toUInt16, table.rtc.ovfFlag, true⟩ := by
  rw [load]

end Load

/-! ## The invariant -/

/-- The time from the time base to a timer. -/
def period (table : Timetable User) (timer : Timer User) : UInt32 :=
  table.absoluteTime timer - table.timeOfLastTimeout

/-- What holds of the lists whether or not the counter runs for their head. -/
structure Listed (table : Timetable User) : Prop where
  activeNodup : table.active.Nodup
  queueNodup : table.queue.Nodup
  disjoint : table.active.Disjoint table.queue
  dummyFirst : Timer.schedulerDummy ∉ table.active.tail
  dummyNotQueued : Timer.schedulerDummy ∉ table.queue
  dummyTime : table.active.head? = some .schedulerDummy → table.period .schedulerDummy = 65535

/-- What holds after every operation: the counter runs for the first timer. -/
structure WellFormed (table : Timetable User) : Prop extends table.Listed where
  running : table.isRunning = !table.active.isEmpty
  near : ∀ head, table.active.head? = some head → table.period head ≤ 65535
  loaded : ∀ head, table.active.head? = some head →
    table.lastTimerLoad = 65535 - table.period head
  counted : table.isRunning → table.rtc.ovfFlag = false →
    table.lastTimerLoad ≤ table.rtc.cnt.toUInt32

/-- A timer of the program waits in one of the two lists. -/
def Waits (table : Timetable User) (id : User) : Prop :=
  .user id ∈ table.active ∨ .user id ∈ table.queue

section Listed

variable {table other : Timetable User}

theorem Listed.head_eq_dummy (listed : table.Listed) (member : .schedulerDummy ∈ table.active) :
    table.active.head? = some .schedulerDummy := by
  have first := listed.dummyFirst
  cases cells : table.active with
  | nil => simp [cells] at member
  | cons head rest =>
      rw [cells] at member first
      rcases List.mem_cons.mp member with same | inRest
      · rw [same, List.head?_cons]
      · exact absurd inRest first

theorem Listed.sublist (listed : table.Listed) (active : other.active.Sublist table.active)
    (queue : other.queue.Sublist table.queue) (times : other.absoluteTime = table.absoluteTime)
    (base : other.timeOfLastTimeout = table.timeOfLastTimeout) : other.Listed where
  activeNodup := listed.activeNodup.sublist active
  queueNodup := listed.queueNodup.sublist queue
  disjoint := fun _ inActive inQueue =>
    listed.disjoint (active.subset inActive) (queue.subset inQueue)
  dummyFirst := fun inTail => listed.dummyFirst (active.tail.subset inTail)
  dummyNotQueued := fun inQueue => listed.dummyNotQueued (queue.subset inQueue)
  dummyTime := by
    intro first
    have member := active.subset (List.mem_of_mem_head? first)
    have time := listed.dummyTime (listed.head_eq_dummy member)
    unfold period at time ⊢
    rw [times, base]
    exact time

theorem counterValue {duration : UInt32} (fits : duration ≤ 65535) :
    (65535 - duration).toUInt16.toUInt32 = 65535 - duration := by
  apply UInt32.toNat_inj.mp
  have below : duration.toNat ≤ 65535 := fits
  rw [UInt16.toNat_toUInt32, UInt32.toNat_toUInt16, UInt32.toNat_sub_of_le _ _ fits]
  show (65535 - duration.toNat) % 65536 = 65535 - duration.toNat
  omega

theorem Listed.load (listed : table.Listed) {head : Timer User}
    (first : table.active.head? = some head) (near : table.period head ≤ 65535) :
    (table.load (table.period head)).WellFormed where
  toListed := by
    apply listed.sublist <;> simp
  running := by
    have occupied : table.active ≠ [] := by
      intro none
      simp [none] at first
    simp [Timetable.load, occupied]
  near := by
    intro head' first'
    rw [load_active, first, Option.some.injEq] at first'
    subst first'
    simpa [period] using near
  loaded := by
    intro head' first'
    rw [load_active, first, Option.some.injEq] at first'
    subst first'
    simp [Timetable.load, period]
  counted := by
    intro _ _
    simp only [Timetable.load, counterValue near]
    exact UInt32.le_refl _

theorem Listed.stop (listed : table.Listed) (none : table.active = []) :
    table.stop.WellFormed := by
  have stopped : table.stop.active = [] := none
  constructor
  case toListed =>
    constructor
    case queueNodup => exact listed.queueNodup
    case dummyNotQueued => exact listed.dummyNotQueued
    all_goals simp [stopped]
  case running =>
    rw [stopped]
    rfl
  case counted =>
    intro running
    exact absurd running (by simp [Timetable.stop])
  all_goals
    intro head first
    rw [stopped] at first
    exact absurd first (by simp)

theorem Listed.shrink (listed : table.Listed) {active queue : List (Timer User)}
    (activeSublist : active.Sublist table.active) (queueSublist : queue.Sublist table.queue) :
    { table with active := active, queue := queue }.Listed :=
  listed.sublist activeSublist queueSublist rfl rfl

theorem Listed.enableInterrupt (listed : table.Listed) (enable : Bool) :
    (table.enableInterrupt enable).Listed :=
  listed.sublist (List.Sublist.refl _) (List.Sublist.refl _) rfl rfl

/-- Timers behind the first one may go; nothing is loaded. -/
theorem WellFormed.shrink (wellFormed : table.WellFormed) {active queue : List (Timer User)}
    (activeSublist : active.Sublist table.active) (queueSublist : queue.Sublist table.queue)
    (sameHead : active.head? = table.active.head?) (enable : Bool) :
    { table.enableInterrupt enable with active := active, queue := queue }.WellFormed where
  toListed := wellFormed.toListed.sublist activeSublist queueSublist rfl rfl
  running := by
    show table.isRunning = !active.isEmpty
    rw [wellFormed.running]
    cases active <;> cases remaining : table.active <;> simp [remaining] at sameHead ⊢
  near := fun head first => wellFormed.near head (sameHead ▸ first)
  loaded := fun head first => wellFormed.loaded head (sameHead ▸ first)
  counted := wellFormed.counted

theorem WellFormed.enableInterrupt (wellFormed : table.WellFormed) (enable : Bool) :
    (table.enableInterrupt enable).WellFormed :=
  wellFormed.shrink (List.Sublist.refl _) (List.Sublist.refl _) rfl enable

theorem Listed.far_ne_dummy (listed : table.Listed) {head : Timer User}
    (first : table.active.head? = some head) (far : table.period head > 65535) :
    .schedulerDummy ∉ table.active := by
  intro member
  have dummyFirst := listed.head_eq_dummy member
  rw [first, Option.some.injEq] at dummyFirst
  subst dummyFirst
  rw [listed.dummyTime first] at far
  exact absurd far (by decide)

end Listed

/-- The timetable at start-up. -/
def initial (User : Type) : Timetable User where
  active := []
  queue := []
  absoluteTime := fun _ => 0
  timeOfLastTimeout := 0
  lastTimerLoad := 0
  isRunning := false
  rtc := ⟨0, false, true⟩

theorem initial_wellFormed : (initial User).WellFormed where
  activeNodup := List.nodup_nil
  queueNodup := List.nodup_nil
  disjoint := List.disjoint_nil_left []
  dummyFirst := List.not_mem_nil
  dummyNotQueued := List.not_mem_nil
  dummyTime := fun first => absurd first (by simp [initial])
  running := rfl
  near := fun _ first => absurd first (by simp [initial])
  loaded := fun _ first => absurd first (by simp [initial])
  counted := fun running => absurd running (by simp [initial])

/-! ## Leaving out the dummy -/

def withoutDummy : List (Timer User) → List (Timer User)
  | Timer.schedulerDummy :: rest => rest
  | timers => timers

theorem withoutDummy_sublist (timers : List (Timer User)) :
    (withoutDummy timers).Sublist timers := by
  unfold withoutDummy
  split
  · exact List.sublist_cons_self _ _
  · exact List.Sublist.refl _

theorem dummy_notMem_withoutDummy {timers : List (Timer User)}
    (dummyFirst : .schedulerDummy ∉ timers.tail) : .schedulerDummy ∉ withoutDummy timers := by
  unfold withoutDummy
  split
  · exact dummyFirst
  · rename_i otherHead
    cases timers with
    | nil => exact List.not_mem_nil
    | cons head rest =>
        intro member
        rcases List.mem_cons.mp member with same | inRest
        · exact otherHead rest (congrArg (· :: rest) same.symm)
        · exact dummyFirst inRest

theorem mem_withoutDummy {timers : List (Timer User)} {id : User} :
    .user id ∈ withoutDummy timers ↔ .user id ∈ timers := by
  unfold withoutDummy
  split
  · simp
  · rfl

section Operations

variable [DecidableEq User]

/-- The dummy is put in front and expires as late as the counter allows. -/
def pushDummy (table : Timetable User) : Timetable User :=
  { table with
    active := .schedulerDummy :: table.active
    absoluteTime := Function.update table.absoluteTime .schedulerDummy
      (table.timeOfLastTimeout + 65535) }

@[simp] theorem pushDummy_absoluteTime (table : Timetable User) (id : User) :
    table.pushDummy.absoluteTime (.user id) = table.absoluteTime (.user id) := by
  simp [pushDummy]

@[simp] theorem pushDummy_absoluteTime_dummy (table : Timetable User) :
    table.pushDummy.absoluteTime .schedulerDummy = table.timeOfLastTimeout + 65535 := by
  simp [pushDummy]

/-- The counter is loaded for the first timer, from the time base on. -/
def rearm (table : Timetable User) : Timetable User :=
  match table.active with
  | [] => table.stop
  | head :: _ =>
      if table.period head > 65535 then table.pushDummy.load 65535
      else table.load (table.period head)

/-! ## Deleting and creating -/

def deleteQueued (table : Timetable User) (timer : Timer User) : Timetable User :=
  match table.queue with
  | [] => table
  | head :: rest =>
      if timer = head then { table with queue := rest }.rearm
      else { table.enableInterrupt true with queue := head :: rest.erase timer }

def delete (table : Timetable User) (timer : Timer User) : Timetable User :=
  match table.active with
  | [] => table.deleteQueued timer
  | head :: rest =>
      if timer = head then { table with active := rest }.rearm
      else if timer ∈ rest then
        { table.enableInterrupt true with active := head :: rest.erase timer }
      else (table.enableInterrupt true).deleteQueued timer

/-- All times are counted from now on. -/
def rebase (table : Timetable User) : Timetable User :=
  { table with
    absoluteTime := fun timer =>
      if timer ∈ table.active then table.absoluteTime timer - table.absolute 0
      else table.absoluteTime timer
    timeOfLastTimeout := table.timeOfLastTimeout - table.absolute 0 }

def setTime (table : Timetable User) (timer : Timer User) (time : UInt32) : Timetable User :=
  { table with absoluteTime := Function.update table.absoluteTime timer time }

def expiresBy (table : Timetable User) (time : UInt32) (timer : Timer User) : Bool :=
  table.absoluteTime timer ≤ time

/-- A timer that is in no list goes behind those that expire no later. -/
def insert (table : Timetable User) (timer : Timer User) (time : UInt32) : Timetable User :=
  let table := table.setTime timer time
  match table.active.takeWhile (table.expiresBy time) with
  | [] => { table.clearFlag with active := timer :: withoutDummy table.active }.rearm
  | first :: earlier =>
      { table.enableInterrupt (table.isRunning || table.rtc.ovfEnable) with
        active := first :: earlier ++
          timer :: table.active.dropWhile (table.expiresBy time) }

def create (table : Timetable User) (timer : Timer User) (timeout : UInt32) : Timetable User :=
  let table := (table.delete timer).enableInterrupt false
  let time := table.absolute timeout
  if time < table.timeOfLastTimeout then
    table.rebase.insert timer (time + (65535 - table.absolute 0 + 1))
  else table.insert timer time

/-! ## Expiry -/

/-- The dummy has no callback to call. -/
def enqueue (queue : List (Timer User)) (timer : Timer User) : List (Timer User) :=
  if timer = .schedulerDummy then queue else queue ++ [timer]

/-- The first timer expires, and its time is the new time base. -/
def takeHead (table : Timetable User) (head : Timer User) (rest : List (Timer User)) :
    Timetable User :=
  { table with
    active := rest
    queue := enqueue table.queue head
    timeOfLastTimeout := table.absoluteTime head
    lastTimerLoad := 0 }

def expire (table : Timetable User) : Timetable User :=
  match table.active with
  | [] => table
  | head :: rest => (table.takeHead head rest).rearm.clearFlag

def dequeue (table : Timetable User) : Timetable User :=
  { table with queue := table.queue.tail }

def count (table : Timetable User) (ticks : UInt16) : Timetable User :=
  { table with
    rtc := { table.rtc with
      cnt := table.rtc.cnt + ticks
      ovfFlag := table.rtc.ovfFlag || 65536 ≤ table.rtc.cnt.toNat + ticks.toNat } }

def rtcStep (table : Timetable User) : SchedulerState.RtcStep → Timetable User
  | .count ticks => table.count ticks
  | .interrupt => if table.rtc.ovfFlag && table.rtc.ovfEnable then table.expire else table

section Invariant

variable {table : Timetable User}

/-! ### Loading the counter -/

theorem rearm_of_nil (none : table.active = []) : table.rearm = table.stop := by
  unfold rearm
  rw [none]

theorem rearm_of_near {head : Timer User} (first : table.active.head? = some head)
    (near : table.period head ≤ 65535) : table.rearm = table.load (table.period head) := by
  unfold rearm
  cases cells : table.active with
  | nil => simp [cells] at first
  | cons first' rest =>
      obtain rfl : first' = head := by simpa [cells] using first
      exact if_neg (UInt32.not_lt.mpr near)

theorem rearm_of_far {head : Timer User} (first : table.active.head? = some head)
    (far : table.period head > 65535) : table.rearm = table.pushDummy.load 65535 := by
  unfold rearm
  cases cells : table.active with
  | nil => simp [cells] at first
  | cons first' rest =>
      obtain rfl : first' = head := by simpa [cells] using first
      exact if_pos far

/-- What the counter stood at does not matter for the next timer. -/
theorem rearm_of_counter {head : Timer User} {rest : List (Timer User)} (value : UInt32)
    (cnt : UInt16) :
    { table with
      active := head :: rest
      lastTimerLoad := value
      rtc := ⟨cnt, table.rtc.ovfFlag, table.rtc.ovfEnable⟩ }.rearm =
      { table with active := head :: rest }.rearm := by
  unfold rearm period
  dsimp only
  split
  · rfl
  · rfl

/-- How `rearm` finds the timetable: without timers, with a first timer in the
reach of the counter, or with one out of its reach. -/
theorem rearm_cases (Result : Timetable User → Prop)
    (empty : table.active = [] → Result table.stop)
    (inReach : ∀ head, table.active.head? = some head → table.period head ≤ 65535 →
      Result (table.load (table.period head)))
    (outOfReach : ∀ head, table.active.head? = some head → table.period head > 65535 →
      Result (table.pushDummy.load 65535)) : Result table.rearm := by
  cases first : table.active.head? with
  | none =>
      have none := List.head?_eq_none_iff.mp first
      rw [rearm_of_nil none]
      exact empty none
  | some head =>
      by_cases near : table.period head ≤ 65535
      · rw [rearm_of_near first near]
        exact inReach head first near
      · have far := UInt32.not_le.mp near
        rw [rearm_of_far first far]
        exact outOfReach head first far

omit [DecidableEq User] in
theorem load_enableInterrupt (table : Timetable User) (enable : Bool) (duration : UInt32) :
    (table.enableInterrupt enable).load duration = table.load duration := rfl

/-- Loading the counter decides by itself whether the interrupt is enabled. -/
theorem rearm_enableInterrupt (enable : Bool) :
    (table.enableInterrupt enable).rearm = table.rearm := by
  cases first : table.active.head? with
  | none =>
      have none := List.head?_eq_none_iff.mp first
      have noneMasked : (table.enableInterrupt enable).active = [] := none
      rw [rearm_of_nil none, rearm_of_nil noneMasked]
      rfl
  | some head =>
      have firstMasked : (table.enableInterrupt enable).active.head? = some head := first
      by_cases near : table.period head ≤ 65535
      · have nearMasked : (table.enableInterrupt enable).period head ≤ 65535 := near
        rw [rearm_of_near first near, rearm_of_near firstMasked nearMasked]
        exact load_enableInterrupt table _ _
      · have far := UInt32.not_le.mp near
        have farMasked : (table.enableInterrupt enable).period head > 65535 := far
        rw [rearm_of_far first far, rearm_of_far firstMasked farMasked]
        exact load_enableInterrupt table.pushDummy _ _

@[simp] theorem rearm_queue : table.rearm.queue = table.queue := by
  apply rearm_cases fun result => result.queue = table.queue
  · intro _
    simp only [stop, enableInterrupt]
  · intro _ _ _
    simp only [load_queue]
  · intro _ _ _
    simp only [load_queue, pushDummy]

@[simp] theorem mem_rearm_active {id : User} :
    .user id ∈ table.rearm.active ↔ .user id ∈ table.active := by
  apply rearm_cases fun result => .user id ∈ result.active ↔ .user id ∈ table.active
  · intro _
    simp only [stop, enableInterrupt]
  · intro _ _ _
    simp only [load_active]
  · intro _ _ _
    simp [pushDummy]

@[simp] theorem rearm_absoluteTime {id : User} :
    table.rearm.absoluteTime (.user id) = table.absoluteTime (.user id) := by
  apply rearm_cases fun result =>
    result.absoluteTime (.user id) = table.absoluteTime (.user id)
  · intro _
    simp only [stop, enableInterrupt]
  · intro _ _ _
    simp only [load_absoluteTime]
  · intro _ _ _
    simp only [load_absoluteTime, pushDummy_absoluteTime]

theorem Listed.pushDummy (listed : table.Listed) {head : Timer User}
    (first : table.active.head? = some head) (far : table.period head > 65535) :
    table.pushDummy.Listed where
  activeNodup := List.nodup_cons.mpr ⟨listed.far_ne_dummy first far, listed.activeNodup⟩
  queueNodup := listed.queueNodup
  disjoint := List.disjoint_cons_left.mpr ⟨listed.dummyNotQueued, listed.disjoint⟩
  dummyFirst := listed.far_ne_dummy first far
  dummyNotQueued := listed.dummyNotQueued
  dummyTime := by
    intro _
    unfold period
    rw [pushDummy_absoluteTime_dummy]
    simp only [Timetable.pushDummy]
    grind

theorem Listed.rearm (listed : table.Listed) : table.rearm.WellFormed := by
  apply rearm_cases
  · intro none
    exact listed.stop none
  · intro head first near
    exact listed.load first near
  · intro head first far
    have pushed := listed.pushDummy first far
    have period := pushed.dummyTime rfl
    have loaded := pushed.load rfl (period ▸ UInt32.le_refl _)
    rwa [period] at loaded

end Invariant

end Operations

end Timetable

end MicrochipDay.Scheduler
