import Mathlib.Data.Fintype.Card
import Mathlib.Logic.Function.Basic

/-!
Owns the timeout driver (timeout.c): the timer structures and the two lists
threaded through them, the RTC registers the driver uses, and its operations.

The dummy timer belongs to the driver; the timers of a program are the values
of a type `User`. A loop that follows `next` pointers takes at most as many
steps as there are timers. Which callback a timer has is the caller's.

Does not own `scheduler_timeout_flush_all` (`Scheduler.Flush`) and the stopwatch
functions, which nothing in the program calls.
-/

namespace MicrochipDay.Scheduler

/-- A pointer to a timer: `&scheduler_dummy` or a timer of the program. -/
inductive Timer (User : Type) where
  | schedulerDummy
  | user (id : User)
deriving DecidableEq, Repr

/-- `timer_struct_t`, less its callback and payload. -/
structure TimerStruct (User : Type) where
  next : Option (Timer User)
  absoluteTime : UInt32

/-- The registers of the real-time counter that the driver reads or writes:
`RTC.CNT` and the overflow bits of `RTC.INTFLAGS` and `RTC.INTCTRL`. -/
structure Rtc where
  cnt : UInt16
  ovfFlag : Bool
  ovfEnable : Bool

structure SchedulerState (User : Type) where
  timers : Timer User → TimerStruct User
  listHead : Option (Timer User)
  executeQueueHead : Option (Timer User)
  absoluteTimeOfLastTimeout : UInt32
  lastTimerLoad : UInt32
  isRunning : Bool
  rtc : Rtc

/-- The state that `scheduler_timeout_init` leaves at start-up. -/
def schedulerTimeoutInit (User : Type) : SchedulerState User where
  timers := fun _ => ⟨none, 0⟩
  listHead := none
  executeQueueHead := none
  absoluteTimeOfLastTimeout := 0
  lastTimerLoad := 0
  isRunning := false
  rtc := ⟨0, false, true⟩

namespace SchedulerState

variable {User : Type}

/-! ## Registers -/

/-- `RTC.INTCTRL &= ~RTC_OVF_bm` and `RTC.INTCTRL |= RTC_OVF_bm`. -/
def setOvfEnable (state : SchedulerState User) (enable : Bool) : SchedulerState User :=
  { state with rtc := { state.rtc with ovfEnable := enable } }

/-- `RTC.INTFLAGS = RTC_OVF_bm`: writing the bit clears it. -/
def clearOvfFlag (state : SchedulerState User) : SchedulerState User :=
  { state with rtc := { state.rtc with ovfFlag := false } }

def schedulerStopTimeouts (state : SchedulerState User) : SchedulerState User :=
  { state.setOvfEnable false with absoluteTimeOfLastTimeout := 0, isRunning := false }

def schedulerSetTimerDuration (state : SchedulerState User) (duration : UInt32) :
    SchedulerState User :=
  let load := 65535 - duration
  { state with lastTimerLoad := load, rtc := { state.rtc with cnt := load.toUInt16 } }

def schedulerMakeAbsolute (state : SchedulerState User) (timeout : UInt32) : UInt32 :=
  let timeout := timeout + state.absoluteTimeOfLastTimeout
  if state.isRunning then
    let timerVal := if state.rtc.ovfFlag then 65535 else state.rtc.cnt.toUInt32
    timeout + (timerVal - state.lastTimerLoad)
  else timeout

/-! ## The lists -/

section Lists

variable [DecidableEq User]

def setNext (state : SchedulerState User) (timer : Timer User) (next : Option (Timer User)) :
    SchedulerState User :=
  { state with
    timers := Function.update state.timers timer { state.timers timer with next := next } }

def setAbsoluteTime (state : SchedulerState User) (timer : Timer User) (time : UInt32) :
    SchedulerState User :=
  { state with
    timers := Function.update state.timers timer { state.timers timer with absoluteTime := time } }

/-- The timers met on following at most `steps` pointers from `point`. -/
def walk (state : SchedulerState User) : Nat → Option (Timer User) → List (Timer User)
  | 0, _ => []
  | _ + 1, none => []
  | steps + 1, some timer => timer :: state.walk steps (state.timers timer).next

variable [Fintype User]

/-- The list that starts at `head`; it has room for the dummy and every timer
of the program. -/
def listFrom (state : SchedulerState User) (head : Option (Timer User)) : List (Timer User) :=
  state.walk (Fintype.card User + 1) head

/-- `scheduler_rebase_list`: the new state and the old time base. -/
def schedulerRebaseList (state : SchedulerState User) : SchedulerState User × UInt32 :=
  let base := state.schedulerMakeAbsolute 0
  let rebased := (state.listFrom state.listHead).foldl
    (fun state timer => state.setAbsoluteTime timer ((state.timers timer).absoluteTime - base))
    state
  ({ rebased with
      absoluteTimeOfLastTimeout := rebased.absoluteTimeOfLastTimeout - base }, base)

/-- The search loop of `scheduler_sorted_insert`: the last timer before the
first one that expires later than `time`. -/
def insertPoint (state : SchedulerState User) (time : UInt32) (prevPoint : Option (Timer User)) :
    List (Timer User) → Option (Timer User)
  | [] => prevPoint
  | insertPoint :: rest =>
      if (state.timers insertPoint).absoluteTime > time then prevPoint
      else state.insertPoint time (some insertPoint) rest

/-- `scheduler_sorted_insert`: the new state and whether the timer became the
head. -/
def schedulerSortedInsert (state : SchedulerState User) (timer : Timer User) :
    SchedulerState User × Bool :=
  let time := (state.timers timer).absoluteTime
  let state := state.setNext timer none
  let (state, time) :=
    if time < state.absoluteTimeOfLastTimeout then
      let rebased := state.schedulerRebaseList
      let time := time + (65535 - rebased.2 + 1)
      (rebased.1.setAbsoluteTime timer time, time)
    else (state, time)
  match state.insertPoint time none (state.listFrom state.listHead) with
  | none =>
      let state := (state.schedulerSetTimerDuration 65535).clearOvfFlag
      let next :=
        if state.listHead = some .schedulerDummy then (state.timers .schedulerDummy).next
        else state.listHead
      ({ state.setNext timer next with listHead := some timer }, true)
  | some prevPoint =>
      let state := state.setNext timer (state.timers prevPoint).next
      (state.setNext prevPoint (some timer), false)

omit [Fintype User] in
def schedulerStartTimerAtHead (state : SchedulerState User) : SchedulerState User :=
  let state := state.setOvfEnable false
  match state.listHead with
  | none => state.schedulerStopTimeouts
  | some head =>
      let period := (state.timers head).absoluteTime - state.absoluteTimeOfLastTimeout
      -- too far for the 16-bit counter: the dummy takes the head
      let (state, period) :=
        if period > 65535 then
          let state := state.setAbsoluteTime .schedulerDummy
            (state.absoluteTimeOfLastTimeout + 65535)
          let state := state.setNext .schedulerDummy (some head)
          ({ state with listHead := some .schedulerDummy }, 65535)
        else (state, period)
      { (state.schedulerSetTimerDuration period).setOvfEnable true with isRunning := true }

/-! ## Deleting a timer -/

/-- The list that `scheduler_timeout_delete_helper` works on. -/
inductive ListName where
  | active
  | executeQueue
deriving DecidableEq, Repr

def head (state : SchedulerState User) : ListName → Option (Timer User)
  | .active => state.listHead
  | .executeQueue => state.executeQueueHead

def setHead (state : SchedulerState User) (head : Option (Timer User)) :
    ListName → SchedulerState User
  | .active => { state with listHead := head }
  | .executeQueue => { state with executeQueueHead := head }

/-- The search loop of `scheduler_timeout_delete_helper`: the timer before
`timer`. -/
def findPrev (timer prevTimer : Timer User) : List (Timer User) → Option (Timer User)
  | [] => none
  | findTimer :: rest =>
      if findTimer = timer then some prevTimer else findPrev timer findTimer rest

def schedulerTimeoutDeleteHelper (state : SchedulerState User) (list : ListName)
    (timer : Timer User) : SchedulerState User × Bool :=
  match state.head list with
  | none => (state, false)
  | some head =>
      let state := state.setOvfEnable false
      if timer = head then
        ((state.setHead (state.timers head).next list).schedulerStartTimerAtHead, true)
      else
        match findPrev timer head ((state.listFrom (some head)).drop 1) with
        | some prevTimer =>
            ((state.setNext prevTimer (state.timers timer).next).setOvfEnable true, true)
        | none => (state.setOvfEnable true, false)

def schedulerTimeoutDelete (state : SchedulerState User) (timer : Timer User) :
    SchedulerState User :=
  let active := state.schedulerTimeoutDeleteHelper .active timer
  let state :=
    if active.2 then active.1
    else (active.1.schedulerTimeoutDeleteHelper .executeQueue timer).1
  state.setNext timer none

/-! ## Creating a timer -/

def schedulerTimeoutCreate (state : SchedulerState User) (timer : Timer User)
    (timeout : UInt32) : SchedulerState User :=
  let state := (state.schedulerTimeoutDelete timer).setOvfEnable false
  let state := state.setAbsoluteTime timer (state.schedulerMakeAbsolute timeout)
  let inserted := state.schedulerSortedInsert timer
  if inserted.2 then inserted.1.schedulerStartTimerAtHead
  else if inserted.1.isRunning then inserted.1.setOvfEnable true
  else inserted.1

/-! ## Expiry -/

def schedulerEnqueueCallback (state : SchedulerState User) (timer : Timer User) :
    SchedulerState User :=
  let state := state.setNext timer none
  match (state.listFrom state.executeQueueHead).getLast? with
  | none => { state with executeQueueHead := some timer }
  | some tmp => state.setNext tmp (some timer)

/-- `ISR(RTC_CNT_vect)`; `none` where it dereferences a null list head. -/
def rtcCntVect (state : SchedulerState User) : Option (SchedulerState User) :=
  state.listHead.map fun head =>
    let next := (state.timers head).next
    let state :=
      { state with
        absoluteTimeOfLastTimeout := (state.timers head).absoluteTime, lastTimerLoad := 0 }
    let state := if head ≠ .schedulerDummy then state.schedulerEnqueueCallback head else state
    ({ state with listHead := next }).schedulerStartTimerAtHead.clearOvfFlag

/-- The first part of `scheduler_timeout_call_next_callback`, up to the call:
the expired timer, off the queue. -/
def takeExpired (state : SchedulerState User) : Option (Timer User × SchedulerState User) :=
  state.executeQueueHead.map fun callbackTimer =>
    let tempIE := state.rtc.ovfEnable
    let state := state.setOvfEnable false
    let state := { state with executeQueueHead := (state.timers callbackTimer).next }
    let state := state.setNext callbackTimer none
    (callbackTimer, if tempIE then state.setOvfEnable true else state)

/-- `scheduler_timeout_call_next_callback`, in a program that keeps the driver's
variables in `State`. The callback returns the time to its next call, or 0. -/
def schedulerTimeoutCallNextCallback {State : Type} (get : State → SchedulerState User)
    (set : State → SchedulerState User → State) (callback : State → Timer User → State × UInt32)
    (state : State) : State :=
  match (get state).takeExpired with
  | none => state
  | some (callbackTimer, remaining) =>
      let called := callback (set state remaining) callbackTimer
      if called.2 ≠ 0 then
        set called.1 ((get called.1).schedulerTimeoutCreate callbackTimer called.2)
      else called.1

/-! ## The counter -/

inductive RtcStep where
  | count (ticks : UInt16)
  /-- The overflow interrupt is taken, if it is pending and enabled. -/
  | interrupt
deriving DecidableEq, Repr

def rtcStep (state : SchedulerState User) : RtcStep → SchedulerState User
  | .count ticks =>
      { state with
        rtc := { state.rtc with
          cnt := state.rtc.cnt + ticks
          ovfFlag := state.rtc.ovfFlag || 65536 ≤ state.rtc.cnt.toNat + ticks.toNat } }
  | .interrupt =>
      if state.rtc.ovfFlag && state.rtc.ovfEnable then state.rtcCntVect.getD state else state

end Lists

end SchedulerState

end MicrochipDay.Scheduler
