import MicrochipDay.Library.Loop
import MicrochipDay.Scheduler.Execution
import Mathlib.Data.Stream.Init

/-!
Owns `scheduler_timeout_flush_all`: that its two loops end in every state a
program can bring the timeout driver to, with nothing left to expire.

A deletion may put the dummy back at the head, so the number of timers does not
go down in every round. What goes down counts every timer twice and the dummy
once. The counter may count and interrupt before every test of the loops.
-/

namespace MicrochipDay.Scheduler

open MicrochipDay.Library.LinkedList MicrochipDay.Library.Loop
open SchedulerState

variable {User : Type} [DecidableEq User]

namespace SchedulerState

variable [Fintype User]

/-- One round of `while (head != NULL) scheduler_timeout_delete(head);`, after
the steps that the counter takes before the test. -/
def flushRound (list : ListName) :
    SchedulerState User × Stream' (List RtcStep) →
      SchedulerState User ⊕ (SchedulerState User × Stream' (List RtcStep)) :=
  fun (state, counter) =>
    let state := counter.head.foldl rtcStep state
    match state.head list with
    | none => .inl state
    | some timer => .inr (state.schedulerTimeoutDelete timer, counter.tail)

/-- `scheduler_timeout_flush_all`; `none` when a loop takes more rounds. -/
def schedulerTimeoutFlushAll (state : SchedulerState User)
    (counter : ListName → Stream' (List RtcStep)) (rounds : Nat) :
    Option (SchedulerState User) := do
  let state := state.schedulerStopTimeouts
  let state ← loop (flushRound .active) rounds (state, counter .active)
  loop (flushRound .executeQueue) rounds (state, counter .executeQueue)

section Round

variable {state : SchedulerState User} {counter : Stream' (List RtcStep)} {list : ListName}

theorem flushRound_empty (empty : (counter.head.foldl rtcStep state).head list = none) :
    flushRound list (state, counter) = .inl (counter.head.foldl rtcStep state) := by
  unfold flushRound
  dsimp only
  rw [empty]

theorem flushRound_first {timer : Timer User}
    (first : (counter.head.foldl rtcStep state).head list = some timer) :
    flushRound list (state, counter) =
      .inr ((counter.head.foldl rtcStep state).schedulerTimeoutDelete timer, counter.tail) := by
  unfold flushRound
  dsimp only
  rw [first]

end Round

end SchedulerState

/-! ## What goes down -/

namespace Timetable

/-- Every timer counts twice, the dummy at the head once. -/
def weight (active : List (Timer User)) : Nat := active.length + (withoutDummy active).length

variable {table : Timetable User} {head : Timer User} {rest : List (Timer User)}

omit [DecidableEq User] in
theorem weight_le (active : List (Timer User)) : weight active ≤ 2 * active.length := by
  have shorter := (withoutDummy_sublist active).length_le
  unfold weight
  omega

omit [DecidableEq User] in
theorem weight_dummy_cons (rest : List (Timer User)) :
    weight (.schedulerDummy :: rest) = 2 * rest.length + 1 := by
  show rest.length + 1 + rest.length = _
  omega

omit [DecidableEq User] in
theorem weight_user_cons (id : User) (rest : List (Timer User)) :
    weight (.user id :: rest) = 2 * rest.length + 2 := by
  show rest.length + 1 + (rest.length + 1) = _
  omega

omit [DecidableEq User] in
theorem le_weight_cons (head : Timer User) (rest : List (Timer User)) :
    2 * rest.length + 1 ≤ weight (head :: rest) := by
  cases head with
  | schedulerDummy => exact (weight_dummy_cons rest).ge
  | user id =>
      rw [weight_user_cons]
      omega

/-- Loading the counter leaves the list or puts the dummy in front of it. -/
theorem rearm_active_cases (table : Timetable User) :
    table.rearm.active = table.active ∨
      table.active ≠ [] ∧ table.rearm.active = .schedulerDummy :: table.active := by
  apply rearm_cases fun result => result.active = table.active ∨
    table.active ≠ [] ∧ result.active = .schedulerDummy :: table.active
  · intro _
    exact Or.inl rfl
  · intro head _ _
    exact Or.inl (load_active table _)
  · intro head first _
    refine Or.inr ⟨?_, load_active table.pushDummy 65535⟩
    intro empty
    rw [empty] at first
    cases first

theorem weight_rearm_le (table : Timetable User) :
    weight table.rearm.active ≤ 2 * table.active.length + 1 := by
  rcases table.rearm_active_cases with same | ⟨_, pushed⟩
  · rw [same]
    have atMost := weight_le table.active
    omega
  · rw [pushed, weight_dummy_cons]

theorem weight_rtcStep_le (table : Timetable User) (step : RtcStep) :
    weight (table.rtcStep step).active ≤ weight table.active := by
  cases step with
  | count ticks => exact le_rfl
  | interrupt =>
      unfold rtcStep
      dsimp only
      split
      · unfold expire
        cases waiting : table.active with
        | nil => simp [waiting]
        | cons head rest =>
            have rearmed := weight_rearm_le (table.takeHead head rest)
            have counted := le_weight_cons head rest
            exact rearmed.trans counted
      · exact le_rfl

/-- The head of the active list is gone and the counter is loaded for the next
timer. The link of the deleted timer is cut last: where it is the dummy and is
back at the head, the rest of the list goes with it. -/
def deleteFirst (table : Timetable User) (head : Timer User) (rest : List (Timer User)) :
    Timetable User :=
  let rearmed := { table with active := rest }.rearm
  if rearmed.active.head? = some head then { rearmed with active := [head] } else rearmed

theorem weight_deleteFirst_lt (table : Timetable User) (notBehind : head ∉ rest) :
    weight (table.deleteFirst head rest).active < weight (head :: rest) := by
  have counted := le_weight_cons head rest
  unfold deleteFirst
  dsimp only
  rcases rearm_active_cases { table with active := rest } with same | ⟨notEmpty, pushed⟩
  · -- nothing was put in front
    rw [same]
    have notFirst : rest.head? ≠ some head := fun first =>
      notBehind (List.mem_of_mem_head? first)
    rw [if_neg notFirst, same]
    have atMost := weight_le rest
    dsimp only
    omega
  · rw [pushed, List.head?_cons]
    have longer := List.length_pos_iff.mpr notEmpty
    dsimp only at longer
    cases head with
    | schedulerDummy =>
        rw [if_pos rfl, weight_dummy_cons, weight_dummy_cons, List.length_nil]
        omega
    | user id =>
        rw [if_neg (by simp), pushed, weight_dummy_cons, weight_user_cons]
        dsimp only
        omega

theorem rearm_halted (halted : table.rearm.active = []) : table.rearm.rtc.ovfEnable = false := by
  revert halted
  apply rearm_cases fun result => result.active = [] → result.rtc.ovfEnable = false
  · intro _ _
    rfl
  · intro head first _ halted
    rw [load_active] at halted
    rw [halted] at first
    cases first
  · intro _ _ _ halted
    rw [load_active] at halted
    cases halted

end Timetable

/-! ## Between two deletions -/

/-- What holds before every test of the two loops. Before the first deletion the
counter is stopped and the times are counted from nowhere; it cannot interrupt. -/
structure Flushing (state : SchedulerState User) (table : Timetable User) : Prop where
  represents : Represents state table
  disjoint : table.active.Disjoint table.queue
  dummyFirst : .schedulerDummy ∉ table.active.tail
  dummyNotQueued : .schedulerDummy ∉ table.queue
  interruptible : table.rtc.ovfEnable → table.WellFormed
  halted : table.active = [] → table.rtc.ovfEnable = false ∧ table.isRunning = false

namespace Flushing

variable {state : SchedulerState User} {table : Timetable User} {head : Timer User}
  {rest : List (Timer User)}

omit [DecidableEq User] in
theorem of_wellFormed (represents : Represents state table) (wellFormed : table.WellFormed)
    (halted : table.active = [] → table.rtc.ovfEnable = false) : Flushing state table where
  represents := represents
  disjoint := wellFormed.disjoint
  dummyFirst := wellFormed.dummyFirst
  dummyNotQueued := wellFormed.dummyNotQueued
  interruptible := fun _ => wellFormed
  halted := by
    intro empty
    refine ⟨halted empty, ?_⟩
    rw [wellFormed.running, empty]
    rfl

omit [DecidableEq User] in
theorem stopped (represents : Represents state table) (listed : table.Listed) :
    Flushing state.schedulerStopTimeouts table.stop where
  represents := represents.schedulerStopTimeouts
  disjoint := listed.disjoint
  dummyFirst := listed.dummyFirst
  dummyNotQueued := listed.dummyNotQueued
  interruptible := by
    intro enabled
    cases enabled
  halted := fun _ => ⟨rfl, rfl⟩

omit [DecidableEq User] in
/-- Without the head, which alone may be the dummy, the times are in order. -/
theorem listed_rest (flushing : Flushing state table) (waiting : table.active = head :: rest) :
    { table with active := rest }.Listed where
  activeNodup := (List.nodup_cons.mp (waiting ▸ flushing.represents.active.nodup)).2
  queueNodup := flushing.represents.queue.nodup
  disjoint := (List.disjoint_cons_left.mp (waiting ▸ flushing.disjoint)).2
  dummyFirst := by
    have dummyFirst := flushing.dummyFirst
    rw [waiting] at dummyFirst
    exact fun member => dummyFirst (List.mem_of_mem_tail member)
  dummyNotQueued := flushing.dummyNotQueued
  dummyTime := by
    have dummyFirst := flushing.dummyFirst
    rw [waiting] at dummyFirst
    exact fun first => absurd (List.mem_of_mem_head? first) dummyFirst

variable [Fintype User]

theorem rtcStep (flushing : Flushing state table) (step : RtcStep) :
    Flushing (state.rtcStep step) (table.rtcStep step) := by
  cases step with
  | count ticks =>
      exact
        { represents := flushing.represents.count ticks
          disjoint := flushing.disjoint
          dummyFirst := flushing.dummyFirst
          dummyNotQueued := flushing.dummyNotQueued
          interruptible := fun enabled => (flushing.interruptible enabled).count ticks
          halted := flushing.halted }
  | interrupt =>
      unfold SchedulerState.rtcStep Timetable.rtcStep
      dsimp only
      rw [flushing.represents.rtc]
      split
      · rename_i taken
        have enabled := (Bool.and_eq_true_iff.mp taken).2
        have wellFormed := flushing.interruptible enabled
        refine of_wellFormed (flushing.represents.rtcCntVect wellFormed.toListed)
          wellFormed.expire ?_
        unfold Timetable.expire
        cases waiting : table.active with
        | nil => exact fun _ => (flushing.halted waiting).1
        | cons head rest => exact Timetable.rearm_halted
      · exact flushing

theorem counterSteps (flushing : Flushing state table) (steps : List RtcStep) :
    Flushing (steps.foldl SchedulerState.rtcStep state) (steps.foldl Timetable.rtcStep table) ∧
      Timetable.weight (steps.foldl Timetable.rtcStep table).active ≤
        Timetable.weight table.active := by
  induction steps generalizing state table with
  | nil => exact ⟨flushing, le_rfl⟩
  | cons step rest inductionHypothesis =>
      have next := inductionHypothesis (flushing.rtcStep step)
      exact ⟨next.1, next.2.trans (table.weight_rtcStep_le step)⟩

omit [Fintype User] in
/-- The link of a timer in no list may be cut; the list of the head ends behind it. -/
theorem cutHead (represents : Represents state table) (notQueued : head ∉ table.queue)
    (first : table.active.head? = some head) :
    Represents (state.setNext head none) { table with active := [head] } := by
  refine represents.relink ?_ ?_ (Represents.absoluteTime_setNext none) rfl rfl rfl rfl
  · rw [Represents.link_setNext]
    refine ⟨represents.active.head_eq.trans first, ?_⟩
    exact Function.update_self head none state.link
  · rw [Represents.link_setNext]
    exact represents.queue.update_of_notMem none notQueued

omit [Fintype User] in
/-- The head is taken off the active list, and the timer starts for what is behind it. -/
theorem startBehindHead (flushing : Flushing state table) (waiting : table.active = head :: rest) :
    Represents
      ((state.setOvfEnable false).setHead (state.timers head).next .active
        |>.schedulerStartTimerAtHead)
      { table with active := rest }.rearm := by
  have linked := flushing.represents.active
  rw [waiting] at linked
  have masked := flushing.represents.setOvfEnable false
  have taken : Represents
      ((state.setOvfEnable false).setHead (state.timers head).next .active)
      { table.enableInterrupt false with active := rest } :=
    masked.relink linked.2 masked.queue (fun _ => rfl) rfl rfl rfl rfl
  rw [← Timetable.rearm_enableInterrupt false]
  exact taken.schedulerStartTimerAtHead ((flushing.listed_rest waiting).enableInterrupt false)

/-- The head of the active list is deleted. -/
theorem deleteFirst (flushing : Flushing state table) (waiting : table.active = head :: rest) :
    Flushing (state.schedulerTimeoutDelete head) (table.deleteFirst head rest) := by
  have represents := flushing.represents
  have notBehind := (List.nodup_cons.mp (waiting ▸ represents.active.nodup)).1
  have notQueued := (List.disjoint_cons_left.mp (waiting ▸ flushing.disjoint)).1
  have listed := flushing.listed_rest waiting
  have wellFormed := listed.rearm
  have first : state.head .active = some head := by
    have headEq := represents.active.head_eq
    rw [waiting] at headEq
    exact headEq
  have rearmed := flushing.startBehindHead waiting
  have stillNotQueued : head ∉ ({ table with active := rest }.rearm).queue := by
    rw [Timetable.rearm_queue]
    exact notQueued
  unfold SchedulerState.schedulerTimeoutDelete Timetable.deleteFirst
  dsimp only
  rw [Represents.deleteHelper_head .active first, if_pos rfl]
  dsimp only
  split
  · rename_i back
    refine of_wellFormed (cutHead rearmed stillNotQueued back) ?_ (fun empty => by cases empty)
    have onlyHead : [head].Sublist { table with active := rest }.rearm.active :=
      List.singleton_sublist.mpr (List.mem_of_mem_head? back)
    exact wellFormed.shrink onlyHead (List.Sublist.refl _) back.symm
      { table with active := rest }.rearm.rtc.ovfEnable
  · rename_i notBack
    refine of_wellFormed (rearmed.setNext none ?_ stillNotQueued) wellFormed
      Timetable.rearm_halted
    rcases Timetable.rearm_active_cases { table with active := rest } with same | ⟨_, pushed⟩
    · rw [same]
      exact notBehind
    · rw [pushed, List.mem_cons]
      rintro (isDummy | behind)
      · rw [pushed, isDummy] at notBack
        exact notBack rfl
      · exact notBehind behind

/-- The head of the queue is deleted once the active list is empty. -/
theorem deleteQueuedFirst (flushing : Flushing state table) (empty : table.active = [])
    (waiting : table.queue = head :: rest) :
    Flushing (state.schedulerTimeoutDelete head) { table with queue := rest }.stop := by
  have represents := flushing.represents
  have nodup := List.nodup_cons.mp (waiting ▸ represents.queue.nodup)
  have listed : table.Listed :=
    { activeNodup := represents.active.nodup
      queueNodup := represents.queue.nodup
      disjoint := flushing.disjoint
      dummyFirst := flushing.dummyFirst
      dummyNotQueued := flushing.dummyNotQueued
      dummyTime := fun first => absurd first (by simp [empty]) }
  have noHead : state.head .active = none := by
    have headEq := represents.active.head_eq
    rw [empty] at headEq
    exact headEq
  have deleted : table.deleteQueued head = { table with queue := rest }.stop := by
    have stillEmpty : { table with queue := rest }.active = [] := empty
    unfold Timetable.deleteQueued
    rw [waiting]
    dsimp only
    rw [if_pos rfl, Timetable.rearm_of_nil stillEmpty]
  have queued := represents.deleteQueued listed head
  rw [deleted] at queued
  refine
    { represents := ?_
      disjoint := ?_
      dummyFirst := flushing.dummyFirst
      dummyNotQueued := ?_
      interruptible := fun enabled => by cases enabled
      halted := fun _ => ⟨rfl, rfl⟩ }
  · unfold SchedulerState.schedulerTimeoutDelete
    dsimp only
    rw [Represents.deleteHelper_empty .active noHead, if_neg (by simp)]
    refine queued.setNext none ?_ nodup.1
    show head ∉ table.active
    rw [empty]
    exact List.not_mem_nil
  · show table.active.Disjoint rest
    rw [empty]
    exact List.disjoint_nil_left rest
  · intro member
    apply flushing.dummyNotQueued
    rw [waiting]
    exact List.mem_cons_of_mem head member

/-! ## The loops -/

theorem activeLoop (flushing : Flushing state table) (counter : Stream' (List RtcStep)) :
    ∃ final, (∃ finalTable, Flushing final finalTable ∧ finalTable.active = []) ∧
      ∀ rounds, Timetable.weight table.active < rounds →
        loop (flushRound .active) rounds (state, counter) = some final := by
  refine loop_ends
    (fun weight current => ∃ table, Flushing current.1 table ∧
      Timetable.weight table.active = weight)
    (fun final => ∃ finalTable, Flushing final finalTable ∧ finalTable.active = [])
    ?_ ⟨table, flushing, rfl⟩
  rintro _ ⟨state, counter⟩ ⟨table, flushing, rfl⟩
  have counted := flushing.counterSteps counter.head
  have headEq := counted.1.represents.active.head_eq
  cases waiting : (counter.head.foldl Timetable.rtcStep table).active with
  | nil =>
      rw [waiting] at headEq
      exact Or.inl ⟨_, flushRound_empty headEq, _, counted.1, waiting⟩
  | cons head rest =>
      rw [waiting] at headEq
      have notBehind := (List.nodup_cons.mp (waiting ▸ counted.1.represents.active.nodup)).1
      have less := Timetable.weight_deleteFirst_lt
        (counter.head.foldl Timetable.rtcStep table) notBehind
      have lighter := less.trans_le (waiting ▸ counted.2)
      exact Or.inr ⟨_, _, flushRound_first headEq, lighter, _, counted.1.deleteFirst waiting, rfl⟩

/-- Once the active list is empty, the counter stands still for the lists. -/
theorem haltedSteps (flushing : Flushing state table) (empty : table.active = [])
    (steps : List RtcStep) :
    (steps.foldl Timetable.rtcStep table).active = [] ∧
      (steps.foldl Timetable.rtcStep table).queue = table.queue := by
  induction steps generalizing state table with
  | nil => exact ⟨empty, rfl⟩
  | cons step rest inductionHypothesis =>
      have same : (table.rtcStep step).active = [] ∧
          (table.rtcStep step).queue = table.queue := by
        cases step with
        | count ticks => exact ⟨empty, rfl⟩
        | interrupt =>
            unfold Timetable.rtcStep
            dsimp only
            rw [(flushing.halted empty).1, Bool.and_false, if_neg Bool.false_ne_true]
            exact ⟨empty, rfl⟩
      have next := inductionHypothesis (flushing.rtcStep step) same.1
      exact ⟨next.1, next.2.trans same.2⟩

theorem queueLoop (flushing : Flushing state table) (empty : table.active = [])
    (counter : Stream' (List RtcStep)) :
    ∃ final, (∃ finalTable, Flushing final finalTable ∧ finalTable.active = [] ∧
        finalTable.queue = []) ∧
      ∀ rounds, table.queue.length < rounds →
        loop (flushRound .executeQueue) rounds (state, counter) = some final := by
  refine loop_ends
    (fun weight current => ∃ table, Flushing current.1 table ∧ table.active = [] ∧
      table.queue.length = weight)
    (fun final => ∃ finalTable, Flushing final finalTable ∧ finalTable.active = [] ∧
      finalTable.queue = [])
    ?_ ⟨table, flushing, empty, rfl⟩
  rintro _ ⟨state, counter⟩ ⟨table, flushing, empty, rfl⟩
  have counted := (flushing.counterSteps counter.head).1
  have halted := flushing.haltedSteps empty counter.head
  have headEq := counted.represents.queue.head_eq
  cases waiting : (counter.head.foldl Timetable.rtcStep table).queue with
  | nil =>
      rw [waiting] at headEq
      exact Or.inl ⟨_, flushRound_empty headEq, _, counted, halted.1, waiting⟩
  | cons head rest =>
      rw [waiting] at headEq
      have shorter : rest.length < table.queue.length := by
        rw [← halted.2, waiting]
        exact Nat.lt_succ_self rest.length
      exact Or.inr ⟨_, _, flushRound_first headEq, shorter, _,
        counted.deleteQueuedFirst halted.1 waiting, halted.1, rfl⟩

omit [DecidableEq User] [Fintype User] in
theorem wellFormed (flushing : Flushing state table) (empty : table.active = []) :
    table.WellFormed where
  activeNodup := flushing.represents.active.nodup
  queueNodup := flushing.represents.queue.nodup
  disjoint := flushing.disjoint
  dummyFirst := flushing.dummyFirst
  dummyNotQueued := flushing.dummyNotQueued
  dummyTime := fun first => absurd first (by simp [empty])
  running := by
    rw [(flushing.halted empty).2, empty]
    rfl
  near := fun _ first => absurd first (by simp [empty])
  loaded := fun _ first => absurd first (by simp [empty])
  counted := fun running => absurd running (by simp [(flushing.halted empty).2])

end Flushing

/-! ## Runs with flushes -/

section Flushed

variable [Fintype User] {state final : SchedulerState User} {table : Timetable User}
  {execution : Execution User}

/-- Nothing is left to expire and the counter is stopped. -/
structure Flushed (state : SchedulerState User) : Prop where
  listHead : state.listHead = none
  executeQueueHead : state.executeQueueHead = none
  isRunning : state.isRunning = false
  ovfEnable : state.rtc.ovfEnable = false

theorem Represents.flushAll (represents : Represents state table) (wellFormed : table.WellFormed)
    (counter : ListName → Stream' (List RtcStep)) :
    ∃ final, (Flushed final ∧ ∃ finalTable, Represents final finalTable ∧ finalTable.WellFormed) ∧
      ∀ rounds, 2 * Fintype.card (Timer User) < rounds →
        state.schedulerTimeoutFlushAll counter rounds = some final := by
  have stopped := Flushing.stopped represents wellFormed.toListed
  obtain ⟨between, ⟨betweenTable, flushing, empty⟩, activeReturns⟩ :=
    stopped.activeLoop (counter .active)
  obtain ⟨final, ⟨finalTable, finished, noActive, noQueued⟩, queueReturns⟩ :=
    flushing.queueLoop empty (counter .executeQueue)
  have halted := finished.halted noActive
  refine ⟨final, ⟨⟨?_, ?_, ?_, ?_⟩, finalTable, finished.represents, finished.wellFormed noActive⟩,
    ?_⟩
  · rw [finished.represents.active.head_eq, noActive, List.head?_nil]
  · rw [finished.represents.queue.head_eq, noQueued, List.head?_nil]
  · rw [finished.represents.isRunning, halted.2]
  · rw [finished.represents.rtc, halted.1]
  · intro rounds enough
    have activeFits := represents.active.length_le
    have queueFits := flushing.represents.queue.length_le
    have weightFits := Timetable.weight_le table.active
    unfold SchedulerState.schedulerTimeoutFlushAll
    dsimp only
    rw [activeReturns rounds (by show Timetable.weight table.active < rounds; omega)]
    exact queueReturns rounds (by omega)

/-- What a program can bring the driver to by the steps of a run and by flushes
that end; the counter takes any steps in between. -/
inductive Reachable : Execution User → Prop where
  | start : Reachable (Execution.initial User)
  | step {execution : Execution User} (reached : Reachable execution) (step : Step User) :
      Reachable (execution.step step)
  | flushAll {execution : Execution User} (reached : Reachable execution)
      {counter : ListName → Stream' (List RtcStep)} {rounds : Nat}
      {scheduler : SchedulerState User}
      (flushed : execution.scheduler.schedulerTimeoutFlushAll counter rounds = some scheduler) :
      Reachable { execution with scheduler := scheduler }

/-- The driver of a program holds a timetable, and only timers of the program
have callbacks. -/
structure Execution.Driven (execution : Execution User) : Prop where
  scheduler : ∃ table, Represents execution.scheduler table ∧ table.WellFormed
  calling : .schedulerDummy ∉ execution.calling

theorem schedulerTimeoutFlushAll_mono {counter : ListName → Stream' (List RtcStep)}
    {rounds more : Nat} (ended : state.schedulerTimeoutFlushAll counter rounds = some final)
    (atMost : rounds ≤ more) : state.schedulerTimeoutFlushAll counter more = some final := by
  unfold schedulerTimeoutFlushAll at ended ⊢
  obtain ⟨between, activeReturned, queueReturned⟩ := Option.bind_eq_some_iff.mp ended
  refine Option.bind_eq_some_iff.mpr ⟨between, loop_mono activeReturned atMost, ?_⟩
  exact loop_mono queueReturned atMost

namespace Execution.Driven

omit [DecidableEq User] [Fintype User] in
theorem initial : (Execution.initial User).Driven where
  scheduler := ⟨_, Represents.initial, Timetable.initial_wellFormed⟩
  calling := List.not_mem_nil

theorem create (driven : execution.Driven) {calling : List (Timer User)}
    (noDummy : .schedulerDummy ∉ calling) (id : User) (timeout : UInt32) :
    ({ execution with calling := calling }.create (.user id) timeout).Driven where
  scheduler := by
    obtain ⟨table, represents, wellFormed⟩ := driven.scheduler
    exact ⟨_, represents.schedulerTimeoutCreate wellFormed id timeout, wellFormed.create timeout⟩
  calling := noDummy

theorem perform (driven : execution.Driven) (operation : Operation User) :
    (execution.perform operation).Driven := by
  obtain ⟨table, represents, wellFormed⟩ := driven.scheduler
  cases operation with
  | create id timeout => exact driven.create driven.calling id timeout
  | delete id =>
      exact ⟨⟨_, represents.schedulerTimeoutDelete wellFormed id, wellFormed.delete (.user id)⟩,
        driven.calling⟩
  | rtc step =>
      exact ⟨⟨_, represents.rtcStep wellFormed step, wellFormed.rtcStep step⟩, driven.calling⟩

omit [Fintype User] in
theorem callNextCallback (driven : execution.Driven) : execution.callNextCallback.Driven := by
  obtain ⟨table, represents, wellFormed⟩ := driven.scheduler
  rcases Execution.callNextCallback_cases represents wellFormed.toListed with
    same | ⟨id, rest, remaining, waiting, stillRepresents, called⟩
  · rw [same]
    exact driven
  · rw [called]
    refine ⟨⟨_, stillRepresents, wellFormed.dequeue⟩, ?_⟩
    exact List.not_mem_cons_of_ne_of_not_mem nofun driven.calling

theorem callbackReturns (driven : execution.Driven) (reschedule : UInt32) :
    (execution.callbackReturns reschedule).Driven := by
  obtain ⟨calling, noDummy, same | ⟨id, same⟩⟩ :=
    Execution.callbackReturns_cases driven.calling reschedule
  · rw [same]
    exact ⟨driven.scheduler, noDummy⟩
  · rw [same]
    exact driven.create noDummy id reschedule

theorem step (driven : execution.Driven) (step : Step User) : (execution.step step).Driven := by
  cases step with
  | operation operation => exact driven.perform operation
  | callNextCallback => exact driven.callNextCallback
  | callbackReturns reschedule => exact driven.callbackReturns reschedule

theorem flushAll (driven : execution.Driven) {counter : ListName → Stream' (List RtcStep)}
    {rounds : Nat}
    (ended : execution.scheduler.schedulerTimeoutFlushAll counter rounds = some final) :
    ({ execution with scheduler := final } : Execution User).Driven where
  scheduler := by
    obtain ⟨table, represents, wellFormed⟩ := driven.scheduler
    obtain ⟨returned, ⟨_, kept⟩, returns⟩ := represents.flushAll wellFormed counter
    have enough := returns (max rounds (2 * Fintype.card (Timer User) + 1)) (by omega)
    rw [schedulerTimeoutFlushAll_mono ended (le_max_left rounds _), Option.some.injEq] at enough
    rw [enough]
    exact kept
  calling := driven.calling

theorem of_reachable (reached : Reachable execution) : execution.Driven := by
  induction reached with
  | start => exact initial
  | step _ step inductionHypothesis => exact inductionHypothesis.step step
  | flushAll _ ended inductionHypothesis => exact inductionHypothesis.flushAll ended

end Execution.Driven

/-- From every reachable state, whatever the counter does between the tests of
the loops, the flush ends within two rounds for every timer and leaves both
lists empty, the counter stopped and its interrupt disabled. -/
theorem reachable_flushAll_ends (reached : Reachable execution)
    (counter : ListName → Stream' (List RtcStep)) :
    ∃ final, (∀ rounds, 2 * Fintype.card (Timer User) < rounds →
        execution.scheduler.schedulerTimeoutFlushAll counter rounds = some final) ∧
      final.listHead = none ∧ final.executeQueueHead = none ∧ final.isRunning = false ∧
      final.rtc.ovfEnable = false := by
  obtain ⟨table, represents, wellFormed⟩ := (Execution.Driven.of_reachable reached).scheduler
  obtain ⟨final, ⟨flushed, _⟩, returns⟩ := represents.flushAll wellFormed counter
  exact ⟨final, returns, flushed.listHead, flushed.executeQueueHead, flushed.isRunning,
    flushed.ovfEnable⟩

/-- One timer has expired and two far ones wait behind the dummy; the counter
runs on between the tests of the loops. -/
theorem reachable_flushAll_ends_far :
    ∃ final, (∀ rounds, 2 * Fintype.card (Timer (Fin 3)) < rounds →
        ((((((Execution.initial (Fin 3)).step (.operation (.create 0 10))).step
          (.operation (.create 1 70000))).step (.operation (.create 2 200000))).step
          (.operation (.rtc (.count 20)))).step
          (.operation (.rtc .interrupt))).scheduler.schedulerTimeoutFlushAll
            (fun _ => Stream'.const [.count 60000, .interrupt]) rounds = some final) ∧
      final.listHead = none ∧ final.executeQueueHead = none ∧ final.isRunning = false ∧
      final.rtc.ovfEnable = false :=
  reachable_flushAll_ends (((((Reachable.start.step _).step _).step _).step _).step _)
    fun _ => Stream'.const [.count 60000, .interrupt]

end Flushed

end MicrochipDay.Scheduler
