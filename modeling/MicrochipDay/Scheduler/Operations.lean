import MicrochipDay.Scheduler.Timetable

/-!
Owns what the operations do to a timetable that meets the invariant: each of
them keeps it, and which timers are in the two lists afterwards.
-/

namespace MicrochipDay.Scheduler.Timetable

variable {User : Type} [DecidableEq User] {table : Timetable User} {timer : Timer User}

/-! ## Deleting -/

theorem deleteQueued_queue : (table.deleteQueued timer).queue = table.queue.erase timer := by
  unfold deleteQueued
  cases waiting : table.queue with
  | nil => simp [waiting]
  | cons head rest =>
      by_cases found : timer = head
      · simp [found]
      · simp [found, Ne.symm found]

theorem mem_deleteQueued_active {id : User} :
    .user id ∈ (table.deleteQueued timer).active ↔ .user id ∈ table.active := by
  unfold deleteQueued
  cases table.queue with
  | nil => rfl
  | cons head rest =>
      dsimp only
      split
      · simp
      · rfl

theorem WellFormed.deleteQueued (wellFormed : table.WellFormed) :
    (table.deleteQueued timer).WellFormed := by
  unfold Timetable.deleteQueued
  cases waiting : table.queue with
  | nil => exact wellFormed
  | cons head rest =>
      dsimp only
      split
      · apply Listed.rearm
        apply wellFormed.toListed.shrink (List.Sublist.refl _)
        rw [waiting]
        exact List.sublist_cons_self head rest
      · apply wellFormed.shrink (List.Sublist.refl _) _ rfl true
        rw [waiting]
        exact List.erase_sublist.cons_cons head

theorem delete_queue (listed : table.Listed) :
    (table.delete timer).queue = table.queue.erase timer := by
  unfold delete
  cases waiting : table.active with
  | nil => exact deleteQueued_queue
  | cons head rest =>
      have notQueued : timer ∈ head :: rest → table.queue.erase timer = table.queue := by
        intro member
        apply List.erase_of_not_mem
        exact fun inQueue => listed.disjoint (waiting ▸ member) inQueue
      dsimp only
      split
      · rename_i found
        rw [rearm_queue, notQueued (found ▸ List.mem_cons_self)]
      · split
        · rename_i found
          exact (notQueued (List.mem_cons_of_mem head found)).symm
        · exact deleteQueued_queue

theorem mem_delete_active (listed : table.Listed) {id : User} :
    .user id ∈ (table.delete timer).active ↔ .user id ≠ timer ∧ .user id ∈ table.active := by
  unfold delete
  have nodup := listed.activeNodup
  cases waiting : table.active with
  | nil => simp [mem_deleteQueued_active, waiting]
  | cons head rest =>
      rw [waiting] at nodup
      have different : ∀ other, other ∈ rest → other ≠ head := fun other member same =>
        (List.nodup_cons.mp nodup).1 (same ▸ member)
      dsimp only
      split
      · rename_i found
        subst found
        simp only [mem_rearm_active, List.mem_cons]
        exact ⟨fun member => ⟨different _ member, Or.inr member⟩,
          fun both => both.2.resolve_left both.1⟩
      · rename_i notHead
        split
        · show Timer.user id ∈ head :: rest.erase timer ↔ _
          rw [List.mem_cons, (List.nodup_cons.mp nodup).2.mem_erase_iff, List.mem_cons]
          constructor
          · rintro (rfl | ⟨notTimer, member⟩)
            · exact ⟨fun same => notHead same.symm, Or.inl rfl⟩
            · exact ⟨notTimer, Or.inr member⟩
          · rintro ⟨notTimer, same | member⟩
            · exact Or.inl same
            · exact Or.inr ⟨notTimer, member⟩
        · rename_i notInRest
          rw [mem_deleteQueued_active]
          show Timer.user id ∈ table.active ↔ _
          rw [waiting]
          constructor
          · intro member
            refine ⟨fun same => ?_, member⟩
            rcases List.mem_cons.mp (same ▸ member) with isHead | inRest
            · exact notHead isHead
            · exact notInRest inRest
          · exact fun both => both.2

theorem WellFormed.delete (wellFormed : table.WellFormed) (timer : Timer User) :
    (table.delete timer).WellFormed := by
  unfold Timetable.delete
  cases waiting : table.active with
  | nil => exact wellFormed.deleteQueued
  | cons head rest =>
      dsimp only
      split
      · apply Listed.rearm
        refine wellFormed.toListed.shrink ?_ (List.Sublist.refl _)
        rw [waiting]
        exact List.sublist_cons_self head rest
      · split
        · apply wellFormed.shrink _ (List.Sublist.refl _) _ true
          · rw [waiting]
            exact List.erase_sublist.cons_cons head
          · rw [waiting]
            rfl
        · exact (wellFormed.enableInterrupt true).deleteQueued

/-! ## Creating -/

omit [DecidableEq User] in
/-- Times may change together with the time base, as long as no listed timer
comes nearer or goes further away. -/
theorem WellFormed.retime (wellFormed : table.WellFormed) {times : Timer User → UInt32}
    {base : UInt32}
    (samePeriod : ∀ other ∈ table.active, times other - base = table.period other) :
    { table with absoluteTime := times, timeOfLastTimeout := base }.WellFormed where
  activeNodup := wellFormed.activeNodup
  queueNodup := wellFormed.queueNodup
  disjoint := wellFormed.disjoint
  dummyFirst := wellFormed.dummyFirst
  dummyNotQueued := wellFormed.dummyNotQueued
  dummyTime := by
    intro first
    exact (samePeriod _ (List.mem_of_mem_head? first)).trans (wellFormed.dummyTime first)
  running := wellFormed.running
  near := by
    intro head first
    show times head - base ≤ 65535
    rw [samePeriod head (List.mem_of_mem_head? first)]
    exact wellFormed.near head first
  loaded := by
    intro head first
    show table.lastTimerLoad = 65535 - (times head - base)
    rw [samePeriod head (List.mem_of_mem_head? first)]
    exact wellFormed.loaded head first
  counted := wellFormed.counted

theorem WellFormed.setTime (wellFormed : table.WellFormed) (fresh : timer ∉ table.active)
    (time : UInt32) : (table.setTime timer time).WellFormed := by
  apply wellFormed.retime
  intro other member
  have different : other ≠ timer := fun same => fresh (same ▸ member)
  rw [Function.update_of_ne different]
  rfl

theorem WellFormed.rebase (wellFormed : table.WellFormed) : table.rebase.WellFormed := by
  apply wellFormed.retime
  intro other member
  simp only [member, if_true, period]
  grind

omit [DecidableEq User] in
/-- A new first timer takes the place of the dummy. -/
theorem Listed.insertFirst (listed : table.Listed) {id : User}
    (notActive : .user id ∉ table.active) (notQueued : .user id ∉ table.queue) :
    { table.clearFlag with active := .user id :: withoutDummy table.active }.Listed where
  activeNodup := by
    have sublist := withoutDummy_sublist table.active
    exact List.nodup_cons.mpr
      ⟨fun member => notActive (sublist.subset member), listed.activeNodup.sublist sublist⟩
  queueNodup := listed.queueNodup
  disjoint := by
    refine List.disjoint_cons_left.mpr ⟨notQueued, ?_⟩
    exact fun _ member => listed.disjoint ((withoutDummy_sublist table.active).subset member)
  dummyFirst := dummy_notMem_withoutDummy listed.dummyFirst
  dummyNotQueued := listed.dummyNotQueued
  dummyTime := fun first => absurd first (by simp)

omit [DecidableEq User] in
/-- A timer behind the first one changes nothing for the counter. -/
theorem WellFormed.insertBehind (wellFormed : table.WellFormed) {id : User}
    (notActive : .user id ∉ table.active) (notQueued : .user id ∉ table.queue)
    {first : Timer User} {earlier later : List (Timer User)}
    (split : table.active = first :: earlier ++ later) (enable : Bool) :
    { table.enableInterrupt enable with
      active := first :: earlier ++ Timer.user id :: later }.WellFormed := by
  have inserted :
      (first :: earlier ++ Timer.user id :: later).Perm (Timer.user id :: table.active) :=
    split ▸ List.perm_middle
  constructor
  case toListed =>
    constructor
    case activeNodup =>
      exact inserted.nodup_iff.mpr (List.nodup_cons.mpr ⟨notActive, wellFormed.activeNodup⟩)
    case queueNodup => exact wellFormed.queueNodup
    case disjoint =>
      intro other member
      rcases List.mem_cons.mp (inserted.subset member) with rfl | already
      · exact notQueued
      · exact wellFormed.disjoint already
    case dummyFirst =>
      have dummyFirst := wellFormed.dummyFirst
      rw [split] at dummyFirst
      simpa using dummyFirst
    case dummyNotQueued => exact wellFormed.dummyNotQueued
    case dummyTime =>
      intro dummyFirst
      exact wellFormed.dummyTime (split ▸ dummyFirst)
  case running =>
    show table.isRunning = !(first :: earlier ++ .user id :: later).isEmpty
    rw [wellFormed.running, split]
    rfl
  case near => exact fun head isFirst => wellFormed.near head (split ▸ isFirst)
  case loaded => exact fun head isFirst => wellFormed.loaded head (split ▸ isFirst)
  case counted => exact wellFormed.counted

section Insert

variable {id : User} (time : UInt32)

/-- How `insert` finds the timetable: every timer expires later, or the first
one does not. -/
theorem insert_cases (Result : Timetable User → Prop)
    (first : Result { (table.setTime (.user id) time).clearFlag with
      active := .user id :: withoutDummy table.active }.rearm)
    (behind : ∀ head earlier later, table.active = head :: earlier ++ later →
      Result { (table.setTime (.user id) time).enableInterrupt
          (table.isRunning || table.rtc.ovfEnable) with
        active := head :: earlier ++ Timer.user id :: later }) :
    Result (table.insert (.user id) time) := by
  unfold insert
  dsimp only
  split
  · exact first
  · rename_i head earlier before
    apply behind head earlier
    rw [← before]
    exact List.takeWhile_append_dropWhile.symm

theorem WellFormed.insert (wellFormed : table.WellFormed) (notActive : .user id ∉ table.active)
    (notQueued : .user id ∉ table.queue) : (table.insert (.user id) time).WellFormed := by
  have timed := wellFormed.setTime notActive time
  apply insert_cases time WellFormed
  · exact (timed.toListed.insertFirst notActive notQueued).rearm
  · intro head earlier later split
    exact timed.insertBehind notActive notQueued split _

@[simp] theorem insert_queue : (table.insert (.user id) time).queue = table.queue := by
  apply insert_cases time fun result => result.queue = table.queue
  · rw [rearm_queue]
    rfl
  · intro _ _ _ _
    rfl

@[simp] theorem mem_insert_active {other : User} :
    .user other ∈ (table.insert (.user id) time).active ↔
      other = id ∨ .user other ∈ table.active := by
  apply insert_cases time fun result =>
    .user other ∈ result.active ↔ other = id ∨ .user other ∈ table.active
  · rw [mem_rearm_active]
    simp [mem_withoutDummy]
  · intro head earlier later split
    rw [split]
    simp only [List.cons_append, List.mem_cons, List.mem_append, Timer.user.injEq]
    grind

end Insert

section Create

variable {id : User} (timeout : UInt32)

/-- A deleted timer is in neither list. -/
theorem Listed.notMem_delete (listed : table.Listed) (id : User) :
    .user id ∉ (table.delete (.user id)).active ∧
      .user id ∉ (table.delete (.user id)).queue := by
  rw [mem_delete_active listed, delete_queue listed]
  exact ⟨fun both => both.1 rfl, listed.queueNodup.not_mem_erase⟩

theorem WellFormed.create (wellFormed : table.WellFormed) :
    (table.create (.user id) timeout).WellFormed := by
  have deleted := (wellFormed.delete (.user id)).enableInterrupt false
  obtain ⟨notActive, notQueued⟩ := wellFormed.toListed.notMem_delete id
  unfold Timetable.create
  dsimp only
  split
  · exact deleted.rebase.insert _ notActive notQueued
  · exact deleted.insert _ notActive notQueued

theorem create_queue (listed : table.Listed) :
    (table.create (.user id) timeout).queue = table.queue.erase (.user id) := by
  rw [← delete_queue listed]
  unfold create
  dsimp only
  split
  · rw [insert_queue]
    rfl
  · rw [insert_queue]
    rfl

theorem mem_create_active (listed : table.Listed) {other : User} :
    .user other ∈ (table.create (.user id) timeout).active ↔
      other = id ∨ .user other ∈ table.active := by
  have deleted : .user other ∈ (table.delete (.user id)).active ↔
      other ≠ id ∧ .user other ∈ table.active := by
    rw [mem_delete_active listed]
    simp
  have inserted : .user other ∈ (table.create (.user id) timeout).active ↔
      other = id ∨ .user other ∈ (table.delete (.user id)).active := by
    unfold create
    dsimp only
    split
    · exact mem_insert_active _
    · exact mem_insert_active _
  rw [inserted, deleted]
  tauto

end Create

/-! ## Expiry -/

omit [DecidableEq User] in
theorem load_clearFlag (duration : UInt32) :
    (table.load duration).clearFlag = table.clearFlag.load duration := rfl

/-- The interrupt handler clears the flag after it has loaded the counter; it
might as well have done so before. -/
theorem rearm_clearFlag : table.rearm.clearFlag = table.clearFlag.rearm := by
  cases first : table.active.head? with
  | none =>
      have none := List.head?_eq_none_iff.mp first
      have noneCleared : table.clearFlag.active = [] := none
      rw [rearm_of_nil none, rearm_of_nil noneCleared]
      rfl
  | some head =>
      have firstCleared : table.clearFlag.active.head? = some head := first
      by_cases near : table.period head ≤ 65535
      · have nearCleared : table.clearFlag.period head ≤ 65535 := near
        rw [rearm_of_near first near, rearm_of_near firstCleared nearCleared]
        exact load_clearFlag _
      · have far := UInt32.not_le.mp near
        have farCleared : table.clearFlag.period head > 65535 := far
        rw [rearm_of_far first far, rearm_of_far firstCleared farCleared]
        exact load_clearFlag _

theorem mem_enqueue {queue : List (Timer User)} {other : Timer User} :
    other ∈ enqueue queue timer ↔ other ∈ queue ∨ timer ≠ .schedulerDummy ∧ other = timer := by
  unfold enqueue
  split
  · rename_i isDummy
    simp [isDummy]
  · rename_i notDummy
    simp [notDummy]

theorem enqueue_nodup {queue : List (Timer User)} (nodup : queue.Nodup) (fresh : timer ∉ queue) :
    (enqueue queue timer).Nodup := by
  unfold enqueue
  split
  · exact nodup
  · exact nodup.append (List.nodup_singleton timer) (by simpa using fresh)

theorem Listed.takeHead (listed : table.Listed) {head : Timer User} {rest : List (Timer User)}
    (waiting : table.active = head :: rest) : (table.takeHead head rest).Listed := by
  have nodup := List.nodup_cons.mp (waiting ▸ listed.activeNodup)
  have disjoint := List.disjoint_cons_left.mp (waiting ▸ listed.disjoint)
  have dummyFirst : Timer.schedulerDummy ∉ rest := by
    have dummyFirst := listed.dummyFirst
    rwa [waiting] at dummyFirst
  constructor
  case activeNodup => exact nodup.2
  case queueNodup => exact enqueue_nodup listed.queueNodup disjoint.1
  case disjoint =>
    intro other inRest inQueue
    rcases mem_enqueue.mp inQueue with already | ⟨_, isHead⟩
    · exact disjoint.2 inRest already
    · exact nodup.1 (isHead ▸ inRest)
  case dummyFirst => exact fun member => dummyFirst (List.mem_of_mem_tail member)
  case dummyNotQueued =>
    intro inQueue
    rcases mem_enqueue.mp inQueue with already | ⟨notDummy, isHead⟩
    · exact listed.dummyNotQueued already
    · exact notDummy isHead.symm
  case dummyTime =>
    intro first
    exact absurd (List.mem_of_mem_head? first) dummyFirst

theorem WellFormed.expire (wellFormed : table.WellFormed) : table.expire.WellFormed := by
  unfold Timetable.expire
  cases waiting : table.active with
  | nil => exact wellFormed
  | cons head rest =>
      have taken := wellFormed.toListed.takeHead waiting
      dsimp only
      rw [rearm_clearFlag]
      apply Listed.rearm
      exact taken.sublist (List.Sublist.refl _) (List.Sublist.refl _) rfl rfl

theorem waits_expire {id : User} : table.expire.Waits id ↔ table.Waits id := by
  unfold Waits expire
  cases waiting : table.active with
  | nil => simp [waiting]
  | cons head rest =>
      dsimp only
      rw [rearm_clearFlag, mem_rearm_active, rearm_queue]
      show .user id ∈ rest ∨ .user id ∈ enqueue table.queue head ↔ _
      rw [mem_enqueue, List.mem_cons]
      cases head with
      | schedulerDummy => simp
      | user other => simp; tauto

omit [DecidableEq User] in
theorem WellFormed.dequeue (wellFormed : table.WellFormed) : table.dequeue.WellFormed :=
  wellFormed.shrink (List.Sublist.refl _) (List.tail_sublist table.queue) rfl table.rtc.ovfEnable

omit [DecidableEq User] in
theorem WellFormed.count (wellFormed : table.WellFormed) (ticks : UInt16) :
    (table.count ticks).WellFormed where
  toListed := wellFormed.toListed.sublist (List.Sublist.refl _) (List.Sublist.refl _) rfl rfl
  running := wellFormed.running
  near := wellFormed.near
  loaded := wellFormed.loaded
  counted := by
    intro running noOverflow
    simp only [Timetable.count, Bool.or_eq_false_iff, decide_eq_false_iff_not,
      not_le] at noOverflow
    have counted := wellFormed.counted running noOverflow.1
    show table.lastTimerLoad ≤ (table.rtc.cnt + ticks).toUInt32
    rw [UInt32.le_iff_toNat_le] at counted ⊢
    rw [UInt16.toNat_toUInt32] at counted ⊢
    rw [UInt16.toNat_add]
    omega

theorem WellFormed.rtcStep (wellFormed : table.WellFormed) (step : SchedulerState.RtcStep) :
    (table.rtcStep step).WellFormed := by
  cases step with
  | count ticks => exact wellFormed.count ticks
  | interrupt =>
      unfold Timetable.rtcStep
      dsimp only
      split
      · exact wellFormed.expire
      · exact wellFormed

theorem waits_rtcStep {id : User} (step : SchedulerState.RtcStep) :
    (table.rtcStep step).Waits id ↔ table.Waits id := by
  cases step with
  | count ticks => rfl
  | interrupt =>
      unfold rtcStep
      dsimp only
      split
      · exact waits_expire
      · rfl

/-! ## Which timers wait -/

theorem waits_delete (listed : table.Listed) {id other : User} :
    (table.delete (.user id)).Waits other ↔ other ≠ id ∧ table.Waits other := by
  unfold Waits
  rw [mem_delete_active listed, delete_queue listed, listed.queueNodup.mem_erase_iff]
  simp only [ne_eq, Timer.user.injEq]
  tauto

theorem waits_create (listed : table.Listed) {id other : User} (timeout : UInt32) :
    (table.create (.user id) timeout).Waits other ↔ other = id ∨ table.Waits other := by
  unfold Waits
  rw [mem_create_active timeout listed, create_queue timeout listed,
    listed.queueNodup.mem_erase_iff]
  simp only [ne_eq, Timer.user.injEq]
  tauto

omit [DecidableEq User] in
theorem waits_dequeue (listed : table.Listed) {id other : User} {rest : List (Timer User)}
    (waiting : table.queue = .user id :: rest) :
    table.dequeue.Waits other ↔ other ≠ id ∧ table.Waits other := by
  have nodup := List.nodup_cons.mp (waiting ▸ listed.queueNodup)
  have notActive : .user id ∉ table.active := fun member =>
    listed.disjoint member (waiting ▸ List.mem_cons_self)
  unfold Waits dequeue
  rw [waiting, List.tail_cons]
  by_cases same : other = id
  · subst same
    simp [nodup.1, notActive]
  · simp [same]

end MicrochipDay.Scheduler.Timetable
