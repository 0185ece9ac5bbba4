import Mathlib.Algebra.Group.Nat.Defs
import MicrochipDay.Scheduler.Operations

/-!
Owns the order of the active list: by absolute time, and equal times by a
relation that says which timer was created earlier. Every operation keeps the
order as long as no absolute time wraps around.
-/

namespace MicrochipDay.Scheduler.Timetable

variable {User : Type}

/-- The active list is in order, and nothing in it is due before the time base. -/
structure InOrder (table : Timetable User) (Older : Timer User → Timer User → Prop) : Prop where
  sorted : table.active.Pairwise fun first second =>
    table.absoluteTime first < table.absoluteTime second ∨
      table.absoluteTime first = table.absoluteTime second ∧ Older first second
  notBefore : ∀ timer ∈ table.active, table.timeOfLastTimeout ≤ table.absoluteTime timer

section

variable {table other : Timetable User} {Older Older' : Timer User → Timer User → Prop}

theorem InOrder.later (ordered : table.InOrder Older) {head : Timer User}
    {rest : List (Timer User)} (waiting : table.active = head :: rest) :
    ∀ timer ∈ table.active, table.absoluteTime head ≤ table.absoluteTime timer := by
  have sorted := ordered.sorted
  rw [waiting] at sorted
  intro timer member
  rw [waiting] at member
  rcases List.mem_cons.mp member with rfl | inRest
  · exact UInt32.le_refl _
  · rcases (List.pairwise_cons.mp sorted).1 timer inRest with earlier | ⟨same, _⟩
    · exact UInt32.le_of_lt earlier
    · exact same ▸ UInt32.le_refl _

theorem InOrder.sublist (ordered : table.InOrder Older)
    (active : other.active.Sublist table.active)
    (times : ∀ timer ∈ other.active, other.absoluteTime timer = table.absoluteTime timer)
    (base : other.timeOfLastTimeout = table.timeOfLastTimeout) : other.InOrder Older where
  sorted := by
    refine (ordered.sorted.sublist active).imp_of_mem ?_
    intro first second firstMember secondMember before
    rw [times first firstMember, times second secondMember]
    exact before
  notBefore := by
    intro timer member
    rw [times timer member, base]
    exact ordered.notBefore timer (active.subset member)

theorem InOrder.mono (ordered : table.InOrder Older)
    (keeps : ∀ first ∈ table.active, ∀ second ∈ table.active,
      Older first second → Older' first second) : table.InOrder Older' where
  sorted := by
    refine ordered.sorted.imp_of_mem ?_
    intro first second firstMember secondMember before
    exact before.imp id fun tie => ⟨tie.1, keeps first firstMember second secondMember tie.2⟩
  notBefore := ordered.notBefore

variable [DecidableEq User]

private theorem beyond_reach {base time : UInt32} (notBefore : base ≤ time)
    (far : time - base > 65535) : base + 65535 < time ∧ base ≤ base + 65535 := by
  have gap : 65535 < (time - base).toNat := far
  rw [UInt32.toNat_sub_of_le _ _ notBefore] at gap
  have bound := time.toNat_lt
  have sum : (base + 65535).toNat = base.toNat + 65535 := by
    rw [UInt32.toNat_add]
    exact Nat.mod_eq_of_lt (by simp; omega)
  rw [UInt32.lt_iff_toNat_lt, UInt32.le_iff_toNat_le, sum]
  omega

theorem InOrder.pushDummy (ordered : table.InOrder Older) {head : Timer User}
    {rest : List (Timer User)} (waiting : table.active = head :: rest)
    (far : table.period head > 65535) (absent : .schedulerDummy ∉ table.active) :
    table.pushDummy.InOrder Older := by
  have headMember : head ∈ table.active := waiting ▸ List.mem_cons_self
  have beyond := beyond_reach (ordered.notBefore head headMember) far
  have times : ∀ timer ∈ table.active,
      table.pushDummy.absoluteTime timer = table.absoluteTime timer := by
    intro timer member
    have different : timer ≠ .schedulerDummy := fun same => absent (same ▸ member)
    exact Function.update_of_ne different _ _
  constructor
  · show List.Pairwise _ (.schedulerDummy :: table.active)
    refine List.pairwise_cons.mpr ⟨?_, ?_⟩
    · intro timer member
      rw [pushDummy_absoluteTime_dummy, times timer member]
      exact Or.inl (UInt32.lt_of_lt_of_le beyond.1 (ordered.later waiting timer member))
    · refine ordered.sorted.imp_of_mem ?_
      intro first second firstMember secondMember before
      rw [times first firstMember, times second secondMember]
      exact before
  · intro timer member
    show table.timeOfLastTimeout ≤ _
    rcases List.mem_cons.mp member with rfl | inActive
    · rw [pushDummy_absoluteTime_dummy]
      exact beyond.2
    · rw [times timer inActive]
      exact ordered.notBefore timer inActive

omit [DecidableEq User] in
theorem InOrder.load (ordered : table.InOrder Older) (duration : UInt32) :
    (table.load duration).InOrder Older := by
  apply ordered.sublist
  · rw [load_active]
  · intro timer _
    rw [load_absoluteTime]
  · rw [load_timeOfLastTimeout]

/-- Loading the counter keeps the order; the dummy comes first. -/
theorem InOrder.rearm (ordered : table.InOrder Older) (listed : table.Listed) :
    table.rearm.InOrder Older := by
  apply rearm_cases fun result => result.InOrder Older
  · intro none
    constructor
    · show List.Pairwise _ table.active
      rw [none]
      exact List.Pairwise.nil
    · intro timer member
      exact absurd (none ▸ member : timer ∈ []) List.not_mem_nil
  · intro head _ _
    exact ordered.load _
  · intro head first far
    obtain ⟨rest, waiting⟩ := List.head?_eq_some_iff.mp first
    exact (ordered.pushDummy waiting far (listed.far_ne_dummy first far)).load _

/-! ## The operations -/

theorem InOrder.deleteQueued (ordered : table.InOrder Older) (listed : table.Listed)
    (timer : Timer User) : (table.deleteQueued timer).InOrder Older := by
  unfold Timetable.deleteQueued
  cases waiting : table.queue with
  | nil => exact ordered
  | cons head rest =>
      dsimp only
      split
      · apply InOrder.rearm
        · exact ordered.sublist (List.Sublist.refl _) (fun _ _ => rfl) rfl
        · apply listed.shrink (List.Sublist.refl _)
          rw [waiting]
          exact List.sublist_cons_self head rest
      · exact ordered.sublist (List.Sublist.refl _) (fun _ _ => rfl) rfl

theorem InOrder.delete (ordered : table.InOrder Older) (listed : table.Listed)
    (timer : Timer User) : (table.delete timer).InOrder Older := by
  unfold Timetable.delete
  cases waiting : table.active with
  | nil => exact ordered.deleteQueued listed timer
  | cons head rest =>
      have fewer : rest.Sublist table.active := waiting ▸ List.sublist_cons_self head rest
      dsimp only
      split
      · apply InOrder.rearm
        · exact ordered.sublist fewer (fun _ _ => rfl) rfl
        · exact listed.shrink fewer (List.Sublist.refl _)
      · split
        · refine ordered.sublist ?_ (fun _ _ => rfl) rfl
          rw [waiting]
          exact List.erase_sublist.cons_cons head
        · apply InOrder.deleteQueued
          · exact ordered.sublist (List.Sublist.refl _) (fun _ _ => rfl) rfl
          · exact listed.enableInterrupt true

omit [DecidableEq User] in
/-- In an ordered list, the timers behind the first one that expires later do
so too. -/
theorem InOrder.dropWhile_later (ordered : table.InOrder Older) (time : UInt32) :
    ∀ timer ∈ table.active.dropWhile (table.expiresBy time), time < table.absoluteTime timer := by
  have sorted := ordered.sorted.sublist (List.dropWhile_sublist (table.expiresBy time))
  cases later : table.active.dropWhile (table.expiresBy time) with
  | nil => exact fun timer member => absurd member List.not_mem_nil
  | cons head rest =>
      have stops : table.expiresBy time head = false := by
        have stops := List.head?_dropWhile_not (table.expiresBy time) table.active
        simpa [later] using stops
      have headLater : time < table.absoluteTime head :=
        UInt32.not_le.mp (of_decide_eq_false stops)
      rw [later] at sorted
      intro timer member
      rcases List.mem_cons.mp member with rfl | inRest
      · exact headLater
      · rcases (List.pairwise_cons.mp sorted).1 timer inRest with earlier | ⟨same, _⟩
        · exact UInt32.lt_trans headLater earlier
        · exact same ▸ headLater

section Insert

variable {id : User} {time : UInt32}

theorem InOrder.setTime (ordered : table.InOrder Older) (notActive : .user id ∉ table.active)
    (time : UInt32) : (table.setTime (.user id) time).InOrder Older := by
  refine ordered.sublist (List.Sublist.refl _) ?_ rfl
  intro timer member
  have different : timer ≠ .user id := fun same => notActive (same ▸ member)
  exact Function.update_of_ne different _ _

omit [DecidableEq User] in
/-- Everything expires later than the new timer, which comes first. -/
theorem InOrder.insertFirst (ordered : table.InOrder Older)
    (ownTime : table.absoluteTime (.user id) = time) (notBefore : table.timeOfLastTimeout ≤ time)
    (before : table.active.takeWhile (table.expiresBy time) = []) :
    { table.clearFlag with
      active := .user id :: Timetable.withoutDummy table.active }.InOrder Older := by
  have fewer := withoutDummy_sublist table.active
  have later : ∀ timer ∈ table.active, time < table.absoluteTime timer := by
    have later := ordered.dropWhile_later time
    have whole := List.takeWhile_append_dropWhile (p := table.expiresBy time) (l := table.active)
    rw [before, List.nil_append] at whole
    rwa [whole] at later
  constructor
  · refine List.pairwise_cons.mpr ⟨?_, ordered.sorted.sublist fewer⟩
    intro timer member
    show table.absoluteTime (.user id) < _ ∨ _
    rw [ownTime]
    exact Or.inl (later timer (fewer.subset member))
  · intro timer member
    rcases List.mem_cons.mp member with rfl | already
    · exact ownTime ▸ notBefore
    · exact ordered.notBefore timer (fewer.subset already)

omit [DecidableEq User] in
/-- The new timer stands behind those that expire no later. -/
theorem InOrder.insertBehind (ordered : table.InOrder Older)
    (ownTime : table.absoluteTime (.user id) = time) (notBefore : table.timeOfLastTimeout ≤ time)
    (older : ∀ timer ∈ table.active, Older timer (.user id)) (enable : Bool) :
    { table.enableInterrupt enable with
      active := table.active.takeWhile (table.expiresBy time) ++
        Timer.user id :: table.active.dropWhile (table.expiresBy time) }.InOrder Older := by
  have whole := List.takeWhile_append_dropWhile (p := table.expiresBy time) (l := table.active)
  have sorted := ordered.sorted
  rw [← whole, List.pairwise_append] at sorted
  obtain ⟨frontSorted, backSorted, across⟩ := sorted
  have member {timer : Timer User}
      (within : timer ∈ table.active.takeWhile (table.expiresBy time) ∨
        timer ∈ table.active.dropWhile (table.expiresBy time)) : timer ∈ table.active := by
    rw [← whole]
    exact List.mem_append.mpr within
  constructor
  · refine List.pairwise_append.mpr ⟨frontSorted, List.pairwise_cons.mpr ⟨?_, backSorted⟩, ?_⟩
    · intro timer inBack
      show table.absoluteTime (.user id) < _ ∨ _
      rw [ownTime]
      exact Or.inl (ordered.dropWhile_later time timer inBack)
    · intro first inFront second inRest
      rcases List.mem_cons.mp inRest with rfl | inBack
      · have passes := List.mem_takeWhile_imp inFront
        have expires : table.absoluteTime first ≤ time := of_decide_eq_true passes
        show _ < table.absoluteTime (.user id) ∨ _ = table.absoluteTime (.user id) ∧ _
        rw [ownTime]
        rcases UInt32.lt_or_eq_of_le expires with earlier | same
        · exact Or.inl earlier
        · exact Or.inr ⟨same, older first (member (Or.inl inFront))⟩
      · exact across first inFront second inBack
  · intro timer inList
    show table.timeOfLastTimeout ≤ table.absoluteTime timer
    rcases List.mem_append.mp inList with inFront | inRest
    · exact ordered.notBefore timer (member (Or.inl inFront))
    · rcases List.mem_cons.mp inRest with rfl | inBack
      · exact ownTime ▸ notBefore
      · exact ordered.notBefore timer (member (Or.inr inBack))

theorem InOrder.insert (ordered : table.InOrder Older) (wellFormed : table.WellFormed)
    (notActive : .user id ∉ table.active) (notQueued : .user id ∉ table.queue)
    (notBefore : table.timeOfLastTimeout ≤ time)
    (older : ∀ timer ∈ table.active, Older timer (.user id)) :
    (table.insert (.user id) time).InOrder Older := by
  have timed := ordered.setTime notActive time
  have ownTime : (table.setTime (.user id) time).absoluteTime (.user id) = time :=
    Function.update_self ..
  unfold Timetable.insert
  dsimp only
  split
  · rename_i before
    apply (timed.insertFirst ownTime notBefore before).rearm
    exact (wellFormed.setTime notActive time).toListed.insertFirst notActive notQueued
  · rename_i head earlier before
    rw [← before]
    exact timed.insertBehind ownTime notBefore older _

end Insert

/-- The time ahead by `timeout`, before it is cut to 32 bits. -/
def deadline (table : Timetable User) (timeout : UInt32) : Nat :=
  timeout.toNat + table.timeOfLastTimeout.toNat + table.elapsed.toNat

omit [DecidableEq User] in
theorem absolute_toNat {timeout : UInt32} (fits : table.deadline timeout < 2 ^ 32) :
    (table.absolute timeout).toNat = table.deadline timeout := by
  unfold absolute deadline at *
  rw [UInt32.toNat_add, UInt32.toNat_add]
  omega

omit [DecidableEq User] in
theorem base_le_absolute {timeout : UInt32} (fits : table.deadline timeout < 2 ^ 32) :
    table.timeOfLastTimeout ≤ table.absolute timeout := by
  rw [UInt32.le_iff_toNat_le, absolute_toNat fits]
  unfold deadline
  omega

/-- Nothing is rebased unless a time wraps around. -/
theorem create_eq_insert {id : User} {timeout : UInt32}
    (fits : ((table.delete (.user id)).enableInterrupt false).deadline timeout < 2 ^ 32) :
    table.create (.user id) timeout =
      ((table.delete (.user id)).enableInterrupt false).insert (.user id)
        (((table.delete (.user id)).enableInterrupt false).absolute timeout) := by
  unfold Timetable.create
  dsimp only
  rw [if_neg (UInt32.not_lt.mpr (base_le_absolute fits))]

/-- Unless its time wraps around, a new timer goes where it belongs. -/
theorem InOrder.create (ordered : table.InOrder Older) (wellFormed : table.WellFormed)
    {id : User} {timeout : UInt32}
    (fits : ((table.delete (.user id)).enableInterrupt false).deadline timeout < 2 ^ 32)
    (keeps : ∀ first second, first ≠ .user id → second ≠ .user id →
      Older first second → Older' first second)
    (older : ∀ timer, timer ≠ .user id → Older' timer (.user id)) :
    (table.create (.user id) timeout).InOrder Older' := by
  obtain ⟨notActive, notQueued⟩ := wellFormed.toListed.notMem_delete id
  have different : ∀ timer ∈ (table.delete (.user id)).active, timer ≠ .user id :=
    fun timer member same => notActive (same ▸ member)
  have deleted : ((table.delete (.user id)).enableInterrupt false).InOrder Older :=
    (ordered.delete wellFormed.toListed (.user id)).sublist (List.Sublist.refl _)
      (fun _ _ => rfl) rfl
  have remaining : ((table.delete (.user id)).enableInterrupt false).InOrder Older' :=
    deleted.mono fun first firstMember second secondMember =>
      keeps first second (different first firstMember) (different second secondMember)
  rw [create_eq_insert fits]
  apply remaining.insert _ notActive notQueued (base_le_absolute fits)
  · exact fun timer member => older timer (different timer member)
  · exact (wellFormed.delete (.user id)).enableInterrupt false

theorem InOrder.takeHead (ordered : table.InOrder Older) {head : Timer User}
    {rest : List (Timer User)} (waiting : table.active = head :: rest) :
    (table.takeHead head rest).InOrder Older where
  sorted := by
    have sorted := ordered.sorted
    rw [waiting] at sorted
    exact (List.pairwise_cons.mp sorted).2
  notBefore := by
    intro timer member
    exact ordered.later waiting timer (waiting ▸ List.mem_cons_of_mem head member)

theorem InOrder.expire (ordered : table.InOrder Older) (listed : table.Listed) :
    table.expire.InOrder Older := by
  unfold Timetable.expire
  cases waiting : table.active with
  | nil => exact ordered
  | cons head rest =>
      exact ((ordered.takeHead waiting).rearm (listed.takeHead waiting)).sublist
        (List.Sublist.refl _) (fun _ _ => rfl) rfl

theorem InOrder.rtcStep (ordered : table.InOrder Older) (listed : table.Listed)
    (step : SchedulerState.RtcStep) : (table.rtcStep step).InOrder Older := by
  cases step with
  | count ticks => exact ordered.sublist (List.Sublist.refl _) (fun _ _ => rfl) rfl
  | interrupt =>
      unfold Timetable.rtcStep
      dsimp only
      split
      · exact ordered.expire listed
      · exact ordered

end

end MicrochipDay.Scheduler.Timetable
