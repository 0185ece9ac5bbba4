import MicrochipDay.Library.RingStorage
import MicrochipDay.Usart.Transmit

/-!
Owns that the receive ring of the debug UART loses and reorders nothing within its 63 cells:
wherever the interrupt falls between the statements of `USART_0_read`, the calls return the
bytes that arrived while fewer than 63 were unread.

A read moves the tail before it counts and before it loads its byte. The byte it still has to
load is in the cell at the tail, which the interrupt never writes.
-/

namespace MicrochipDay.Usart

open MicrochipDay.Library

theorem rxIndex_toNat (index : UInt8) :
    ((index + 1) &&& usart0RxBufferMask).toNat = (index.toNat + 1) % 64 :=
  @nextIndex_toNat _ 6 (by decide) (by decide) index

/-! ## The invariant -/

namespace RxRing

def cell (ring : RxRing) (index : Nat) : UInt8 := ring.rxbuf.getD index 0

/-- How far the count is ahead of the tail. -/
def uncounted (ring : RxRing) : Nat :=
  match ring.read with
  | .countElement _ => 1
  | _ => 0

/-- The byte that a call has taken and not returned yet. -/
def owed (ring : RxRing) : List UInt8 :=
  match ring.read with
  | .countElement tmptail => [ring.cell tmptail.toNat]
  | .returnData tmptail => [ring.cell tmptail.toNat]
  | _ => []

/-- What is known at each point of a call when `count` bytes are unread. -/
def AtPoint (ring : RxRing) (count : Nat) : Prop :=
  match ring.read with
  | .idle => True
  | .waitForData => True
  | .computeIndex => 0 < count
  | .storeIndex tmptail => 0 < count ∧ tmptail.toNat = (ring.rxTail.toNat + 1) % 64
  | .countElement tmptail => tmptail = ring.rxTail
  | .returnData tmptail => tmptail = ring.rxTail

end RxRing

structure RxRun.Holds (run : RxRun) : Prop where
  storage : run.ring.rxbuf.length = 64
  tail : run.ring.rxTail.toNat < 64
  head : run.ring.rxHead.toNat = (run.ring.rxTail.toNat + run.unread.length) % 64
  room : run.unread.length ≤ 63
  cells : RingStorage.window run.ring.cell 64 (run.ring.rxTail.toNat + 1) run.unread.length =
    run.unread
  count : run.ring.rxElements.toNat = run.unread.length + run.ring.uncounted
  taken : run.taken ≤ run.kept.length
  returns : run.returned ++ run.ring.owed = run.kept.take run.taken
  atPoint : run.ring.AtPoint run.unread.length

namespace RxRun.Holds

variable {run : RxRun}

theorem start : RxRun.start.Holds where
  storage := rfl
  tail := by decide
  head := rfl
  room := by decide
  cells := rfl
  count := rfl
  taken := Nat.le_refl 0
  returns := rfl
  atPoint := trivial

/-! ## Statements of a call -/

/-- The calls and the statements before the tail moves change no variable of the ring. -/
theorem atRead (holds : run.Holds) (point : ReadAt) (count : run.ring.uncounted = 0)
    (owed : run.ring.owed = []) (nextCount : { run.ring with read := point }.uncounted = 0)
    (nextOwed : { run.ring with read := point }.owed = [])
    (atPoint : { run.ring with read := point }.AtPoint run.unread.length) :
    RxRun.Holds ⟨{ run.ring with read := point }, run.kept, run.taken, run.returned⟩ where
  storage := holds.storage
  tail := holds.tail
  head := holds.head
  room := holds.room
  cells := holds.cells
  count := by
    rw [nextCount, ← count]
    exact holds.count
  taken := holds.taken
  returns := by
    rw [nextOwed, ← owed]
    exact holds.returns
  atPoint := atPoint

theorem call (holds : run.Holds) : (run.step .call).Holds := by
  rw [RxRun.step]
  by_cases free : run.ring.read = .idle
  · rw [if_pos free]
    have count : run.ring.uncounted = 0 := by rw [RxRing.uncounted, free]
    have owed : run.ring.owed = [] := by rw [RxRing.owed, free]
    exact holds.atRead .waitForData count owed rfl rfl trivial
  · rw [if_neg free]
    exact holds

/-- A byte that is unread is the next one to be taken. -/
theorem take_next {kept rest : List UInt8} {taken : Nat} {first : UInt8}
    (unread : kept.drop taken = first :: rest) :
    kept.take (taken + 1) = kept.take taken ++ [first] ∧ kept.drop (taken + 1) = rest := by
  have next : kept[taken]? = some first := by
    rw [← List.head?_drop, unread, List.head?_cons]
  constructor
  · rw [List.take_add_one, next, Option.toList_some]
  · rw [← List.drop_drop, unread, List.drop_one, List.tail_cons]

/-- The byte behind the tail is the first unread one. -/
theorem first_unread (holds : run.Holds) (some : 0 < run.unread.length) :
    ∃ rest, run.unread =
        run.ring.cell ((run.ring.rxTail.toNat + 1) % 64) :: rest ∧
      rest = RingStorage.window run.ring.cell 64 (run.ring.rxTail.toNat + 1 + 1)
        (run.unread.length - 1) := by
  have cells := holds.cells
  have count : run.unread.length = run.unread.length - 1 + 1 := by omega
  rw [count, RingStorage.window_succ_front] at cells
  exact ⟨_, cells.symm, rfl⟩

/-- Moving the tail takes the first unread byte, which the call has yet to load. -/
theorem storeIndex (holds : run.Holds) {tmptail : UInt8}
    (point : run.ring.read = .storeIndex tmptail) : (run.step .statement).Holds := by
  have count := holds.count
  have returns := holds.returns
  have atPoint := holds.atPoint
  have head := holds.head
  have room := holds.room
  rw [RxRing.uncounted, point] at count
  rw [RxRing.owed, point, List.append_nil] at returns
  rw [RxRing.AtPoint, point] at atPoint
  obtain ⟨some, index⟩ := atPoint
  obtain ⟨rest, unread, walked⟩ := holds.first_unread some
  obtain ⟨takes, drops⟩ := take_next unread
  have fewer : run.unread.length = rest.length + 1 := by rw [unread, List.length_cons]
  have whole : run.unread.length = run.kept.length - run.taken := List.length_drop
  have moved : run.step .statement =
      ⟨{ run.ring with rxTail := tmptail, read := .countElement tmptail }, run.kept,
        run.taken + 1, run.returned⟩ := by
    unfold RxRun.step RxRing.usart0Read
    rw [point]
    exact congrArg (RxRun.mk _ _ _) (List.append_nil run.returned)
  rw [moved]
  constructor
  case storage => exact holds.storage
  case tail =>
    show tmptail.toNat < 64
    omega
  case head =>
    show run.ring.rxHead.toNat =
      (tmptail.toNat + (run.kept.drop (run.taken + 1)).length) % 64
    rw [drops]
    omega
  case room =>
    show (run.kept.drop (run.taken + 1)).length ≤ 63
    rw [drops]
    omega
  case cells =>
    show RingStorage.window run.ring.cell 64 (tmptail.toNat + 1)
      (run.kept.drop (run.taken + 1)).length = run.kept.drop (run.taken + 1)
    rw [drops, ← RingStorage.window_mod_first, index, Nat.mod_add_mod,
      RingStorage.window_mod_first]
    rw [fewer, Nat.add_sub_cancel] at walked
    exact walked.symm
  case count =>
    show run.ring.rxElements.toNat = (run.kept.drop (run.taken + 1)).length + 1
    rw [drops, ← fewer]
    exact count
  case taken =>
    show run.taken + 1 ≤ run.kept.length
    omega
  case returns =>
    show run.returned ++ [run.ring.cell tmptail.toNat] = run.kept.take (run.taken + 1)
    rw [takes, returns, index]
  case atPoint => rfl

theorem countElement (holds : run.Holds) {tmptail : UInt8}
    (point : run.ring.read = .countElement tmptail) : (run.step .statement).Holds := by
  have count := holds.count
  have returns := holds.returns
  have atPoint := holds.atPoint
  rw [RxRing.uncounted, point] at count
  rw [RxRing.owed, point] at returns
  rw [RxRing.AtPoint, point] at atPoint
  have occupied : run.ring.rxElements ≠ 0 := by
    rintro none
    rw [none] at count
    exact absurd count (Nat.succ_ne_zero _).symm
  have fewer := count_pred occupied
  have counted : run.step .statement =
      ⟨{ run.ring with rxElements := run.ring.rxElements - 1, read := .returnData tmptail },
        run.kept, run.taken, run.returned⟩ := by
    unfold RxRun.step RxRing.usart0Read
    rw [point]
    exact congrArg (RxRun.mk _ _ _) (List.append_nil run.returned)
  rw [counted]
  constructor
  case storage => exact holds.storage
  case tail => exact holds.tail
  case head => exact holds.head
  case room => exact holds.room
  case cells => exact holds.cells
  case count =>
    show (run.ring.rxElements - 1).toNat = run.unread.length
    dsimp only at count
    omega
  case taken => exact holds.taken
  case returns => exact returns
  case atPoint => exact atPoint

theorem returnData (holds : run.Holds) {tmptail : UInt8}
    (point : run.ring.read = .returnData tmptail) : (run.step .statement).Holds := by
  have count := holds.count
  have returns := holds.returns
  rw [RxRing.uncounted, point] at count
  rw [RxRing.owed, point] at returns
  have returned : run.step .statement =
      ⟨{ run.ring with read := .idle }, run.kept, run.taken,
        run.returned ++ [run.ring.cell tmptail.toNat]⟩ := by
    unfold RxRun.step RxRing.usart0Read
    rw [point]
    rfl
  rw [returned]
  constructor
  case storage => exact holds.storage
  case tail => exact holds.tail
  case head => exact holds.head
  case room => exact holds.room
  case cells => exact holds.cells
  case count => exact count
  case taken => exact holds.taken
  case returns => exact (List.append_nil _).trans returns
  case atPoint => trivial

theorem waitForData (holds : run.Holds) (point : run.ring.read = .waitForData) :
    (run.step .statement).Holds := by
  have count : run.ring.uncounted = 0 := by rw [RxRing.uncounted, point]
  have owed : run.ring.owed = [] := by rw [RxRing.owed, point]
  unfold RxRun.step RxRing.usart0Read
  rw [point]
  dsimp only
  by_cases none : run.ring.rxElements = 0
  · rw [if_pos none]
    have waits : RxRun.mk run.ring run.kept run.taken (run.returned ++ []) = run := by
      rw [List.append_nil]
    exact waits.symm ▸ holds
  · rw [if_neg none]
    have some : 0 < run.unread.length := by
      have elements := holds.count
      rw [count, Nat.add_zero] at elements
      rw [← elements]
      exact Nat.pos_of_ne_zero fun zero => none (UInt8.toNat_inj.mp zero)
    have next := holds.atRead .computeIndex count owed rfl rfl some
    exact (List.append_nil run.returned).symm ▸ next

theorem computeIndex (holds : run.Holds) (point : run.ring.read = .computeIndex) :
    (run.step .statement).Holds := by
  have count : run.ring.uncounted = 0 := by rw [RxRing.uncounted, point]
  have owed : run.ring.owed = [] := by rw [RxRing.owed, point]
  have some := holds.atPoint
  rw [RxRing.AtPoint, point] at some
  unfold RxRun.step RxRing.usart0Read
  rw [point]
  dsimp only
  have next := holds.atRead
    (.storeIndex ((run.ring.rxTail + 1) &&& usart0RxBufferMask)) count owed rfl rfl
    ⟨some, rxIndex_toNat run.ring.rxTail⟩
  exact (List.append_nil run.returned).symm ▸ next

theorem statement (holds : run.Holds) : (run.step .statement).Holds := by
  cases point : run.ring.read with
  | idle =>
      unfold RxRun.step RxRing.usart0Read
      rw [point]
      dsimp only
      have rests : RxRun.mk run.ring run.kept run.taken (run.returned ++ []) = run := by
        rw [List.append_nil]
      exact rests.symm ▸ holds
  | waitForData => exact holds.waitForData point
  | computeIndex => exact holds.computeIndex point
  | storeIndex tmptail => exact holds.storeIndex point
  | countElement tmptail => exact holds.countElement point
  | returnData tmptail => exact holds.returnData point

/-! ## The interrupt -/

/-- The interrupt finds the ring full exactly when 63 bytes are unread. -/
theorem full_iff (holds : run.Holds) :
    (run.ring.rxHead + 1) &&& usart0RxBufferMask = run.ring.rxTail ↔ run.unread.length = 63 := by
  have next := rxIndex_toNat run.ring.rxHead
  have head := holds.head
  have tail := holds.tail
  have room := holds.room
  rw [← UInt8.toNat_inj, next]
  omega

/-- A byte that is received leaves the byte a call has yet to load alone. -/
theorem owed_store {ring : RxRing} {count : Nat} {tmphead : UInt8} (other : tmphead ≠ ring.rxTail)
    (atPoint : ring.AtPoint count) (data : UInt8) :
    { ring with
      rxHead := tmphead
      rxbuf := ring.rxbuf.set tmphead.toNat data
      rxElements := ring.rxElements + 1 }.owed = ring.owed := by
  have kept : (ring.rxbuf.set tmphead.toNat data).getD ring.rxTail.toNat 0 =
      ring.rxbuf.getD ring.rxTail.toNat 0 := by
    have elsewhere : ring.rxTail.toNat ≠ tmphead.toNat := fun same =>
      other (UInt8.toNat_inj.mp same.symm)
    exact RingStorage.getD_set_ne elsewhere ring.rxbuf data 0
  unfold RxRing.owed
  unfold RxRing.AtPoint at atPoint
  cases point : ring.read with
  | countElement tmptail =>
      rw [point] at atPoint
      dsimp only at atPoint
      subst atPoint
      exact congrArg (fun byte => [byte]) kept
  | returnData tmptail =>
      rw [point] at atPoint
      dsimp only at atPoint
      subst atPoint
      exact congrArg (fun byte => [byte]) kept
  | idle => rfl
  | waitForData => rfl
  | computeIndex => rfl
  | storeIndex tmptail => rfl

theorem uncounted_le (ring : RxRing) : ring.uncounted ≤ 1 := by
  unfold RxRing.uncounted
  split
  · exact Nat.le_refl 1
  · exact Nat.zero_le 1

theorem atPoint_more {ring : RxRing} {count : Nat} (atPoint : ring.AtPoint count) :
    ring.AtPoint (count + 1) := by
  unfold RxRing.AtPoint at atPoint ⊢
  cases point : ring.read with
  | idle => trivial
  | waitForData => trivial
  | computeIndex => exact Nat.succ_pos count
  | storeIndex tmptail =>
      rw [point] at atPoint
      exact ⟨Nat.succ_pos count, atPoint.2⟩
  | countElement tmptail =>
      rw [point] at atPoint
      exact atPoint
  | returnData tmptail =>
      rw [point] at atPoint
      exact atPoint

/-- The ring after a byte was stored behind the head. -/
def storeByte (ring : RxRing) (data : UInt8) : RxRing :=
  { ring with
    rxHead := (ring.rxHead + 1) &&& usart0RxBufferMask
    rxbuf := ring.rxbuf.set ((ring.rxHead + 1) &&& usart0RxBufferMask).toNat data
    rxElements := ring.rxElements + 1 }

/-- The bytes that wait after one was stored in the next cell. -/
theorem storeByte_cells (holds : run.Holds) (free : run.unread.length < 63) (data : UInt8) :
    RingStorage.window (storeByte run.ring data).cell 64 (run.ring.rxTail.toNat + 1)
      (run.unread.length + 1) = run.unread ++ [data] := by
  have next := rxIndex_toNat run.ring.rxHead
  have head := holds.head
  have place : ((run.ring.rxHead + 1) &&& usart0RxBufferMask).toNat =
      (run.ring.rxTail.toNat + 1 + run.unread.length) % 64 := by omega
  have inStorage :
      (run.ring.rxTail.toNat + 1 + run.unread.length) % 64 < run.ring.rxbuf.length := by
    rw [holds.storage]
    exact Nat.mod_lt _ (by decide)
  have stored := @RingStorage.window_write_next _ run.ring.cell (storeByte run.ring data).cell 64
    (run.ring.rxTail.toNat + 1) run.unread.length data (free.trans (by decide))
  rw [holds.cells] at stored
  apply stored
  · show (run.ring.rxbuf.set _ data).getD _ 0 = data
    rw [place]
    exact RingStorage.getD_set_self inStorage data 0
  · intro index elsewhere
    show (run.ring.rxbuf.set _ data).getD index 0 = run.ring.rxbuf.getD index 0
    rw [place]
    exact RingStorage.getD_set_ne elsewhere run.ring.rxbuf data 0

theorem storeByte_holds (holds : run.Holds) (free : run.unread.length < 63) (data : UInt8) :
    RxRun.Holds { run with ring := storeByte run.ring data, kept := run.kept ++ [data] } := by
  have next := rxIndex_toNat run.ring.rxHead
  have head := holds.head
  have other : (run.ring.rxHead + 1) &&& usart0RxBufferMask ≠ run.ring.rxTail := fun same =>
    absurd (holds.full_iff.mp same) free.ne
  have unread : (run.kept ++ [data]).drop run.taken = run.unread ++ [data] :=
    List.drop_append_of_le_length holds.taken
  have more : ((run.kept ++ [data]).drop run.taken).length = run.unread.length + 1 := by
    rw [unread, List.length_append, List.length_singleton]
  constructor
  case storage => exact List.length_set.trans holds.storage
  case tail => exact holds.tail
  case head =>
    show ((run.ring.rxHead + 1) &&& usart0RxBufferMask).toNat =
      (run.ring.rxTail.toNat + ((run.kept ++ [data]).drop run.taken).length) % 64
    omega
  case room =>
    show ((run.kept ++ [data]).drop run.taken).length ≤ 63
    omega
  case cells =>
    show RingStorage.window (storeByte run.ring data).cell 64 (run.ring.rxTail.toNat + 1)
      ((run.kept ++ [data]).drop run.taken).length = (run.kept ++ [data]).drop run.taken
    rw [more, unread]
    exact holds.storeByte_cells free data
  case count =>
    have count := holds.count
    have uncounted := uncounted_le run.ring
    have counted := @count_succ run.ring.rxElements (by omega)
    show (run.ring.rxElements + 1).toNat =
      ((run.kept ++ [data]).drop run.taken).length + run.ring.uncounted
    omega
  case taken =>
    have taken := holds.taken
    show run.taken ≤ (run.kept ++ [data]).length
    rw [List.length_append]
    omega
  case returns =>
    show run.returned ++ (storeByte run.ring data).owed = (run.kept ++ [data]).take run.taken
    rw [List.take_append_of_le_length holds.taken, ← holds.returns]
    exact congrArg (run.returned ++ ·) (owed_store other holds.atPoint data)
  case atPoint =>
    show run.ring.AtPoint ((run.kept ++ [data]).drop run.taken).length
    rw [more]
    exact atPoint_more holds.atPoint

theorem interrupt (holds : run.Holds) (data : UInt8) : (run.step (.interrupt data)).Holds := by
  have room := holds.room
  rw [RxRun.step, RxRing.usart0DefaultRxIsrCb]
  by_cases full : run.unread.length = 63
  · rw [if_pos (holds.full_iff.mpr full), if_neg (by omega)]
    exact holds
  · have notFull : ¬ (run.ring.rxHead + 1) &&& usart0RxBufferMask = run.ring.rxTail := fun same =>
      full (holds.full_iff.mp same)
    have free : run.unread.length < 63 := by omega
    rw [if_neg notFull, if_pos free]
    exact holds.storeByte_holds free data

/-! ## Runs -/

theorem step (holds : run.Holds) (step : RxStep) : (run.step step).Holds := by
  cases step with
  | call => exact holds.call
  | statement => exact holds.statement
  | interrupt data => exact holds.interrupt data

theorem reached (steps : List RxStep) : (rxRun steps).Holds := by
  induction steps using List.reverseRecOn with
  | nil => exact start
  | append_singleton earlier last inductionHypothesis =>
      rw [rxRun, List.foldl_append]
      exact inductionHypothesis.step last

/-! ## What the calls return -/

theorem returned_isPrefix (holds : run.Holds) : run.returned <+: run.kept := by
  have taken := List.take_prefix run.taken run.kept
  rw [← holds.returns] at taken
  exact (List.prefix_append _ _).trans taken

theorem kept_eq (holds : run.Holds) (idle : run.ring.read = .idle) :
    run.kept = run.returned ++ run.unread := by
  have returns := holds.returns
  rw [RxRing.owed, idle, List.append_nil] at returns
  rw [returns]
  exact (List.take_append_drop run.taken run.kept).symm

theorem elements_eq (holds : run.Holds) (idle : run.ring.read = .idle) :
    run.ring.rxElements.toNat = run.unread.length := by
  have count := holds.count
  rw [RxRing.uncounted, idle] at count
  exact count

end RxRun.Holds

/-! ## Calls come to an end -/

/-- The statements left of a call that finds a byte. -/
def ReadAt.left : ReadAt → Nat
  | .idle => 0
  | .waitForData => 5
  | .computeIndex => 4
  | .storeIndex _ => 3
  | .countElement _ => 2
  | .returnData _ => 1

/-- The bytes that the call in progress is going to return. -/
def ReadAt.due : ReadAt → Nat
  | .idle => 0
  | _ => 1

namespace RxRun.Holds

variable {run : RxRun}

/-- The interrupt leaves the call where it is, with no fewer bytes to find. -/
theorem interrupt_keeps (data : UInt8) :
    (run.step (.interrupt data)).ring.read = run.ring.read ∧
      (run.step (.interrupt data)).returned = run.returned ∧
      run.unread.length ≤ (run.step (.interrupt data)).unread.length := by
  refine ⟨?_, rfl, ?_⟩
  · show (run.ring.usart0DefaultRxIsrCb data).read = run.ring.read
    unfold RxRing.usart0DefaultRxIsrCb
    dsimp only
    split <;> rfl
  · show (run.kept.drop run.taken).length ≤
      ((if run.unread.length < 63 then run.kept ++ [data] else run.kept).drop run.taken).length
    rw [List.length_drop, List.length_drop]
    split
    · rw [List.length_append]
      omega
    · exact Nat.le_refl _

theorem statement_proceeds (holds : run.Holds)
    (found : run.ring.read = .waitForData → 0 < run.unread.length)
    (busy : run.ring.read ≠ .idle) :
    (run.step .statement).ring.read ≠ .waitForData ∧
      (run.step .statement).ring.read.left + 1 = run.ring.read.left ∧
      (run.step .statement).returned.length + (run.step .statement).ring.read.due =
        run.returned.length + run.ring.read.due := by
  unfold RxRun.step RxRing.usart0Read
  cases point : run.ring.read with
  | idle => exact absurd point busy
  | waitForData =>
      have some := found point
      have count := holds.count
      rw [RxRing.uncounted, point] at count
      have occupied : ¬run.ring.rxElements = 0 := by
        intro none
        rw [none] at count
        exact absurd count (Nat.ne_of_lt some)
      dsimp only
      rw [if_neg occupied]
      refine ⟨nofun, rfl, ?_⟩
      show (run.returned ++ []).length + 1 = run.returned.length + 1
      rw [List.append_nil]
  | computeIndex =>
      refine ⟨nofun, rfl, ?_⟩
      show (run.returned ++ []).length + 1 = run.returned.length + 1
      rw [List.append_nil]
  | storeIndex tmptail =>
      refine ⟨nofun, rfl, ?_⟩
      show (run.returned ++ []).length + 1 = run.returned.length + 1
      rw [List.append_nil]
  | countElement tmptail =>
      refine ⟨nofun, rfl, ?_⟩
      show (run.returned ++ []).length + 1 = run.returned.length + 1
      rw [List.append_nil]
  | returnData tmptail => exact ⟨nofun, rfl, List.length_append⟩

theorem call_ends {steps : List RxStep} (holds : run.Holds) (noCall : .call ∉ steps)
    (found : run.ring.read = .waitForData → 0 < run.unread.length)
    (enough : steps.count .statement = run.ring.read.left) :
    (steps.foldl RxRun.step run).ring.read = .idle ∧
      (steps.foldl RxRun.step run).returned.length =
        run.returned.length + run.ring.read.due := by
  induction steps generalizing run with
  | nil =>
      cases point : run.ring.read <;> rw [point] at enough
      case idle => exact ⟨point, rfl⟩
      all_goals contradiction
  | cons next rest inductionHypothesis =>
      have restCalls : .call ∉ rest := fun member => noCall (List.mem_cons_of_mem next member)
      rw [List.foldl_cons]
      cases next with
      | call => exact absurd List.mem_cons_self noCall
      | statement =>
          rw [List.count_cons_self] at enough
          have busy : run.ring.read ≠ .idle := by
            intro idle
            rw [idle] at enough
            contradiction
          have proceeds := holds.statement_proceeds found busy
          have ends := inductionHypothesis holds.statement restCalls
            (fun waits => absurd waits proceeds.1) (by omega)
          exact ⟨ends.1, ends.2.trans proceeds.2.2⟩
      | interrupt data =>
          have same : (RxStep.interrupt data :: rest).count .statement = rest.count .statement :=
            List.count_cons_of_ne (by simp)
          rw [same] at enough
          have keeps := @interrupt_keeps run data
          rw [← keeps.1] at found enough
          have ends := inductionHypothesis (holds.interrupt data) restCalls
            (fun waits => Nat.lt_of_lt_of_le (found waits) keeps.2.2) enough
          rw [keeps.1, keeps.2.1] at ends
          exact ends

/-- What is kept stays kept. -/
theorem kept_isPrefix (run : RxRun) (steps : List RxStep) :
    run.kept <+: (steps.foldl RxRun.step run).kept := by
  induction steps generalizing run with
  | nil => exact List.prefix_rfl
  | cons next rest inductionHypothesis =>
      refine List.IsPrefix.trans ?_ (inductionHypothesis (run.step next))
      cases next with
      | call =>
          rw [RxRun.step]
          split <;> exact List.prefix_rfl
      | statement => exact List.prefix_rfl
      | interrupt data =>
          show run.kept <+: if run.unread.length < 63 then run.kept ++ [data] else run.kept
          split
          · exact List.prefix_append _ _
          · exact List.prefix_rfl

end RxRun.Holds

/-- A call that is made while bytes are unread returns the first of them after five
statements, however many bytes arrive meanwhile. -/
theorem rxRun_returns (earlier steps : List RxStep) (idle : (rxRun earlier).ring.read = .idle)
    (some : 0 < (rxRun earlier).unread.length) (noCall : .call ∉ steps)
    (five : steps.count .statement = 5) :
    (rxRun (earlier ++ .call :: steps)).returned =
      (rxRun earlier).returned ++ (rxRun earlier).unread.take 1 := by
  have reached := RxRun.Holds.reached earlier
  have called : (rxRun earlier).step .call =
      { rxRun earlier with ring := { (rxRun earlier).ring with read := .waitForData } } := by
    rw [RxRun.step, if_pos idle]
  have ends := reached.call.call_ends noCall
  rw [called] at ends
  have length := (ends (fun _ => some) five).2
  have final : rxRun (earlier ++ .call :: steps) =
      steps.foldl RxRun.step
        { rxRun earlier with ring := { (rxRun earlier).ring with read := .waitForData } } := by
    rw [rxRun, List.foldl_append, List.foldl_cons, ← called]
    rfl
  have whole := (RxRun.Holds.reached (earlier ++ .call :: steps)).returned_isPrefix
  have kept := RxRun.Holds.kept_isPrefix
    { rxRun earlier with ring := { (rxRun earlier).ring with read := .waitForData } } steps
  rw [← final] at length kept
  obtain ⟨more, kept⟩ := kept
  have enough : (rxRun earlier).returned.length + 1 ≤ (rxRun earlier).kept.length := by
    rw [reached.kept_eq idle, List.length_append]
    omega
  calc (rxRun (earlier ++ .call :: steps)).returned
      = (rxRun (earlier ++ .call :: steps)).kept.take ((rxRun earlier).returned.length + 1) := by
        rw [List.prefix_iff_eq_take.mp whole, length]
        rfl
    _ = (rxRun earlier).kept.take ((rxRun earlier).returned.length + 1) := by
        rw [← kept]
        exact List.take_append_of_le_length enough
    _ = (rxRun earlier).returned ++ (rxRun earlier).unread.take 1 := by
        rw [reached.kept_eq idle]
        exact List.take_length_add_append 1

theorem rxRun_returns_first :
    (rxRun ([.interrupt 7] ++ .call :: [.statement, .statement, .interrupt 8, .statement,
      .statement, .statement])).returned =
      (rxRun [.interrupt 7]).returned ++ (rxRun [.interrupt 7]).unread.take 1 :=
  rxRun_returns [.interrupt 7] _ (by decide) (by decide) (by decide) (by decide)

/-! ## Both rings -/

/-- In every run the transmitter sends a prefix of what was written and the calls return a
prefix of what was kept; at rest nothing but what waits in the rings is missing. -/
theorem usart0_losesNothing (txSteps : List TxStep) (rxSteps : List RxStep) :
    (txRun txSteps).ring.txdatal <+: (txRun txSteps).written ∧
      ((txRun txSteps).ring.write = .idle →
        (txRun txSteps).ring.txElements.toNat ≤ 32 ∧
          ((txRun txSteps).ring.txElements.toNat : Int) ≡
            (txRun txSteps).ring.txHead.toNat - (txRun txSteps).ring.txTail.toNat [ZMOD 32] ∧
          (txRun txSteps).ring.txdatal ++ (txRun txSteps).ring.queued =
            (txRun txSteps).written) ∧
      (rxRun rxSteps).returned <+: (rxRun rxSteps).kept ∧
      ((rxRun rxSteps).ring.read = .idle →
        (rxRun rxSteps).kept = (rxRun rxSteps).returned ++ (rxRun rxSteps).unread ∧
          (rxRun rxSteps).ring.rxElements.toNat = (rxRun rxSteps).unread.length) := by
  have sends := TxRun.Holds.reached txSteps
  have receives := RxRun.Holds.reached rxSteps
  refine ⟨sends.txdatal_isPrefix, fun idle => ?_, receives.returned_isPrefix, fun idle => ?_⟩
  · exact ⟨sends.atMost, sends.elements_congruent idle, sends.written_eq idle⟩
  · exact ⟨receives.kept_eq idle, receives.elements_eq idle⟩

end MicrochipDay.Usart
