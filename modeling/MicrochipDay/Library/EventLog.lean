import Mathlib.Data.List.Basic
import Mathlib.Data.List.TakeWhile

/-!
Owns event logs written newest entry first: the window of entries since the
last one of a kind, the latest entry of that window that carries a value,
predicates that hold of every entry together with the log it was written to,
and machines that accept logs.

Nothing here knows which program writes the log.
-/

namespace MicrochipDay.Library.EventLog

variable {Entry Value : Type*}

/-! ## The window since an entry -/

/-- The entries written after the most recent one that satisfies `stop`; the
whole log when there is none. -/
def since (stop : Entry → Bool) (log : List Entry) : List Entry :=
  log.takeWhile fun entry => !stop entry

@[simp] theorem since_nil (stop : Entry → Bool) : since stop [] = [] := rfl

theorem since_cons (stop : Entry → Bool) (entry : Entry) (log : List Entry) :
    since stop (entry :: log) = if stop entry then [] else entry :: since stop log := by
  cases stops : stop entry <;> simp [since, stops]

theorem since_cons_of_not_stop {stop : Entry → Bool} {entry : Entry} (log : List Entry)
    (passes : stop entry = false) : since stop (entry :: log) = entry :: since stop log := by
  simp [since, passes]

/-! ## The latest value of a window -/

/-- The newest value that an entry of the window since `stop` carries. -/
def latestSince (stop : Entry → Bool) (read : Entry → Option Value) (log : List Entry) :
    Option Value :=
  (since stop log).findSome? read

section LatestSince

variable {stop : Entry → Bool} {read : Entry → Option Value} {entry : Entry}

@[simp] theorem latestSince_nil : latestSince stop read [] = none := rfl

theorem latestSince_cons (log : List Entry) :
    latestSince stop read (entry :: log) =
      if stop entry then none else (read entry).or (latestSince stop read log) := by
  rw [latestSince, since_cons]
  cases stops : stop entry
  · cases carries : read entry <;> simp [latestSince, carries]
  · simp

theorem latestSince_cons_of_silent (log : List Entry)
    (passes : stop entry = false) (silent : read entry = none) :
    latestSince stop read (entry :: log) = latestSince stop read log := by
  simp [latestSince, since_cons_of_not_stop log passes, silent]

/-- The latest value of the window is the latest one of the whole log. -/
theorem findSome?_of_latestSince {log : List Entry} {value : Value}
    (latest : latestSince stop read log = some value) : log.findSome? read = some value := by
  have split := List.takeWhile_append_dropWhile (p := fun entry => !stop entry) (l := log)
  rw [← split, List.findSome?_append]
  unfold latestSince since at latest
  rw [latest]
  rfl

end LatestSince

/-! ## Facts about every entry and its past -/

/-- `Fact entry past` for every entry of the log, where `past` is the log as it
was when the entry was written. -/
def EveryEntry (Fact : Entry → List Entry → Prop) : List Entry → Prop
  | [] => True
  | entry :: past => Fact entry past ∧ EveryEntry Fact past

instance decidableEveryEntry (Fact : Entry → List Entry → Prop)
    [∀ entry past, Decidable (Fact entry past)] : ∀ log, Decidable (EveryEntry Fact log)
  | [] => isTrue trivial
  | entry :: past =>
      have := decidableEveryEntry Fact past
      inferInstanceAs (Decidable (Fact entry past ∧ EveryEntry Fact past))

section EveryEntry

variable {Fact : Entry → List Entry → Prop}

@[simp] theorem everyEntry_nil : EveryEntry Fact [] := trivial

@[simp] theorem everyEntry_cons (entry : Entry) (past : List Entry) :
    EveryEntry Fact (entry :: past) ↔ Fact entry past ∧ EveryEntry Fact past := Iff.rfl

theorem EveryEntry.at {newer : List Entry} {entry : Entry} {past : List Entry}
    (every : EveryEntry Fact (newer ++ entry :: past)) : Fact entry past := by
  induction newer with
  | nil => exact every.1
  | cons head tail inductionHypothesis => exact inductionHypothesis every.2

theorem EveryEntry.of_append {newer older : List Entry}
    (every : EveryEntry Fact (newer ++ older)) : EveryEntry Fact older := by
  induction newer with
  | nil => exact every
  | cons head tail inductionHypothesis => exact inductionHypothesis every.2

theorem EveryEntry.mono {Weak : Entry → List Entry → Prop}
    (weaker : ∀ entry past, Fact entry past → Weak entry past) {log : List Entry}
    (every : EveryEntry Fact log) : EveryEntry Weak log := by
  induction log with
  | nil => trivial
  | cons entry past inductionHypothesis =>
      exact ⟨weaker entry past every.1, inductionHypothesis every.2⟩

theorem everyEntry_append {newer older : List Entry} :
    EveryEntry Fact (newer ++ older) ↔
      EveryEntry (fun entry past => Fact entry (past ++ older)) newer ∧ EveryEntry Fact older := by
  induction newer with
  | nil => simp
  | cons head tail inductionHypothesis =>
      rw [List.cons_append, everyEntry_cons, everyEntry_cons, inductionHypothesis, and_assoc]

theorem everyEntry_of_forall {log : List Entry}
    (every : ∀ entry ∈ log, ∀ past, Fact entry past) : EveryEntry Fact log := by
  induction log with
  | nil => trivial
  | cons entry past inductionHypothesis =>
      obtain ⟨here, rest⟩ := List.forall_mem_cons.mp every
      exact ⟨here past, inductionHypothesis rest⟩

/-- `Fact entry past` for some entry of the log. -/
def SomeEntry (Fact : Entry → List Entry → Prop) : List Entry → Prop
  | [] => False
  | entry :: past => Fact entry past ∨ SomeEntry Fact past

theorem someEntry_iff {log : List Entry} :
    SomeEntry Fact log ↔ ∃ newer entry past, log = newer ++ entry :: past ∧ Fact entry past := by
  induction log with
  | nil => simp [SomeEntry]
  | cons head tail inductionHypothesis =>
      constructor
      · intro some
        rcases some with here | later
        · exact ⟨[], head, tail, rfl, here⟩
        · obtain ⟨newer, entry, past, rfl, fact⟩ := inductionHypothesis.mp later
          exact ⟨head :: newer, entry, past, rfl, fact⟩
      · intro ⟨newer, entry, past, split, fact⟩
        cases newer with
        | nil =>
            obtain ⟨rfl, rfl⟩ := List.cons_eq_cons.mp split
            exact Or.inl fact
        | cons first rest =>
            obtain ⟨rfl, rfl⟩ := List.cons_eq_cons.mp split
            exact Or.inr (inductionHypothesis.mpr ⟨rest, entry, past, rfl, fact⟩)

end EveryEntry

/-! ## Machines that accept logs -/

/-- A state that the entries of a log lead through, and the entries that are
allowed in a state. -/
structure LogMachine (State Entry : Type*) where
  initial : State
  next : State → Entry → State
  Allowed : State → Entry → Prop

namespace LogMachine

variable {State : Type*} (machine : LogMachine State Entry)

def state : List Entry → State
  | [] => machine.initial
  | entry :: past => machine.next (state past) entry

@[simp] theorem state_nil : machine.state [] = machine.initial := rfl

@[simp] theorem state_cons (entry : Entry) (past : List Entry) :
    machine.state (entry :: past) = machine.next (machine.state past) entry := rfl

def Accepts (log : List Entry) : Prop :=
  EveryEntry (fun entry past => machine.Allowed (machine.state past) entry) log

variable {machine}

theorem accepts_cons {entry : Entry} {past : List Entry} :
    machine.Accepts (entry :: past) ↔
      machine.Allowed (machine.state past) entry ∧ machine.Accepts past := Iff.rfl

theorem Accepts.of_append {newer older : List Entry} (accepts : machine.Accepts (newer ++ older)) :
    machine.Accepts older :=
  EveryEntry.of_append accepts

/-- Any entry of an accepted log was allowed in the state before it. -/
theorem Accepts.allowed {newer past : List Entry} {entry : Entry}
    (accepts : machine.Accepts (newer ++ entry :: past)) :
    machine.Allowed (machine.state past) entry :=
  EveryEntry.at accepts

/-- A relation between states and logs that every allowed entry preserves
holds after every accepted log. The step may use what is already known of
accepted logs. -/
theorem Accepts.invariant (Invariant : State → List Entry → Prop)
    (start : Invariant machine.initial [])
    (step : ∀ entry past, machine.Accepts past → Invariant (machine.state past) past →
      machine.Allowed (machine.state past) entry →
      Invariant (machine.next (machine.state past) entry) (entry :: past))
    {log : List Entry} (accepts : machine.Accepts log) : Invariant (machine.state log) log := by
  induction log with
  | nil => exact start
  | cons entry past inductionHypothesis =>
      obtain ⟨allowed, pastAccepted⟩ := accepts_cons.mp accepts
      exact step entry past pastAccepted (inductionHypothesis pastAccepted) allowed

end LogMachine

end MicrochipDay.Library.EventLog
