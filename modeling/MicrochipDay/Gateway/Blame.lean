import MicrochipDay.Gateway.Threads

/-!
Owns which lamp an error is blamed on. As long as no command is recorded between
the one that an error line answers and the reset for that line, the status
carries the `uid` of the command that the line answers and no recorded `uid` is
lost; a run in which both hold resets `lastUID` at such moments only.
-/

namespace MicrochipDay.Gateway

open MicrochipDay.Library.Unicode
open MicrochipDay.Library.Python
open MicrochipDay.Library.EventLog

variable {host : Host}

/-! ## Commands under way -/

/-- The command that the line of this round answers. -/
def answering : PubState → Option Command
  | .reporting answered _ _ => answered
  | .resetting answered _ => answered
  | .finishing answered _ => answered
  | _ => none

/-- The command that is recorded and not written yet. -/
def unwritten : SubState → Option Command
  | .writing command _ => some command
  | _ => none

/-- The commands whose answers have not been handled, the oldest first. -/
def System.outstanding (system : System) : List Command :=
  (answering system.pub).toList ++
    (system.serial.filterMap Prod.snd ++ (system.modem ++ (unwritten system.sub).toList))

/-- Commands are under way in the order of their numbers, and those that are
handled come before them. -/
structure Ordered (system : System) : Prop where
  increasing : system.outstanding.Pairwise fun earlier later => earlier.number < later.number
  fresh : ∀ command ∈ system.outstanding, command.number < nextNumber system.log
  handled : ∀ command, .handled (some command) ∈ system.log →
    command.number < nextNumber system.log ∧
      ∀ later ∈ system.outstanding, command.number < later.number

theorem ordered_start : Ordered .start := by
  constructor
  · exact List.Pairwise.nil
  · intro command inside
    contradiction
  · intro command inside
    contradiction

section Ordered

variable {system next : System}

/-- Commands stay under way or are dropped, and none is recorded or handled. -/
theorem Ordered.of_sublist (ordered : Ordered system)
    (fewer : next.outstanding.Sublist system.outstanding)
    (number : nextNumber next.log = nextNumber system.log)
    (past : ∀ command, .handled (some command) ∈ next.log →
      .handled (some command) ∈ system.log) : Ordered next := by
  constructor
  · exact ordered.increasing.sublist fewer
  · intro command inside
    rw [number]
    exact ordered.fresh command (fewer.subset inside)
  · intro command inLog
    obtain ⟨small, before⟩ := ordered.handled command (past command inLog)
    rw [number]
    exact ⟨small, fun later inside => before later (fewer.subset inside)⟩

/-- The line of this round has been handled. -/
theorem Ordered.handle (ordered : Ordered system) (answered : Option Command)
    (first : system.outstanding = answered.toList ++ next.outstanding)
    (number : nextNumber next.log = nextNumber system.log)
    (past : ∀ command, .handled (some command) ∈ next.log →
      answered = some command ∨ .handled (some command) ∈ system.log) : Ordered next := by
  have increasing := ordered.increasing
  have fresh := ordered.fresh
  rw [first] at increasing fresh
  rw [List.pairwise_append] at increasing
  obtain ⟨-, rest, across⟩ := increasing
  constructor
  · exact rest
  · intro command inside
    rw [number]
    exact fresh command (List.mem_append_right _ inside)
  · intro command inLog
    rw [number]
    rcases past command inLog with rfl | before
    · exact ⟨fresh command (by simp), fun later inside => across command (by simp) later inside⟩
    · obtain ⟨small, earlier⟩ := ordered.handled command before
      refine ⟨small, fun later inside => earlier later ?_⟩
      rw [first]
      exact List.mem_append_right _ inside

/-- A command that is recorded comes after all others. -/
theorem Ordered.record {uid pay : Value} (ordered : Ordered system)
    (turn : system.sub = .recording uid pay) :
    Ordered
      { system with
        lastUID := uid
        sub := .writing ⟨nextNumber system.log, uid⟩ pay
        log := .recorded ⟨nextNumber system.log, uid⟩ :: system.log } := by
  have appended : System.outstanding
      { system with
        lastUID := uid
        sub := .writing ⟨nextNumber system.log, uid⟩ pay
        log := .recorded ⟨nextNumber system.log, uid⟩ :: system.log } =
      system.outstanding ++ [⟨nextNumber system.log, uid⟩] := by
    simp only [System.outstanding, turn, unwritten, Option.toList_none, Option.toList_some,
      List.append_assoc, List.append_nil]
  have number : nextNumber (.recorded ⟨nextNumber system.log, uid⟩ :: system.log) =
      nextNumber system.log + 1 := rfl
  constructor
  · rw [appended, List.pairwise_append]
    refine ⟨ordered.increasing, List.pairwise_singleton _ _, ?_⟩
    intro command inside later inNew
    obtain rfl := List.mem_singleton.mp inNew
    exact ordered.fresh command inside
  · intro command inside
    rw [appended] at inside
    show command.number < nextNumber (.recorded _ :: system.log)
    rw [number]
    rcases List.mem_append.mp inside with before | new
    · exact Nat.lt_succ_of_lt (ordered.fresh command before)
    · obtain rfl := List.mem_singleton.mp new
      exact Nat.lt_succ_self _
  · intro command inLog
    rw [appended]
    show command.number < nextNumber (.recorded _ :: system.log) ∧ _
    rw [number]
    have inPast : .handled (some command) ∈ system.log := by
      rcases List.mem_cons.mp inLog with same | inPast
      · contradiction
      · exact inPast
    obtain ⟨small, before⟩ := ordered.handled command inPast
    refine ⟨Nat.lt_succ_of_lt small, ?_⟩
    intro later inside
    rcases List.mem_append.mp inside with old | new
    · exact before later old
    · obtain rfl := List.mem_singleton.mp new
      exact small

end Ordered

/-- An event that does not handle a line leaves the handled commands as they are. -/
private theorem past_of_cons {event : Event} {log : List Event}
    (other : ∀ answered, event ≠ .handled answered) (command : Command)
    (inLog : .handled (some command) ∈ event :: log) : .handled (some command) ∈ log := by
  rcases List.mem_cons.mp inLog with same | inPast
  · exact absurd same.symm (other _)
  · exact inPast

/-- The outstanding commands, where the pub thread reads a line. -/
private theorem outstanding_of_reading {system : System} {line : List UInt8}
    {answered : Option Command} {serial : List (List UInt8 × Option Command)}
    (turn : system.pub = .reading) (first : system.serial = (line, answered) :: serial) :
    system.outstanding = answered.toList ++
      (serial.filterMap Prod.snd ++ (system.modem ++ (unwritten system.sub).toList)) := by
  unfold System.outstanding
  rw [turn, first]
  cases answered with
  | none => rfl
  | some command => rfl

theorem Moves.ordered {system next : System} (moves : Moves host system next)
    (ordered : Ordered system) : Ordered next := by
  cases moves with
  | stay => exact ordered
  | accept uid pay idle =>
      refine ordered.of_sublist ?_ rfl fun _ inside => inside
      simp [System.outstanding, idle, unwritten]
  | record turn => exact ordered.record turn
  | written turn =>
      refine ordered.of_sublist ?_ rfl fun _ inside => inside
      simp [System.outstanding, turn, unwritten]
  | lost turn =>
      refine ordered.of_sublist ?_ rfl fun _ inside => inside
      simp [System.outstanding, turn, unwritten]
  | answer line oldest =>
      refine ordered.of_sublist ?_ rfl fun _ inside => inside
      simp [System.outstanding, oldest]
  | send line =>
      refine ordered.of_sublist ?_ rfl fun _ inside => inside
      simp [System.outstanding]
  | @skip line answered serial turn first =>
      refine ordered.handle answered ?_ rfl ?_
      · rw [outstanding_of_reading turn first]
        simp [System.outstanding, turn, answering]
      · intro command inLog
        rcases List.mem_cons.mp inLog with same | inPast
        · exact .inl (Event.handled.inj same).symm
        · exact .inr inPast
  | error msg turn first bound =>
      refine ordered.of_sublist ?_ rfl fun _ inside => inside
      rw [outstanding_of_reading turn first]
      exact List.Sublist.refl _
  | plain msg turn first =>
      refine ordered.of_sublist ?_ rfl fun _ inside => inside
      rw [outstanding_of_reading turn first]
      exact List.Sublist.refl _
  | endLine turn first =>
      refine ordered.of_sublist ?_ rfl fun _ inside => inside
      rw [outstanding_of_reading turn first]
      exact List.sublist_append_right _ _
  | endRound =>
      refine ordered.of_sublist ?_ rfl fun _ inside => inside
      exact List.sublist_append_right _ _
  | blame turn published =>
      refine ordered.of_sublist ?_ rfl (past_of_cons (by simp))
      simp [System.outstanding, turn, answering]
  | reset turn =>
      refine ordered.of_sublist ?_ rfl (past_of_cons (by simp))
      simp [System.outstanding, turn, answering]
  | @finish answered msg turn =>
      refine ordered.handle answered (by rw [System.outstanding, turn]; rfl) rfl ?_
      intro command inLog
      rcases List.mem_cons.mp inLog with same | inPast
      · exact .inl (Event.handled.inj same).symm
      · exact .inr inPast
  | @report answered msg uid publication turn reported =>
      refine ordered.handle answered (by rw [System.outstanding, turn]; rfl) rfl ?_
      intro command inLog
      rcases List.mem_cons.mp inLog with same | inPast
      · exact .inl (Event.handled.inj same).symm
      · exact .inr (past_of_cons (by simp) command inPast)

/-! ## Blame -/

/-- A status published because of an error line, and the command that the line answers. -/
def Event.blame? : Event → Option (Command × Publication)
  | .blamed (some command) publication => some (command, publication)
  | _ => none

/-- Every such status carries the `uid` of the command that its line answers. -/
def BlamesAnswered (log : List Event) : Prop :=
  EveryEntry (fun event _ => ∀ blame ∈ event.blame?,
    subscript uidKey blame.2.pay = some blame.1.uid) log

instance (log : List Event) : Decidable (BlamesAnswered log) := by
  unfold BlamesAnswered
  infer_instance

/-- The line that `lastUID` is reset for. -/
def Event.reset? : Event → Option (Option Command)
  | .reset answered => some answered
  | _ => none

/-- No reset overwrites the `uid` of a command whose answer has not been handled
and is not that of the line. -/
def KeepsRecorded (log : List Event) : Prop :=
  EveryEntry (fun event past => ∀ answered ∈ event.reset?, ∀ command ∈ holder past,
    answered = some command ∨ .handled (some command) ∈ past) log

instance (log : List Event) : Decidable (KeepsRecorded log) := by
  unfold KeepsRecorded
  infer_instance

/-- The line whose status is published or that `lastUID` is reset for. -/
def Event.errorLine? : Event → Option (Option Command)
  | .blamed answered _ => some answered
  | .reset answered => some answered
  | _ => none

/-- No command has been recorded whose answer is still to come after this line:
the last one is the one that the line answers or has been handled. -/
def NoneAhead (answered : Option Command) (past : List Event) : Prop :=
  ∀ command ∈ newest past, answered = some command ∨ .handled (some command) ∈ past

instance (answered : Option Command) (past : List Event) :
    Decidable (NoneAhead answered past) := by
  unfold NoneAhead
  infer_instance

/-- From the status for an error line to the reset for it no command is ahead. -/
def Undisturbed (log : List Event) : Prop :=
  EveryEntry (fun event past => ∀ answered ∈ event.errorLine?, NoneAhead answered past) log

instance (log : List Event) : Decidable (Undisturbed log) := by
  unfold Undisturbed
  infer_instance

/-- The same at the resets only. -/
def ResetsUndisturbed (log : List Event) : Prop :=
  EveryEntry (fun event past => ∀ answered ∈ event.reset?, NoneAhead answered past) log

theorem newest_of_holder {log : List Event} {command : Command}
    (held : holder log = some command) : newest log = some command :=
  findSome?_of_latestSince held

theorem ResetsUndisturbed.keepsRecorded {log : List Event} (resets : ResetsUndisturbed log) :
    KeepsRecorded log :=
  resets.mono fun _ _ known answered isReset command held =>
    known answered isReset command (newest_of_holder held)

theorem Undisturbed.resets {log : List Event} (undisturbed : Undisturbed log) :
    ResetsUndisturbed log := by
  refine undisturbed.mono fun event past known answered isReset => known answered ?_
  cases event with
  | reset => exact isReset
  | _ => contradiction

/-! ## After a reset -/

/-- Where resets keep what is recorded, the last command has been handled when
`lastUID` holds none, or the round that handles it is about to end. -/
def Released (system : System) : Prop :=
  KeepsRecorded system.log → ∀ command ∈ newest system.log, holder system.log = none →
    .handled (some command) ∈ system.log ∨
      (∃ msg, system.pub = .finishing (some command) msg) ∨ system.pub = .ended

theorem released_start : Released .start := by
  intro _ command last
  contradiction

section Released

variable {system next : System} {command : Command}

/-- Outside the last part of a round the command has been handled. -/
theorem Released.handled (released : Released system) (keeps : KeepsRecorded system.log)
    (last : command ∈ newest system.log) (free : holder system.log = none)
    (running : (∀ answered msg, system.pub ≠ .finishing answered msg) ∧ system.pub ≠ .ended) :
    .handled (some command) ∈ system.log := by
  rcases released keeps command last free with handled | ⟨msg, finishing⟩ | ended
  · exact handled
  · exact absurd finishing (running.1 _ _)
  · exact absurd ended running.2

/-- The round ends: its command, if it was the last one, is handled now. -/
theorem Released.finish {answered : Option Command} {msg : Text} (released : Released system)
    (turn : system.pub = .finishing answered msg) (keeps : KeepsRecorded system.log)
    (last : command ∈ newest system.log) (free : holder system.log = none) :
    answered = some command ∨ .handled (some command) ∈ system.log := by
  rcases released keeps command last free with handled | ⟨other, finishing⟩ | ended
  · exact .inr handled
  · rw [turn] at finishing
    exact .inl (PubState.finishing.inj finishing).1
  · rw [turn] at ended
    contradiction

theorem Moves.released (moves : Moves host system next) (released : Released system) :
    Released next := by
  intro keeps command last free
  cases moves with
  | stay => exact released keeps command last free
  | accept uid pay idle => exact released keeps command last free
  | record turn => contradiction
  | written turn => exact released keeps command last free
  | lost turn => exact released keeps command last free
  | answer line oldest => exact released keeps command last free
  | send line => exact released keeps command last free
  | skip turn first =>
      have handled := released.handled keeps.2 last free (by simp [turn])
      exact .inl (List.mem_cons_of_mem _ handled)
  | error msg turn first bound =>
      exact .inl (released.handled keeps last free (by simp [turn]))
  | plain msg turn first =>
      exact .inl (released.handled keeps last free (by simp [turn]))
  | endLine turn first => exact .inr (.inr rfl)
  | endRound => exact .inr (.inr rfl)
  | blame turn published =>
      have handled := released.handled keeps.2 last free (by simp [turn])
      exact .inl (List.mem_cons_of_mem _ handled)
  | @reset answered msg turn =>
      obtain ⟨kept, past⟩ := keeps
      cases held : holder system.log with
      | none =>
          have handled := released.handled past last held (by simp [turn])
          exact .inl (List.mem_cons_of_mem _ handled)
      | some other =>
          obtain rfl := Option.some.inj ((newest_of_holder held).symm.trans last)
          rcases kept answered rfl other held with rfl | handled
          · exact .inr (.inl ⟨msg, rfl⟩)
          · exact .inl (List.mem_cons_of_mem _ handled)
  | finish turn =>
      rcases released.finish turn keeps.2 last free with rfl | handled
      · exact .inl List.mem_cons_self
      · exact .inl (List.mem_cons_of_mem _ handled)
  | report turn reported =>
      rcases released.finish turn keeps.2.2 last free with rfl | handled
      · exact .inl List.mem_cons_self
      · exact .inl (List.mem_cons_of_mem _ (List.mem_cons_of_mem _ handled))

end Released

/-! ## Runs -/

/-- What every run keeps. -/
structure Followed (system : System) : Prop where
  ordered : Ordered system
  remembers : Remembers system
  released : Released system

theorem followed_start : Followed .start := ⟨ordered_start, remembers_start, released_start⟩

theorem Moves.followed {system next : System} (moves : Moves host system next)
    (followed : Followed system) : Followed next :=
  ⟨moves.ordered followed.ordered, moves.remembers followed.remembers,
    moves.released followed.released⟩

theorem run_followed (host : Host) (actions : List Action) : Followed (run host actions) :=
  run_induction host Followed followed_start (fun _ _ moves => moves.followed) actions

section Runs

variable {system next : System}

/-- Where no command is ahead of the one that is answered, it is the last one recorded. -/
theorem Ordered.newest_eq {command : Command} (ordered : Ordered system)
    (inside : command ∈ system.outstanding) (alone : NoneAhead (some command) system.log) :
    newest system.log = some command := by
  have small := ordered.fresh command inside
  unfold nextNumber at small
  split at small
  · next last known =>
    rcases alone last known with same | handled
    · rw [known, same]
    · have before := (ordered.handled last handled).2 command inside
      omega
  · omega

/-- `lastUID` holds the `uid` of the command that the line answers. -/
theorem Followed.lastUID {command : Command} {uid : Int} {msg : Text} (followed : Followed system)
    (turn : system.pub = .reporting (some command) uid msg)
    (keeps : KeepsRecorded system.log) (alone : NoneAhead (some command) system.log) :
    system.lastUID = command.uid := by
  have inside : command ∈ system.outstanding := by
    unfold System.outstanding
    rw [turn]
    exact List.mem_append_left _ (List.mem_singleton.mpr rfl)
  have last := followed.ordered.newest_eq inside alone
  rw [followed.remembers.lastUID, heldUID]
  cases held : holder system.log with
  | none =>
      have handled := followed.released.handled keeps last held (by simp [turn])
      have before := (followed.ordered.handled command handled).2 command inside
      omega
  | some other =>
      obtain rfl := Option.some.inj ((newest_of_holder held).symm.trans last)
      rfl

theorem BlamesAnswered.write {event : Event} {log : List Event} (blames : BlamesAnswered log)
    (other : event.blame? = none) : BlamesAnswered (event :: log) := by
  refine ⟨?_, blames⟩
  intro blame inside
  rw [other] at inside
  contradiction

theorem Moves.blamesAnswered (moves : Moves host system next) (followed : Followed system)
    (known : Undisturbed system.log → BlamesAnswered system.log)
    (undisturbed : Undisturbed next.log) : BlamesAnswered next.log := by
  cases moves with
  | record turn => exact (known undisturbed.2).write rfl
  | skip turn first => exact (known undisturbed.2).write rfl
  | reset turn => exact (known undisturbed.2).write rfl
  | finish turn => exact (known undisturbed.2).write rfl
  | report turn reported => exact ((known undisturbed.2.2).write rfl).write rfl
  | @blame answered uid msg publication turn published =>
      obtain ⟨alone, past⟩ := undisturbed
      refine ⟨?_, known past⟩
      intro blame inside
      cases answered with
      | none => contradiction
      | some command =>
          obtain rfl := Option.some.inj inside
          have keeps := (Undisturbed.resets past).keepsRecorded
          have held := followed.lastUID turn keeps (alone (some command) rfl)
          obtain ⟨-, rfl⟩ := publish_eq_some_iff.mp published
          show some system.lastUID = some command.uid
          rw [held]
  | stay => exact known undisturbed
  | accept uid pay idle => exact known undisturbed
  | written turn => exact known undisturbed
  | lost turn => exact known undisturbed
  | answer line oldest => exact known undisturbed
  | send line => exact known undisturbed
  | error msg turn first bound => exact known undisturbed
  | plain msg turn first => exact known undisturbed
  | endLine turn first => exact known undisturbed
  | endRound => exact known undisturbed

theorem run_blamesAnswered (actions : List Action)
    (undisturbed : Undisturbed (run host actions).log) :
    BlamesAnswered (run host actions).log := by
  have kept := run_induction host
    (fun system => Followed system ∧ (Undisturbed system.log → BlamesAnswered system.log))
    ⟨followed_start, fun _ => trivial⟩
    (fun _ _ moves known =>
      ⟨moves.followed known.1, moves.blamesAnswered known.1 known.2⟩) actions
  exact kept.2 undisturbed

end Runs

/-- In every run in which no command is ahead of an error line, from its status
to the reset for it, each error status carries the `uid` of the command that its
line answers, and no reset overwrites a `uid` whose answer is still to come. -/
theorem run_blamesRightLamp (host : Host) (actions : List Action)
    (undisturbed : Undisturbed (run host actions).log) :
    BlamesAnswered (run host actions).log ∧ KeepsRecorded (run host actions).log :=
  ⟨run_blamesAnswered actions undisturbed, undisturbed.resets.keepsRecorded⟩

/-- A line of telemetry of lamp 1 is read. -/
private def telemetryRead : List Action :=
  [.send (utf8 (Text.ofString "+RECVDATA:1,1,1,20,40\n")), .readLine, .finish]

/-- A command for the lamp is recorded and written. -/
private def commandWritten (lamp : String) : List Action :=
  [.deliver (utf8 (Text.ofString ("\x7b\"uid\": " ++ lamp ++ ", \"light\": 1\x7d"))),
    .record, .write true]

/-- The oldest command is answered with an error, which is handled. -/
private def errorHandled : List Action :=
  [.answer (utf8 (Text.ofString "ERROR:17 - NO ROUTE\r\n")), .readLine, .report, .reset, .finish]

private def oneByOne : List Action :=
  telemetryRead ++ commandWritten "2" ++ errorHandled ++ commandWritten "1" ++ errorHandled

theorem run_blamesRightLamp_oneByOne :
    BlamesAnswered (run plainHost oneByOne).log ∧ KeepsRecorded (run plainHost oneByOne).log :=
  run_blamesRightLamp plainHost oneByOne (by decide +kernel)

private def twoAtOnce : List Action :=
  telemetryRead ++ commandWritten "1" ++ commandWritten "2" ++ errorHandled

/-- The error for lamp 1 is blamed on lamp 2, whose command is still unanswered
when its `uid` is overwritten. -/
theorem run_blamesWrongLamp :
    ¬ BlamesAnswered (run plainHost twoAtOnce).log ∧
      ¬ KeepsRecorded (run plainHost twoAtOnce).log := by
  decide +kernel

/-! ## Resets -/

section Resets

variable {system next : System}

/-- A reset that keeps what is recorded finds no command ahead of its line. -/
theorem Followed.noneAhead {answered : Option Command} {msg : Text} (followed : Followed system)
    (turn : system.pub = .resetting answered msg) (keeps : KeepsRecorded system.log)
    (kept : ∀ command ∈ holder system.log,
      answered = some command ∨ .handled (some command) ∈ system.log) :
    NoneAhead answered system.log := by
  intro command last
  cases held : holder system.log with
  | none => exact .inr (followed.released.handled keeps last held (by simp [turn]))
  | some other =>
      obtain rfl := Option.some.inj ((newest_of_holder held).symm.trans last)
      exact kept other held

theorem ResetsUndisturbed.write {event : Event} {log : List Event}
    (resets : ResetsUndisturbed log) (other : event.reset? = none) :
    ResetsUndisturbed (event :: log) := by
  refine ⟨?_, resets⟩
  intro answered inside
  rw [other] at inside
  contradiction

theorem Moves.resetsUndisturbed (moves : Moves host system next) (followed : Followed system)
    (known : KeepsRecorded system.log → ResetsUndisturbed system.log)
    (keeps : KeepsRecorded next.log) : ResetsUndisturbed next.log := by
  cases moves with
  | @reset answered msg turn =>
      obtain ⟨kept, past⟩ := keeps
      refine ⟨?_, known past⟩
      intro line inside
      obtain rfl := Option.some.inj inside
      exact followed.noneAhead turn past (kept answered rfl)
  | record turn => exact (known keeps.2).write rfl
  | skip turn first => exact (known keeps.2).write rfl
  | blame turn published => exact (known keeps.2).write rfl
  | finish turn => exact (known keeps.2).write rfl
  | report turn reported => exact ((known keeps.2.2).write rfl).write rfl
  | stay => exact known keeps
  | accept uid pay idle => exact known keeps
  | written turn => exact known keeps
  | lost turn => exact known keeps
  | answer line oldest => exact known keeps
  | send line => exact known keeps
  | error msg turn first bound => exact known keeps
  | plain msg turn first => exact known keeps
  | endLine turn first => exact known keeps
  | endRound => exact known keeps

end Resets

/-- No reset of a run overwrites a `uid` whose answer is still to come exactly if
at every reset no command is ahead of its line. -/
theorem run_keepsRecorded_iff (host : Host) (actions : List Action) :
    KeepsRecorded (run host actions).log ↔ ResetsUndisturbed (run host actions).log := by
  constructor
  · have kept := run_induction host
      (fun system => Followed system ∧
        (KeepsRecorded system.log → ResetsUndisturbed system.log))
      ⟨followed_start, fun _ => trivial⟩
      (fun _ _ moves known =>
        ⟨moves.followed known.1, moves.resetsUndisturbed known.1 known.2⟩) actions
    exact kept.2
  · exact ResetsUndisturbed.keepsRecorded

end MicrochipDay.Gateway
