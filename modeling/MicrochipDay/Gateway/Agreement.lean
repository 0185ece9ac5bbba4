import MicrochipDay.Gateway.Threads

/-!
Owns the agreement of topic and payload. Telemetry is published under its own
`uid`. An error is published under the `uid` of the latest telemetry with the
`uid` that `lastUID` holds, and these two agree only by chance.
-/

namespace MicrochipDay.Gateway

open MicrochipDay.Library.Unicode
open MicrochipDay.Library.Decimal
open MicrochipDay.Library.Python
open MicrochipDay.Library.EventLog

/-- The payload is the document of a dict, and the topic ends with the text of its `uid`. -/
structure Publication.Agrees (interpreter : Interpreter) (publication : Publication) : Prop where
  document : publication.payload = publication.pay.dump
  topic : ∃ uid ∈ subscript uidKey publication.pay,
    publication.topico = topicCmd ++ uid.text interpreter

instance (interpreter : Interpreter) (publication : Publication) :
    Decidable (publication.Agrees interpreter) :=
  decidable_of_iff
    (publication.payload = publication.pay.dump ∧ ∃ uid ∈ subscript uidKey publication.pay,
      publication.topico = topicCmd ++ uid.text interpreter)
    ⟨fun both => ⟨both.1, both.2⟩, fun agrees => ⟨agrees.document, agrees.topic⟩⟩

def Event.publication? : Event → Option Publication
  | .blamed _ publication => some publication
  | .reported _ publication => some publication
  | _ => none

/-- Topic and payload of every message published agree. -/
def TopicsAgree (interpreter : Interpreter) (log : List Event) : Prop :=
  EveryEntry (fun event _ => ∀ publication ∈ event.publication?,
    publication.Agrees interpreter) log

instance (interpreter : Interpreter) (log : List Event) :
    Decidable (TopicsAgree interpreter log) := by
  unfold TopicsAgree
  infer_instance

/-- The latest telemetry comes from the lamp whose `uid` stands in `lastUID`. -/
def HeldIsLatest (interpreter : Interpreter) (past : List Event) : Prop :=
  ∃ uid ∈ boundUid past, (heldUID past).text interpreter = intText uid

def Event.isBlame : Event → Bool
  | .blamed _ _ => true
  | _ => false

/-- Whenever an error is published, the latest telemetry comes from the lamp
whose `uid` stands in `lastUID`. -/
def ErrorsFromLatest (interpreter : Interpreter) (log : List Event) : Prop :=
  EveryEntry (fun event past => event.isBlame → HeldIsLatest interpreter past) log

variable {host : Host}

theorem agrees_status_iff {uid light temp hum : Int} {held : Value} {publication : Publication}
    (published : publish host uid (status light temp hum held) = some publication) :
    publication.Agrees host.interpreter ↔ held.text host.interpreter = intText uid := by
  obtain ⟨-, rfl⟩ := publish_eq_some_iff.mp published
  constructor
  · intro agrees
    obtain ⟨value, inside, ends⟩ := agrees.topic
    obtain rfl : held = value := Option.some.inj inside
    exact (List.append_cancel_left ends).symm
  · intro same
    refine ⟨rfl, held, rfl, ?_⟩
    show topicCmd ++ intText uid = _
    rw [same]

theorem reportTelemetry_agrees {msg : Text} {uid : Int} {publication : Publication}
    (reported : reportTelemetry host msg = some (some (uid, publication))) :
    publication.Agrees host.interpreter := by
  unfold reportTelemetry at reported
  split at reported
  · split at reported
    · split at reported
      · next first light temp humildade _ =>
        obtain ⟨status, published, same⟩ := Option.map_eq_some_iff.mp reported
        obtain ⟨-, rfl⟩ := Prod.mk.inj (Option.some.inj same)
        exact (agrees_status_iff published).mpr rfl
      · contradiction
    · simp at reported
  · contradiction

section Runs

variable {system next : System}

/-- The `uid` that an error is about to be reported under is the local variable. -/
def ReportsLatest (system : System) : Prop :=
  ∀ answered uid msg, system.pub = .reporting answered uid msg → system.uid = some uid

theorem Moves.reportsLatest (moves : Moves host system next) (reports : ReportsLatest system) :
    ReportsLatest next := by
  cases moves with
  | stay => exact reports
  | accept uid pay idle => exact reports
  | record turn => exact reports
  | written turn => exact reports
  | lost turn => exact reports
  | answer line oldest => exact reports
  | send line => exact reports
  | skip turn first => exact reports
  | error msg turn first bound =>
      intro answered uid message reporting
      obtain ⟨-, rfl, -⟩ := PubState.reporting.inj reporting
      exact bound
  | _ =>
      intro answered uid message reporting
      simp_all

/-- What the run keeps: the variables hold what the past leaves in them. -/
structure Tracked (system : System) : Prop where
  remembers : Remembers system
  reports : ReportsLatest system

theorem tracked_start : Tracked .start := ⟨remembers_start, fun _ _ _ reporting => by contradiction⟩

theorem Moves.tracked (moves : Moves host system next) (tracked : Tracked system) :
    Tracked next :=
  ⟨moves.remembers tracked.remembers, moves.reportsLatest tracked.reports⟩

/-- An error is published in agreement exactly if the latest telemetry comes from
the lamp whose `uid` is held. -/
theorem Tracked.blame_agrees_iff {answered : Option Command} {uid : Int} {msg : Text}
    {publication : Publication} (tracked : Tracked system)
    (turn : system.pub = .reporting answered uid msg)
    (published : publish host uid (status 0 0 0 system.lastUID) = some publication) :
    publication.Agrees host.interpreter ↔ HeldIsLatest host.interpreter system.log := by
  have bound : boundUid system.log = some uid :=
    tracked.remembers.uid.symm.trans (tracked.reports answered uid msg turn)
  rw [agrees_status_iff published, tracked.remembers.lastUID]
  unfold HeldIsLatest
  rw [bound]
  constructor
  · intro same
    exact ⟨uid, rfl, same⟩
  · intro ⟨other, inside, same⟩
    obtain rfl : uid = other := Option.some.inj inside
    exact same

/-- An event that publishes nothing changes neither side. -/
theorem agreement_cons {interpreter : Interpreter} {event : Event} {log : List Event}
    (silent : event.publication? = none ∧ event.isBlame = false) :
    (TopicsAgree interpreter (event :: log) ↔ TopicsAgree interpreter log) ∧
      (ErrorsFromLatest interpreter (event :: log) ↔ ErrorsFromLatest interpreter log) := by
  obtain ⟨publishesNone, noBlame⟩ := silent
  unfold TopicsAgree ErrorsFromLatest
  rw [everyEntry_cons, everyEntry_cons]
  simp [publishesNone, noBlame]

/-- The two facts about a log that the runs carry along. -/
def AgreementKnown (interpreter : Interpreter) (log : List Event) : Prop :=
  TopicsAgree interpreter log ↔ ErrorsFromLatest interpreter log

theorem AgreementKnown.write {interpreter : Interpreter} {event : Event} {log : List Event}
    (known : AgreementKnown interpreter log)
    (silent : event.publication? = none ∧ event.isBlame = false) :
    AgreementKnown interpreter (event :: log) := by
  obtain ⟨topics, errors⟩ := @agreement_cons interpreter event log silent
  unfold AgreementKnown
  rw [topics, errors]
  exact known

theorem Moves.agreementKnown (moves : Moves host system next) (tracked : Tracked system)
    (known : AgreementKnown host.interpreter system.log) :
    AgreementKnown host.interpreter next.log := by
  cases moves with
  | record turn => exact known.write ⟨rfl, rfl⟩
  | skip turn first => exact known.write ⟨rfl, rfl⟩
  | reset turn => exact known.write ⟨rfl, rfl⟩
  | finish turn => exact known.write ⟨rfl, rfl⟩
  | @report answered msg uid publication turn reported =>
      refine AgreementKnown.write ?_ ⟨rfl, rfl⟩
      have agrees := reportTelemetry_agrees reported
      unfold AgreementKnown TopicsAgree ErrorsFromLatest
      rw [everyEntry_cons, everyEntry_cons]
      simp only [Event.publication?, Event.isBlame, Option.mem_def, Option.some.injEq,
        forall_eq', agrees, Bool.false_eq_true, IsEmpty.forall_iff, true_and]
      exact known
  | @blame answered uid msg publication turn published =>
      have agrees := tracked.blame_agrees_iff turn published
      unfold AgreementKnown TopicsAgree ErrorsFromLatest
      rw [everyEntry_cons, everyEntry_cons]
      simp only [Event.publication?, Event.isBlame, Option.mem_def, Option.some.injEq,
        forall_eq', forall_const, agrees]
      exact and_congr_right fun _ => known
  | stay => exact known
  | accept uid pay idle => exact known
  | written turn => exact known
  | lost turn => exact known
  | answer line oldest => exact known
  | send line => exact known
  | error msg turn first bound => exact known
  | plain msg turn first => exact known
  | endLine turn first => exact known
  | endRound => exact known

end Runs

/-- In every run topic and payload of all messages agree exactly if, whenever an
error is published, the latest telemetry comes from the lamp whose `uid` stands
in `lastUID`. -/
theorem run_topicsAgree_iff (host : Host) (actions : List Action) :
    TopicsAgree host.interpreter (run host actions).log ↔
      ErrorsFromLatest host.interpreter (run host actions).log := by
  have kept := run_induction host
    (fun system => Tracked system ∧ AgreementKnown host.interpreter system.log)
    ⟨tracked_start, Iff.rfl⟩
    (fun _ _ moves known =>
      ⟨moves.tracked known.1, moves.agreementKnown known.1 known.2⟩) actions
  exact kept.2

private def lampOne : List UInt8 := utf8 (Text.ofString "+RECVDATA:1,1,1,20,40\n")

private def lampTwo : List UInt8 :=
  utf8 (Text.ofString "\x7b\"uid\": 2, \"light\": 1\x7d")

/-- Lamp 1 reports, a command for lamp 2 is written, and its answer is an error. -/
private def otherLamp : List Action :=
  [.send lampOne, .readLine, .finish, .deliver lampTwo, .record, .write true,
    .answer (utf8 (Text.ofString "ERROR:17 - NO ROUTE\r\n")), .readLine, .report]

/-- The error for lamp 2 goes to the topic of lamp 1. -/
theorem run_topicDisagrees :
    ¬ TopicsAgree plainHost.interpreter (run plainHost otherLamp).log := by
  decide +kernel

end MicrochipDay.Gateway
