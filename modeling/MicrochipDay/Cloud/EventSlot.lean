import MicrochipDay.Cloud.Conformance

/-!
Owns what becomes of posted events. `occured_event` is one variable, so the
event that a turn consumes is the last one posted since the consumption before
it, and an earlier failure is lost.
-/

namespace MicrochipDay.Cloud

open MicrochipDay.Library.EventLog

/-! ## The slot -/

def Action.isConsume : Action → Bool
  | .consume _ _ => true
  | _ => false

def Action.posted : Action → Option CloudEvent
  | .receiveEvent _ ev => some ev
  | _ => none

theorem occuredEvent_eq {topic : List UInt8} {log : List Action}
    (accepts : (eventLoop topic).Accepts log) :
    ((eventLoop topic).state log).occuredEvent =
      (latestSince Action.isConsume Action.posted log).getD .noEvent := by
  apply accepts.invariant (fun view log =>
    view.occuredEvent = (latestSince Action.isConsume Action.posted log).getD .noEvent) rfl
  intro entry past _ inductionHypothesis _
  rw [latestSince_cons]
  cases entry with
  | receiveEvent caller ev => rfl
  | consume state ev => rfl
  | call call rc => exact (View.nextCall_occuredEvent _ call rc).trans inductionHypothesis
  | _ => exact inductionHypothesis

/-- Only a consumption leads to the phase in which an event has been consumed,
so it is never the last entry between two turns. -/
theorem entry_after_consume {topic : List UInt8} {log newer past : List Action}
    {state : CloudState} {ev : CloudEvent} (accepts : (eventLoop topic).Accepts log)
    (polling : ((eventLoop topic).state log).control.phase = .polling)
    (split : log = newer ++ .consume state ev :: past) :
    ∃ rest next, newer = rest ++ [next] ∧ (next = .errorHandler state ↔ ev = .fail) := by
  rw [split] at accepts polling
  rcases List.eq_nil_or_concat newer with nothing | ⟨rest, next, same⟩
  · rw [nothing] at polling
    exact absurd polling (by simp [eventLoop, View.next])
  · rw [List.concat_eq_append] at same
    refine ⟨rest, next, same, ?_⟩
    rw [same, List.append_assoc, List.singleton_append] at accepts
    have allowed := accepts.allowed
    rcases accepts.of_append.2.1 with ⟨⟨wasPolling, owedNothing⟩, sameState, _, _⟩
    have phase : ((eventLoop topic).state (.consume state ev :: past)).control.phase =
        .consumed ev := rfl
    have owesNothing : ((eventLoop topic).state (.consume state ev :: past)).control.owed =
        none := owedNothing
    have current : ((eventLoop topic).state (.consume state ev :: past)).currentState = state :=
      sameState.symm
    generalize (eventLoop topic).state (.consume state ev :: past) = view
      at allowed phase owesNothing current
    cases next with
    | receiveEvent caller posted =>
        rcases allowed with owed | ⟨startUp, _⟩
        · exact absurd (owed.symm.trans owesNothing) (by simp)
        · exact absurd (phase.symm.trans (congrArg Control.phase startUp))
            (by simp [Control.startUp])
    | errorHandler failed =>
        rcases allowed with ⟨failing, same⟩
        rw [phase, Phase.consumed.injEq] at failing
        simp [failing, same, current]
    | started handler mqttState subInit =>
        rcases allowed.1 with succeeded | dispatching
        · rw [phase, Phase.consumed.injEq] at succeeded
          simp [succeeded]
        · exact absurd (phase.symm.trans dispatching) (by simp)
    | entered entered => exact absurd (phase.symm.trans allowed.1) (by simp)
    | call call rc =>
        rcases allowed.running with polling | handling
        · exact absurd (phase.symm.trans polling) (by simp)
        · exact absurd (phase.symm.trans handling) (by simp)
    | consume _ _ => exact absurd (phase.symm.trans allowed.1.1) (by simp)
    | publishReturned => exact absurd (phase.symm.trans allowed.1.1) (by simp)
    | callback _ | processed _ | arrived _ | reset =>
        exact absurd (phase.symm.trans allowed.1) (by simp)

/-! ## Runs -/

/-- **The last post wins.** In every run, a consumption takes the last event
posted since the consumption before it, and `errorHandler` runs next exactly
when that event is a failure. -/
theorem run_consumes_last_post (world : World) (turns : List Turn) {newer past : List Action}
    {state : CloudState} {ev : CloudEvent}
    (split : (run world turns).log = newer ++ .consume state ev :: past) :
    latestSince Action.isConsume Action.posted past = some ev ∧
      (newer.getLast? = some (.errorHandler state) ↔ ev = .fail) := by
  have accepts := run_accepted world turns
  constructor
  · have consumed := accepts
    rw [split] at consumed
    rcases consumed.allowed with ⟨_, _, taken, event⟩
    rw [occuredEvent_eq consumed.of_append.2] at taken
    cases latest : latestSince Action.isConsume Action.posted past with
    | none =>
        rw [latest] at taken
        exact absurd taken event
    | some posted =>
        rw [latest] at taken
        rw [taken]
        rfl
  · obtain ⟨rest, next, same, failure⟩ :=
      entry_after_consume accepts (run_polling world turns) split
    rw [same, List.getLast?_concat, Option.some.injEq]
    exact failure

/-- The Wi-Fi connection is lost while it is being set up. -/
private def disconnected : List Turn :=
  [.ofMessages [], .ofMessages [.wifi (.conStateChanged m2mWifiDisconnected)]]

theorem run_consumes_last_post_disconnected :
    latestSince Action.isConsume Action.posted ((run World.accepting disconnected).log.drop 6) =
        some .fail ∧
      (((run World.accepting disconnected).log.take 5).getLast? =
        some (.errorHandler .wifiConnect) ↔ CloudEvent.fail = .fail) :=
  run_consumes_last_post World.accepting disconnected (by decide +kernel)

/-- No failure is lost: the consumption after a failure is posted takes the
failure branch. -/
def KeepsFailures (log : List Action) : Prop :=
  ∀ newer state ev past, log = newer ++ .consume state ev :: past →
    (∃ caller, .receiveEvent caller .fail ∈ since Action.isConsume past) →
      newer.getLast? = some (.errorHandler state)

/-- The connection is lost, and an address is assigned before the next
consumption. -/
private def overtaken : List Turn :=
  [.ofMessages [],
    .ofMessages [.wifi (.conStateChanged m2mWifiDisconnected), .wifi .dhcpConf]]

/-- The failure is then lost. -/
theorem run_loses_failure : ¬ KeepsFailures (run World.accepting overtaken).log := by
  intro keeps
  have failure := keeps ((run World.accepting overtaken).log.take 3) .wifiConnect .success
    ((run World.accepting overtaken).log.drop 4) (by decide +kernel)
    ⟨.callback (.wifi (.conStateChanged m2mWifiDisconnected)), by decide +kernel⟩
  exact absurd failure (by decide +kernel)

end MicrochipDay.Cloud
