import MicrochipDay.Cloud.Conformance

/-!
Owns what the state machine of cloud.c advances on. A SUCCESS event carries no
origin, so a handler's step counts as done when any of six completions arrives
after its start, whether or not it is the completion of that step.
-/

namespace MicrochipDay.Cloud

open MicrochipDay.Umqtt
open MicrochipDay.Library.EventLog

/-! ## Completions -/

def Action.isStarted : Action → Bool
  | .started _ _ _ => true
  | _ => false

def Action.startedHandler : Action → Option Handler
  | .started handler _ _ => some handler
  | _ => none

/-- An event that is posted, with the function that posts it. -/
def Action.postedBy : Action → Option (Caller × CloudEvent)
  | .receiveEvent caller ev => some (caller, ev)
  | _ => none

/-- The completions: an address from DHCP, a ping reply, a DNS answer, a
connected socket, an accepted MQTT connection, and a received message. -/
def Action.completes : Action → Bool
  | .callback (.wifi .dhcpConf) => true
  | .callback (.ping u8ErrorCode) => u8ErrorCode = pingErrSuccess
  | .callback (.dns serverIP) => serverIP ≠ 0
  | .callback (.socket _ (.connect (some s8Error))) => s8Error ≥ 0
  | .arrived (.connack code) => code = 0
  | .arrived (.publish _) => true
  | _ => false

/-- The entry that made a function post. -/
def Caller.causedBy : Caller → Action → Prop
  | .callback message, entry => entry = .callback message
  | .umqttConnected, entry => entry = .arrived (.connack 0)
  | .umqttReceived, entry => ∃ message, entry = .arrived (.publish message)
  | _, _ => False

/-- A completion has arrived since the last handler started and made this
function post. -/
def CompletedSinceStart (caller : Caller) (log : List Action) : Prop :=
  ∃ completion ∈ since Action.isStarted log, caller.causedBy completion ∧
    completion.completes = true

theorem CompletedSinceStart.of_head {caller : Caller} {log : List Action} {entry : Action}
    (same : entry.isStarted = false) (caused : caller.causedBy entry)
    (completes : entry.completes = true) : CompletedSinceStart caller (entry :: log) := by
  refine ⟨entry, ?_, caused, completes⟩
  rw [since_cons_of_not_stop log same]
  exact List.mem_cons_self

theorem CompletedSinceStart.cons {caller : Caller} {log : List Action} {entry : Action}
    (completed : CompletedSinceStart caller log) (same : entry.isStarted = false) :
    CompletedSinceStart caller (entry :: log) := by
  rcases completed with ⟨completion, member, caused⟩
  refine ⟨completion, ?_, caused⟩
  rw [since_cons_of_not_stop log same]
  exact List.mem_cons_of_mem _ member

theorem WincMessage.event_eq_success_iff (message : WincMessage) :
    message.event = .success ↔ (Action.callback message).completes = true := by
  cases message with
  | wifi msg =>
      cases msg with
      | dhcpConf => simp [WincMessage.event, Action.completes]
      | conStateChanged currState =>
          simp only [WincMessage.event, Action.completes]
          split <;> simp
      | other => simp [WincMessage.event, Action.completes]
  | socket sock msg =>
      cases msg with
      | connect s8Error =>
          cases s8Error with
          | none => simp [WincMessage.event, Action.completes]
          | some s8Error =>
              simp only [WincMessage.event, Action.completes]
              split <;> simp_all
      | recv pstrRecv =>
          cases pstrRecv with
          | none => simp [WincMessage.event, Action.completes]
          | some pstrRecv =>
              simp only [WincMessage.event, Action.completes]
              split <;> simp
      | send | other => simp [WincMessage.event, Action.completes]
  | dns serverIP =>
      simp only [WincMessage.event, Action.completes]
      split <;> simp_all
  | ping u8ErrorCode =>
      simp only [WincMessage.event, Action.completes]
      split_ifs with success <;> simp [success]

private theorem callback_completes {message : WincMessage} {caller : Caller}
    (owed : message.owed = some (caller, .success)) :
    caller.causedBy (.callback message) ∧ (Action.callback message).completes = true := by
  simp only [WincMessage.owed] at owed
  split at owed
  · exact absurd owed (by simp)
  · simp only [Option.some.injEq, Prod.mk.injEq] at owed
    rcases owed with ⟨rfl, success⟩
    exact ⟨rfl, message.event_eq_success_iff.mp success⟩

private theorem arrived_completes {arrival : Arrival} {caller : Caller}
    (owed : arrivalOwed arrival = some (caller, .success)) :
    caller.causedBy (.arrived arrival) ∧ (Action.arrived arrival).completes = true := by
  cases arrival with
  | connack code =>
      simp only [arrivalOwed] at owed
      split at owed
      · rename_i accepted
        simp only [Option.some.injEq, Prod.mk.injEq, and_true] at owed
        subst accepted owed
        exact ⟨rfl, rfl⟩
      · exact absurd owed (by simp)
  | publish message =>
      simp only [arrivalOwed, Option.some.injEq, Prod.mk.injEq, and_true] at owed
      subst owed
      exact ⟨⟨message, rfl⟩, rfl⟩
  | suback | pingresp | unknown => exact absurd owed (by simp [arrivalOwed])

/-! ## Addresses and sessions -/

/-- The start of `requestDns`, which clears the address. -/
def Action.isRequestDns : Action → Bool
  | .started .requestDns _ _ => true
  | _ => false

def Action.address : Action → Option UInt32
  | .callback (.dns serverIP) => if serverIP ≠ 0 then some serverIP else none
  | _ => none

def Action.isConnect : Action → Bool
  | .call request _ => request.operationOf = some .mqttConnect
  | _ => false

def Action.connackCode : Action → Option UInt8
  | .arrived (.connack code) => some code
  | _ => none

/-! ## Invariants -/

section Invariants

variable {topic : List UInt8} {log : List Action} (accepts : (eventLoop topic).Accepts log)
include accepts

theorem handler_eq : ((eventLoop topic).state log).control.handler =
    log.findSome? Action.startedHandler := by
  apply accepts.invariant (fun view log =>
    view.control.handler = log.findSome? Action.startedHandler) rfl
  intro entry past _ inductionHypothesis _
  cases entry with
  | started handler mqttState subInit => rfl
  | call call rc => exact (View.nextCall_handler _ call rc).trans inductionHypothesis
  | _ => exact inductionHypothesis

/-- While callbacks run, the state is the one that this handler returned. -/
theorem currentState_eq : ((eventLoop topic).state log).control.phase = .polling →
    ((eventLoop topic).state log).currentState =
      (((eventLoop topic).state log).control.handler.map Handler.result).getD .init := by
  apply accepts.invariant (fun view _ => view.control.phase = .polling →
    view.currentState = (view.control.handler.map Handler.result).getD .init) (fun _ => rfl)
  intro entry past _ inductionHypothesis allowed
  cases entry with
  | consume state ev => exact fun polling => Phase.noConfusion polling
  | errorHandler state => exact fun polling => Phase.noConfusion polling
  | started handler mqttState subInit => exact fun polling => Phase.noConfusion polling
  | entered state =>
      rcases allowed with ⟨_, _, handler, started, same, _⟩
      intro _
      show state = (((eventLoop topic).state past).control.handler.map Handler.result).getD .init
      rw [started, same]
      rfl
  | call call rc =>
      intro polling
      simp only [eventLoop, View.next, View.nextCall_phase, View.nextCall_currentState,
        View.nextCall_handler] at polling ⊢
      exact inductionHypothesis polling
  | _ => exact inductionHypothesis

/-- Between a consumption and the start of a handler nothing is posted. -/
theorem slot_empty : ((eventLoop topic).state log).control.phase ≠ .polling →
    ((eventLoop topic).state log).control.phase ≠ .handling →
      ((eventLoop topic).state log).occuredEvent = .noEvent ∧
        ((eventLoop topic).state log).control.owed = none := by
  apply accepts.invariant (fun view _ => view.control.phase ≠ .polling →
    view.control.phase ≠ .handling → view.occuredEvent = .noEvent ∧ view.control.owed = none)
    (fun notPolling => absurd rfl notPolling)
  intro entry past _ inductionHypothesis allowed
  cases entry with
  | receiveEvent caller ev =>
      intro notPolling notHandling
      rcases allowed with owed | ⟨startUp, _⟩
      · have empty := (inductionHypothesis notPolling notHandling).2
        exact absurd (owed.symm.trans empty) (by simp)
      · exact absurd (congrArg Control.phase startUp) notPolling
  | consume state ev => exact fun _ _ => ⟨rfl, allowed.1.2⟩
  | started handler mqttState subInit => exact fun _ notHandling => absurd rfl notHandling
  | entered state => exact fun notPolling => absurd rfl notPolling
  | callback message => exact fun notPolling => absurd allowed.1 notPolling
  | arrived arrival => exact fun notPolling => absurd allowed.1 notPolling
  | errorHandler state =>
      intro _ _
      refine inductionHypothesis ?_ ?_ <;> rw [allowed.1] <;> simp
  | call call rc =>
      intro notPolling notHandling
      simp only [eventLoop, View.next, View.nextCall_phase] at notPolling notHandling
      rcases allowed.running with polling | handling
      · exact absurd polling notPolling
      · exact absurd handling notHandling
  | _ => exact inductionHypothesis

theorem slot_empty_before_start (due : ((eventLoop topic).state log).control.phase =
      .consumed .success ∨ ((eventLoop topic).state log).control.phase = .dispatching) :
    ((eventLoop topic).state log).occuredEvent = .noEvent ∧
      ((eventLoop topic).state log).control.owed = none := by
  apply slot_empty accepts <;> rcases due with phase | phase <;> simp [phase]

theorem owed_completed {caller : Caller} :
    ((eventLoop topic).state log).control.owed = some (caller, .success) →
      CompletedSinceStart caller log := by
  apply accepts.invariant (fun view log =>
    view.control.owed = some (caller, .success) → CompletedSinceStart caller log)
    (fun owed => absurd owed (by simp [eventLoop, View.initial, Control.startUp]))
  intro entry past pastAccepted inductionHypothesis allowed
  cases entry with
  | receiveEvent _ _ => exact fun owed => absurd owed (by simp [eventLoop, View.next])
  | started handler mqttState subInit =>
      intro owed
      have nothing := (slot_empty_before_start pastAccepted allowed.1).2
      exact absurd (owed.symm.trans nothing) (by simp)
  | callback message =>
      intro owed
      obtain ⟨caused, completes⟩ := callback_completes owed
      exact .of_head rfl caused completes
  | arrived arrival =>
      intro owed
      obtain ⟨caused, completes⟩ := arrived_completes owed
      exact .of_head rfl caused completes
  | call call rc =>
      exact fun owed => (inductionHypothesis (View.nextCall_owed _ call rc (by simp) owed)).cons rfl
  | _ => exact fun owed => (inductionHypothesis owed).cons rfl

theorem posted_completed : ((eventLoop topic).state log).control.handler ≠ none →
    ((eventLoop topic).state log).occuredEvent = .success →
      ∃ caller, latestSince Action.isStarted Action.postedBy log = some (caller, .success) ∧
        CompletedSinceStart caller log := by
  apply accepts.invariant (fun view log => view.control.handler ≠ none →
    view.occuredEvent = .success →
      ∃ caller, latestSince Action.isStarted Action.postedBy log = some (caller, .success) ∧
        CompletedSinceStart caller log) (fun started => absurd rfl started)
  intro entry past pastAccepted inductionHypothesis allowed
  have later : entry.isStarted = false → entry.postedBy = none →
      (∃ caller, latestSince Action.isStarted Action.postedBy past = some (caller, .success) ∧
        CompletedSinceStart caller past) →
      ∃ caller, latestSince Action.isStarted Action.postedBy (entry :: past) =
        some (caller, .success) ∧ CompletedSinceStart caller (entry :: past) := by
    rintro same silent ⟨caller, latest, completed⟩
    exact ⟨caller, (latestSince_cons_of_silent past same silent).trans latest, completed.cons same⟩
  cases entry with
  | receiveEvent caller ev =>
      intro started success
      obtain rfl : ev = .success := success
      rcases allowed with owed | ⟨startUp, _⟩
      · exact ⟨caller, rfl, (owed_completed pastAccepted owed).cons rfl⟩
      · exact absurd (congrArg Control.handler startUp) started
  | consume state ev => exact fun _ success => absurd success (by simp [eventLoop, View.next])
  | started handler mqttState subInit =>
      intro _ success
      have empty := (slot_empty_before_start pastAccepted allowed.1).1
      exact absurd (success.symm.trans empty) (by simp)
  | call call rc =>
      intro started success
      simp only [eventLoop, View.next, View.nextCall_handler, View.nextCall_occuredEvent]
        at started success
      exact later rfl rfl (inductionHypothesis started success)
  | _ => exact fun started success => later rfl rfl (inductionHypothesis started success)

theorem endpointIp_eq : ((eventLoop topic).state log).endpointIp =
    (latestSince Action.isRequestDns Action.address log).getD 0 := by
  apply accepts.invariant (fun view log =>
    view.endpointIp = (latestSince Action.isRequestDns Action.address log).getD 0) rfl
  intro entry past _ inductionHypothesis _
  rw [latestSince_cons]
  cases entry with
  | started handler mqttState subInit => cases handler <;> first | rfl | exact inductionHypothesis
  | callback message =>
      cases message with
      | dns serverIP =>
          simp only [eventLoop, View.next, Action.isRequestDns, Action.address]
          split
          · rfl
          · exact inductionHypothesis
      | _ => exact inductionHypothesis
  | call call rc => exact (View.nextCall_endpointIp _ call rc).trans inductionHypothesis
  | _ => exact inductionHypothesis

/-- The session is connected when the last CONNACK since the CONNECT accepts
it. -/
theorem mqttState_eq_connected_iff : ((eventLoop topic).state log).mqttState = .connected ↔
    latestSince Action.isConnect Action.connackCode log = some 0 := by
  apply accepts.invariant (fun view log => view.mqttState = .connected ↔
    latestSince Action.isConnect Action.connackCode log = some 0)
    (by simp [eventLoop, View.initial])
  intro entry past _ inductionHypothesis _
  rw [latestSince_cons]
  cases entry with
  | arrived arrival =>
      cases arrival with
      | connack code =>
          simp only [eventLoop, View.next, stateAfter, Action.isConnect, Action.connackCode]
          split <;> simp_all
      | _ => exact inductionHypothesis
  | call call rc =>
      simp only [eventLoop, View.next, View.nextCall_mqttState, Action.isConnect,
        Action.connackCode, decide_eq_true_eq]
      split
      · simp
      · exact inductionHypothesis
  | _ => exact inductionHypothesis

end Invariants

/-! ## Runs -/

/-- What a log says about the progress of the state machine. -/
structure AdvancesOnCompletions (log : List Action) : Prop where
  /-- Outside INIT a SUCCESS is consumed in the state of the handler that was
  started last; it was posted last, for a completion that arrived since that
  start. -/
  completion : ∀ newer state past, log = newer ++ .consume state .success :: past → state ≠ .init →
    (∃ handler, past.findSome? Action.startedHandler = some handler ∧ handler.result = state) ∧
      ∃ caller, latestSince Action.isStarted Action.postedBy past = some (caller, .success) ∧
        CompletedSinceStart caller past
  /-- `connect()` gets the last address since `requestDns` cleared it, or 0. -/
  address : ∀ newer sock ip rc past, log = newer ++ .call (.connect sock ip) rc :: past →
    ip = (latestSince Action.isRequestDns Action.address past).getD 0
  /-- `startSending` finds an MQTT session exactly when the last CONNACK since
  the last CONNECT has return code 0. -/
  session : ∀ newer mqttState subInit past,
    log = newer ++ .started .startSending mqttState subInit :: past →
    (mqttState = .connected ↔ latestSince Action.isConnect Action.connackCode past = some 0)

private theorem accepted_advances {topic : List UInt8} {log : List Action}
    (accepts : (eventLoop topic).Accepts log) : AdvancesOnCompletions log where
  completion := by
    rintro newer state past rfl outside
    rcases accepts.allowed with ⟨isPolling, sameState, event, _⟩
    have pastAccepted := accepts.of_append.2
    have current := currentState_eq pastAccepted isPolling.1
    rw [← sameState] at current
    cases started : ((eventLoop topic).state past).control.handler with
    | none =>
        rw [started] at current
        exact absurd current outside
    | some handler =>
        rw [started] at current
        refine ⟨⟨handler, (handler_eq pastAccepted).symm.trans started, current.symm⟩, ?_⟩
        exact posted_completed pastAccepted (by simp [started]) event.symm
  address := by
    rintro newer sock ip rc past rfl
    exact (accepts.allowed.2 sock ip rfl).trans (endpointIp_eq accepts.of_append.2)
  session := by
    rintro newer mqttState subInit past rfl
    rcases accepts.allowed with ⟨_, _, same, _⟩
    rw [same]
    exact mqttState_eq_connected_iff accepts.of_append.2

/-- **What the state machine advances on.** In every run, a SUCCESS that is
consumed outside INIT was posted by one of the six completions since the
handler of the current state started; `connect()` gets the last address that
DNS gave since it was asked; and `startSending` finds a session exactly when
the last CONNECT was accepted. -/
theorem run_advances_on_completions (world : World) (turns : List Turn) :
    AdvancesOnCompletions (run world turns).log :=
  accepted_advances (run_accepted world turns)

/-! ## The state's own step -/

/-- The completion of the step that a state waits for, on the socket `sock`. -/
def Action.completesStep (sock : Int) : CloudState → Action → Bool
  | .wifiConnect, .callback (.wifi .dhcpConf) => true
  | .waitForInternet, .callback (.ping u8ErrorCode) => u8ErrorCode = pingErrSuccess
  | .dnsRequest, .callback (.dns serverIP) => serverIP ≠ 0
  | .tlsConnect, .callback (.socket connected (.connect (some s8Error))) =>
      connected = sock ∧ s8Error ≥ 0
  | .mqtt, .arrived (.connack code) => code = 0
  | _, _ => false

/-- The handle that `socket()` returned last. -/
def currentSocket (log : List Action) : Int :=
  (log.findSome? fun entry =>
    match entry with
    | .call .socket rc => some rc
    | _ => none).getD (-1)

def AdvancesOnOwnStep (log : List Action) : Prop :=
  ∀ newer state past, log = newer ++ .consume state .success :: past →
    state ≠ .init → state ≠ .sending →
      ∃ completion ∈ since Action.isStarted past,
        completion.completesStep (currentSocket past) state = true

def ConnectsToAnAddress (log : List Action) : Prop :=
  ∀ sock rc, .call (.connect sock 0) rc ∉ log

def SendsInASession (log : List Action) : Prop :=
  ∀ mqttState subInit, .started .startSending mqttState subInit ∈ log → mqttState = .connected

/-- An address is renewed in three states that wait for something else, and a
ping reply is late. -/
private def renewals : List Turn :=
  [.ofMessages [], .ofMessages [.wifi .dhcpConf], .ofMessages [.wifi .dhcpConf],
    .ofMessages [.ping pingErrSuccess], .ofMessages [.wifi .dhcpConf],
    .ofMessages [.wifi .dhcpConf]]

/-- The state machine advances all the same: it asks for a name without a ping
reply, connects to the address 0 and publishes without a session. -/
theorem run_advances_on_renewals :
    ¬ AdvancesOnOwnStep (run World.accepting renewals).log ∧
      ¬ ConnectsToAnAddress (run World.accepting renewals).log ∧
      ¬ SendsInASession (run World.accepting renewals).log := by
  refine ⟨fun advances => ?_, fun connects => ?_, fun sends => ?_⟩
  · -- the third consumption: SUCCESS in WAIT_FOR_INTERNET
    have own := advances ((run World.accepting renewals).log.take 21) .waitForInternet
      ((run World.accepting renewals).log.drop 22) (by decide +kernel) (by decide) (by decide)
    exact absurd own (by decide +kernel)
  · exact connects 1 0 (by decide +kernel)
  · exact absurd (sends .connecting 0 (by decide +kernel)) (by decide)

end MicrochipDay.Cloud
