import MicrochipDay.Cloud.Progress

/-!
Owns the stalls of the connection procedure. `waitForInternet` and
`mqttConnect` drop the result of their request, `NETWORK_pingCallback` knows
three codes and a refused CONNECT only changes the MQTT state, so four
failures post no event and leave the state machine waiting for nothing.
-/

namespace MicrochipDay.Cloud

open MicrochipDay.Umqtt
open MicrochipDay.Library.EventLog

/-! ## Operations -/

theorem Handler.result_injective : Function.Injective Handler.result := by
  intro one other same
  cases one <;> cases other <;> first | rfl | exact CloudState.noConfusion same

/-- The result of the request for a handler's operation. -/
def Action.requestResult (handler : Handler) : Action → Option Int
  | .call request rc => if request.operationOf = some handler then some rc else none
  | _ => none

/-- The driver accepts the operation that the handler of a state requests. -/
def Action.acceptedFor (state : CloudState) : Action → Bool
  | .call request rc => request.operationOf.map Handler.result = some state ∧ rc = m2mSuccess
  | _ => false

def Action.refusedFor (state : CloudState) : Action → Bool
  | .call request rc => request.operationOf.map Handler.result = some state ∧ rc ≠ m2mSuccess
  | _ => false

/-- The operation of a state reports its result, good or bad. Joining the
network ends with an address or with a disconnection. -/
def Action.isResultFor : CloudState → Action → Bool
  | .wifiConnect, .callback (.wifi .dhcpConf) => true
  | .wifiConnect, .callback (.wifi (.conStateChanged currState)) => currState = m2mWifiDisconnected
  | .waitForInternet, .callback (.ping _) => true
  | .dnsRequest, .callback (.dns _) => true
  | .tlsConnect, .callback (.socket _ (.connect _)) => true
  | .mqtt, .arrived (.connack _) => true
  | _, _ => false

/-- The driver has accepted the operation of a state since the last handler
started, and no result has been delivered since then. -/
def OperationPending (state : CloudState) (log : List Action) : Prop :=
  (∃ entry ∈ since Action.isStarted log, entry.acceptedFor state = true) ∧
    ∀ entry ∈ since Action.isStarted log, entry.isResultFor state = false

instance (state : CloudState) (log : List Action) : Decidable (OperationPending state log) :=
  inferInstanceAs (Decidable (_ ∧ _))

/-- Something is left that moves the state machine on. -/
def NotStalled (board : Board) : Prop :=
  board.occuredEvent ≠ .noEvent ∨ OperationPending board.currentState board.log ∨
    board.currentState = .sending

instance (board : Board) : Decidable (NotStalled board) := inferInstanceAs (Decidable (_ ∨ _ ∨ _))

/-- The failures for which nothing posts an event. -/
def Action.failsSilently : CloudState → Action → Bool
  | .waitForInternet, .call .m2mPingReq rc => rc ≠ m2mSuccess
  | .waitForInternet, .callback (.ping u8ErrorCode) => u8ErrorCode > pingErrTimeout
  | .mqtt, .call request rc => request.operationOf = some .mqttConnect ∧ rc ≠ m2mSuccess
  | .mqtt, .arrived (.connack code) => code ≠ 0
  | _, _ => false

/-- An operation is over when it is refused or reports its result. -/
def Action.endsFor (state : CloudState) (entry : Action) : Bool :=
  entry.refusedFor state || entry.isResultFor state

/-- Whatever has ended since the last handler started did so silently. -/
def EndsSilently (state : CloudState) (log : List Action) : Prop :=
  ∀ entry ∈ since Action.isStarted log, entry.endsFor state = true →
    entry.failsSilently state = true

theorem EndsSilently.cons {state : CloudState} {log : List Action} {entry : Action}
    (silently : EndsSilently state log) (same : entry.isStarted = false)
    (silent : entry.endsFor state = true → entry.failsSilently state = true) :
    EndsSilently state (entry :: log) := by
  intro other member
  rw [since_cons_of_not_stop log same, List.mem_cons] at member
  rcases member with rfl | earlier
  · exact silent
  · exact silently other earlier

/-! ## What ends without an event -/

private theorem ping_code_cases (u8ErrorCode : UInt8) :
    u8ErrorCode = pingErrSuccess ∨ u8ErrorCode = pingErrDestUnreach ∨
      u8ErrorCode = pingErrTimeout ∨ u8ErrorCode > pingErrTimeout := by
  simp only [pingErrSuccess, pingErrDestUnreach, pingErrTimeout, ← UInt8.toNat_inj,
    gt_iff_lt, UInt8.lt_iff_toNat_lt, UInt8.reduceToNat]
  omega

/-- A callback that posts nothing for a result has an unknown ping code. -/
theorem callback_silent {message : WincMessage} (nothing : message.owed = none) {state : CloudState}
    (ends : (Action.callback message).endsFor state = true) :
    (Action.callback message).failsSilently state = true := by
  have event : message.event = .noEvent := by
    by_contra posted
    simp [WincMessage.owed, posted] at nothing
  simp only [Action.endsFor, Action.refusedFor, Bool.false_or] at ends
  cases message with
  | wifi msg =>
      cases msg with
      | dhcpConf => exact absurd event (by simp [WincMessage.event])
      | conStateChanged currState =>
          cases state <;> simp_all [Action.isResultFor, WincMessage.event]
      | other => cases state <;> exact absurd ends (by simp [Action.isResultFor])
  | socket sock msg =>
      cases msg with
      | connect s8Error =>
          cases s8Error with
          | none => exact absurd event (by simp [WincMessage.event])
          | some s8Error =>
              simp only [WincMessage.event] at event
              split at event <;> exact absurd event (by simp)
      | _ => cases state <;> exact absurd ends (by simp [Action.isResultFor])
  | dns serverIP =>
      simp only [WincMessage.event] at event
      split at event <;> exact absurd event (by simp)
  | ping u8ErrorCode =>
      cases state with
      | waitForInternet =>
          rcases ping_code_cases u8ErrorCode with rfl | rfl | rfl | above
          · exact absurd event (by decide)
          · exact absurd event (by decide)
          · exact absurd event (by decide)
          · exact decide_eq_true above
      | _ => exact absurd ends (by simp [Action.isResultFor])

/-- A packet that posts nothing for a result is a refused CONNECT. -/
theorem arrived_silent {arrival : Arrival} (nothing : arrivalOwed arrival = none)
    {state : CloudState} (ends : (Action.arrived arrival).endsFor state = true) :
    (Action.arrived arrival).failsSilently state = true := by
  simp only [Action.endsFor, Action.refusedFor, Bool.false_or] at ends
  cases arrival with
  | connack code =>
      cases state with
      | mqtt =>
          refine decide_eq_true fun accepted => ?_
          simp [arrivalOwed, accepted] at nothing
      | _ => exact absurd ends (by simp [Action.isResultFor])
  | _ => cases state <;> exact absurd ends (by simp [Action.isResultFor])

/-- A refused request that posts nothing is the ping or the CONNECT. -/
theorem refusal_silent {call : DriverCall} {handler : Handler} {rc : Int}
    (requests : call.operationOf = some handler) (nothing : handler.owed rc = none)
    (refused : rc ≠ m2mSuccess) : (Action.call call rc).failsSilently handler.result = true := by
  have dropped : handler.reports = false := by
    by_contra reports
    simp [Handler.owed, refused, reports] at nothing
  cases handler with
  | wifiConnect | requestDns | tlsConnect => exact absurd dropped (by decide)
  | waitForInternet =>
      cases call with
      | m2mPingReq => exact decide_eq_true refused
      | _ => simp [DriverCall.operationOf] at requests
  | mqttConnect => exact decide_eq_true ⟨requests, refused⟩
  | startSending => cases call <;> simp [DriverCall.operationOf] at requests

private theorem endsFor_origin {state : CloudState} {entry : Action}
    (ends : entry.endsFor state = true) :
    match entry with
    | .callback _ | .arrived _ | .call _ _ => True
    | _ => False := by
  cases entry with
  | callback _ | arrived _ | call _ _ => trivial
  | _ => cases state <;> simp [Action.endsFor, Action.refusedFor, Action.isResultFor] at ends

private theorem call_endsFor {handler : Handler} {call : DriverCall} {rc : Int}
    (ends : (Action.call call rc).endsFor handler.result = true) :
    call.operationOf = some handler ∧ rc ≠ m2mSuccess := by
  have noResult : (Action.call call rc).isResultFor handler.result = false := by
    cases handler <;> rfl
  simpa [Action.endsFor, noResult, Action.refusedFor, Handler.result_injective.eq_iff] using ends

/-! ## Invariants -/

/-- No event has been posted for the handler that runs or has run. -/
def View.Quiet (view : View) : Prop :=
  (view.control.phase = .polling ∨ view.control.phase = .handling) ∧
    view.occuredEvent = .noEvent ∧ view.control.owed = none

section Invariants

variable {topic : List UInt8} {log : List Action} (accepts : (eventLoop topic).Accepts log)
include accepts

theorem owed_ne_noEvent {caller : Caller} {ev : CloudEvent} :
    ((eventLoop topic).state log).control.owed = some (caller, ev) → ev ≠ .noEvent := by
  apply accepts.invariant (fun view _ =>
    view.control.owed = some (caller, ev) → ev ≠ .noEvent)
    (fun owed => absurd owed (by simp [eventLoop, View.initial, Control.startUp]))
  intro entry past _ inductionHypothesis _ owed
  cases entry with
  | receiveEvent _ _ => exact absurd owed (by simp [eventLoop, View.next])
  | callback message =>
      change message.owed = some (caller, ev) at owed
      simp only [WincMessage.owed] at owed
      split at owed
      · exact absurd owed (by simp)
      · rename_i posted
        simp only [Option.some.injEq, Prod.mk.injEq] at owed
        exact owed.2 ▸ posted
  | arrived arrival =>
      change arrivalOwed arrival = some (caller, ev) at owed
      rintro rfl
      cases arrival with
      | connack code =>
          simp only [arrivalOwed] at owed
          split at owed <;> simp at owed
      | _ => simp [arrivalOwed] at owed
  | call call rc =>
      by_cases fails : ev = .fail
      · simp [fails]
      · exact inductionHypothesis (View.nextCall_owed _ call rc fails owed)
  | _ => exact inductionHypothesis owed

theorem operation_eq {handler : Handler} :
    ((eventLoop topic).state log).control.handler = some handler →
      (since Action.isStarted log).filterMap (Action.requestResult handler) =
        ((eventLoop topic).state log).control.operation.toList := by
  apply accepts.invariant (fun view log => view.control.handler = some handler →
    (since Action.isStarted log).filterMap (Action.requestResult handler) =
      view.control.operation.toList)
    (fun started => absurd started (by simp [eventLoop, View.initial, Control.startUp]))
  intro entry past _ inductionHypothesis allowed started
  generalize (eventLoop topic).state past = view at inductionHypothesis allowed started
  cases entry with
  | started handler mqttState subInit => rfl
  | call call rc =>
      change (view.nextCall call rc).control.handler = some handler at started
      rw [View.nextCall_handler] at started
      have earlier := inductionHypothesis started
      show _ = (view.nextCall call rc).control.operation.toList
      rw [since_cons_of_not_stop past rfl, View.nextCall_operation]
      cases requests : call.operationOf with
      | some requesting =>
          have control := View.AllowsCall.requesting allowed requests
          obtain rfl : requesting = handler :=
            Option.some.inj ((congrArg Control.handler control).symm.trans started)
          rw [congrArg Control.operation control] at earlier
          rw [List.filterMap_cons_some (b := rc) (by simp [Action.requestResult, requests]),
            earlier]
          rfl
      | none =>
          rw [List.filterMap_cons_none (by simp [Action.requestResult, requests]), earlier,
            if_pos rfl]
  | _ => exact inductionHypothesis started

theorem operation_requested {handler : Handler} :
    ((eventLoop topic).state log).control.phase = .polling →
      ((eventLoop topic).state log).control.handler = some handler →
        handler = .startSending ∨ ((eventLoop topic).state log).control.operation ≠ none := by
  apply accepts.invariant (fun view log => view.control.phase = .polling →
    view.control.handler = some handler →
      handler = .startSending ∨ view.control.operation ≠ none)
    (fun _ started => absurd started (by simp [eventLoop, View.initial, Control.startUp]))
  intro entry past _ inductionHypothesis allowed polling started
  cases entry with
  | consume state ev => exact Phase.noConfusion polling
  | errorHandler state => exact Phase.noConfusion polling
  | started handler mqttState subInit => exact Phase.noConfusion polling
  | entered state =>
      rcases allowed with ⟨_, _, returning, last, _, complete⟩
      obtain rfl : returning = handler := Option.some.inj (last.symm.trans started)
      exact complete
  | call call rc =>
      simp only [eventLoop, View.next, View.nextCall_phase, View.nextCall_handler,
        View.nextCall_operation] at polling started ⊢
      split
      · exact inductionHypothesis polling started
      · exact Or.inr (by simp)
  | _ => exact inductionHypothesis polling started

theorem posts_reports : ((eventLoop topic).state log).control.phase = .handling →
    ¬ ((eventLoop topic).state log).Quiet →
      ∃ handler, ((eventLoop topic).state log).control.handler = some handler ∧
        handler.reports = true := by
  apply accepts.invariant (fun view log => view.control.phase = .handling →
    ¬ view.Quiet → ∃ handler, view.control.handler = some handler ∧ handler.reports = true)
    (fun handling => absurd handling (by simp [eventLoop, View.initial, Control.startUp]))
  intro entry past pastAccepted inductionHypothesis allowed handling loud
  have notPolling (polling : ((eventLoop topic).state past).control.phase = .polling) :
      ((eventLoop topic).state past).control.phase ≠ .handling := by simp [polling]
  cases entry with
  | receiveEvent caller ev =>
      rcases allowed with owed | ⟨startUp, _⟩
      · exact inductionHypothesis handling fun quiet => absurd (owed.symm.trans quiet.2.2) (by simp)
      · exact absurd handling (notPolling (congrArg Control.phase startUp))
  | consume state ev => exact Phase.noConfusion handling
  | errorHandler state => exact Phase.noConfusion handling
  | started handler mqttState subInit =>
      exact absurd ⟨Or.inr rfl, slot_empty_before_start pastAccepted allowed.1⟩ loud
  | entered state => exact Phase.noConfusion handling
  | call call rc =>
      generalize (eventLoop topic).state past = view at inductionHypothesis allowed handling loud
      change (view.nextCall call rc).control.phase = .handling at handling
      show ∃ handler, (view.nextCall call rc).control.handler = some handler ∧ _
      change ¬ (view.nextCall call rc).Quiet at loud
      simp only [View.nextCall_phase, View.nextCall_handler, View.Quiet,
        View.nextCall_occuredEvent] at handling loud ⊢
      cases requests : call.operationOf with
      | some requesting =>
          have control := View.AllowsCall.requesting allowed requests
          refine ⟨requesting, congrArg Control.handler control, ?_⟩
          by_contra dropped
          have quiet : view.Quiet := by
            by_contra loudBefore
            obtain ⟨handler, last, reports⟩ := inductionHypothesis handling loudBefore
            obtain rfl : requesting = handler :=
              Option.some.inj ((congrArg Control.handler control).symm.trans last)
            exact dropped reports
          rw [View.nextCall_owed_of_request view rc requests] at loud
          exact loud ⟨quiet.1, quiet.2.1, by simp [Handler.owed, dropped]⟩
      | none =>
          rcases View.nextCall_owed_of_other view rc requests with same | ⟨rfl, _⟩
          · exact inductionHypothesis handling fun quiet =>
              loud ⟨quiet.1, quiet.2.1, same.trans quiet.2.2⟩
          · exact ⟨.tlsConnect, congrArg Control.handler allowed, rfl⟩
  | callback message => exact absurd handling (notPolling allowed.1)
  | processed _ => exact absurd handling (notPolling allowed.1)
  | arrived arrival => exact absurd handling (notPolling allowed.1)
  | publishReturned => exact absurd handling (notPolling allowed.1.1)
  | reset => exact absurd handling (notPolling allowed.1)

/-- While nothing is posted, whatever has ended has ended silently. -/
theorem endsSilently {handler : Handler} : ((eventLoop topic).state log).Quiet →
    ((eventLoop topic).state log).control.handler = some handler →
      EndsSilently handler.result log := by
  apply accepts.invariant (fun view log => view.Quiet →
    view.control.handler = some handler → EndsSilently handler.result log)
    (fun _ started => absurd started (by simp [eventLoop, View.initial, Control.startUp]))
  intro entry past pastAccepted inductionHypothesis allowed quiet started
  cases entry with
  | receiveEvent caller ev =>
      obtain rfl : ev = .noEvent := quiet.2.1
      rcases allowed with owed | ⟨_, _, event⟩
      · exact absurd rfl (owed_ne_noEvent pastAccepted owed)
      · exact absurd rfl event
  | consume state ev => exact absurd quiet.1 (by simp [eventLoop, View.next])
  | errorHandler state => exact absurd quiet.1 (by simp [eventLoop, View.next])
  | started _ _ _ => exact fun other member => absurd member List.not_mem_nil
  | entered state =>
      exact (inductionHypothesis ⟨Or.inr allowed.1, quiet.2⟩ started).cons rfl
        fun ends => (endsFor_origin ends).elim
  | callback message =>
      exact (inductionHypothesis ⟨quiet.1, quiet.2.1, allowed.2⟩ started).cons rfl
        (callback_silent quiet.2.2)
  | arrived arrival =>
      exact (inductionHypothesis ⟨quiet.1, quiet.2.1, allowed.2⟩ started).cons rfl
        (arrived_silent quiet.2.2)
  | call call rc =>
      generalize (eventLoop topic).state past = view at inductionHypothesis allowed quiet started
      change (view.nextCall call rc).Quiet at quiet
      change (view.nextCall call rc).control.handler = some handler at started
      simp only [View.Quiet, View.nextCall_phase, View.nextCall_occuredEvent,
        View.nextCall_handler] at quiet started
      rcases quiet with ⟨phase, slot, nothing⟩
      cases requests : call.operationOf with
      | some requesting =>
          have control := View.AllowsCall.requesting allowed requests
          obtain rfl : requesting = handler :=
            Option.some.inj ((congrArg Control.handler control).symm.trans started)
          rw [View.nextCall_owed_of_request view rc requests] at nothing
          have before := inductionHypothesis ⟨phase, slot, congrArg Control.owed control⟩ started
          exact before.cons rfl fun ends => refusal_silent requests nothing (call_endsFor ends).2
      | none =>
          have noneBefore : view.control.owed = none := by
            rcases View.nextCall_owed_of_other view rc requests with same | ⟨rfl, _⟩
            · exact same.symm.trans nothing
            · exact congrArg Control.owed allowed
          refine (inductionHypothesis ⟨phase, slot, noneBefore⟩ started).cons rfl fun ends => ?_
          exact absurd (requests.symm.trans (call_endsFor ends).1) (by simp)
  | processed _ | publishReturned | reset =>
      exact (inductionHypothesis quiet started).cons rfl
        fun ends => (endsFor_origin ends).elim

end Invariants

/-! ## Pending operations -/

private theorem failsSilently_endsFor {state : CloudState} {entry : Action}
    (fails : entry.failsSilently state = true) : entry.endsFor state = true := by
  cases state with
  | waitForInternet =>
      cases entry with
      | call request rc =>
          cases request with
          | m2mPingReq =>
              simp only [Action.failsSilently, decide_eq_true_eq] at fails
              simp [Action.endsFor, Action.refusedFor, DriverCall.operationOf, Handler.result,
                fails]
          | _ => exact Bool.noConfusion fails
      | callback message =>
          cases message with
          | ping u8ErrorCode => rfl
          | _ => exact Bool.noConfusion fails
      | _ => exact Bool.noConfusion fails
  | mqtt =>
      cases entry with
      | call request rc =>
          simp only [Action.failsSilently, decide_eq_true_eq] at fails
          simp [Action.endsFor, Action.refusedFor, fails.1, fails.2, Handler.result]
      | arrived arrival =>
          cases arrival with
          | connack code => rfl
          | _ => exact Bool.noConfusion fails
      | _ => exact Bool.noConfusion fails
  | _ => exact Bool.noConfusion fails

private theorem requestResult_of_acceptedFor {handler : Handler} {entry : Action}
    (accepted : entry.acceptedFor handler.result = true) :
    entry.requestResult handler = some m2mSuccess := by
  cases entry with
  | call request rc =>
      simp only [Action.acceptedFor, Option.map_eq_some_iff, Handler.result_injective.eq_iff,
        exists_eq_right, decide_eq_true_eq] at accepted
      rw [Action.requestResult, if_pos accepted.1, accepted.2]
  | _ => exact Bool.noConfusion accepted

private theorem requestResult_of_refusedFor {handler : Handler} {entry : Action}
    (refused : entry.refusedFor handler.result = true) :
    ∃ rc ≠ m2mSuccess, entry.requestResult handler = some rc := by
  cases entry with
  | call request rc =>
      simp only [Action.refusedFor, Option.map_eq_some_iff, Handler.result_injective.eq_iff,
        exists_eq_right, decide_eq_true_eq] at refused
      exact ⟨rc, refused.2, if_pos refused.1⟩
  | _ => exact Bool.noConfusion refused

private theorem accepted_or_refused {handler : Handler} {entry : Action} {rc : Int}
    (requested : entry.requestResult handler = some rc) :
    entry.acceptedFor handler.result = true ∨ entry.refusedFor handler.result = true := by
  cases entry with
  | call request result =>
      simp only [Action.requestResult, Option.ite_none_right_eq_some] at requested
      simp only [Action.acceptedFor, Action.refusedFor, requested.1, Option.map_some, true_and,
        decide_eq_true_eq]
      exact eq_or_ne result m2mSuccess
  | _ => exact absurd requested (by simp [Action.requestResult])

/-- Between two turns without an event, the operation of the state is pending
unless something has failed silently. -/
theorem operationPending_iff {topic : List UInt8} {log : List Action}
    (accepts : (eventLoop topic).Accepts log) {handler : Handler}
    (polling : ((eventLoop topic).state log).control.phase = .polling)
    (last : ((eventLoop topic).state log).control.handler = some handler)
    (asynchronous : handler ≠ .startSending) (quiet : ((eventLoop topic).state log).Quiet) :
    OperationPending handler.result log ↔
      ∀ entry ∈ since Action.isStarted log, entry.failsSilently handler.result = false := by
  have silently := endsSilently accepts quiet last
  have requests := operation_eq accepts last
  have requested := (operation_requested accepts polling last).resolve_left asynchronous
  obtain ⟨rc, operation⟩ := Option.ne_none_iff_exists'.mp requested
  rw [operation, Option.toList_some] at requests
  constructor
  · rintro ⟨⟨accepted, acceptedMember, isAccepted⟩, noResult⟩ entry member
    by_contra fails
    have ends := failsSilently_endsFor (Bool.eq_true_of_not_eq_false fails)
    rw [Action.endsFor, noResult entry member, Bool.or_false] at ends
    obtain ⟨failure, isFailure, refused⟩ := requestResult_of_refusedFor ends
    have success : m2mSuccess ∈ [rc] :=
      requests ▸ List.mem_filterMap.mpr
        ⟨accepted, acceptedMember, requestResult_of_acceptedFor isAccepted⟩
    have same : failure ∈ [rc] := requests ▸ List.mem_filterMap.mpr ⟨entry, member, refused⟩
    rw [List.mem_singleton] at success same
    exact isFailure (same.trans success.symm)
  · intro noFailure
    have goesOn : ∀ entry ∈ since Action.isStarted log, entry.endsFor handler.result = false := by
      intro entry member
      by_contra ends
      have fails := silently entry member (Bool.eq_true_of_not_eq_false ends)
      exact absurd (fails.symm.trans (noFailure entry member)) (by simp)
    have inWindow : rc ∈ (since Action.isStarted log).filterMap (Action.requestResult handler) := by
      rw [requests]
      exact List.mem_singleton_self rc
    obtain ⟨request, member, result⟩ := List.mem_filterMap.mp inWindow
    refine ⟨⟨request, member, ?_⟩, fun entry member => ?_⟩
    · rcases accepted_or_refused result with accepted | refused
      · exact accepted
      · have ends := goesOn request member
        simp [Action.endsFor, refused] at ends
    · have ends := goesOn entry member
      rw [Action.endsFor, Bool.or_eq_false_iff] at ends
      exact ends.2

/-! ## Runs -/

private theorem initSteps_currentState (world : World) (board : Board) (caller : Caller)
    (first second : DriverCall) :
    (initSteps world board caller first second).1.currentState = board.currentState := by
  simp only [initSteps]
  split
  · rfl
  · split <;> rfl

private theorem cloudStartApp_currentState (world : World) :
    (cloudStartApp world Board.initial).currentState = .init := by
  have wifi : (wifiInit world Board.initial).1.currentState = .init :=
    initSteps_currentState world Board.initial _ _ _
  have tls : (tlsInit world (mqttTopicInit world (wifiInit world Board.initial).1)).1.currentState =
      .init := (initSteps_currentState world _ _ _ _).trans wifi
  simp only [cloudStartApp]
  split
  · exact wifi
  · split <;> exact tls

/-- If an event is pending, the start-up or the entry to a state was last. -/
def Board.Settled (board : Board) : Prop :=
  board.inReset = true ∨ board.occuredEvent = .noEvent ∨ board.currentState = .init ∨
    ∃ state past, board.log = .entered state :: past

theorem run_settled (world : World) (turns : List Turn) : (run world turns).Settled := by
  refine List.foldlRecOn turns (takeTurn world) (motive := Board.Settled) ?_ ?_
  · exact Or.inr (Or.inr (Or.inl (cloudStartApp_currentState world)))
  · intro board settled turn _
    apply takeTurn_cases world board turn Board.Settled
    · exact fun _ => settled
    · exact Or.inl
    · exact fun _ _ => Or.inr (Or.inr (Or.inr ⟨_, _, rfl⟩))
    · exact fun _ empty => Or.inr (Or.inl empty)

private theorem Handler.failsSilently_of_reports {handler : Handler}
    (reports : handler.reports = true) (entry : Action) :
    entry.failsSilently handler.result = false := by
  cases handler with
  | wifiConnect | requestDns | tlsConnect => rfl
  | waitForInternet | mqttConnect | startSending => exact Bool.noConfusion reports

private theorem entered_reports {topic : List UInt8} {past : List Action} {state : CloudState}
    (accepts : (eventLoop topic).Accepts (.entered state :: past))
    (pending : ((eventLoop topic).state past).occuredEvent ≠ .noEvent) (entry : Action) :
    entry.failsSilently state = false := by
  rcases accepts with ⟨⟨handling, _, returning, last, rfl, _⟩, pastAccepted⟩
  obtain ⟨handler, same, reports⟩ :=
    posts_reports pastAccepted handling fun quiet => pending quiet.2.1
  obtain rfl : returning = handler := Option.some.inj (last.symm.trans same)
  exact Handler.failsSilently_of_reports reports entry

/-- **When the connection procedure stalls.** At the end of every turn of every
run that leaves the state machine outside INIT: an event is pending, the
operation of the state is pending, or the state is SENDING, exactly when
nothing has failed silently since the handler of the state started. -/
theorem run_notStalled_iff (world : World) (turns : List Turn)
    (returned : (run world turns).inReset = false)
    (outside : (run world turns).currentState ≠ .init) :
    NotStalled (run world turns) ↔
      ∀ entry ∈ since Action.isStarted (run world turns).log,
        entry.failsSilently (run world turns).currentState = false := by
  obtain ⟨last, operation, conforms⟩ := run_between world turns
  have settled := (run_settled world turns).resolve_left (by simp [returned])
  generalize run world turns = board at *
  have accepts := conforms.follows.accepted
  have reached := conforms.follows.reached
  have polling := congrArg (·.control.phase) reached
  have handlerSame := congrArg (·.control.handler) reached
  have current := currentState_eq accepts polling
  rw [reached] at current
  cases last with
  | none => exact absurd current outside
  | some handler =>
      replace current : board.currentState = handler.result := current
      by_cases event : board.occuredEvent = .noEvent
      · by_cases sending : handler = .startSending
        · subst sending
          rw [NotStalled, current]
          exact iff_of_true (Or.inr (Or.inr rfl)) fun _ _ => rfl
        · have quiet : ((eventLoop (subscriptionTopic world).bytes).state board.log).Quiet := by
            rw [reached]
            exact ⟨Or.inl rfl, event, rfl⟩
          have elsewhere : handler.result ≠ .sending := fun same =>
            sending (Handler.result_injective same)
          rw [current, ← operationPending_iff accepts polling handlerSame sending quiet, NotStalled,
            current]
          simp [event, elsewhere]
      · refine iff_of_true (Or.inl event) fun entry _ => ?_
        obtain ⟨state, past, log⟩ := (settled.resolve_left event).resolve_left outside
        rw [log] at accepts reached
        have slot : ((eventLoop _).state past).occuredEvent = board.occuredEvent :=
          congrArg View.occuredEvent reached
        have same : state = board.currentState := congrArg View.currentState reached
        exact same ▸ entered_reports accepts (slot ▸ event) entry

/-- The answer to the ping has a code that the callback does not know. -/
private def unknownCode : List Turn :=
  [.ofMessages [], .ofMessages [.wifi .dhcpConf], .ofMessages [.ping 3]]

theorem run_notStalled_iff_unknown_code :
    NotStalled (run World.accepting unknownCode) ↔
      ∀ entry ∈ since Action.isStarted (run World.accepting unknownCode).log,
        entry.failsSilently (run World.accepting unknownCode).currentState = false :=
  run_notStalled_iff World.accepting unknownCode (by decide +kernel) (by decide +kernel)

/-- A module that refuses every ping, and accepts everything else. -/
private def refusingPing : World :=
  World.steady fun call =>
    if call = .m2mPingReq then -12 else if call = .socket then 1 else m2mSuccess

private def joined : List Turn := [.ofMessages [], .ofMessages [.wifi .dhcpConf]]

/-- With such a module the board waits for the answer to a ping that was never
sent. -/
theorem run_stalls_on_refused_ping :
    (run refusingPing joined).inReset = false ∧
      (run refusingPing joined).currentState = .waitForInternet ∧
      ¬ NotStalled (run refusingPing joined) := by
  refine ⟨?_, ?_, ?_⟩ <;> decide +kernel

end MicrochipDay.Cloud
