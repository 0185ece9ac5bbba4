import MicrochipDay.Cloud.RunTask
import MicrochipDay.Library.EventLog

/-!
Owns the protocol of the event loop: which entries may follow each other in
the log of the program, as a machine over the few variables that decide it.

The machine is this development's account of what the program is for, not a
translation of it. The program's functions are proved to keep to it in
`Cloud.Conformance`; the properties of runs are proved of the machine.
-/

namespace MicrochipDay.Cloud

open MicrochipDay.Umqtt
open MicrochipDay.Library.EventLog
open MicrochipDay.Library.Mqtt

/-! ## Packets on the wire -/

def packetType (bytes : List UInt8) : Option UInt8 := bytes.head?.map umqttHeaderType

/-- A whole SUBSCRIBE packet for one topic. -/
def SubscribesTo (topic bytes : List UInt8) : Prop :=
  ∃ packetId,
    decode bytes = some (.subscribe { packetId := packetId, filters := [(topic, 0)] }, [])

/-! ## Operations and events -/

def Handler.result : Handler → CloudState
  | .wifiConnect => .wifiConnect
  | .waitForInternet => .waitForInternet
  | .requestDns => .dnsRequest
  | .tlsConnect => .tlsConnect
  | .mqttConnect => .mqtt
  | .startSending => .sending

/-- The handlers that look at the result of their driver call. -/
def Handler.reports : Handler → Bool
  | .wifiConnect | .requestDns | .tlsConnect => true
  | .waitForInternet | .mqttConnect | .startSending => false

/-- The handler whose asynchronous operation a driver call requests. -/
def DriverCall.operationOf : DriverCall → Option Handler
  | .m2mWifiConnect => some .wifiConnect
  | .m2mPingReq => some .waitForInternet
  | .gethostbyname => some .requestDns
  | .connect _ _ => some .tlsConnect
  | .send _ bytes => if packetType bytes = some umqttConnectType then some .mqttConnect else none
  | _ => none

/-- The event that the callback for a message posts. -/
def WincMessage.event : WincMessage → CloudEvent
  | .wifi .dhcpConf => .success
  | .wifi (.conStateChanged currState) =>
      if currState = m2mWifiDisconnected then .fail else .noEvent
  | .wifi .other => .noEvent
  | .socket _ (.connect (some s8Error)) => if s8Error ≥ 0 then .success else .fail
  | .socket _ (.connect none) => .fail
  | .socket _ .send => .noEvent
  | .socket _ (.recv (some pstrRecv)) => if pstrRecv.s16BufferSize > 0 then .noEvent else .fail
  | .socket _ (.recv none) => .fail
  | .socket _ .other => .noEvent
  | .dns serverIP => if serverIP ≠ 0 then .success else .fail
  | .ping u8ErrorCode =>
      if u8ErrorCode = pingErrSuccess then .success
      else if u8ErrorCode = pingErrDestUnreach then .fail
      else if u8ErrorCode = pingErrTimeout then .fail
      else .noEvent

abbrev Owed : Type := Option (Caller × CloudEvent)

/-- What a message obliges its callback to post. -/
def WincMessage.owed (message : WincMessage) : Owed :=
  if message.event = .noEvent then none else some (.callback message, message.event)

/-- What the result of its operation obliges a handler to post. -/
def Handler.owed (handler : Handler) (rc : Int) : Owed :=
  if rc ≠ m2mSuccess ∧ handler.reports then some (.handler handler, .fail) else none

/-- What a packet obliges the MQTT callbacks to post. -/
def arrivalOwed : Arrival → Owed
  | .connack code => if code = 0 then some (.umqttConnected, .success) else none
  | .publish _ => some (.umqttReceived, .success)
  | _ => none

def stateAfter (state : UmqttState) : Arrival → UmqttState
  | .connack code => if code = 0 then .connected else .failed
  | _ => state

def Caller.startsUp : Caller → Bool
  | .wifiInit | .tlsInit | .startApp => true
  | _ => false

/-! ## The machine -/

inductive Phase where
  | polling
  /-- An event has been taken out of `occured_event`. -/
  | consumed (ev : CloudEvent)
  | dispatching
  | handling
deriving DecidableEq, Repr

structure Control where
  phase : Phase
  owed : Owed
  handler : Option Handler
  /-- The result of its operation, once it has requested it. -/
  operation : Option Int
deriving DecidableEq, Repr

def Control.startUp : Control := ⟨.polling, none, none, none⟩

/-- The variables that decide what may happen next. -/
structure View where
  control : Control
  currentState : CloudState
  occuredEvent : CloudEvent
  endpointIp : UInt32
  mqttState : UmqttState
  subscribed : Bool
deriving DecidableEq, Repr

namespace View

def initial : View := ⟨.startUp, .init, .noEvent, 0, .init, false⟩

def isPolling (view : View) : Prop := view.control.phase = .polling ∧ view.control.owed = none

/-- A handler runs and has not requested its operation yet. -/
def isRequesting (view : View) (handler : Handler) : Prop :=
  view.control = ⟨.handling, none, some handler, none⟩

def AllowsCall (topic : List UInt8) (view : View) (call : DriverCall) : Prop :=
  match call.operationOf with
  | some handler =>
      view.isRequesting handler ∧ ∀ sock ip, call = .connect sock ip → ip = view.endpointIp
  | none =>
      match call with
      | .socket => view.isRequesting .tlsConnect
      | .send _ bytes =>
          view.isPolling ∧
            (packetType bytes = some umqttSubscribeType →
              view.subscribed = false ∧ SubscribesTo topic bytes)
      | _ => view.control.phase = .polling ∨ view.control.phase = .handling

def Allows (topic : List UInt8) (view : View) : Action → Prop
  | .receiveEvent caller ev =>
      view.control.owed = some (caller, ev) ∨
        view.control = .startUp ∧ caller.startsUp ∧ ev ≠ .noEvent
  | .consume state ev =>
      view.isPolling ∧ state = view.currentState ∧ ev = view.occuredEvent ∧ ev ≠ .noEvent
  | .errorHandler state => view.control.phase = .consumed .fail ∧ state = view.currentState
  | .started handler mqttState subInit =>
      (view.control.phase = .consumed .success ∨ view.control.phase = .dispatching) ∧
        handler = Cloud.handler view.currentState ∧ mqttState = view.mqttState ∧
        view.subscribed = decide (subInit ≠ 0)
  | .entered state =>
      view.control.phase = .handling ∧ view.control.owed = none ∧
        ∃ handler, view.control.handler = some handler ∧ state = handler.result ∧
          (handler = .startSending ∨ view.control.operation ≠ none)
  | .callback _ => view.isPolling
  | .processed _ => view.isPolling
  | .arrived _ => view.isPolling
  | .call call _ => view.AllowsCall topic call
  | .publishReturned => view.isPolling ∧ view.subscribed = true
  | .reset => view.isPolling

def nextCall (view : View) (call : DriverCall) (rc : Int) : View :=
  match call.operationOf with
  | some handler =>
      { view with
        control := { view.control with operation := some rc, owed := handler.owed rc }
        mqttState := if handler = .mqttConnect then .connecting else view.mqttState }
  | none =>
      match call with
      | .socket =>
          { view with
            control := { view.control with
              owed := if rc < 0 then some (.handler .tlsConnect, .fail) else none } }
      | .send _ bytes =>
          if packetType bytes = some umqttSubscribeType then { view with subscribed := true }
          else view
      | _ => view

def next (view : View) : Action → View
  | .receiveEvent _ ev =>
      { view with control := { view.control with owed := none }, occuredEvent := ev }
  | .consume _ ev =>
      { view with control := { view.control with phase := .consumed ev }, occuredEvent := .noEvent }
  | .errorHandler state =>
      { view with
        control := { view.control with phase := .dispatching }, currentState := errorState state }
  | .started handler _ _ =>
      { view with
        control := ⟨.handling, view.control.owed, some handler, none⟩
        endpointIp := if handler = .requestDns then 0 else view.endpointIp }
  | .entered state =>
      { view with control := { view.control with phase := .polling }, currentState := state }
  | .callback message =>
      { view with
        control := { view.control with owed := message.owed }
        endpointIp :=
          match message with
          | .dns serverIP => if serverIP ≠ 0 then serverIP else view.endpointIp
          | _ => view.endpointIp }
  | .processed _ => view
  | .arrived arrival =>
      { view with
        control := { view.control with owed := arrivalOwed arrival }
        mqttState := stateAfter view.mqttState arrival }
  | .call call rc => view.nextCall call rc
  | .publishReturned => view
  | .reset => view

end View

theorem View.AllowsCall.running {topic : List UInt8} {view : View} {call : DriverCall}
    (allowed : view.AllowsCall topic call) :
    view.control.phase = .polling ∨ view.control.phase = .handling := by
  unfold View.AllowsCall at allowed
  cases requests : call.operationOf with
  | some handler =>
      rw [requests] at allowed
      exact Or.inr (congrArg Control.phase allowed.1)
  | none =>
      rw [requests] at allowed
      cases call with
      | socket => exact Or.inr (congrArg Control.phase allowed)
      | send sock bytes => exact Or.inl allowed.1.1
      | nmBspInit | m2mWifiInit | m2mSslInit | m2mSslSetActiveCiphersuites | socketInit | recv _
        | close _ => exact allowed
      | m2mWifiConnect | m2mPingReq | gethostbyname | connect _ _ =>
          simp [DriverCall.operationOf] at requests

theorem View.AllowsCall.requesting {topic : List UInt8} {view : View} {call : DriverCall}
    {handler : Handler} (allowed : view.AllowsCall topic call)
    (requests : call.operationOf = some handler) : view.isRequesting handler := by
  unfold View.AllowsCall at allowed
  rw [requests] at allowed
  exact allowed.1

section NextCall

variable (view : View) (call : DriverCall) (rc : Int)

/-- A driver call changes neither the event slot, nor the state, the address,
the phase or the handler. -/
theorem View.nextCall_frame :
    (view.nextCall call rc).occuredEvent = view.occuredEvent ∧
      (view.nextCall call rc).currentState = view.currentState ∧
      (view.nextCall call rc).endpointIp = view.endpointIp ∧
      (view.nextCall call rc).control.phase = view.control.phase ∧
      (view.nextCall call rc).control.handler = view.control.handler := by
  unfold View.nextCall
  cases call.operationOf with
  | some handler => exact ⟨rfl, rfl, rfl, rfl, rfl⟩
  | none =>
      cases call with
      | send sock bytes =>
          dsimp only
          split <;> exact ⟨rfl, rfl, rfl, rfl, rfl⟩
      | _ => exact ⟨rfl, rfl, rfl, rfl, rfl⟩

@[simp] theorem View.nextCall_occuredEvent :
    (view.nextCall call rc).occuredEvent = view.occuredEvent :=
  (View.nextCall_frame view call rc).1

@[simp] theorem View.nextCall_currentState :
    (view.nextCall call rc).currentState = view.currentState :=
  (View.nextCall_frame view call rc).2.1

@[simp] theorem View.nextCall_endpointIp :
    (view.nextCall call rc).endpointIp = view.endpointIp :=
  (View.nextCall_frame view call rc).2.2.1

@[simp] theorem View.nextCall_phase :
    (view.nextCall call rc).control.phase = view.control.phase :=
  (View.nextCall_frame view call rc).2.2.2.1

@[simp] theorem View.nextCall_handler :
    (view.nextCall call rc).control.handler = view.control.handler :=
  (View.nextCall_frame view call rc).2.2.2.2

theorem View.nextCall_mqttState :
    (view.nextCall call rc).mqttState =
      if call.operationOf = some .mqttConnect then .connecting else view.mqttState := by
  unfold View.nextCall
  cases requests : call.operationOf with
  | some handler => simp
  | none =>
      cases call with
      | send sock bytes =>
          dsimp only
          split <;> simp
      | _ => rfl

theorem View.nextCall_operation :
    (view.nextCall call rc).control.operation =
      if call.operationOf = none then view.control.operation else some rc := by
  unfold View.nextCall
  cases requests : call.operationOf with
  | some handler => rfl
  | none =>
      cases call with
      | send sock bytes =>
          dsimp only
          split <;> rfl
      | _ => rfl

theorem View.nextCall_owed_of_request {call : DriverCall} {handler : Handler}
    (requests : call.operationOf = some handler) :
    (view.nextCall call rc).control.owed = handler.owed rc := by
  unfold View.nextCall
  rw [requests]

/-- A call that requests no operation may only come to owe the failure of
`socket()`. -/
theorem View.nextCall_owed_of_other {call : DriverCall} (other : call.operationOf = none) :
    (view.nextCall call rc).control.owed = view.control.owed ∨
      call = .socket ∧ (view.nextCall call rc).control.owed =
        if rc < 0 then some (.handler .tlsConnect, .fail) else none := by
  unfold View.nextCall
  rw [other]
  cases call with
  | socket => exact Or.inr ⟨rfl, rfl⟩
  | send sock bytes =>
      dsimp only
      split <;> exact Or.inl rfl
  | _ => exact Or.inl rfl

theorem View.nextCall_owed {caller : Caller} {ev : CloudEvent} (notFail : ev ≠ .fail)
    (owed : (view.nextCall call rc).control.owed = some (caller, ev)) :
    view.control.owed = some (caller, ev) := by
  cases requests : call.operationOf with
  | some handler =>
      rw [View.nextCall_owed_of_request view rc requests, Handler.owed] at owed
      split at owed
      · simp only [Option.some.injEq, Prod.mk.injEq] at owed
        exact absurd owed.2.symm notFail
      · exact absurd owed (by simp)
  | none =>
      rcases View.nextCall_owed_of_other view rc requests with same | ⟨_, failing⟩
      · exact same.symm.trans owed
      · rw [failing] at owed
        split at owed
        · simp only [Option.some.injEq, Prod.mk.injEq] at owed
          exact absurd owed.2.symm notFail
        · exact absurd owed (by simp)

end NextCall

/-- The event loop of a program that subscribes to `topic`. -/
def eventLoop (topic : List UInt8) : LogMachine View Action where
  initial := .initial
  next := View.next
  Allowed := View.Allows topic

end MicrochipDay.Cloud
