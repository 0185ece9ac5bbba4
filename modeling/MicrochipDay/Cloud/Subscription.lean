import MicrochipDay.Cloud.Progress

/-!
Owns the subscription of an MQTT session. `sub_init` is set once and never
cleared, while every CONNECT asks for a clean session, so only a session that
is opened before the first publishing is subscribed.
-/

namespace MicrochipDay.Cloud

open MicrochipDay.Umqtt
open MicrochipDay.Library.EventLog
open MicrochipDay.Library.Mqtt

/-! ## SUBSCRIBE packets -/

/-- A packet with the type SUBSCRIBE is handed to `send()`. -/
def Action.isSubscribe : Action → Bool
  | .call (.send _ bytes) _ => packetType bytes = some umqttSubscribeType
  | _ => false

/-- Some entry hands a SUBSCRIBE packet for the topic to `send()`. -/
def Subscribed (topic : List UInt8) (entries : List Action) : Prop :=
  ∃ sock bytes rc, .call (.send sock bytes) rc ∈ entries ∧ SubscribesTo topic bytes

private theorem decodeBody_subscribe_kind {kind flags : Nat} {body : List UInt8}
    {packet : Subscribe} (decoded : decodeBody kind flags body = some (.subscribe packet)) :
    kind = 8 := by
  simp only [decodeBody] at decoded
  split_ifs at decoded with connect publish subscribe ping
  · simp at decoded
  · simp at decoded
  · exact subscribe.1
  · simp at decoded

theorem SubscribesTo.packetType_eq {topic bytes : List UInt8}
    (subscribes : SubscribesTo topic bytes) :
    packetType bytes = some umqttSubscribeType := by
  rcases subscribes with ⟨packetId, decoded⟩
  cases bytes with
  | nil => simp [decode] at decoded
  | cons header rest =>
      simp only [decode, Option.bind_eq_some_iff] at decoded
      rcases decoded with ⟨length, _, decoded⟩
      split at decoded
      · simp at decoded
      · simp only [Option.map_eq_some_iff, Prod.mk.injEq] at decoded
        rcases decoded with ⟨packet, body, rfl, _⟩
        have kind := decodeBody_subscribe_kind body
        have type : umqttHeaderType header = umqttSubscribeType := by
          rw [umqttHeaderType, ← UInt8.toNat_inj, UInt8.toNat_shiftRight]
          simp only [Nat.shiftRight_eq_div_pow]
          exact kind
        simp [packetType, type]

private theorem not_isSubscribe_of_isConnect {entry : Action} (connects : entry.isConnect = true) :
    entry.isSubscribe = false := by
  cases entry with
  | call call rc =>
      cases call with
      | send sock bytes =>
          simp only [Action.isConnect, DriverCall.operationOf] at connects
          split at connects
          · rename_i type
            simp only [Action.isSubscribe, type]
            decide
          · simp at connects
      | _ => rfl
  | _ => rfl

/-! ## The flag -/

/-- `sub_init` when a handler starts. -/
def Action.startedSubInit : Action → Option UInt8
  | .started _ _ subInit => some subInit
  | _ => none

private theorem nextCall_subscribed (view : View) (call : DriverCall) (rc : Int) :
    (view.nextCall call rc).subscribed =
      ((Action.call call rc).isSubscribe || view.subscribed) := by
  unfold View.nextCall
  cases requests : call.operationOf with
  | some handler =>
      have other : (Action.call call rc).isSubscribe = false := by
        cases call with
        | send sock bytes =>
            apply not_isSubscribe_of_isConnect
            simp only [DriverCall.operationOf] at requests
            split at requests
            · rename_i type
              simp [Action.isConnect, DriverCall.operationOf, type]
            · simp at requests
        | _ => rfl
      simp [other]
  | none =>
      cases call with
      | send sock bytes =>
          simp only [Action.isSubscribe]
          split <;> simp_all
      | _ => rfl

private theorem allowsCall_subscribe {topic : List UInt8} {view : View} {call : DriverCall}
    {rc : Int} (allowed : view.AllowsCall topic call)
    (subscribes : (Action.call call rc).isSubscribe = true) :
    view.control.phase = .polling ∧ view.subscribed = false ∧
      Subscribed topic [.call call rc] := by
  cases call with
  | send sock bytes =>
      have type : packetType bytes = some umqttSubscribeType := by
        simpa [Action.isSubscribe] using subscribes
      have noOperation : (DriverCall.send sock bytes).operationOf = none := by
        simp only [DriverCall.operationOf, type]
        rfl
      simp only [View.AllowsCall, noOperation] at allowed
      rcases allowed with ⟨polling, guarded⟩
      exact ⟨polling.1, (guarded type).1, sock, bytes, rc, List.mem_singleton_self _,
        (guarded type).2⟩
  | _ => exact absurd subscribes (by simp [Action.isSubscribe])

section Flag

variable {topic : List UInt8} {log : List Action} (accepts : (eventLoop topic).Accepts log)
include accepts

theorem subscribed_eq :
    ((eventLoop topic).state log).subscribed = log.any Action.isSubscribe := by
  apply accepts.invariant (fun view log =>
    view.subscribed = log.any Action.isSubscribe) rfl
  intro entry past _ inductionHypothesis _
  rw [List.any_cons, ← inductionHypothesis]
  cases entry with
  | call call rc => exact nextCall_subscribed _ call rc
  | _ => rfl

theorem subscribed_while_handling : ((eventLoop topic).state log).control.phase = .handling →
    ∃ subInit, log.findSome? Action.startedSubInit = some subInit ∧
      ((eventLoop topic).state log).subscribed = decide (subInit ≠ 0) := by
  apply accepts.invariant (fun view log => view.control.phase = .handling →
    ∃ subInit, log.findSome? Action.startedSubInit = some subInit ∧
      view.subscribed = decide (subInit ≠ 0))
    (fun handling => absurd handling (by simp [eventLoop, View.initial, Control.startUp]))
  intro entry past _ inductionHypothesis allowed
  cases entry with
  | started handler mqttState subInit => exact fun _ => ⟨subInit, rfl, allowed.2.2.2⟩
  | consume state ev => exact fun handling => Phase.noConfusion handling
  | errorHandler state => exact fun handling => Phase.noConfusion handling
  | entered state => exact fun handling => Phase.noConfusion handling
  | call call rc =>
      intro handling
      simp only [eventLoop, View.next, View.nextCall_phase] at handling
      obtain ⟨subInit, started, same⟩ := inductionHypothesis handling
      refine ⟨subInit, started, ?_⟩
      have other : (Action.call call rc).isSubscribe = false := by
        by_contra subscribes
        have polling := (allowsCall_subscribe allowed (by simpa using subscribes)).1
        exact absurd (polling.symm.trans handling) (by simp)
      simp only [eventLoop, View.next, nextCall_subscribed, other, Bool.false_or]
      exact same
  | _ => exact inductionHypothesis

/-- Only the first SUBSCRIBE is ever sent, and it is for the topic. -/
theorem first_subscribe {newer past : List Action} {entry : Action}
    (split : log = newer ++ entry :: past) (subscribes : entry.isSubscribe = true) :
    past.any Action.isSubscribe = false ∧ Subscribed topic [entry] := by
  subst split
  have pastAccepted := accepts.of_append.2
  cases entry with
  | call call rc =>
      obtain ⟨_, clear, subscribed⟩ := allowsCall_subscribe accepts.allowed subscribes
      exact ⟨(subscribed_eq pastAccepted).symm.trans clear, subscribed⟩
  | _ => exact absurd subscribes (by simp [Action.isSubscribe])

/-- Whether a session is subscribed once `publishADC` has returned in it is
decided by the flag at its CONNECT. -/
theorem subscribed_iff {newer past : List Action} {connect : Action}
    (split : log = newer ++ connect :: past) (connects : connect.isConnect = true)
    (published : .publishReturned ∈ newer) :
    Subscribed topic newer ↔ past.findSome? Action.startedSubInit = some 0 := by
  subst split
  have pastAccepted := accepts.of_append.2
  obtain ⟨subInit, started, flag⟩ : ∃ subInit,
      past.findSome? Action.startedSubInit = some subInit ∧
        ((eventLoop topic).state past).subscribed = decide (subInit ≠ 0) := by
    apply subscribed_while_handling pastAccepted
    cases connect with
    | call call rc =>
        have requests : call.operationOf = some .mqttConnect := by
          simpa [Action.isConnect] using connects
        have allowed := accepts.allowed
        simp only [eventLoop, View.Allows, View.AllowsCall, requests] at allowed
        exact congrArg Control.phase allowed.1
    | _ => exact absurd connects (by simp [Action.isConnect])
  rw [subscribed_eq pastAccepted] at flag
  rw [started, Option.some.injEq]
  constructor
  · rintro ⟨sock, bytes, rc, member, subscribes⟩
    obtain ⟨after, before, rfl⟩ := List.append_of_mem member
    have isSubscribe : (Action.call (.send sock bytes) rc).isSubscribe = true := by
      simp [Action.isSubscribe, subscribes.packetType_eq]
    have clear := (first_subscribe accepts
      (show _ = after ++ _ :: (before ++ connect :: past) by simp) isSubscribe).1
    rw [List.any_append, List.any_cons] at clear
    have none : past.any Action.isSubscribe = false := by
      simp only [Bool.or_eq_false_iff] at clear
      exact clear.2.2
    simpa [none] using flag
  · rintro rfl
    obtain ⟨after, before, rfl⟩ := List.append_of_mem published
    have suffix : (eventLoop topic).Accepts (.publishReturned :: (before ++ connect :: past)) := by
      have split : (eventLoop topic).Accepts
          (after ++ .publishReturned :: (before ++ connect :: past)) := by simpa using accepts
      exact split.of_append
    have set := suffix.1.2
    rw [subscribed_eq suffix.2, List.any_append, List.any_cons, flag,
      not_isSubscribe_of_isConnect connects] at set
    have sent : before.any Action.isSubscribe = true := by simpa using set
    obtain ⟨entry, member, isSubscribe⟩ := List.any_eq_true.mp sent
    obtain ⟨later, earlier, rfl⟩ := List.append_of_mem member
    obtain ⟨_, sock, bytes, rc, same, subscribes⟩ := first_subscribe suffix.2
      (show _ = later ++ _ :: (earlier ++ connect :: past) by simp) isSubscribe
    rw [List.mem_singleton] at same
    exact ⟨sock, bytes, rc, by simp [same], subscribes⟩

end Flag

/-! ## Runs -/

/-- **Which sessions are subscribed.** At every moment of every run: once
`publishADC` has returned after a CONNECT, a SUBSCRIBE for the program's topic
has been sent after that CONNECT exactly when `sub_init` was 0 at the start of
the handler that sent the CONNECT. -/
theorem run_subscribes_iff (world : World) (turns : List Turn)
    {later newer past : List Action} {connect : Action}
    (split : (run world turns).log = later ++ (newer ++ connect :: past))
    (connects : connect.isConnect = true) (published : .publishReturned ∈ newer) :
    Subscribed (run world turns).mqttTopicSub.bytes newer ↔
      past.findSome? Action.startedSubInit = some 0 := by
  obtain ⟨_, _, conforms⟩ := run_between world turns
  have accepts := conforms.follows.accepted
  rw [split] at accepts
  rw [conforms.topicSub]
  exact subscribed_iff accepts.of_append rfl connects published

private def session : List Turn :=
  [.ofMessages [], .ofMessages [.wifi .dhcpConf], .ofMessages [.ping pingErrSuccess],
    .ofMessages [.dns 1], .ofMessages [.socket 1 (.connect (some 0))],
    .ofMessages [.socket 1 (.recv (some ⟨[0x20, 2, 0, 0], 4, by decide⟩))],
    ⟨[.rtc (.count 1), .rtc .interrupt], []⟩]

/-- The CONNECT of the first session and the handler that sent it. -/
theorem run_subscribes_iff_first_session :
    Subscribed (run World.accepting session).mqttTopicSub.bytes
        ((run World.accepting session).log.take 11) ↔
      ((run World.accepting session).log.drop 12).findSome? Action.startedSubInit = some 0 :=
  have split : (run World.accepting session).log =
      [] ++ ((run World.accepting session).log.take 11 ++
        (run World.accepting session).log.getD 11 .reset ::
          (run World.accepting session).log.drop 12) := by decide +kernel
  run_subscribes_iff World.accepting session split (by decide +kernel) (by decide +kernel)

/-- Once `publishADC` has returned since the most recent CONNECT, a SUBSCRIBE
has been sent since then. -/
def EverySessionSubscribed (topic : List UInt8) (log : List Action) : Prop :=
  ∀ later newer connect past, log = later ++ (newer ++ connect :: past) →
    connect.isConnect = true → (∀ entry ∈ newer, entry.isConnect = false) →
      .publishReturned ∈ newer → Subscribed topic newer

private theorem Subscribed.any_isSubscribe {topic : List UInt8} {entries : List Action}
    (subscribed : Subscribed topic entries) : entries.any Action.isSubscribe = true := by
  rcases subscribed with ⟨sock, bytes, rc, member, subscribes⟩
  refine List.any_eq_true.mpr ⟨_, member, ?_⟩
  simp [Action.isSubscribe, subscribes.packetType_eq]

/-- The connection is lost after the first publishing and set up again. -/
private def reconnection : List Turn :=
  session ++ .ofMessages [.wifi (.conStateChanged m2mWifiDisconnected)] :: session.tail

/-- The second session publishes without a subscription. -/
theorem run_leaves_second_session_unsubscribed :
    ¬ EverySessionSubscribed (run World.accepting reconnection).mqttTopicSub.bytes
      (run World.accepting reconnection).log := by
  intro every
  have subscribed := every [] ((run World.accepting reconnection).log.take 10)
    ((run World.accepting reconnection).log.getD 10 .reset)
    ((run World.accepting reconnection).log.drop 11) (by decide +kernel) (by decide +kernel)
    (by decide +kernel) (by decide +kernel)
  exact absurd subscribed.any_isSubscribe (by decide +kernel)

end MicrochipDay.Cloud
