import MicrochipDay.Cloud.Conformance

/-!
Owns what becomes of a packet that `send()` refuses. `umqtt_send_packet`
ignores the result and empties the transmit ring, and the operations above it
count the packet as sent, so a refused packet is gone and nothing posts an
event for it.
-/

namespace MicrochipDay.Cloud

open MicrochipDay.Umqtt
open MicrochipDay.MqttClient

/-! ## Operations -/

/-- An operation that builds a packet, with its arguments; `publishADC` builds
two until it has subscribed. -/
inductive PacketOp where
  | connect
  | publish (data : List UInt8) (datalen : UInt8)
  | subscribe
  | ping
  | publishADC
deriving DecidableEq, Repr

/-- An operation on the connection of the program: its packets go to `send()`. -/
def perform (world : World) (board : Board) (operated : UmqttConnection × List (List UInt8)) :
    Board :=
  { board with umqttConn := operated.1 }.sendAll world operated.2

namespace PacketOp

variable (world : World) (board : Board)

def run : PacketOp → Board
  | .connect => (mqttConnect world board).1
  | .publish data datalen =>
      perform world board (mqttClientPublish board.mqttTopic board.umqttConn data datalen)
  | .subscribe => Cloud.subscribe world board
  | .ping => perform world board (umqttPing board.umqttConn)
  | .publishADC => (Cloud.publishADC world board).1

/-- The packets that an operation builds, in the order of the sends. -/
def packets : PacketOp → List (List UInt8)
  | .connect => (mqttClientConnect board.umqttConn).2
  | .publish data datalen =>
      (mqttClientPublish board.mqttTopic board.umqttConn data datalen).2
  | .subscribe => (mqttClientSubscribe board.mqttTopicSub board.umqttConn).2
  | .ping => (umqttPing board.umqttConn).2
  | .publishADC =>
      let msg := json (board.counter + 1) (UInt16.ofInt (world.temperature board.log))
        board.ioStatus
      let published := cloudPublish board.mqttTopic board.umqttConn msg
      published.2 ++
        if board.subInit = 0 then (mqttClientSubscribe board.mqttTopicSub published.1).2 else []

/-- The socket that the sends of an operation go to: `mqttConnect` sets the
pointer first. -/
def socket : PacketOp → Option Int
  | .connect => some board.tcpClientSocket
  | _ => if board.socketPointerSet then some board.tcpClientSocket else none

end PacketOp

/-! ## What is asked of an operation -/

/-- The entries that were written between two boards of a run. -/
def writtenSince (board after : Board) : List Action :=
  after.log.take (after.log.length - board.log.length)

def Action.refusedSend : Action → Option (List UInt8)
  | .call (.send _ bytes) rc => if rc = m2mSuccess then none else some bytes
  | _ => none

/-- A packet that `send()` refused is still in the transmit ring afterwards or a
failure has been posted, and a refused subscription is not recorded as done. -/
structure LosesNothing (world : World) (op : PacketOp) (board : Board) : Prop where
  kept : ∀ entry ∈ writtenSince board (op.run world board), ∀ bytes,
    entry.refusedSend = some bytes →
      bytes <:+: (op.run world board).umqttConn.txbuff.contents ∨
        ∃ caller, .receiveEvent caller .fail ∈ writtenSince board (op.run world board)
  notRecorded : ∀ entry ∈ writtenSince board (op.run world board), ∀ bytes,
    entry.refusedSend = some bytes → packetType bytes = some umqttSubscribeType →
      (op.run world board).umqttConn.nackSubscribe = board.umqttConn.nackSubscribe ∧
        (op.run world board).subInit = board.subInit

/-- `send()` accepts the packets, each given the log that it finds. -/
def SendsAccepted (world : World) (sock : Option Int) (log : List Action) :
    List (List UInt8) → Prop
  | [] => True
  | bytes :: packets =>
      let rc := world.reply log (.send sock bytes)
      rc = m2mSuccess ∧ SendsAccepted world sock (.call (.send sock bytes) rc :: log) packets

/-- `send()` accepts every packet of the operation. -/
def PacketOp.Accepted (world : World) (board : Board) (op : PacketOp) : Prop :=
  SendsAccepted world (op.socket board) board.log (op.packets world board)

instance decidableSendsAccepted (world : World) (sock : Option Int) :
    ∀ log packets, Decidable (SendsAccepted world sock log packets)
  | _, [] => isTrue trivial
  | log, bytes :: packets =>
      have := decidableSendsAccepted world sock
        (.call (.send sock bytes) (world.reply log (.send sock bytes)) :: log) packets
      inferInstanceAs (Decidable (_ ∧ _))

instance (world : World) (board : Board) (op : PacketOp) : Decidable (op.Accepted world board) :=
  inferInstanceAs (Decidable (SendsAccepted ..))

/-! ## The log of an operation -/

/-- The log behind the sends of some packets. -/
def sendLog (world : World) (sock : Option Int) (log : List Action) :
    List (List UInt8) → List Action
  | [] => log
  | bytes :: packets =>
      let call := .send sock bytes
      sendLog world sock (.call call (world.reply log call) :: log) packets

theorem sendLog_append (world : World) (sock : Option Int) (log : List Action)
    (first second : List (List UInt8)) :
    sendLog world sock log (first ++ second) =
      sendLog world sock (sendLog world sock log first) second := by
  induction first generalizing log with
  | nil => rfl
  | cons bytes packets inductionHypothesis => exact inductionHypothesis _

/-- Sending changes nothing but the log. -/
theorem sendAll_eq (world : World) (board : Board) (packets : List (List UInt8)) :
    board.sendAll world packets =
      { board with
        log := sendLog world
          (if board.socketPointerSet then some board.tcpClientSocket else none) board.log
          packets } := by
  induction packets generalizing board with
  | nil => rfl
  | cons bytes packets inductionHypothesis =>
      unfold Board.sendAll
      rw [List.foldl_cons]
      exact inductionHypothesis _

/-- The entries of the sends are calls with those packets, and `send()` accepted
all of them exactly if none of the entries is a refusal. -/
theorem sendLog_spec (world : World) (sock : Option Int) (log : List Action)
    (packets : List (List UInt8)) :
    ∃ newer, sendLog world sock log packets = newer ++ log ∧
      (∀ entry ∈ newer, ∃ bytes ∈ packets, ∃ rc, entry = .call (.send sock bytes) rc) ∧
      (SendsAccepted world sock log packets ↔
        ∀ entry ∈ newer, entry.refusedSend = none) := by
  induction packets generalizing log with
  | nil => exact ⟨[], rfl, by simp, by simp [SendsAccepted]⟩
  | cons bytes packets inductionHypothesis =>
      obtain ⟨newer, logged, calls, accepted⟩ := inductionHypothesis
        (.call (.send sock bytes) (world.reply log (.send sock bytes)) :: log)
      refine ⟨newer ++ [.call (.send sock bytes) (world.reply log (.send sock bytes))], ?_, ?_, ?_⟩
      · rw [List.append_assoc]
        exact logged
      · intro entry member
        rcases List.mem_append.mp member with later | first
        · obtain ⟨sent, inside, rc, same⟩ := calls entry later
          exact ⟨sent, List.mem_cons_of_mem _ inside, rc, same⟩
        · exact ⟨bytes, List.mem_cons_self, _, List.mem_singleton.mp first⟩
      · unfold SendsAccepted
        dsimp only
        rw [accepted]
        simp [Action.refusedSend, or_imp, forall_and, and_comm]

/-! ## Packets are not empty -/

section Packets

variable {conn : UmqttConnection} (ready : TxReady conn)
include ready

theorem sendParts_ne_nil (header : UInt8) (parts : List (List UInt8)) :
    ∀ bytes ∈ (sendParts conn ([header] :: parts)).2, bytes ≠ [] := by
  obtain ⟨more, sends⟩ := sendParts_first ready header parts
  intro bytes member
  rw [sends] at member
  obtain rfl := List.mem_singleton.mp member
  exact List.cons_ne_nil _ _

theorem umqttPublish_ne_nil (topic : CString) (data : List UInt8) (datalen : Int) :
    ∀ bytes ∈ (umqttPublish conn topic data datalen).2, bytes ≠ [] := by
  obtain ⟨parts, pushed⟩ := umqttPublish_parts conn topic data datalen
  rw [pushed]
  exact sendParts_ne_nil ready _ parts

theorem umqttPublish_ready (topic : CString) (data : List UInt8) (datalen : Int) :
    TxReady (umqttPublish conn topic data datalen).1 := by
  obtain ⟨parts, pushed⟩ := umqttPublish_parts conn topic data datalen
  rw [pushed]
  exact sendParts_ready ready _

theorem umqttSubscribe_ne_nil (topic : CString) :
    ∀ bytes ∈ (umqttSubscribe conn topic).2, bytes ≠ [] := by
  obtain ⟨parts, pushed⟩ := umqttSubscribe_parts conn topic
  rw [pushed]
  refine sendParts_ne_nil ?_ _ parts
  exact ready.of_txbuff rfl

theorem mqttClientConnect_ne_nil : ∀ bytes ∈ (mqttClientConnect conn).2, bytes ≠ [] := by
  obtain ⟨parts, pushed⟩ := umqttConnect_parts
    { conn with txbuff := umqttCircInit conn.txbuff, rxbuff := umqttCircInit conn.rxbuff }
  rw [mqttClientConnect, pushed]
  exact sendParts_ne_nil (resetForConnect_ready ready.idle.valid.storage ready.capacity) _ parts

theorem umqttPing_ne_nil : ∀ bytes ∈ (umqttPing conn).2, bytes ≠ [] := by
  have pinging : TxReady { conn with nackPing := cInt 16 (conn.nackPing + 1) } :=
    ready.of_txbuff rfl
  intro bytes member
  rw [umqttPing_eq, sendParts_sends pinging.idle, pinging.capacity] at member
  obtain rfl := List.mem_singleton.mp member
  decide

end Packets

namespace PacketOp

variable (world : World) (board : Board) (op : PacketOp)

theorem publishADC_log :
    (Cloud.publishADC world board).1.log =
      .publishReturned ::
        sendLog world (publishADC.socket board) board.log (publishADC.packets world board) := by
  unfold Cloud.publishADC
  dsimp only [packets, socket]
  by_cases first : board.subInit = 0
  · simp [Cloud.publish, Cloud.subscribe, sendAll_eq, sendLog_append, first, Board.write]
  · simp [Cloud.publish, sendAll_eq, first, Board.write]

/-- Apart from the mark of `publishADC`, an operation writes its sends. -/
theorem run_log :
    ∃ last : List Action, (∀ entry ∈ last, entry = .publishReturned) ∧
      (op.run world board).log =
        last ++ sendLog world (op.socket board) board.log (op.packets world board) := by
  cases op with
  | connect => exact ⟨[], by simp, congrArg Board.log (sendAll_eq world _ _)⟩
  | publish data datalen => exact ⟨[], by simp, congrArg Board.log (sendAll_eq world _ _)⟩
  | subscribe => exact ⟨[], by simp, congrArg Board.log (sendAll_eq world _ _)⟩
  | ping => exact ⟨[], by simp, congrArg Board.log (sendAll_eq world _ _)⟩
  | publishADC => exact ⟨[.publishReturned], by simp, publishADC_log world board⟩

theorem run_written :
    (∀ entry ∈ writtenSince board (op.run world board),
      entry = .publishReturned ∨
        ∃ bytes ∈ op.packets world board, ∃ rc, entry = .call (.send (op.socket board) bytes) rc) ∧
      (op.Accepted world board ↔
        ∀ entry ∈ writtenSince board (op.run world board), entry.refusedSend = none) := by
  obtain ⟨last, marks, logged⟩ := run_log world board op
  obtain ⟨newer, sent, calls, accepted⟩ :=
    sendLog_spec world (op.socket board) board.log (op.packets world board)
  have written : writtenSince board (op.run world board) = last ++ newer := by
    unfold writtenSince
    rw [logged, sent, ← List.append_assoc, List.length_append, Nat.add_sub_cancel,
      List.take_left]
  have silent : ∀ entry ∈ last, entry.refusedSend = none := by
    intro entry member
    rw [marks entry member]
    rfl
  rw [written]
  refine ⟨?_, ?_⟩
  · intro entry member
    rcases List.mem_append.mp member with mark | call
    · exact Or.inl (marks entry mark)
    · exact Or.inr (calls entry call)
  · unfold Accepted
    rw [accepted]
    simp only [List.mem_append, or_imp, forall_and]
    exact ⟨fun accepted => ⟨silent, accepted⟩, And.right⟩

/-- The transmit ring is empty behind every operation. -/
theorem run_txbuff : (op.run world board).umqttConn.txbuff.contents = [] := by
  apply UmqttCircBuffer.contents_eq_nil
  cases op with
  | connect =>
      show ((mqttConnect world board).1).umqttConn.txbuff.datalen = 0
      simp only [mqttConnect, sendAll_eq]
      rfl
  | publish data datalen =>
      simp only [run, perform, sendAll_eq]
      rfl
  | subscribe =>
      simp only [run, Cloud.subscribe, sendAll_eq]
      rfl
  | ping =>
      simp only [run, perform, sendAll_eq]
      rfl
  | publishADC =>
      simp only [run, Cloud.publishADC, Board.write]
      split
      · simp only [Cloud.subscribe, sendAll_eq]
        rfl
      · simp only [Cloud.publish, sendAll_eq]
        rfl

variable {board}

/-- Every packet has at least its header. -/
theorem packets_ne_nil (ready : TxReady board.umqttConn) :
    ∀ bytes ∈ op.packets world board, bytes ≠ [] := by
  cases op with
  | connect => exact mqttClientConnect_ne_nil ready
  | publish data datalen => exact umqttPublish_ne_nil ready _ _ _
  | subscribe => exact umqttSubscribe_ne_nil ready _
  | ping => exact umqttPing_ne_nil ready
  | publishADC =>
      intro bytes member
      simp only [packets] at member
      rcases List.mem_append.mp member with published | subscribed
      · exact umqttPublish_ne_nil ready _ _ _ bytes published
      · split at subscribed
        · exact umqttSubscribe_ne_nil (umqttPublish_ready ready _ _ _) _ bytes subscribed
        · exact absurd subscribed List.not_mem_nil

/-- A packet that `send()` refuses is lost. -/
theorem accepted_of_kept (ready : TxReady board.umqttConn)
    (kept : ∀ entry ∈ writtenSince board (op.run world board), ∀ bytes,
      entry.refusedSend = some bytes →
        bytes <:+: (op.run world board).umqttConn.txbuff.contents ∨
          ∃ caller, .receiveEvent caller .fail ∈ writtenSince board (op.run world board)) :
    op.Accepted world board := by
  obtain ⟨calls, accepted⟩ := run_written world board op
  rw [accepted]
  intro entry member
  by_contra refused
  obtain ⟨bytes, refusedSend⟩ := Option.ne_none_iff_exists'.mp refused
  rcases kept entry member bytes refusedSend with inRing | ⟨caller, posted⟩
  · rw [run_txbuff] at inRing
    obtain rfl := List.infix_nil.mp inRing
    rcases calls entry member with rfl | ⟨sent, inside, rc, rfl⟩
    · exact absurd refusedSend (by simp [Action.refusedSend])
    · have nonempty := packets_ne_nil world op ready sent inside
      simp [Action.refusedSend, nonempty] at refusedSend
  · rcases calls _ posted with marked | ⟨sent, _, rc, called⟩
    · exact absurd marked (by simp)
    · exact absurd called (by simp)

end PacketOp

/-! ## Results -/

/-- Every board of a run is between operations. -/
theorem run_txReady (world : World) (turns : List Turn) :
    TxReady (run world turns).umqttConn := by
  obtain ⟨_, _, conforms⟩ := run_between world turns
  exact conforms.ready

/-- **When an operation loses nothing.** From a connection between operations, an
operation loses no packet and records no refused subscription exactly if
`send()` accepts everything that the operation hands to it. -/
theorem packetOp_losesNothing_iff (world : World) (op : PacketOp) (board : Board)
    (ready : TxReady board.umqttConn) :
    LosesNothing world op board ↔ op.Accepted world board := by
  constructor
  · intro nothing
    exact op.accepted_of_kept world ready nothing.kept
  · intro accepted
    have none := (op.run_written world board).2.mp accepted
    constructor
    · intro entry member bytes refused
      exact absurd refused (by simp [none entry member])
    · intro entry member bytes refused
      exact absurd refused (by simp [none entry member])

theorem connack_stored : (4 : Int) ≤ ([0x20, 2, 0, 0] : List UInt8).length := by decide

/-- The segment with an accepted CONNACK. -/
def connackSegment : SocketRecvMsg := ⟨[0x20, 2, 0, 0], 4, connack_stored⟩

/-- The board when the connection is up and `publishADC` is due. -/
private def connectedTurns : List Turn :=
  [.ofMessages [], .ofMessages [.wifi .dhcpConf], .ofMessages [.ping pingErrSuccess],
    .ofMessages [.dns 1], .ofMessages [.socket 1 (.connect (some 0))],
    .ofMessages [.socket 1 (.recv (some connackSegment))]]

theorem packetOp_losesNothing_iff_publishADC :
    LosesNothing World.accepting .publishADC (run World.accepting connectedTurns) ↔
      PacketOp.publishADC.Accepted World.accepting (run World.accepting connectedTurns) :=
  packetOp_losesNothing_iff World.accepting .publishADC _ (run_txReady World.accepting _)

/-- `send()` has no room. -/
private def fullWorld : World :=
  World.steady fun call =>
    match call with
    | .socket => 1
    | .send _ _ => -14
    | _ => m2mSuccess

/-- A subscription that `send()` refuses is recorded as done, and its packet is
neither kept nor reported. -/
theorem publishADC_losesSubscription :
    (PacketOp.publishADC.run fullWorld (run fullWorld connectedTurns)).subInit = 1 ∧
      ¬LosesNothing fullWorld .publishADC (run fullWorld connectedTurns) := by
  refine ⟨by decide +kernel, ?_⟩
  intro nothing
  have accepted := PacketOp.accepted_of_kept fullWorld .publishADC
    (run_txReady fullWorld connectedTurns) nothing.kept
  revert accepted
  decide +kernel

end MicrochipDay.Cloud
