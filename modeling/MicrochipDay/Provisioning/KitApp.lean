import Mathlib.Data.List.Perm.Basic
import MicrochipDay.Library.Exception
import MicrochipDay.Library.Loop
import MicrochipDay.Library.Mailbox
import MicrochipDay.Provisioning.KitCommands

/-!
Owns application commands on the host (mchp_aws_zt_kit.py): `kit_write_app` numbers
them, and `kit_read_app` finds the reply of each, in whatever order the replies arrive
and are asked for.

The device is its stream of reports, and whether `device.write` takes what is written.
The host's state is not followed past an exception of `kit_read_app`.
-/

namespace MicrochipDay.Provisioning

open MicrochipDay.Library.Blocks
open MicrochipDay.Library.Exception
open MicrochipDay.Library.Loop
open MicrochipDay.Library.Mailbox
open MicrochipDay.Library.Python
open MicrochipDay.Library.Unicode

/-! ## The host -/

abbrev AppResponses := AList fun _ : Value => Value

structure Host where
  nextAppCmdId : Int
  appResponses : AppResponses

/-- `__init__`. -/
def Host.initial : Host := ⟨0, ∅⟩

/-- `open`; the ids go on. -/
def Host.opened (host : Host) : Host := { host with appResponses := ∅ }

section Functions

variable (interpreter : Interpreter)

/-- `kit_write_app`: the host after it, and the id that it returns. Where it raises, the
id is used up all the same. -/
def kitWriteApp (takes : List Report → Bool) (method params : Value) (host : Host) :
    Host × Option Int :=
  let cmd := Value.dict [member "method" method,
    member "params" (if params = .none then .dict [] else params),
    member "id" (.int host.nextAppCmdId)]
  let next := { host with nextAppCmdId := host.nextAppCmdId + 1 }
  match (dumps interpreter cmd).bind encodeAscii with
  | none => (next, none)
  | some data =>
      match encodeAscii (commandLine boardApp data) with
      | none => (next, none)
      | some line => (next, if takes (rawWrite line) then some (next.nextAppCmdId - 1) else none)

/-- The body of the loop of `kit_read_app` but for the assignment: the key and the reply. -/
def readAppResponse (reports : List Report) :
    Except KitError (Value × Value × List Report) := do
  let (data, reports) ← kitRead 0 reports
  let kitResp ← parseKitReply data
  if kitResp.status ≠ 0 then .error (.kitProtocol data)
  else
    match loadsHex interpreter kitResp.data with
    | none => .error .python
    | some appResp =>
        match (subscript (Text.ofString "id") appResp).bind Value.key with
        | none => .error .python
        | some key => .ok (key, appResp, reports)

/-- A test of the loop of `kit_read_app`, and its body. -/
def readAppRound (id : Int) (state : AppResponses × List Report) :
    Except KitError (AppResponses × List Report) ⊕ (AppResponses × List Report) :=
  if Value.int id ∈ state.1 then .inl (.ok state)
  else
    match readAppResponse interpreter state.2 with
    | .error raised => .inl (.error raised)
    | .ok (key, appResp, reports) => .inr (state.1.insert key appResp, reports)

/-- What follows the loop of `kit_read_app`. -/
def takeAppResponse (id : Int) (host : Host) (state : AppResponses × List Report) :
    Except KitError (Value × Host × List Report) :=
  match state.1.lookup (.int id) with
  | none => .error .python
  | some appResp =>
      .ok (appResp, { host with appResponses := state.1.erase (.int id) }, state.2)

/-- `kit_read_app`; every round of the loop uses up a report. -/
def kitReadApp (id : Int) (host : Host) (reports : List Report) :
    Option (Except KitError (Value × Host × List Report)) :=
  (loop (readAppRound interpreter id) (reports.length + 1) (host.appResponses, reports)).map
    fun collected => collected.bind (takeAppResponse id host)

end Functions

/-! ### The loop ends -/

theorem kitReadLoop_length {timeoutMs : Int} {reports rest : List Report}
    {data result : List UInt8}
    (returned : kitReadLoop timeoutMs reports data = .ok (result, rest)) :
    rest.length ≤ reports.length ∧ (10 ∉ data → rest.length < reports.length) := by
  induction reports generalizing data with
  | nil =>
      unfold kitReadLoop at returned
      split at returned
      · rename_i done
        obtain ⟨-, rfl⟩ := Prod.mk.inj (Except.ok.inj returned)
        exact ⟨le_refl _, fun notYet => absurd done notYet⟩
      · contradiction
  | cons chunk reports inductionHypothesis =>
      unfold kitReadLoop at returned
      split at returned
      · rename_i done
        obtain ⟨-, rfl⟩ := Prod.mk.inj (Except.ok.inj returned)
        exact ⟨le_refl _, fun notYet => absurd done notYet⟩
      · split at returned
        · contradiction
        · have fewer := (inductionHypothesis returned).1
          rw [List.length_cons]
          exact ⟨by omega, fun _ => by omega⟩

theorem kitRead_length {timeoutMs : Int} {reports rest : List Report} {text : Text}
    (returned : kitRead timeoutMs reports = .ok (text, rest)) : rest.length < reports.length := by
  obtain ⟨⟨data, left⟩, looped, trimmed⟩ := bind_eq_ok.mp returned
  obtain ⟨-, rfl⟩ := Prod.mk.inj (Except.ok.inj trimmed)
  exact (kitReadLoop_length looped).2 List.not_mem_nil

theorem readAppResponse_length {interpreter : Interpreter} {reports rest : List Report}
    {key appResp : Value}
    (returned : readAppResponse interpreter reports = .ok (key, appResp, rest)) :
    rest.length < reports.length := by
  obtain ⟨⟨data, left⟩, read, replied⟩ := bind_eq_ok.mp returned
  obtain ⟨kitResp, -, loaded⟩ := bind_eq_ok.mp replied
  have same : left = rest := by
    by_cases refused : kitResp.status ≠ 0
    · rw [if_pos refused] at loaded
      contradiction
    · rw [if_neg refused] at loaded
      split at loaded
      · contradiction
      · split at loaded
        · contradiction
        · exact congrArg (fun found => found.2.2) (Except.ok.inj loaded)
  exact same ▸ kitRead_length read

/-- A round leaves the loop or goes on with fewer reports. -/
theorem readAppRound_cases (interpreter : Interpreter) (id : Int)
    (state : AppResponses × List Report) :
    (∃ result, readAppRound interpreter id state = .inl result) ∨
      ∃ next, readAppRound interpreter id state = .inr next ∧
        next.2.length < state.2.length := by
  unfold readAppRound
  by_cases isParked : Value.int id ∈ state.1
  · exact Or.inl ⟨_, if_pos isParked⟩
  · rw [if_neg isParked]
    cases read : readAppResponse interpreter state.2 with
    | error raised => exact Or.inl ⟨_, rfl⟩
    | ok found =>
        obtain ⟨key, appResp, reports⟩ := found
        exact Or.inr ⟨_, rfl, readAppResponse_length read⟩

/-- Whatever the device sends, the rounds suffice: `kit_read_app` returns or raises. -/
theorem kitReadApp_isSome (interpreter : Interpreter) (id : Int) (host : Host)
    (reports : List Report) : (kitReadApp interpreter id host reports).isSome := by
  have ended : ∃ result, True ∧ ∀ rounds, reports.length < rounds →
      loop (readAppRound interpreter id) rounds (host.appResponses, reports) = some result := by
    refine loop_ends (fun weight state => state.2.length = weight) _ ?_ rfl
    rintro _ state rfl
    rcases readAppRound_cases interpreter id state with ⟨result, left⟩ | ⟨next, goesOn, fewer⟩
    · exact Or.inl ⟨result, left, trivial⟩
    · exact Or.inr ⟨next, _, goesOn, fewer, rfl⟩
  obtain ⟨result, -, returned⟩ := ended
  unfold kitReadApp
  rw [returned _ (Nat.lt_succ_self _)]
  rfl

/-! ## Replies -/

/-- `resp['id']` is this key. -/
def Carries (reply : Value) (id : Int) : Prop :=
  (subscript (Text.ofString "id") reply).bind Value.key = some (.int id)

instance (reply : Value) (id : Int) : Decidable (Carries reply id) := by
  unfold Carries
  infer_instance

/-- A reply with status 0 that the device delivers in reports of its own: `kit_read`
takes up these, and what is found there carries an id. -/
structure Delivery (interpreter : Interpreter) where
  reports : List Report
  line : Text
  data : Text
  reply : Value
  id : Int
  read : ∀ later, kitRead 0 (reports ++ later) = .ok (line, later)
  parsed : parseKitReply line = .ok ⟨0, data⟩
  loaded : loadsHex interpreter data = some reply
  carries : Carries reply id

/-- A reply in the device's own framing, behind fewer than 64 low bytes. -/
def Delivery.sent {interpreter : Interpreter} (padding data : List UInt8) (text : Text)
    (reply : Value) (id : Int) (low : ∀ byte ∈ padding, byte ≤ 32)
    (short : padding.length < reportSize) (decoded : decodeAscii data = some text)
    (loaded : loadsText interpreter text = some reply)
    (carries : Carries reply id) : Delivery interpreter where
  reports := blocks reportSize 0 (padding ++ (replyLine 0 data).map byteOfPoint)
  line := replyLine 0 data
  data := hexOfBytes data
  reply := reply
  id := id
  read := fun later => (recovers_of_low 0 data low short 0 later).1
  parsed := parseKitReply_replyLine 0 data
  loaded := by
    rw [loadsHex_hexOfBytes, decoded]
    exact loaded
  carries := carries

namespace Delivery

variable {interpreter : Interpreter}

def key (delivery : Delivery interpreter) : Value := .int delivery.id

/-- The reports of deliveries, one after the other, and what is sent later. -/
def stream (deliveries : List (Delivery interpreter)) (later : List Report) : List Report :=
  deliveries.flatMap reports ++ later

theorem readAppResponse_stream (delivery : Delivery interpreter)
    (deliveries : List (Delivery interpreter)) (later : List Report) :
    readAppResponse interpreter (stream (delivery :: deliveries) later) =
      .ok (delivery.key, delivery.reply, stream deliveries later) := by
  unfold readAppResponse stream
  rw [List.flatMap_cons, List.append_assoc, delivery.read]
  show (do
    let kitResp ← parseKitReply delivery.line
    _) = _
  rw [delivery.parsed]
  show (match loadsHex interpreter delivery.data with
    | none => _
    | some appResp => _) = _
  rw [delivery.loaded]
  dsimp only
  rw [show (subscript (Text.ofString "id") delivery.reply).bind Value.key = some delivery.key
    from delivery.carries]

/-- The next delivery is parked, whichever id is asked for. -/
theorem readAppRound_stream {id : Int} {parked : AppResponses} (notYet : Value.int id ∉ parked)
    (delivery : Delivery interpreter) (deliveries : List (Delivery interpreter))
    (later : List Report) :
    readAppRound interpreter id (parked, stream (delivery :: deliveries) later) =
      .inr (parked.insert delivery.key delivery.reply, stream deliveries later) := by
  unfold readAppRound
  rw [if_neg notYet, readAppResponse_stream]

/-- What the host is to return for the command with the id. -/
def answer (delivery : Delivery interpreter) : Int × Value := (delivery.id, delivery.reply)

end Delivery

section Read

variable {interpreter : Interpreter} {appResponses : AppResponses} {host : Host}
  {delivery : Delivery interpreter} {arriving outstanding : List (Delivery interpreter)}

/-- The loop parks what arrives until the reply that is asked for is there. -/
theorem readAppLoop
    (holds : Holds Delivery.key Delivery.reply appResponses arriving (delivery :: outstanding))
    (later : List Report) :
    ∃ found left,
      loop (readAppRound interpreter delivery.id) ((Delivery.stream arriving later).length + 1)
        (appResponses, Delivery.stream arriving later) =
          some (.ok (found, Delivery.stream left later)) ∧
      delivery.key ∈ found ∧
      Holds Delivery.key Delivery.reply found left (delivery :: outstanding) := by
  have ended : ∃ result, (∃ found left, result = .ok (found, Delivery.stream left later) ∧
      delivery.key ∈ found ∧
      Holds Delivery.key Delivery.reply found left (delivery :: outstanding)) ∧
      ∀ rounds, (Delivery.stream arriving later).length < rounds →
        loop (readAppRound interpreter delivery.id) rounds
          (appResponses, Delivery.stream arriving later) = some result := by
    refine loop_ends
      (fun weight state => ∃ arriving, state.2 = Delivery.stream arriving later ∧
        state.2.length = weight ∧
        Holds Delivery.key Delivery.reply state.1 arriving (delivery :: outstanding))
      _ ?_ ⟨arriving, rfl, rfl, holds⟩
    rintro _ ⟨parked, _⟩ ⟨arriving, rfl, rfl, holds⟩
    by_cases isParked : delivery.key ∈ parked
    · exact Or.inl ⟨_, if_pos isParked, parked, arriving, rfl, isParked, holds⟩
    · obtain ⟨next, others, rfl⟩ := holds.arrives isParked
      have fewer := readAppResponse_length (Delivery.readAppResponse_stream next others later)
      exact Or.inr ⟨_, _, Delivery.readAppRound_stream isParked next others later, fewer, others,
        rfl, rfl, holds.park⟩
  obtain ⟨_, ⟨found, left, rfl, isParked, kept⟩, returned⟩ := ended
  exact ⟨found, left, returned _ (Nat.lt_succ_self _), isParked, kept⟩

/-- `kit_read_app` returns the reply to an outstanding command, which is then settled. -/
theorem kitReadApp_of_holds
    (holds : Holds Delivery.key Delivery.reply host.appResponses arriving
      (delivery :: outstanding))
    (later : List Report) :
    ∃ parked left,
      kitReadApp interpreter delivery.id host (Delivery.stream arriving later) =
        some (.ok (delivery.reply, { host with appResponses := parked },
          Delivery.stream left later)) ∧
      Holds Delivery.key Delivery.reply parked left outstanding := by
  obtain ⟨found, left, returned, isParked, kept⟩ := readAppLoop holds later
  obtain ⟨isReply, settled⟩ := kept.take isParked
  refine ⟨found.erase delivery.key, left, ?_, settled⟩
  unfold kitReadApp
  rw [returned]
  show some (takeAppResponse delivery.id host (found, Delivery.stream left later)) = _
  unfold takeAppResponse
  rw [show found.lookup (.int delivery.id) = some delivery.reply from isReply]
  rfl

end Read

/-! ## Runs -/

/-- A call of the host's; the device takes or refuses what `kit_write_app` writes. -/
inductive AppCall where
  | writeApp (takes : List Report → Bool) (method params : Value)
  | readApp (id : Int)

/-- The host, the reports that the device delivers from here on, and what `kit_read_app`
returned for which id. -/
structure Session where
  host : Host
  reports : List Report
  replies : List (Int × Value)

section Runs

variable (interpreter : Interpreter)

/-- A run ends where `kit_read_app` raises, but not where `kit_write_app` does. -/
def runCalls : List AppCall → Session → Option Session
  | [], session => some session
  | .writeApp takes method params :: calls, session =>
      let (host, _) := kitWriteApp interpreter takes method params session.host
      runCalls calls { session with host := host }
  | .readApp id :: calls, session =>
      match kitReadApp interpreter id session.host session.reports with
      | some (.ok (reply, host, reports)) =>
          runCalls calls ⟨host, reports, session.replies ++ [(id, reply)]⟩
      | _ => none

/-- The ids that `kit_write_app` returns in a run; `kit_read_app` leaves the counter alone. -/
def issuedIds : List AppCall → Host → List Int
  | [], _ => []
  | .writeApp takes method params :: calls, host =>
      let (host, id) := kitWriteApp interpreter takes method params host
      id.toList ++ issuedIds calls host
  | .readApp _ :: calls, host => issuedIds calls host

end Runs

/-- The ids for which a run calls `kit_read_app`. -/
def readIds : List AppCall → List Int
  | [] => []
  | .writeApp _ _ _ :: calls => readIds calls
  | .readApp id :: calls => id :: readIds calls

section Writes

variable (interpreter : Interpreter) (takes : List Report → Bool) (method params : Value)
  (host : Host)

theorem kitWriteApp_host :
    (kitWriteApp interpreter takes method params host).1 =
      { host with nextAppCmdId := host.nextAppCmdId + 1 } := by
  unfold kitWriteApp
  dsimp only
  split
  · rfl
  · split
    · rfl
    · rfl

theorem kitWriteApp_id {id : Int}
    (returned : (kitWriteApp interpreter takes method params host).2 = some id) :
    id = host.nextAppCmdId := by
  unfold kitWriteApp at returned
  dsimp only at returned
  split at returned
  · contradiction
  · split at returned
    · contradiction
    · split at returned
      · rw [← Option.some.inj returned]
        omega
      · contradiction

end Writes

/-- Every id is at least the host's next one, and none is issued twice. -/
theorem issuedIds_nodup (interpreter : Interpreter) (calls : List AppCall) (host : Host) :
    (∀ id ∈ issuedIds interpreter calls host, host.nextAppCmdId ≤ id) ∧
      (issuedIds interpreter calls host).Nodup := by
  induction calls generalizing host with
  | nil => exact ⟨fun _ inside => absurd inside List.not_mem_nil, List.nodup_nil⟩
  | cons call calls inductionHypothesis =>
      cases call with
      | readApp id => exact inductionHypothesis host
      | writeApp takes method params =>
          have next := kitWriteApp_host interpreter takes method params host
          obtain ⟨larger, distinct⟩ :=
            inductionHypothesis (kitWriteApp interpreter takes method params host).1
          have above : ∀ id ∈ issuedIds interpreter calls
              (kitWriteApp interpreter takes method params host).1, host.nextAppCmdId < id := by
            intro id inside
            have atLeast := larger id inside
            rw [next] at atLeast
            exact Int.lt_of_add_one_le atLeast
          show (∀ id ∈ (kitWriteApp interpreter takes method params host).2.toList ++ _, _) ∧
            ((kitWriteApp interpreter takes method params host).2.toList ++ _).Nodup
          cases returned : (kitWriteApp interpreter takes method params host).2 with
          | none => exact ⟨fun id inside => (above id inside).le, distinct⟩
          | some id =>
              obtain rfl := kitWriteApp_id interpreter takes method params host returned
              refine ⟨?_, List.nodup_cons.mpr ⟨fun again => (above _ again).false, distinct⟩⟩
              rintro id (_ | ⟨_, inside⟩)
              · exact le_refl _
              · exact (above id inside).le

section Session

variable {interpreter : Interpreter}

/-- A run that asks for the outstanding replies in this order returns them in this order. -/
theorem runCalls_of_holds (calls : List AppCall) (host : Host) (replies : List (Int × Value))
    {arriving outstanding : List (Delivery interpreter)} (later : List Report)
    (holds : Holds Delivery.key Delivery.reply host.appResponses arriving outstanding)
    (asked : readIds calls = outstanding.map Delivery.id) :
    ∃ final, runCalls interpreter calls ⟨host, Delivery.stream arriving later, replies⟩ =
        some ⟨final, later, replies ++ outstanding.map Delivery.answer⟩ ∧
      final.appResponses = ∅ := by
  induction calls generalizing host replies arriving outstanding with
  | nil =>
      obtain rfl := List.map_eq_nil_iff.mp asked.symm
      obtain ⟨nothing, rfl⟩ := holds.empty
      refine ⟨host, ?_, nothing⟩
      rw [List.map_nil, List.append_nil]
      rfl
  | cons call calls inductionHypothesis =>
      cases call with
      | writeApp takes method params =>
          have next := kitWriteApp_host interpreter takes method params host
          show ∃ final, runCalls interpreter calls
            ⟨(kitWriteApp interpreter takes method params host).1, _, replies⟩ = _ ∧ _
          rw [next]
          exact inductionHypothesis { host with nextAppCmdId := host.nextAppCmdId + 1 } replies
            holds asked
      | readApp id =>
          cases outstanding with
          | nil => contradiction
          | cons delivery outstanding =>
              obtain ⟨rfl, rest⟩ := List.cons.inj asked
              obtain ⟨parked, left, returned, settled⟩ := kitReadApp_of_holds holds later
              obtain ⟨final, ran, nothing⟩ :=
                inductionHypothesis { host with appResponses := parked }
                  (replies ++ [(delivery.id, delivery.reply)]) settled rest
              refine ⟨final, ?_, nothing⟩
              unfold runCalls
              rw [returned]
              dsimp only
              rw [ran, List.append_assoc]
              rfl

/-- After `open`, the host issues commands and asks for the replies to some of them, each
once and in any order; the device delivers one reply to each of these, in any order. Then
every call of `kit_read_app` returns the reply with the id that it asks for, every reply
is returned once, and none is parked in the end. -/
theorem kitReadApp_matches (host : Host) (calls : List AppCall) (outstanding : List Int)
    (deliveries : List (Delivery interpreter)) (later : List Report)
    (issued : outstanding.Subperm (issuedIds interpreter calls host.opened))
    (delivered : (deliveries.map Delivery.id).Perm outstanding)
    (asked : (readIds calls).Perm outstanding) :
    ∃ final, runCalls interpreter calls ⟨host.opened, Delivery.stream deliveries later, []⟩ =
        some final ∧
      final.replies.map Prod.fst = readIds calls ∧
      (∀ returned ∈ final.replies, Carries returned.2 returned.1) ∧
      final.replies.Perm (deliveries.map Delivery.answer) ∧
      final.host.appResponses = ∅ ∧ final.reports = later := by
  -- the deliveries in the order in which they are asked for
  obtain ⟨ordered, order, reordered⟩ : ∃ ordered : List (Delivery interpreter),
      readIds calls = ordered.map Delivery.id ∧ ordered.Perm deliveries :=
    (congrFun (congrFun (List.eq_map_comp_perm Delivery.id) _) _).mpr
      (asked.trans delivered.symm)
  have distinctIds : (ordered.map Delivery.id).Nodup := by
    rw [← order]
    obtain ⟨ids, same, inside⟩ := issued
    exact (same.trans asked.symm).nodup
      (inside.nodup (issuedIds_nodup interpreter calls host.opened).2)
  have distinct : (ordered.map Delivery.key).Nodup := by
    have keys : ordered.map Delivery.key = (ordered.map Delivery.id).map Value.int := by
      rw [List.map_map]
      rfl
    rw [keys]
    exact distinctIds.map fun _ _ => Value.int.inj
  obtain ⟨final, ran, nothing⟩ :=
    runCalls_of_holds calls host.opened [] later (holds_empty reordered.symm distinct) order
  refine ⟨_, ran, ?_, ?_, reordered.map Delivery.answer, nothing, rfl⟩
  · rw [List.nil_append, List.map_map, order]
    rfl
  · intro returned inside
    obtain ⟨delivery, -, rfl⟩ := List.mem_map.mp inside
    exact delivery.carries

end Session

/-! ### A run -/

/-- A reply of nothing but the id, behind a newline. -/
def idReply (id : Int) (text : String) (ascii : IsAscii (Text.ofString text))
    (loaded : loadsText plainSimulator.interpreter (Text.ofString text) =
      some (.dict [member "id" (.int id)])) : Delivery plainSimulator.interpreter :=
  Delivery.sent [0x0A] ((Text.ofString text).map byteOfPoint) (Text.ofString text)
    (.dict [member "id" (.int id)]) id (by decide +kernel) (by decide)
    (decodeAscii_map ascii) loaded
    (by simp [Carries, member, subscript, lookup, Value.key])

def replyZero : Delivery plainSimulator.interpreter :=
  idReply 0 "\x7b\"id\": 0\x7d" (by decide) (by decide +kernel)

def replyOne : Delivery plainSimulator.interpreter :=
  idReply 1 "\x7b\"id\": 1\x7d" (by decide) (by decide +kernel)

def genCsrCall : AppCall := .writeApp (fun _ => true) (.str (Text.ofString "genCsr")) .none

/-- The reply to the first of two commands arrives first, and is asked for last. -/
theorem kitReadApp_matches_two :
    ∃ final,
      runCalls plainSimulator.interpreter [genCsrCall, genCsrCall, .readApp 1, .readApp 0]
        ⟨Host.initial.opened, Delivery.stream [replyZero, replyOne] [], []⟩ = some final ∧
      final.replies.map Prod.fst = [1, 0] ∧
      (∀ returned ∈ final.replies, Carries returned.2 returned.1) ∧
      final.replies.Perm ([replyZero, replyOne].map Delivery.answer) ∧
      final.host.appResponses = ∅ ∧ final.reports = [] := by
  have issued : issuedIds plainSimulator.interpreter
      [genCsrCall, genCsrCall, .readApp 1, .readApp 0] Host.initial.opened = [0, 1] := by
    decide +kernel
  exact kitReadApp_matches Host.initial [genCsrCall, genCsrCall, .readApp 1, .readApp 0] [0, 1]
    [replyZero, replyOne] [] (issued ▸ List.Subperm.refl _) (List.Perm.refl _)
    (List.Perm.swap 0 1 [])

end MicrochipDay.Provisioning
