import MicrochipDay.Library.Python.Integer
import MicrochipDay.Library.Python.Json

/-!
Owns the gateway between the MQTT broker and the serial modem: `on_message`,
which turns a message into a modem command, and one round of `pub_loop`, which
turns a serial line into status messages.

A function gives `none` where the source raises. The functions are cut where the
two threads touch what they share: the variable `lastUID` and the serial port.
-/

namespace MicrochipDay.Gateway

open MicrochipDay.Library.Unicode
open MicrochipDay.Library.Decimal
open MicrochipDay.Library.Python

/-! ## Constants -/

def topicCmd : Text := Text.ofString "techday2020/strlight/cmd/"

def topicRec : Text := Text.ofString "techday2020/strlight/rec/"

def uidKey : Text := Text.ofString "uid"

def lightKey : Text := Text.ofString "light"

def tempKey : Text := Text.ofString "temp"

def humKey : Text := Text.ofString "hum"

def errorWord : Text := Text.ofString "ERROR"

/-- The interpreter and what the MQTT client takes. -/
structure Host where
  interpreter : Interpreter
  /-- Whether `publish` takes a topic and a payload; it raises for those that are too long. -/
  publishes : Text → Text → Bool

/-- An installation without code points from 128 on and with the limits of a
default one: 4300 digits, 65535 bytes of topic and 268435455 bytes of payload. -/
def plainHost : Host where
  interpreter :=
    { decimalDigit := fun _ => none
      isPrintable := fun _ => false
      maxStrDigits := 4300
      loadsNesting := 900
      strNesting := 900
      dumpsNesting := 900
      indentNesting := 300
      flat := by decide
      prints := fun text => ¬ ∃ point ∈ text, IsSurrogate point }
  publishes := fun topic payload =>
    (utf8 topic).length ≤ 65535 && (utf8 payload).length ≤ 268435455

/-! ## on_message -/

/-- Up to the assignment of `lastUID`: the value to assign and the message,
`some none` for a message that is no command. -/
def readCommand (interpreter : Interpreter) (payload : List UInt8) :
    Option (Option (Value × Value)) :=
  match loads interpreter payload with
  | none => none
  | some pay =>
      match str interpreter pay with
      | none => none
      | some shown =>
          if interpreter.prints (topicRec ++ Text.ofString " " ++ shown) then
            match contains uidKey pay with
            | none => none
            | some false => some none
            | some true =>
                match contains lightKey pay with
                | none => none
                | some false => some none
                | some true => (subscript uidKey pay).map fun uid => some (uid, pay)
          else none

/-- The modem command with the texts of its two fields. -/
def atCommand (uid light : Text) : Text :=
  Text.ofString "AT+SENDGPIO=" ++ uid ++ Text.ofString ",6," ++ light ++ Text.ofString "\r\n"

/-- From the assignment of `lastUID` on: the bytes that are written to the serial port. -/
def commandBytes (interpreter : Interpreter) (pay : Value) : Option (List UInt8) :=
  match subscript uidKey pay, subscript lightKey pay with
  | some uid, some light =>
      match str interpreter uid, str interpreter light with
      | some uid, some light =>
          if interpreter.prints (atCommand uid light) then encodeUtf8 (atCommand uid light)
          else none
      | _, _ => none
  | _, _ => none

/-- What `on_message` does with one message. -/
structure MessageResult where
  /-- The value that `lastUID` gets. -/
  lastUID : Option Value
  /-- The bytes written to the serial port. -/
  written : Option (List UInt8)
  raised : Bool

def onMessage (interpreter : Interpreter) (payload : List UInt8) : MessageResult :=
  match readCommand interpreter payload with
  | none => ⟨none, none, true⟩
  | some none => ⟨none, none, false⟩
  | some (some (uid, pay)) =>
      ⟨some uid, commandBytes interpreter pay, (commandBytes interpreter pay).isNone⟩

/-! ## pub_loop -/

/-- A message handed to `publish`: its topic, the dict and the document of the dict. -/
structure Publication where
  topico : Text
  pay : Value
  payload : Text
  deriving DecidableEq

/-- `dict(light=..., temp=..., hum=..., uid=...)` -/
def status (light temp hum : Int) (uid : Value) : Value :=
  .dict [(lightKey, .int light), (tempKey, .int temp), (humKey, .int hum), (uidKey, uid)]

def topico (uid : Int) : Text := topicCmd ++ intText uid

def publish (host : Host) (uid : Int) (pay : Value) : Option Publication :=
  match dumps host.interpreter pay with
  | none => none
  | some payload =>
      if host.publishes (topico uid) payload then some ⟨topico uid, pay, payload⟩ else none

/-- The client takes the status on the topic of `uid`. -/
def TakesStatus (host : Host) (uid : Int) (pay : Value) : Prop :=
  pay.nesting ≤ host.interpreter.dumpsNesting ∧ host.publishes (topico uid) pay.dump

theorem publish_eq_some_iff {host : Host} {uid : Int} {pay : Value} {publication : Publication} :
    publish host uid pay = some publication ↔
      TakesStatus host uid pay ∧ publication = ⟨topico uid, pay, pay.dump⟩ := by
  unfold publish dumps TakesStatus
  by_cases shallow : pay.nesting ≤ host.interpreter.dumpsNesting
  · rw [if_pos shallow]
    dsimp only
    by_cases taken : host.publishes (topico uid) pay.dump
    · rw [if_pos taken]
      constructor
      · intro same
        exact ⟨⟨shallow, taken⟩, (Option.some.inj same).symm⟩
      · rintro ⟨-, rfl⟩
        rfl
    · rw [if_neg taken]
      constructor
      · intro same
        contradiction
      · rintro ⟨⟨-, takes⟩, -⟩
        exact absurd takes taken
  · rw [if_neg shallow]
    constructor
    · intro same
      contradiction
    · rintro ⟨⟨fits, -⟩, -⟩
      exact absurd fits shallow

theorem publish_isSome_iff {host : Host} {uid : Int} {pay : Value} :
    (publish host uid pay).isSome ↔ TakesStatus host uid pay := by
  rw [Option.isSome_iff_exists]
  constructor
  · rintro ⟨publication, published⟩
    exact (publish_eq_some_iff.mp published).1
  · intro takes
    exact ⟨_, publish_eq_some_iff.mpr ⟨takes, rfl⟩⟩

/-- The text of a line; `some none` for an empty line, which is passed over. -/
def readLine (interpreter : Interpreter) (line : List UInt8) : Option (Option Text) :=
  if interpreter.prints (reprBytes line) then
    if line = [] then some none else (decodeUtf8 line).map some
  else none

/-- The status for a line with the error word; the topic has the local `uid`,
which is not bound before the first telemetry line. -/
def reportError (host : Host) (uid : Option Int) (lastUID : Value) : Option Publication :=
  match uid with
  | none => none
  | some uid => publish host uid (status 0 0 0 lastUID)

/-- The fields after the first comma. -/
def fields (msg : Text) : List Text := (msg.splitOn comma).tail

/-- The telemetry part of a round: the value that `uid` gets and the status
published, `some none` for a line that is no telemetry. -/
def reportTelemetry (host : Host) (msg : Text) : Option (Option (Int × Publication)) :=
  if host.interpreter.prints (strTexts host.interpreter (fields msg)) then
    if (fields msg).length = 4 then
      match (fields msg).mapM (int host.interpreter) with
      | some [uid, light, temp, humildade] =>
          (publish host uid (status light temp humildade (.int uid))).map
            fun publication => some (uid, publication)
      | _ => none
    else some none
  else none

/-- What one round of `pub_loop` does. -/
structure RoundResult where
  uid : Option Int
  lastUID : Value
  published : List Publication
  raised : Bool

/-- The telemetry part, after what the round has published before it. -/
def finishRound (host : Host) (uid : Option Int) (lastUID : Value)
    (published : List Publication) (msg : Text) : RoundResult :=
  match reportTelemetry host msg with
  | none => ⟨uid, lastUID, published, true⟩
  | some none => ⟨uid, lastUID, published, false⟩
  | some (some (uid, publication)) => ⟨some uid, lastUID, published ++ [publication], false⟩

/-- One round of `pub_loop` on a line, where no message arrives during the round. -/
def pubRound (host : Host) (uid : Option Int) (lastUID : Value) (line : List UInt8) :
    RoundResult :=
  match readLine host.interpreter line with
  | none => ⟨uid, lastUID, [], true⟩
  | some none => ⟨uid, lastUID, [], false⟩
  | some (some msg) =>
      if errorWord <:+: msg then
        match reportError host uid lastUID with
        | none => ⟨uid, lastUID, [], true⟩
        | some publication => finishRound host uid (.int 0) [publication] msg
      else finishRound host uid lastUID [] msg

end MicrochipDay.Gateway
