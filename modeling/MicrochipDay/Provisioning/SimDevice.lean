import MicrochipDay.Library.Python.Json
import MicrochipDay.Provisioning.CertificateBuilder
import MicrochipDay.Provisioning.KitProtocol

/-!
Owns the simulated device (sim_hid_device.py): how it puts the reports of commands
together again, and what the app commands do to it.

Opening and writing its state file is taken to succeed; printing the state may raise. The
calls of `process_cmd` are logged, oldest first; the device never reads that log.
-/

namespace MicrochipDay.Provisioning

open MicrochipDay.Library.Blocks
open MicrochipDay.Library.Python
open MicrochipDay.Library.Unicode

/-! ## The device -/

/-- A call of `process_cmd` that parsed its argument. -/
structure ProcessCall where
  rawCmd : List UInt8
  target : Text
  data : Text
deriving DecidableEq

structure SimDevice where
  cmdBuff : List UInt8
  sendReports : List Report
  state : List (Text × Value)
  calls : List ProcessCall

/-- `__init__` without a state file. -/
def SimDevice.initial : SimDevice where
  cmdBuff := []
  sendReports := []
  state := [(Text.ofString "sn", .str (Text.ofString "0123112233445566A5"))]
  calls := []

/-- What the device depends on: the interpreter, its key, and the encoded request that
the certificate library signs, which differs from one time to the next. -/
structure Simulator where
  interpreter : Interpreter
  key : PublicNumbers
  csr : SimDevice → List UInt8

/-- The device after a call, and whether the call returned or raised. -/
structure Outcome where
  device : SimDevice
  returned : Bool

def sendReplyTo (device : SimDevice) (data : Text) : SimDevice :=
  { device with sendReports := device.sendReports ++ sendReply data }

/-! ## App commands -/

def member (name : String) (value : Value) : Text × Value := (Text.ofString name, value)

def appReplyError (id : Value) (errorCode : Int) (errorMsg : String) : Value :=
  .dict [member "id" id, member "result" .none,
    member "error" (.dict [member "error_code" (.int errorCode),
      member "error_msg" (.str (Text.ofString errorMsg))])]

def appReply (id : Value) (results : List (Text × Value)) : Value :=
  .dict [member "id" id, member "result" (.dict results), member "error" .none]

/-- `json.loads` on a `str`. -/
def loadsText (interpreter : Interpreter) (text : Text) : Option Value :=
  match decodeText interpreter text with
  | some value => if value.nesting ≤ interpreter.loadsNesting then some value else none
  | none => none

/-- `json.loads(binascii.a2b_hex(data).decode('ascii'))`. -/
def loadsHex (interpreter : Interpreter) (data : Text) : Option Value := do
  let bytes ← a2bHex data
  let text ← decodeAscii bytes
  loadsText interpreter text

/-- Data that was spelled in hexadecimal is loaded from its bytes. -/
theorem loadsHex_hexOfBytes (interpreter : Interpreter) (data : List UInt8) :
    loadsHex interpreter (hexOfBytes data) =
      (decodeAscii data).bind (loadsText interpreter) := by
  unfold loadsHex
  rw [a2bHex_hexOfBytes]
  rfl

/-- `cmd['params'][field]`. -/
def param (cmd : Value) (field : String) : Option Value := do
  let params ← subscript (Text.ofString "params") cmd
  subscript (Text.ofString field) params

section AppCommands

variable (sim : Simulator)

/-- `send_app_reply` and `send_app_reply_error`, to the `id` of a command. -/
def sendAppReply (cmd : Value) (reply : Value → Value) (device : SimDevice) : Outcome :=
  match subscript (Text.ofString "id") cmd with
  | none => ⟨device, false⟩
  | some id =>
      match dumps sim.interpreter (reply id) with
      | none => ⟨device, false⟩
      | some text => ⟨sendReplyTo device (replyLine 0 (text.map byteOfPoint)), true⟩

/-- Each of these parameters becomes an entry of the state, until one is missing. -/
def storeParams (cmd : Value) : List String → SimDevice → Outcome
  | [], device => ⟨device, true⟩
  | field :: fields, device =>
      match param cmd field with
      | none => ⟨device, false⟩
      | some value =>
          storeParams cmd fields
            { device with state := assign (Text.ofString field) value device.state }

/-- `save_state`. The text goes to a file that only `__init__` reads. -/
def saveState (device : SimDevice) : Outcome :=
  ⟨device, (Value.dict device.state).nesting ≤ sim.interpreter.indentNesting⟩

theorem saveState_returned (device : SimDevice) :
    (saveState sim device).returned = true ↔
      (Value.dict device.state).nesting ≤ sim.interpreter.indentNesting :=
  decide_eq_true_iff

/-- `sim_save_credentials` and `sim_set_wifi`. -/
def simStore (fields : List String) (cmd : Value) (device : SimDevice) : Outcome :=
  let stored := storeParams cmd fields device
  if stored.returned then
    let saved := saveState sim stored.device
    if saved.returned then sendAppReply sim cmd (appReply · []) saved.device else saved
  else stored

def credentialFields : List String :=
  ["hostName", "deviceCert", "signerCert", "signerCaPublicKey"]

def simSaveCredentials (cmd : Value) (device : SimDevice) : Outcome :=
  simStore sim credentialFields cmd device

def wifiFields : List String := ["ssid", "psk"]

def simSetWifi (cmd : Value) (device : SimDevice) : Outcome := simStore sim wifiFields cmd device

/-- `sim_init`. For another version it calls a function that is not defined. -/
def simInit (cmd : Value) (device : SimDevice) : Outcome :=
  if param cmd "version" ≠ some (.str (Text.ofString "2.0.0")) then ⟨device, false⟩
  else
    match lookup (Text.ofString "sn") device.state with
    | none => ⟨device, false⟩
    | some sn =>
        let devicePublicKey := Value.str (hexOfBytes sim.key.bytes)
        sendAppReply sim cmd
          (appReply · [member "deviceSn" sn, member "devicePublicKey" devicePublicKey]) device

def simGenCsr (cmd : Value) (device : SimDevice) : Outcome :=
  sendAppReply sim cmd (appReply · [member "csr" (.str (hexOfBytes (sim.csr device)))]) device

/-- The branches of `process_app_cmd`. -/
def dispatch (cmd method : Value) (device : SimDevice) : Outcome :=
  if method = .str (Text.ofString "init") then simInit sim cmd device
  else if method = .str (Text.ofString "genCsr") then simGenCsr sim cmd device
  else if method = .str (Text.ofString "saveCredentials") then simSaveCredentials sim cmd device
  else if method = .str (Text.ofString "setWifi") then simSetWifi sim cmd device
  else sendAppReply sim cmd (appReplyError · 2 "Unknown command") device

def processAppCmd (rawAppCmd : Text) (device : SimDevice) : Outcome :=
  match loadsHex sim.interpreter rawAppCmd with
  | none => ⟨device, false⟩
  | some cmd =>
      match subscript (Text.ofString "method") cmd with
      | none => ⟨device, false⟩
      | some method => dispatch sim cmd method device

end AppCommands

/-! ## Commands -/

/-- The groups of `^([^(]+)\(([^)]*)\)`. -/
def parseCmd (rawCmd : Text) : Option (Text × Text) :=
  let target := rawCmd.takeWhile (· ≠ openParen)
  if target = [] then none
  else (parenthesized (rawCmd.drop target.length)).map fun data => (target, data)

/-- `KP_APP_CMD`. -/
def boardApp : Text := Text.ofString "board:app"

section Write

variable (sim : Simulator)

/-- `process_cmd` on the command buffer, which is `rawCmd` decoded. -/
def processCmd (rawCmd : Text) (device : SimDevice) : Outcome :=
  match parseCmd rawCmd with
  | none => ⟨device, false⟩
  | some (target, data) =>
      let device := { device with calls := device.calls ++ [⟨device.cmdBuff, target, data⟩] }
      if target = boardApp then processAppCmd sim data device
      else ⟨sendReplyTo device (Text.ofString "C0()"), true⟩

/-- `write`; the command buffer is not cleared when `process_cmd` raises. -/
def SimDevice.write (buff : Report) (device : SimDevice) : Outcome :=
  let device := { device with cmdBuff := device.cmdBuff ++ buff.drop 1 }
  if 10 ∈ device.cmdBuff then
    match decodeAscii device.cmdBuff with
    | none => ⟨device, false⟩
    | some rawCmd =>
        let processed := processCmd sim rawCmd device
        if processed.returned then ⟨{ processed.device with cmdBuff := [] }, true⟩ else processed
  else ⟨device, true⟩

/-! ## The host's side -/

/-- The loop of `raw_write`: an exception of `device.write` ends it. -/
def writeReports : List Report → SimDevice → Outcome
  | [], device => ⟨device, true⟩
  | report :: reports, device =>
      let written := device.write sim report
      if written.returned then writeReports reports written.device else written

/-- The bytes of a command's reports behind their ids: EOT characters fill the last one. -/
def chunks (data : List UInt8) : List (List UInt8) := blocks reportSize 0x04 data

/-- The reports of `raw_write`. -/
def rawWrite (data : List UInt8) : List Report := (chunks data).map (0x00 :: ·)

/-- `'%s(%s)\n'`, of the target and the data in hexadecimal. -/
def commandLine (target : Text) (data : List UInt8) : Text :=
  target ++ openParen :: (hexOfBytes data ++ [closeParen, newline])

/-- `kit_write`, whose encoder refuses a target that is not ASCII. -/
def kitWrite (target : Text) (data : List UInt8) (device : SimDevice) : Outcome :=
  match encodeAscii (commandLine target data) with
  | none => ⟨device, false⟩
  | some line => writeReports sim (rawWrite line) device

end Write

/-- A command whose target is ASCII without an opening parenthesis or a newline. -/
structure Command where
  target : Text
  data : List UInt8
  nonempty : target ≠ []
  ascii : IsAscii target
  noParen : openParen ∉ target
  oneLine : newline ∉ target

/-- `kit_write` for one command after the other; the caller goes on after an exception. -/
def kitWrites (sim : Simulator) : List Command → SimDevice → SimDevice
  | [], device => device
  | command :: commands, device =>
      kitWrites sim commands (kitWrite sim command.target command.data device).device

end MicrochipDay.Provisioning
