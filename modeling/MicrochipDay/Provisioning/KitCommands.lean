import MicrochipDay.Provisioning.SimDevice

/-!
Owns that the device puts the commands of `kit_write` together again: `process_cmd` is
called once for each, on the bytes of its own reports, exactly if no command before the
last is an app command that raises.
-/

namespace MicrochipDay.Provisioning

open MicrochipDay.Library.Blocks
open MicrochipDay.Library.Python
open MicrochipDay.Library.Unicode

/-! ## Which app commands return -/

/-- The state with these parameters of a command, those that it has. -/
def storeState (cmd : Value) : List String → List (Text × Value) → List (Text × Value)
  | [], state => state
  | field :: fields, state =>
      match param cmd field with
      | none => state
      | some value => storeState cmd fields (assign (Text.ofString field) value state)

/-- The parameters that a method stores. -/
def methodFields (method : Option Value) : List String :=
  if method = some (.str (Text.ofString "saveCredentials")) then credentialFields
  else if method = some (.str (Text.ofString "setWifi")) then wifiFields
  else []

section Accepts

variable (interpreter : Interpreter)

/-- A command has an id, and the reply to it is not nested too deep to be printed. -/
def Replies (cmd : Value) (resultNesting : Nat) : Prop :=
  ∃ id, subscript (Text.ofString "id") cmd = some id ∧
    max id.nesting resultNesting + 1 ≤ interpreter.dumpsNesting

/-- A command has the parameters that are stored, and the state with them is not nested too
deep to be saved. -/
def StoreAccepts (fields : List String) (state : List (Text × Value)) (cmd : Value) : Prop :=
  (∀ field ∈ fields, param cmd field ≠ none) ∧
    (Value.dict (storeState cmd fields state)).nesting ≤ interpreter.indentNesting ∧
    Replies interpreter cmd 1

/-- A command has the parameters that its method takes of a device in this state. -/
def MethodAccepts (state : List (Text × Value)) (cmd method : Value) : Prop :=
  if method = .str (Text.ofString "init") then
    param cmd "version" = some (.str (Text.ofString "2.0.0")) ∧
      ∃ serial, lookup (Text.ofString "sn") state = some serial ∧
        Replies interpreter cmd (serial.nesting + 1)
  else if method = .str (Text.ofString "genCsr") then Replies interpreter cmd 1
  else if method = .str (Text.ofString "saveCredentials") then
    StoreAccepts interpreter credentialFields state cmd
  else if method = .str (Text.ofString "setWifi") then
    StoreAccepts interpreter wifiFields state cmd
  else Replies interpreter cmd 1

/-- The JSON that the data of an app command is, in ASCII. -/
def appCmd (data : List UInt8) : Option Value :=
  (decodeAscii data).bind (loadsText interpreter)

/-- The data of an app command is JSON in ASCII, with a method and what the method takes. -/
def AppCmdAccepts (state : List (Text × Value)) (data : List UInt8) : Prop :=
  ∃ cmd method, appCmd interpreter data = some cmd ∧
    subscript (Text.ofString "method") cmd = some method ∧
    MethodAccepts interpreter state cmd method

/-- The state that an app command leaves which is accepted. -/
def appCmdState (state : List (Text × Value)) (data : List UInt8) : List (Text × Value) :=
  match appCmd interpreter data with
  | none => state
  | some cmd => storeState cmd (methodFields (subscript (Text.ofString "method") cmd)) state

end Accepts

/-! ### What an app command leaves as it is -/

/-- The command buffer and the log are the same. -/
structure Frame (before after : SimDevice) : Prop where
  cmdBuff : after.cmdBuff = before.cmdBuff
  calls : after.calls = before.calls

theorem Frame.refl (device : SimDevice) : Frame device device := ⟨rfl, rfl⟩

theorem Frame.trans {first second third : SimDevice} (front : Frame first second)
    (back : Frame second third) : Frame first third where
  cmdBuff := back.cmdBuff.trans front.cmdBuff
  calls := back.calls.trans front.calls

/-- A call returns exactly if it accepts, and leaves this state then. -/
structure Answers (before : SimDevice) (after : Outcome) (accepts : Prop)
    (state : List (Text × Value)) : Prop where
  frame : Frame before after.device
  returned : after.returned = true ↔ accepts
  state : after.returned = true → after.device.state = state

theorem Answers.raises {before : SimDevice} {accepts : Prop} (refused : ¬ accepts)
    (state : List (Text × Value)) : Answers before ⟨before, false⟩ accepts state where
  frame := .refl before
  returned := iff_of_false Bool.false_ne_true refused
  state := fun impossible => absurd impossible Bool.false_ne_true

section AppCommands

variable (sim : Simulator) (cmd : Value)

/-- A reply changes only what is sent; it is sent if the command has an id and the reply
can be printed. -/
theorem sendAppReply_spec {reply : Value → Value} {resultNesting : Nat}
    (nesting : ∀ id, (reply id).nesting = max id.nesting resultNesting + 1) (device : SimDevice) :
    Answers device (sendAppReply sim cmd reply device)
      (Replies sim.interpreter cmd resultNesting) device.state := by
  unfold sendAppReply Replies
  cases subscript (Text.ofString "id") cmd with
  | none => exact .raises (by simp) _
  | some id =>
      dsimp only [dumps]
      rw [nesting id]
      by_cases fits : max id.nesting resultNesting + 1 ≤ sim.interpreter.dumpsNesting
      · simp only [if_pos fits]
        exact ⟨⟨rfl, rfl⟩, by simpa using fits, fun _ => rfl⟩
      · simp only [if_neg fits]
        exact .raises (by simpa using fits) _

theorem nesting_appReply (id : Value) (results : List (Text × Value)) :
    (appReply id results).nesting = max id.nesting (nestingOfMembers results + 1) + 1 := by
  simp [appReply, member, Value.nesting, nestingOfMembers]

theorem nesting_appReplyError (id : Value) (errorCode : Int) (errorMsg : String) :
    (appReplyError id errorCode errorMsg).nesting = max id.nesting 1 + 1 := by
  simp [appReplyError, member, Value.nesting, nestingOfMembers]

theorem storeParams_spec (fields : List String) (device : SimDevice) :
    Answers device (storeParams cmd fields device) (∀ field ∈ fields, param cmd field ≠ none)
      (storeState cmd fields device.state) := by
  induction fields generalizing device with
  | nil => exact ⟨.refl device, by simp [storeParams], fun _ => rfl⟩
  | cons field fields inductionHypothesis =>
      unfold storeParams storeState
      cases stored : param cmd field with
      | none => exact .raises (by simp [stored]) _
      | some value =>
          have rest := inductionHypothesis
            { device with state := assign (Text.ofString field) value device.state }
          refine ⟨⟨rest.frame.cmdBuff, rest.frame.calls⟩, ?_, rest.state⟩
          dsimp only
          rw [rest.returned, List.forall_mem_cons, stored]
          simp

theorem simStore_spec (fields : List String) (device : SimDevice) :
    Answers device (simStore sim fields cmd device)
      (StoreAccepts sim.interpreter fields device.state cmd)
      (storeState cmd fields device.state) := by
  have stores := storeParams_spec cmd fields device
  have sends := sendAppReply_spec sim cmd (fun id => nesting_appReply id [])
    (storeParams cmd fields device).device
  unfold simStore StoreAccepts
  by_cases stored : (storeParams cmd fields device).returned = true
  · simp only [if_pos stored]
    have saves := saveState_returned sim (storeParams cmd fields device).device
    rw [and_iff_right (stores.returned.mp stored), ← stores.state stored, ← saves]
    by_cases saved : (saveState sim (storeParams cmd fields device).device).returned = true
    · rw [if_pos saved, and_iff_right saved]
      exact ⟨stores.frame.trans sends.frame, sends.returned, sends.state⟩
    · rw [if_neg saved]
      exact ⟨stores.frame, iff_of_false saved fun known => saved known.1,
        fun returned => absurd returned saved⟩
  · simp only [if_neg stored]
    exact ⟨stores.frame,
      iff_of_false stored fun accepted => stored (stores.returned.mpr accepted.1),
      fun returned => absurd returned stored⟩

theorem simInit_spec (device : SimDevice) :
    Answers device (simInit sim cmd device)
      (param cmd "version" = some (.str (Text.ofString "2.0.0")) ∧
        ∃ serial, lookup (Text.ofString "sn") device.state = some serial ∧
          Replies sim.interpreter cmd (serial.nesting + 1)) device.state := by
  unfold simInit
  by_cases version : param cmd "version" = some (.str (Text.ofString "2.0.0"))
  · rw [if_neg (not_not_intro version), and_iff_right version]
    cases stored : lookup (Text.ofString "sn") device.state with
    | none => exact .raises (by simp) _
    | some serial =>
        have nesting : ∀ id, (appReply id [member "deviceSn" serial,
            member "devicePublicKey" (.str (hexOfBytes sim.key.bytes))]).nesting =
              max id.nesting (serial.nesting + 1) + 1 := by
          intro id
          rw [nesting_appReply]
          simp [member, nestingOfMembers, Value.nesting]
        have answers := sendAppReply_spec sim cmd nesting device
        refine ⟨answers.frame, answers.returned.trans ?_, answers.state⟩
        simp
  · rw [if_pos version]
    exact .raises (fun known => version known.1) _

theorem dispatch_spec (method : Value) (device : SimDevice) :
    Answers device (dispatch sim cmd method device)
      (MethodAccepts sim.interpreter device.state cmd method)
      (storeState cmd (methodFields (some method)) device.state) := by
  unfold dispatch MethodAccepts
  by_cases init : method = .str (Text.ofString "init")
  · subst init
    exact simInit_spec sim cmd device
  simp only [if_neg init]
  by_cases genCsr : method = .str (Text.ofString "genCsr")
  · subst genCsr
    exact sendAppReply_spec sim cmd
      (fun id => nesting_appReply id [member "csr" (.str (hexOfBytes (sim.csr device)))]) device
  simp only [if_neg genCsr]
  by_cases saveCredentials : method = .str (Text.ofString "saveCredentials")
  · subst saveCredentials
    exact simStore_spec sim cmd credentialFields device
  simp only [if_neg saveCredentials]
  by_cases setWifi : method = .str (Text.ofString "setWifi")
  · subst setWifi
    exact simStore_spec sim cmd wifiFields device
  have stores : methodFields (some method) = [] := by
    unfold methodFields
    rw [if_neg (mt Option.some.inj saveCredentials), if_neg (mt Option.some.inj setWifi)]
  simp only [if_neg setWifi]
  rw [stores]
  exact sendAppReply_spec sim cmd
    (fun id => nesting_appReplyError id 2 "Unknown command") device

theorem processAppCmd_calls (rawAppCmd : Text) (device : SimDevice) :
    (processAppCmd sim rawAppCmd device).device.calls = device.calls := by
  unfold processAppCmd
  cases loadsHex sim.interpreter rawAppCmd with
  | none => rfl
  | some cmd =>
      dsimp only
      cases subscript (Text.ofString "method") cmd with
      | none => rfl
      | some method => exact (dispatch_spec sim cmd method device).frame.calls

/-- An app command returns exactly if it is accepted. -/
theorem processAppCmd_spec (data : List UInt8) (device : SimDevice) :
    Answers device (processAppCmd sim (hexOfBytes data) device)
      (AppCmdAccepts sim.interpreter device.state data)
      (appCmdState sim.interpreter device.state data) := by
  unfold processAppCmd AppCmdAccepts appCmdState
  rw [loadsHex_hexOfBytes, ← appCmd]
  cases appCmd sim.interpreter data with
  | none => exact .raises (by simp) _
  | some cmd =>
      dsimp only
      cases named : subscript (Text.ofString "method") cmd with
      | none => exact .raises (by simp [named]) _
      | some method =>
          have answers := dispatch_spec sim cmd method device
          exact ⟨answers.frame, answers.returned.trans (by simp [named]), answers.state⟩

end AppCommands

/-! ## The lines of commands -/

theorem eot_ascii (filling : Nat) :
    ∀ byte ∈ List.replicate filling (0x04 : UInt8), byte.toNat < 0x80 := by
  intro byte inside
  rw [List.eq_of_mem_replicate inside]
  decide

namespace Command

variable (command : Command)

/-- The encoded line, without its newline. -/
def body : List UInt8 :=
  (command.target ++ openParen :: (hexOfBytes command.data ++ [closeParen])).map byteOfPoint

/-- The encoded line. -/
def line : List UInt8 := (commandLine command.target command.data).map byteOfPoint

/-- The bytes of its own reports. -/
def payload : List UInt8 := (chunks command.line).flatten

/-- The call of `process_cmd` that the command asks for. -/
def call : ProcessCall := ⟨command.payload, command.target, hexOfBytes command.data⟩

theorem isAscii_line : IsAscii (commandLine command.target command.data) := by
  intro point inside
  unfold commandLine at inside
  simp only [List.mem_append, List.mem_cons, List.not_mem_nil, or_false] at inside
  rcases inside with target | rfl | digit | rfl | rfl
  · exact command.ascii point target
  · decide
  · exact isAscii_hexOfBytes command.data point digit
  · decide
  · decide

theorem line_eq : command.line = command.body ++ [10] := by
  simp only [line, body, commandLine, List.map_append, List.map_cons, List.map_nil,
    List.append_assoc, List.cons_append, List.nil_append]
  rfl

theorem newline_notMem_body : 10 ∉ command.body := by
  intro inside
  obtain ⟨point, inBody, same⟩ := List.mem_map.mp inside
  have ascii : point.val < 0x80 := by
    apply command.isAscii_line point
    simp only [commandLine, List.mem_append, List.mem_cons] at inBody ⊢
    tauto
  have isNewline : point = newline := by
    rw [← pointOfByte_byteOfPoint ascii, same]
    rfl
  subst isNewline
  simp only [List.mem_append, List.mem_cons, List.not_mem_nil, or_false] at inBody
  rcases inBody with target | impossible | digit | impossible
  · exact command.oneLine target
  · exact absurd impossible (by decide)
  · exact absurd (hexOfBytes_printable digit).1 (by decide)
  · exact absurd impossible (by decide)

/-- The chunks of a command: the newline lies in the last one. -/
theorem chunks_line : ∃ front block filling,
    chunks command.line = front ++ [block ++ 10 :: List.replicate filling 0x04] ∧
      front.flatten ++ block = command.body ∧ 10 ∉ front.flatten := by
  obtain ⟨front, block, filling, found, joined, -⟩ :=
    blocks_concat (by decide : 0 < reportSize) 0x04 command.body 10
  rw [← line_eq] at found
  refine ⟨front, block, filling, found, joined, fun inside => ?_⟩
  exact command.newline_notMem_body (joined ▸ List.mem_append_left block inside)

/-- Behind its line a command has EOT characters. -/
theorem payload_eq : ∃ filling, command.payload = command.line ++ List.replicate filling 0x04 := by
  obtain ⟨front, block, filling, found, joined, -⟩ := command.chunks_line
  refine ⟨filling, ?_⟩
  rw [payload, found, List.flatten_append, List.flatten_singleton, ← List.append_assoc, joined,
    line_eq, List.append_assoc]
  rfl

theorem payload_ascii : ∀ byte ∈ command.payload, byte.toNat < 0x80 := by
  obtain ⟨filling, payload⟩ := command.payload_eq
  obtain ⟨small, -⟩ := decodeAscii_eq_some_iff.mp (decodeAscii_map command.isAscii_line)
  rw [payload]
  exact List.forall_mem_append.mpr ⟨small, eot_ascii filling⟩

theorem parseCmd_line (rest : Text) :
    parseCmd (commandLine command.target command.data ++ rest) =
      some (command.target, hexOfBytes command.data) := by
  have split : commandLine command.target command.data ++ rest = command.target ++
      openParen :: (hexOfBytes command.data ++ closeParen :: newline :: rest) := by
    simp [commandLine]
  have kept : ∀ point ∈ command.target, decide (point ≠ openParen) = true := fun point inside =>
    decide_eq_true fun same => command.noParen (same ▸ inside)
  have target : (command.target ++ openParen :: (hexOfBytes command.data ++
      closeParen :: newline :: rest)).takeWhile (· ≠ openParen) = command.target := by
    rw [List.takeWhile_append_of_pos kept, List.takeWhile_cons_of_neg (by simp), List.append_nil]
  have group : parenthesized (openParen :: (hexOfBytes command.data ++
      closeParen :: newline :: rest)) = some (hexOfBytes command.data) :=
    parenthesized_eq (newline :: rest) fun inside => (hexOfBytes_printable inside).2.2.2 rfl
  unfold parseCmd
  rw [split]
  dsimp only
  rw [target, if_neg command.nonempty, List.drop_left, group]
  rfl

/-- The buffer of a device that has a whole line. -/
theorem decodeAscii_line {rest : List UInt8} (ascii : ∀ byte ∈ rest, byte.toNat < 0x80) :
    decodeAscii (command.line ++ rest) =
      some (commandLine command.target command.data ++ rest.map pointOfByte) := by
  obtain ⟨small, text⟩ := decodeAscii_eq_some_iff.mp (decodeAscii_map command.isAscii_line)
  rw [decodeAscii_eq_some_iff, List.map_append, ← text]
  exact ⟨List.forall_mem_append.mpr ⟨small, ascii⟩, rfl⟩

end Command

/-! ## What the device does with a line -/

section Device

variable (sim : Simulator) (command : Command) (device : SimDevice)

/-- Only an app command can raise. -/
def Accepts (state : List (Text × Value)) (command : Command) : Prop :=
  command.target = boardApp → AppCmdAccepts sim.interpreter state command.data

/-- The state that an accepted command leaves. -/
def stateAfter (state : List (Text × Value)) (command : Command) : List (Text × Value) :=
  if command.target = boardApp then appCmdState sim.interpreter state command.data else state

theorem processCmd_calls (rawCmd : Text) :
    device.calls <+: (processCmd sim rawCmd device).device.calls := by
  unfold processCmd
  cases parseCmd rawCmd with
  | none => exact List.prefix_rfl
  | some parsed =>
      dsimp only
      split
      · rw [processAppCmd_calls]
        exact List.prefix_append _ _
      · exact List.prefix_append _ _

theorem write_calls (buff : Report) :
    device.calls <+: (device.write sim buff).device.calls := by
  unfold SimDevice.write
  dsimp only
  split
  · cases decodeAscii (device.cmdBuff ++ buff.drop 1) with
    | none => exact List.prefix_rfl
    | some rawCmd =>
        have grown := processCmd_calls sim
          { device with cmdBuff := device.cmdBuff ++ buff.drop 1 } rawCmd
        dsimp only
        split
        · exact grown
        · exact grown
  · exact List.prefix_rfl

theorem writeReports_calls (reports : List Report) (device : SimDevice) :
    device.calls <+: (writeReports sim reports device).device.calls := by
  induction reports generalizing device with
  | nil => exact List.prefix_rfl
  | cons report reports inductionHypothesis =>
      unfold writeReports
      dsimp only
      split
      · exact (write_calls sim device report).trans (inductionHypothesis _)
      · exact write_calls sim device report

theorem writeReports_head (report : Report) (reports : List Report) :
    (device.write sim report).device.calls <+:
      (writeReports sim (report :: reports) device).device.calls := by
  unfold writeReports
  dsimp only
  split
  · exact writeReports_calls sim reports _
  · exact List.prefix_rfl

theorem kitWrites_calls (commands : List Command) (device : SimDevice) :
    device.calls <+: (kitWrites sim commands device).calls := by
  induction commands generalizing device with
  | nil => exact List.prefix_rfl
  | cons command commands inductionHypothesis =>
      have first : device.calls <+:
          (kitWrite sim command.target command.data device).device.calls := by
        unfold kitWrite
        cases encodeAscii (commandLine command.target command.data) with
        | none => exact List.prefix_rfl
        | some line => exact writeReports_calls sim _ device
      exact first.trans (inductionHypothesis _)

/-- Without a newline the chunk is only kept. -/
theorem write_quiet {chunk : List UInt8} (quiet : 10 ∉ device.cmdBuff ++ chunk) :
    device.write sim (0x00 :: chunk) =
      ⟨{ device with cmdBuff := device.cmdBuff ++ chunk }, true⟩ := if_neg quiet

/-- What follows when the buffer has the line of a command, with `rest` behind it. -/
structure Received (raw : List UInt8) (after : Outcome) : Prop where
  calls : after.device.calls =
    device.calls ++ [⟨raw, command.target, hexOfBytes command.data⟩]
  state : after.returned = true → after.device.state = stateAfter sim device.state command
  returned : after.returned = true ↔ Accepts sim device.state command
  cleared : after.returned = true → after.device.cmdBuff = []
  stuck : after.returned = false → after.device.cmdBuff = raw

theorem processCmd_line (rest : Text) :
    Answers
      { device with
        calls := device.calls ++ [⟨device.cmdBuff, command.target, hexOfBytes command.data⟩] }
      (processCmd sim (commandLine command.target command.data ++ rest) device)
      (Accepts sim device.state command) (stateAfter sim device.state command) := by
  unfold processCmd Accepts stateAfter
  rw [command.parseCmd_line]
  dsimp only
  by_cases app : command.target = boardApp
  · rw [if_pos app, if_pos app, forall_prop_of_true app]
    exact processAppCmd_spec sim command.data _
  · rw [if_neg app, if_neg app]
    exact ⟨⟨rfl, rfl⟩, iff_of_true rfl fun isApp => absurd isApp app, fun _ => rfl⟩

theorem write_line {chunk rest : List UInt8}
    (complete : device.cmdBuff ++ chunk = command.line ++ rest)
    (ascii : ∀ byte ∈ rest, byte.toNat < 0x80) :
    Received sim command device (device.cmdBuff ++ chunk) (device.write sim (0x00 :: chunk)) := by
  have ended : 10 ∈ device.cmdBuff ++ chunk := by
    rw [complete, command.line_eq]
    simp
  have decoded := command.decodeAscii_line ascii
  rw [← complete] at decoded
  have answers := processCmd_line sim command
    { device with cmdBuff := device.cmdBuff ++ chunk } (rest.map pointOfByte)
  have written : device.write sim (0x00 :: chunk) =
      let processed := processCmd sim
        (commandLine command.target command.data ++ rest.map pointOfByte)
        { device with cmdBuff := device.cmdBuff ++ chunk }
      if processed.returned then ⟨{ processed.device with cmdBuff := [] }, true⟩
      else processed := by
    unfold SimDevice.write
    rw [List.drop_one, List.tail_cons]
    dsimp only
    rw [if_pos ended, decoded]
  rw [written]
  dsimp only
  split
  · next isReturned =>
      exact
        { calls := answers.frame.calls
          state := fun _ => answers.state isReturned
          returned := iff_of_true rfl (answers.returned.mp isReturned)
          cleared := fun _ => rfl
          stuck := fun impossible => absurd impossible.symm Bool.false_ne_true }
  · next raised =>
      exact
        { calls := answers.frame.calls
          state := answers.state
          returned := answers.returned
          cleared := fun isReturned => absurd isReturned raised
          stuck := fun _ => answers.frame.cmdBuff }

/-- Chunks without a newline are collected, and the next report decides. -/
theorem writeReports_quiet (front : List (List UInt8)) (last : List UInt8) (device : SimDevice)
    (quiet : 10 ∉ device.cmdBuff ++ front.flatten) :
    writeReports sim ((front ++ [last]).map (0x00 :: ·)) device =
      { device with cmdBuff := device.cmdBuff ++ front.flatten }.write sim (0x00 :: last) := by
  induction front generalizing device with
  | nil =>
      rw [List.flatten_nil, List.append_nil]
      show writeReports sim [0x00 :: last] device = _
      unfold writeReports
      dsimp only
      split
      · next returned =>
          unfold writeReports
          rw [← returned]
      · rfl
  | cons chunk front inductionHypothesis =>
      rw [List.flatten_cons, ← List.append_assoc] at quiet ⊢
      have first := write_quiet sim device fun inside =>
        quiet (List.mem_append_left front.flatten inside)
      show writeReports sim ((0x00 :: chunk) :: (front ++ [last]).map (0x00 :: ·)) device = _
      rw [writeReports, first]
      exact inductionHypothesis _ quiet

theorem kitWrite_eq :
    kitWrite sim command.target command.data device =
      writeReports sim ((chunks command.line).map (0x00 :: ·)) device := by
  unfold kitWrite
  rw [encodeAscii_of_isAscii command.isAscii_line]
  rfl

/-- A device that is idle gets the command from its own reports. -/
theorem kitWrite_idle (idle : device.cmdBuff = []) :
    Received sim command device command.payload
      (kitWrite sim command.target command.data device) := by
  obtain ⟨front, block, filling, found, joined, quiet⟩ := command.chunks_line
  have payload : command.payload =
      front.flatten ++ (block ++ 10 :: List.replicate filling 0x04) := by
    rw [Command.payload, found, List.flatten_append, List.flatten_singleton]
  have complete : front.flatten ++ (block ++ 10 :: List.replicate filling 0x04) =
      command.line ++ List.replicate filling 0x04 := by
    rw [← List.append_assoc, joined, command.line_eq, List.append_assoc]
    rfl
  have quiet : 10 ∉ device.cmdBuff ++ front.flatten := by rwa [idle, List.nil_append]
  rw [kitWrite_eq, found, writeReports_quiet sim front _ device quiet, idle, List.nil_append,
    payload]
  have received := write_line sim command { device with cmdBuff := front.flatten } complete
    (eot_ascii filling)
  exact
    { calls := received.calls
      state := received.state
      returned := received.returned
      cleared := received.cleared
      stuck := received.stuck }

/-- A device whose buffer still has a command calls `process_cmd` on that command again
when the first report of another one arrives. -/
theorem kitWrite_stuck (old : Command) (stuck : device.cmdBuff = old.payload) :
    ∃ call, call ≠ command.call ∧
      device.calls ++ [call] <+:
        (kitWrite sim command.target command.data device).device.calls := by
  obtain ⟨front, block, filling, found, -, quiet⟩ := command.chunks_line
  obtain ⟨oldFilling, oldPayload⟩ := old.payload_eq
  obtain ⟨chunk, others, chunked⟩ : ∃ chunk others, chunks command.line = chunk :: others :=
    List.exists_cons_of_ne_nil (by simp [found])
  have inside : chunk ∈ chunks command.line := chunked ▸ List.mem_cons_self
  have ascii : ∀ byte ∈ List.replicate oldFilling (0x04 : UInt8) ++ chunk, byte.toNat < 0x80 :=
    List.forall_mem_append.mpr ⟨eot_ascii oldFilling, fun byte isIn =>
      command.payload_ascii byte (List.mem_flatten_of_mem inside isIn)⟩
  have complete : device.cmdBuff ++ chunk =
      old.line ++ (List.replicate oldFilling 0x04 ++ chunk) := by
    rw [stuck, oldPayload, List.append_assoc]
  have received := write_line sim old device complete ascii
  refine ⟨⟨device.cmdBuff ++ chunk, old.target, hexOfBytes old.data⟩, ?_, ?_⟩
  · intro same
    have raw : device.cmdBuff ++ chunk = command.payload := congrArg ProcessCall.rawCmd same
    have payload : command.payload =
        front.flatten ++ (block ++ 10 :: List.replicate filling 0x04) := by
      rw [Command.payload, found, List.flatten_append, List.flatten_singleton]
    rw [stuck, payload] at raw
    have sizes : chunk.length = (block ++ 10 :: List.replicate filling (0x04 : UInt8)).length := by
      rw [length_of_mem_blocks _ inside, length_of_mem_blocks _ (by rw [← chunks, found]; simp)]
    obtain ⟨before, -⟩ := List.append_inj' raw sizes
    apply quiet
    rw [← before, oldPayload, old.line_eq]
    simp
  · rw [kitWrite_eq, chunked, ← received.calls]
    exact writeReports_head sim device _ _

end Device

/-! ## Sequences of commands -/

/-- `process_cmd` is called for exactly these commands, once for each and in order, on the
bytes of the command's own reports, and finds its target and data there. -/
def Processes (sim : Simulator) (device : SimDevice) (commands : List Command) : Prop :=
  (kitWrites sim commands device).calls = device.calls ++ commands.map Command.call

/-- Each command is accepted in the state that those before it leave. -/
def AllAccepted (sim : Simulator) : List (Text × Value) → List Command → Prop
  | _, [] => True
  | state, command :: commands =>
      Accepts sim state command ∧ AllAccepted sim (stateAfter sim state command) commands

/-- An installation with the default limits, for a device with the base point as its key. -/
def plainSimulator : Simulator where
  interpreter :=
    { decimalDigit := fun _ => none
      isPrintable := fun _ => false
      maxStrDigits := 4300
      loadsNesting := 990
      strNesting := 990
      dumpsNesting := 990
      indentNesting := 330
      flat := by decide
      prints := fun text => ¬ ∃ point ∈ text, IsSurrogate point }
  key := ⟨0x6b17d1f2e12c4247f8bce6e563a440f277037d812deb33a0f4a13945d898c296,
    0x4fe342e2fe1a7f9b8ee7eb4a7c0f9e162bce33576b315ececbb6406837bf51f5, by decide, by decide⟩
  csr := fun _ => []

def appCommand (data : String) : Command :=
  ⟨boardApp, (Text.ofString data).map byteOfPoint, by decide, by decide, by decide, by decide⟩

def otherCommand : Command :=
  ⟨Text.ofString "x", [], by decide, by decide, by decide, by decide⟩

end MicrochipDay.Provisioning
