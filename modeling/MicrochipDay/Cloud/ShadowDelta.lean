import MicrochipDay.Cloud.LedCommand
import MicrochipDay.Cloud.ShadowLayout

/-!
Owns shadow delta documents and what they do to `IO_status`: the byte that
`umqtt_received_cb` looks at is read off the layout of the document, and the
callback obeys where that byte is the digit that the LED's value consists of.
-/

namespace MicrochipDay.Cloud

open MicrochipDay.Umqtt
open MicrochipDay.Library.Unicode
open MicrochipDay.Library.Decimal
open MicrochipDay.Library.Json

/-! ## Shadow documents -/

def stateName : JsonString := plainName "state" (by decide)

/-- The LED, in the shadow and in the telemetry. -/
def ledName : JsonString := plainName "D" (by decide)

/-- A shadow delta document: an object with the members that the service sends,
in any order, whose `state` is an object with any members. -/
structure ShadowDelta where
  members : List (JsonString × Document)
  state : List (JsonString × Document)
  names : (members.map fun member => member.1.units).Nodup
  stateMember : member? (nameUnits "state") members = some (.object state)
  stateNames : (state.map fun member => member.1.units).Nodup
  others : ∀ name ∈ ["version", "timestamp", "metadata"], (member? (nameUnits name) members).isSome

/-- The text of a value is 0 or 1, or it is not -0 and starts with neither digit. -/
def LevelOrOther (text : Text) : Prop :=
  text = Text.ofString "0" ∨ text = Text.ofString "1" ∨
    (text.head? ≠ some (CodePoint.ofChar '0') ∧ text.head? ≠ some (CodePoint.ofChar '1') ∧
      text ≠ Text.ofString "-0")

namespace ShadowDelta

variable (delta : ShadowDelta)

def bytes : List UInt8 := (Document.object delta.members).encode

/-- The LED state that the member named "D" demands, if it is the integer 0 or 1. -/
def demanded : Option UInt8 :=
  match member? (nameUnits "D") delta.state with
  | some (.number number) =>
      if number.integer? = some 0 then some 0
      else if number.integer? = some 1 then some 1
      else none
  | _ => none

/-- The document as `umqtt_handle_publish` hands it over. -/
def message (topic : List UInt8) : Message where
  topic := topic ++ [0]
  payload := delta.bytes ++ [0]
  len := cInt 16 (delta.bytes.length + 1)

/-- The byte that the callback looks at. -/
def selector (behind : Nat → UInt8) : UInt8 :=
  let cells := bodyCell behind (delta.bytes ++ [0])
  cells ((findD cells (delta.bytes.length + 1) + 3) % 65536)

/-- The callback sets `IO_status` to the LED state that the document demands and
leaves it as it is when the document demands none. -/
def Obeyed (world : World) (board : Board) (topic : List UInt8) : Prop :=
  ∀ status, (umqttReceivedCb world { board with ioStatus := status }
    (delta.message topic)).ioStatus = delta.demanded.getD status

/-- The text of the value that `state` gives for the LED, if it gives one. -/
def ledText : Option Text := (member? (nameUnits "D") delta.state).map Document.text

/-- A callback that sees this byte does what the LED's value asks for. -/
def Matches (byte : Option UInt8) : Prop :=
  (byte = some 48 ∧ (delta.ledText = some (Text.ofString "0") ∨
      delta.ledText = some (Text.ofString "-0"))) ∨
    (byte = some 49 ∧ delta.ledText = some (Text.ofString "1")) ∨
    (byte ≠ some 48 ∧ byte ≠ some 49 ∧ delta.ledText ≠ some (Text.ofString "0") ∧
      delta.ledText ≠ some (Text.ofString "-0") ∧ delta.ledText ≠ some (Text.ofString "1"))

/-- The byte that the callback looks at where the document has no 'D'. -/
def byteBehind (behind : Nat → UInt8) : UInt8 :=
  let cells := bodyCell behind (delta.bytes ++ [0])
  if cells (delta.bytes.length + 1) = 68 then cells ((delta.bytes.length + 4) % 65536)
  else cells ((delta.bytes.length + 5) % 65536)

/-- Where the first 'D' is the name of the LED in the state, its value is 0 or 1
or cannot be taken for one of these; elsewhere the byte behind it happens to fit. -/
def Understood (behind : Nat → UInt8) : Prop :=
  match membersThird delta.members with
  | some (.member [first] last value) =>
      if first.units = nameUnits "state" ∧ last.units = nameUnits "D" then LevelOrOther value.text
      else delta.Matches value.encode.head?
  | some third => delta.Matches third.byte?
  | none => delta.Matches (some (delta.byteBehind behind))

end ShadowDelta

/-! ## The byte that is looked at -/

theorem findD_of_first {data : Nat → UInt8} {index len : Nat} (first : FirstD data index)
    (inside : index ≤ len) : findD data len = index := by
  unfold findD
  have found : (List.range (len + 1)).find? (fun index => data index = 68) = some index := by
    rw [List.find?_range_eq_some]
    refine ⟨by simpa using first.1, List.mem_range.mpr (by omega), ?_⟩
    intro before smaller
    simpa using first.2 before smaller
  rw [found, Option.getD_some]

theorem findD_of_none {data : Nat → UInt8} {len : Nat}
    (none : ∀ index ≤ len, data index ≠ 68) : findD data len = len + 1 := by
  unfold findD
  rw [List.find?_eq_none.mpr, Option.getD_none]
  intro index inside is68
  exact none index (Nat.lt_succ_iff.mp (List.mem_range.mp inside)) (of_decide_eq_true is68)

/-- `IO_status` behind the callback. -/
def ioStatusFor (selector status : UInt8) : UInt8 :=
  if selector = 48 then 0 else if selector = 49 then 1 else status

theorem umqttReceivedCb_ioStatus (world : World) (board : Board) (message : Message) :
    (umqttReceivedCb world board message).ioStatus =
      ioStatusFor
        (dataCells (world.behindPayload board.log) message
          ((findD (dataCells (world.behindPayload board.log) message)
            (message.len % 65536).toNat + 3) % 65536))
        board.ioStatus := rfl

/-- The length of the array fits the type of `i` with one more to spare. -/
theorem ShadowDelta.message_len (delta : ShadowDelta) (topic : List UInt8)
    (fits : delta.bytes.length + 1 < 65535) :
    ((delta.message topic).len % 65536).toNat = delta.bytes.length + 1 := by
  have unsigned : ∀ value : Int, cInt 16 value % 65536 = value % 65536 := fun _ => Int.bmod_emod
  unfold ShadowDelta.message
  dsimp only
  rw [unsigned]
  omega

theorem umqttReceivedCb_selector (world : World) (board : Board) (delta : ShadowDelta)
    (topic : List UInt8) (fits : delta.bytes.length + 1 < 65535) :
    (umqttReceivedCb world board (delta.message topic)).ioStatus =
      ioStatusFor (delta.selector (world.behindPayload board.log)) board.ioStatus := by
  rw [umqttReceivedCb_ioStatus, delta.message_len topic fits]
  rfl

/-- A callback that looks at `selector` does what is demanded for every value of
`IO_status` exactly if the selector tells what is demanded. -/
theorem ioStatusFor_eq_iff {selector : UInt8} {demanded : Option UInt8}
    (level : ∀ value ∈ demanded, value = 0 ∨ value = 1) :
    (∀ status, ioStatusFor selector status = demanded.getD status) ↔
      (selector = 48 ↔ demanded = some 0) ∧ (selector = 49 ↔ demanded = some 1) := by
  unfold ioStatusFor
  constructor
  · intro obeyed
    have fromZero := obeyed 0
    have fromOne := obeyed 1
    cases demanded with
    | none =>
        simp only [Option.getD_none] at fromZero fromOne
        grind
    | some value =>
        have known := level value rfl
        simp only [Option.getD_some] at fromZero fromOne
        grind
  · intro ⟨zero, one⟩ status
    cases demanded with
    | none => grind
    | some value =>
        have known := level value rfl
        grind

theorem ShadowDelta.demanded_level (delta : ShadowDelta) :
    ∀ value ∈ delta.demanded, value = 0 ∨ value = 1 := by
  intro value inside
  unfold ShadowDelta.demanded at inside
  grind

theorem ShadowDelta.obeyed_iff_selector (delta : ShadowDelta) (world : World) (board : Board)
    (topic : List UInt8) (fits : delta.bytes.length + 1 < 65535) :
    delta.Obeyed world board topic ↔
      (delta.selector (world.behindPayload board.log) = 48 ↔ delta.demanded = some 0) ∧
        (delta.selector (world.behindPayload board.log) = 49 ↔ delta.demanded = some 1) := by
  unfold ShadowDelta.Obeyed
  rw [← ioStatusFor_eq_iff delta.demanded_level]
  constructor
  · intro obeyed status
    rw [← obeyed status, umqttReceivedCb_selector world _ delta topic fits]
  · intro selects status
    rw [umqttReceivedCb_selector world _ delta topic fits]
    exact selects status

theorem ShadowDelta.bytes_located (delta : ShadowDelta) :
    Located (membersThird delta.members) delta.bytes [0] := by
  have terminated : Closes [0] := ⟨0, [], rfl, by decide⟩
  have inMembers := membersThird_located delta.members terminated
  unfold ShadowDelta.bytes Document.encode Document.text
  rw [utf8_append, utf8_append]
  exact Located.before (inMembers.behind (by decide)) (by decide)

theorem ShadowDelta.selector_of_some (delta : ShadowDelta) (behind : Nat → UInt8) {third : Third}
    (layout : membersThird delta.members = some third) (fits : delta.bytes.length + 1 < 65535) :
    third.Shows (delta.selector behind) := by
  have located := delta.bytes_located
  rw [layout] at located
  obtain ⟨before, after, byte, split, fresh, read, shown⟩ := located
  have length := congrArg List.length split
  simp only [List.length_append, List.length_cons, List.length_nil] at length
  have inside := (List.getElem?_eq_some_iff.mp read).1
  have isFirst : FirstD (bodyCell behind (delta.bytes ++ [0])) before.length := by
    rw [split]
    constructor
    · apply bodyCell_of_getElem?
      rw [List.getElem?_append_right (Nat.le_refl _), Nat.sub_self]
      rfl
    · intro index smaller is68
      have cell : bodyCell behind (before ++ 68 :: after) index = before[index] := by
        apply bodyCell_of_getElem?
        rw [List.getElem?_append_left smaller, List.getElem?_eq_getElem smaller]
      rw [cell] at is68
      exact fresh (is68 ▸ List.getElem_mem smaller)
  have cell : bodyCell behind (delta.bytes ++ [0]) (before.length + 3) = byte := by
    rw [split]
    apply bodyCell_of_getElem?
    rw [List.getElem?_append_right (by omega), Nat.add_sub_cancel_left]
    exact read
  unfold ShadowDelta.selector
  dsimp only
  rw [findD_of_first isFirst (by omega), Nat.mod_eq_of_lt (by omega), cell]
  exact shown

theorem ShadowDelta.selector_of_none (delta : ShadowDelta) (behind : Nat → UInt8)
    (layout : membersThird delta.members = none) :
    delta.selector behind = delta.byteBehind behind := by
  have located := delta.bytes_located
  rw [layout] at located
  have fresh : ∀ index ≤ delta.bytes.length, bodyCell behind (delta.bytes ++ [0]) index ≠ 68 := by
    intro index inside is68
    have below : index < (delta.bytes ++ [0]).length := by
      rw [List.length_append, List.length_singleton]
      omega
    rw [bodyCell_of_getElem? behind (List.getElem?_eq_getElem below)] at is68
    rcases List.mem_append.mp (is68 ▸ List.getElem_mem below) with inBytes | terminator
    · exact located inBytes
    · exact absurd terminator (by decide)
  unfold ShadowDelta.selector ShadowDelta.byteBehind
  dsimp only
  split
  · next found =>
    rw [findD_of_first ⟨found, fun index smaller => fresh index (by omega)⟩ (Nat.le_refl _)]
  · next absent =>
    rw [findD_of_none]
    intro index inside
    rcases Nat.lt_or_eq_of_le inside with smaller | rfl
    · exact fresh index (by omega)
    · exact absent

/-! ## The value that is asked for -/

theorem member?_of_mem {members : List (JsonString × Document)} {name : JsonString}
    {value : Document} (names : (members.map fun member => member.1.units).Nodup)
    (inside : (name, value) ∈ members) : member? name.units members = some value := by
  induction members with
  | nil => exact absurd inside List.not_mem_nil
  | cons member members inductionHypothesis =>
      rw [List.map_cons, List.nodup_cons] at names
      unfold member?
      rcases List.mem_cons.mp inside with rfl | inMembers
      · rw [List.find?_cons_of_pos (by simp)]
        rfl
      · have differs : member.1.units ≠ name.units := fun same =>
          names.1 (List.mem_map.mpr ⟨(name, value), inMembers, same.symm⟩)
        rw [List.find?_cons_of_neg (by simpa using differs)]
        exact inductionHypothesis names.2 inMembers

/-- The value whose name is found on the way through `state` is the LED's. -/
theorem ShadowDelta.ledValue_of_member (delta : ShadowDelta) {first last : JsonString}
    {value : Document} (layout : membersThird delta.members = some (.member [first] last value))
    (isState : first.units = nameUnits "state") (isLed : last.units = nameUnits "D") :
    member? (nameUnits "D") delta.state = some value := by
  rcases membersThird_member layout with ⟨empty, -⟩ | ⟨name, inner, rest, path, inside, found⟩
  · contradiction
  · obtain ⟨rfl, rfl⟩ := List.cons_eq_cons.mp path
    have stateMember := member?_of_mem delta.names inside
    rw [isState, delta.stateMember] at stateMember
    obtain rfl := Option.some.inj stateMember
    rcases membersThird_member found with ⟨-, inState⟩ | ⟨_, _, _, more, -⟩
    · rw [← isLed]
      exact member?_of_mem delta.stateNames inState
    · contradiction

theorem ShadowDelta.ledText_eq_iff (delta : ShadowDelta) {text : Text} {number : Number}
    (spelled : number.text = text) :
    delta.ledText = some text ↔ member? (nameUnits "D") delta.state = some (.number number) := by
  unfold ShadowDelta.ledText
  rw [Option.map_eq_some_iff]
  constructor
  · intro ⟨value, found, same⟩
    have equal : value = .number number := Document.text_injective (same.trans spelled.symm)
    rw [found, equal]
  · intro found
    exact ⟨.number number, found, spelled⟩

theorem ShadowDelta.demanded_eq_zero_iff (delta : ShadowDelta) :
    delta.demanded = some 0 ↔ delta.ledText = some (Text.ofString "0") ∨
      delta.ledText = some (Text.ofString "-0") := by
  have zero : (Number.ofInt 0).text = Text.ofString "0" := rfl
  have minusZero : Number.minusZero.text = Text.ofString "-0" := rfl
  rw [delta.ledText_eq_iff zero, delta.ledText_eq_iff minusZero]
  unfold ShadowDelta.demanded
  split
  · next number found =>
    simp only [found, Option.some.injEq, Document.number.injEq, ← Number.integer?_eq_zero_iff]
    grind
  · next other =>
    simp only [reduceCtorEq, false_iff, not_or]
    exact ⟨other _, other _⟩

theorem ShadowDelta.demanded_eq_one_iff (delta : ShadowDelta) :
    delta.demanded = some 1 ↔ delta.ledText = some (Text.ofString "1") := by
  have one : (Number.ofInt 1).text = Text.ofString "1" := rfl
  rw [delta.ledText_eq_iff one]
  unfold ShadowDelta.demanded
  split
  · next number found =>
    simp only [found, Option.some.injEq, Document.number.injEq, ← Number.integer?_eq_one_iff]
    grind
  · next other =>
    simp only [reduceCtorEq, false_iff]
    exact other _

/-! ## Obeying -/

theorem ShadowDelta.matches_iff (delta : ShadowDelta) (byte : Option UInt8) :
    delta.Matches byte ↔
      (byte = some 48 ↔ delta.demanded = some 0) ∧ (byte = some 49 ↔ delta.demanded = some 1) := by
  have zero := delta.demanded_eq_zero_iff
  have one := delta.demanded_eq_one_iff
  unfold ShadowDelta.Matches
  grind

/-- Where the callback looks at the LED's value, it sees how the text of it starts. -/
theorem ShadowDelta.matches_ledValue_iff (delta : ShadowDelta) {value : Document}
    (found : member? (nameUnits "D") delta.state = some value) :
    delta.Matches value.encode.head? ↔ LevelOrOther value.text := by
  have zero : value.encode.head? = some 48 ↔ value.text.head? = some (CodePoint.ofChar '0') :=
    utf8_head_iff value.text (show (CodePoint.ofChar '0').val < 0x80 by decide)
  have one : value.encode.head? = some 49 ↔ value.text.head? = some (CodePoint.ofChar '1') :=
    utf8_head_iff value.text (show (CodePoint.ofChar '1').val < 0x80 by decide)
  have text : delta.ledText = some value.text := by
    unfold ShadowDelta.ledText
    rw [found]
    rfl
  unfold ShadowDelta.Matches LevelOrOther
  rw [text]
  simp only [ne_eq, zero, one, Option.some.injEq]
  constructor
  · rintro (⟨starts, same | same⟩ | ⟨-, same⟩ | ⟨notZero, notOne, -, other, -⟩)
    · exact .inl same
    · rw [same] at starts
      exact absurd starts (by decide)
    · exact .inr (.inl same)
    · exact .inr (.inr ⟨notZero, notOne, other⟩)
  · rintro (same | same | ⟨notZero, notOne, other⟩)
    · rw [same]
      decide
    · rw [same]
      decide
    · refine .inr (.inr ⟨notZero, notOne, ?_, other, ?_⟩)
      · rintro same
        exact notZero (by rw [same]; rfl)
      · rintro same
        exact notOne (by rw [same]; rfl)

/-- **When the LED command parser obeys.** If the first 'D' of the document is the
name of the LED in the state, the callback obeys exactly if the LED's value is 0 or
1 or a text that starts with neither digit and is not -0. In every other layout it
obeys exactly if the byte that comes third behind that 'D' happens to be the digit
that the LED's value consists of, or no digit where there is none. -/
theorem umqttReceivedCb_obeys_iff (world : World) (board : Board) (delta : ShadowDelta)
    (topic : List UInt8) (fits : delta.bytes.length + 1 < 65535) :
    delta.Obeyed world board topic ↔ delta.Understood (world.behindPayload board.log) := by
  rw [delta.obeyed_iff_selector world board topic fits]
  unfold ShadowDelta.Understood
  have ofThird (third : Third) (layout : membersThird delta.members = some third) :
      ((delta.selector (world.behindPayload board.log) = 48 ↔ delta.demanded = some 0) ∧
        (delta.selector (world.behindPayload board.log) = 49 ↔ delta.demanded = some 1)) ↔
      delta.Matches third.byte? := by
    have shown := delta.selector_of_some (world.behindPayload board.log) layout fits
    rw [delta.matches_iff, shown.eq_iff (by decide), shown.eq_iff (by decide)]
  split
  · next first last value layout =>
    rw [ofThird _ layout]
    split
    · next names =>
        exact delta.matches_ledValue_iff (delta.ledValue_of_member layout names.1 names.2)
    · rfl
  · next third _ layout => exact ofThird third layout
  · next layout =>
    rw [delta.selector_of_none _ layout, delta.matches_iff, Option.some.injEq, Option.some.injEq]

/-- A document whose state is one number named "D". -/
private def ledDelta (level : Int) : ShadowDelta where
  members :=
    [(plainName "version" (by decide), .number (.ofInt 1)),
      (plainName "timestamp" (by decide), .number (.ofInt 1580000000)),
      (stateName, .object [(ledName, .number (.ofInt level))]),
      (plainName "metadata" (by decide), .object [])]
  state := [(ledName, .number (.ofInt level))]
  names := by
    show (["version", "timestamp", "state", "metadata"].map nameUnits).Nodup
    decide
  stateMember := rfl
  stateNames := List.nodup_singleton _
  others := by
    intro name inside
    obtain rfl | rfl | rfl : name = "version" ∨ name = "timestamp" ∨ name = "metadata" := by
      simpa using inside
    all_goals rfl

theorem umqttReceivedCb_obeys_iff_on :
    (ledDelta 1).Obeyed World.accepting Board.initial [116] :=
  (umqttReceivedCb_obeys_iff World.accepting Board.initial (ledDelta 1) [116]
    (by decide +kernel)).mpr (.inr (.inl rfl))

/-- The number 10 is taken for a 1. -/
theorem umqttReceivedCb_takesTenForOne :
    ¬ (ledDelta 10).Obeyed World.accepting Board.initial [116] := by
  intro obeyed
  have unchanged := obeyed 0
  revert unchanged
  decide +kernel

end MicrochipDay.Cloud
