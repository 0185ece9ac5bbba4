import MicrochipDay.Library.Python.Value

/-!
Owns `json.loads` on bytes and `json.dumps`: the encoding that a document's
first bytes give away, the scanner with the values that it accepts beyond JSON
(NaN, the infinities, lone surrogates), and the printer.

The scanner's recursion is bounded by the length of the text, which no scan
exhausts.
-/

namespace MicrochipDay.Library.Python

open MicrochipDay.Library.Unicode
open MicrochipDay.Library.Decimal

/-! ## The encoding of a document -/

inductive Encoding
  | utf8
  | utf8Signature
  | utf16 (bigEndian : Bool)
  | utf16Mark
  | utf32 (bigEndian : Bool)
  | utf32Mark
  deriving DecidableEq

/-- The byte order mark of UTF-8, or where the zero bytes stand. -/
def detectEncoding (bytes : List UInt8) : Encoding :=
  if [0x00, 0x00, 0xFE, 0xFF] <+: bytes ∨ [0xFF, 0xFE, 0x00, 0x00] <+: bytes then .utf32Mark
  else if [0xFE, 0xFF] <+: bytes ∨ [0xFF, 0xFE] <+: bytes then .utf16Mark
  else if [0xEF, 0xBB, 0xBF] <+: bytes then .utf8Signature
  else
    match bytes with
    | first :: second :: third :: fourth :: _ =>
        if first = 0 then (if second = 0 then .utf32 true else .utf16 true)
        else if second = 0 then (if third = 0 ∧ fourth = 0 then .utf32 false else .utf16 false)
        else .utf8
    | [first, second] =>
        if first = 0 then .utf16 true else if second = 0 then .utf16 false else .utf8
    | _ => .utf8

/-- The text of a document, lone surrogates passed through. -/
def documentText (bytes : List UInt8) : Option Text :=
  match detectEncoding bytes with
  | .utf8 => utf8Text bytes
  | .utf8Signature => utf8Text (bytes.drop 3)
  | .utf16 bigEndian => utf16Text bigEndian bytes
  | .utf16Mark => utf16Text (bytes.head? = some 0xFE) (bytes.drop 2)
  | .utf32 bigEndian => utf32Text bigEndian bytes
  | .utf32Mark => utf32Text (bytes.head? = some 0x00) (bytes.drop 4)

/-! ## Strings -/

def isSpace (point : CodePoint) : Bool :=
  point = CodePoint.ofChar ' ' || point = CodePoint.ofChar '\t' ||
    point = CodePoint.ofChar '\n' || point = CodePoint.ofChar '\r'

def skipSpace (text : Text) : Text := text.dropWhile isSpace

def hexValue (point : CodePoint) : Option Nat :=
  if IsDigit point then some (digitValue point)
  else if 0x61 ≤ point.val ∧ point.val ≤ 0x66 then some (point.val - 0x57)
  else if 0x41 ≤ point.val ∧ point.val ≤ 0x46 then some (point.val - 0x37)
  else none

/-- Four hexadecimal digits. -/
def hex4 : Text → Option (CodePoint × Text)
  | first :: second :: third :: fourth :: rest =>
      match hexValue first, hexValue second, hexValue third, hexValue fourth with
      | some first, some second, some third, some fourth =>
          some (CodePoint.ofNat (((first * 16 + second) * 16 + third) * 16 + fourth), rest)
      | _, _, _, _ => none
  | _ => none

/-- The code point after `\u`; a high surrogate takes a low one that follows it with it. -/
def unicodeEscape (text : Text) : Option (CodePoint × Text) :=
  match hex4 text with
  | some (high, slash :: letter :: rest) =>
      if IsHighSurrogate high ∧ slash = backslash ∧ letter = CodePoint.ofChar 'u' then
        match hex4 rest with
        | some (low, after) =>
            if IsLowSurrogate low then some (joinSurrogates high low, after)
            else some (high, slash :: letter :: rest)
        | none => none
      else some (high, slash :: letter :: rest)
  | scanned => scanned

/-- The control characters that have an escape of one letter. -/
def controlEscapes : List (Nat × Char) :=
  [(0x08, 'b'), (0x0C, 'f'), (0x0A, 'n'), (0x0D, 'r'), (0x09, 't')]

/-- The code point that an escape of one letter stands for. -/
def simpleEscape (letter : CodePoint) : Option CodePoint :=
  if letter = doubleQuote ∨ letter = backslash ∨ letter = CodePoint.ofChar '/' then some letter
  else
    (controlEscapes.find? fun entry => CodePoint.ofChar entry.2 = letter).map
      fun entry => CodePoint.ofNat entry.1

/-- One code point of a string, and what follows it. -/
def scanPoint : Text → Option (CodePoint × Text)
  | [] => none
  | point :: rest =>
      if point = backslash then
        match rest with
        | [] => none
        | letter :: rest =>
            if letter = CodePoint.ofChar 'u' then unicodeEscape rest
            else (simpleEscape letter).map fun point => (point, rest)
      else if point.val < 0x20 then none
      else some (point, rest)

/-- The rest of a string after its opening quote, and what follows the closing one. -/
def scanString : Nat → Text → Option (Text × Text)
  | 0, _ => none
  | fuel + 1, text =>
      if text.head? = some doubleQuote then some ([], text.tail)
      else
        match scanPoint text with
        | some (point, rest) =>
            (scanString fuel rest).map fun scanned => (point :: scanned.1, scanned.2)
        | none => none

/-! ## Numbers -/

/-- The digits at the start of a text, and what follows them. -/
def takeDigits (text : Text) : Text × Text :=
  (text.takeWhile fun point => IsDigit point, text.dropWhile fun point => IsDigit point)

/-- A fraction: a point and at least one digit. -/
def takeFraction (text : Text) : Text × Text :=
  if text.head? = some Binary64.dot ∧ (takeDigits text.tail).1 ≠ [] then takeDigits text.tail
  else ([], text)

/-- An exponent, where the mark is followed by at least one digit. -/
def takeExponent (text : Text) : Option Int × Text :=
  if text.head? = some (CodePoint.ofChar 'e') ∨ text.head? = some (CodePoint.ofChar 'E') then
    let digits := takeDigits (dropSign text.tail)
    let size : Int := value digits.1
    if digits.1 = [] then (none, text)
    else (some (if text.tail.head? = some minus then -size else size), digits.2)
  else (none, text)

/-- A digit zero alone, or digits that start with another one. -/
def takeWhole (text : Text) : Option (Text × Text) :=
  match text with
  | [] => none
  | first :: rest =>
      if first = Binary64.zero then some ([first], rest)
      else if IsDigit first then some (takeDigits text)
      else none

/-- The float that a literal with a fraction or an exponent stands for. -/
def literalFloat (negative : Bool) (whole fraction : Text) (exponent : Option Int) :
    Float.Model :=
  let float := Float.Model.ofScientific (value (whole ++ fraction))
    (exponent.getD 0 - fraction.length)
  if negative then -float else float

def scanNumber (interpreter : Interpreter) (text : Text) : Option (Value × Text) :=
  let negative : Bool := text.head? = some minus
  match takeWhole (if negative then text.tail else text) with
  | none => none
  | some (whole, rest) =>
      let fraction := takeFraction rest
      let exponent := takeExponent fraction.2
      if fraction.1 = [] ∧ exponent.1 = none then
        if interpreter.ReadsDigits whole.length then
          let number : Int := value whole
          some (.int (if negative then -number else number), exponent.2)
        else none
      else some (.float (literalFloat negative whole fraction.1 exponent.1), exponent.2)

/-! ## Values -/

def notANumber : Float.Model := Float.Model.pack .notANumber

def infinity (sign : Float.Model.UnpackedFloat.Sign) : Float.Model :=
  Float.Model.pack (.infinity sign)

/-- The words that stand for a value. -/
def constants : List (Text × Value) :=
  [(Text.ofString "null", .none), (Text.ofString "true", .bool true),
    (Text.ofString "false", .bool false), (Text.ofString "NaN", .float notANumber),
    (Text.ofString "Infinity", .float (infinity .positive)),
    (Text.ofString "-Infinity", .float (infinity .negative))]

/-- The constant that a text starts with, and what follows it. -/
def scanConstant (text : Text) : Option (Value × Text) :=
  constants.findSome? fun constant =>
    if constant.1 <+: text then some (constant.2, text.drop constant.1.length) else none

def openBrace : CodePoint := CodePoint.ofChar '\x7b'

def closeBrace : CodePoint := CodePoint.ofChar '\x7d'

def openBracket : CodePoint := CodePoint.ofChar '['

def closeBracket : CodePoint := CodePoint.ofChar ']'

def comma : CodePoint := CodePoint.ofChar ','

def colon : CodePoint := CodePoint.ofChar ':'

mutual

/-- A value, and what follows it. -/
def scanOnce (interpreter : Interpreter) : Nat → Text → Option (Value × Text)
  | 0, _ => none
  | _ + 1, [] => none
  | fuel + 1, first :: rest =>
      if first = doubleQuote then
        (scanString fuel rest).map fun scanned => (.str scanned.1, scanned.2)
      else if first = openBrace then
        if (skipSpace rest).head? = some closeBrace then some (.dict [], (skipSpace rest).tail)
        else scanMembers interpreter fuel [] (skipSpace rest)
      else if first = openBracket then
        if (skipSpace rest).head? = some closeBracket then some (.list [], (skipSpace rest).tail)
        else scanItems interpreter fuel [] (skipSpace rest)
      else
        match scanConstant (first :: rest) with
        | some scanned => some scanned
        | none => scanNumber interpreter (first :: rest)

/-- The members from a key on; `members` are those before. -/
def scanMembers (interpreter : Interpreter) :
    Nat → List (Text × Value) → Text → Option (Value × Text)
  | 0, _, _ => none
  | _ + 1, _, [] => none
  | fuel + 1, members, first :: rest =>
      if first = doubleQuote then
        match scanString fuel rest with
        | none => none
        | some (key, afterKey) =>
            if (skipSpace afterKey).head? = some colon then
              match scanOnce interpreter fuel (skipSpace (skipSpace afterKey).tail) with
              | none => none
              | some (value, afterValue) =>
                  let next := skipSpace afterValue
                  if next.head? = some closeBrace then
                    some (.dict (assign key value members), next.tail)
                  else if next.head? = some comma then
                    scanMembers interpreter fuel (assign key value members) (skipSpace next.tail)
                  else none
            else none
      else none

/-- The items from one on; `items` are those before. -/
def scanItems (interpreter : Interpreter) : Nat → List Value → Text → Option (Value × Text)
  | 0, _, _ => none
  | fuel + 1, items, text =>
      match scanOnce interpreter fuel text with
      | none => none
      | some (value, afterValue) =>
          let next := skipSpace afterValue
          if next.head? = some closeBracket then some (.list (items ++ [value]), next.tail)
          else if next.head? = some comma then
            scanItems interpreter fuel (items ++ [value]) (skipSpace next.tail)
          else none

end

/-- The value of a text that holds nothing else. -/
def decodeText (interpreter : Interpreter) (text : Text) : Option Value :=
  match scanOnce interpreter (2 * text.length + 1) (skipSpace text) with
  | some (value, rest) => if skipSpace rest = [] then some value else none
  | none => none

/-- `json.loads`, which raises where this is `none`. -/
def loads (interpreter : Interpreter) (bytes : List UInt8) : Option Value :=
  match documentText bytes with
  | none => none
  | some text =>
      match decodeText interpreter text with
      | none => none
      | some value => if value.nesting ≤ interpreter.loadsNesting then some value else none

/-! ## Printing -/

/-- A code point of a string, escaped where it is not a printable one below 128. -/
def dumpPoint (point : CodePoint) : Text :=
  if point = doubleQuote ∨ point = backslash then [backslash, point]
  else if 0x20 ≤ point.val ∧ point.val ≤ 0x7E then [point]
  else
    match controlEscapes.find? fun entry => entry.1 = point.val with
    | some entry => [backslash, CodePoint.ofChar entry.2]
    | none =>
        if point.val < 0x10000 then escape 'u' 4 point.val
        else
          escape 'u' 4 (0xD800 + (point.val - 0x10000) / 0x400) ++
            escape 'u' 4 (0xDC00 + (point.val - 0x10000) % 0x400)

def dumpString (text : Text) : Text := doubleQuote :: text.flatMap dumpPoint ++ [doubleQuote]

mutual

def Value.dump : Value → Text
  | .none => Text.ofString "null"
  | .bool value => Text.ofString (if value then "true" else "false")
  | .int value => intText value
  | .float value =>
      Binary64.floatText (Text.ofString "Infinity") (Text.ofString "NaN") value
  | .str text => dumpString text
  | .list items => openBracket :: dumpItems items ++ [closeBracket]
  | .dict members => openBrace :: dumpMembers members ++ [closeBrace]

def dumpItems : List Value → Text
  | [] => []
  | [item] => item.dump
  | item :: items => item.dump ++ separator ++ dumpItems items

def dumpMembers : List (Text × Value) → Text
  | [] => []
  | [(key, value)] => dumpString key ++ Text.ofString ": " ++ value.dump
  | (key, value) :: members =>
      dumpString key ++ Text.ofString ": " ++ value.dump ++ separator ++ dumpMembers members

end

/-- `json.dumps`, which raises where the nesting exceeds the recursion limit. -/
def dumps (interpreter : Interpreter) (value : Value) : Option Text :=
  if value.nesting ≤ interpreter.dumpsNesting then some value.dump else none

end MicrochipDay.Library.Python
