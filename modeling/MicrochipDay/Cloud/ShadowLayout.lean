import Mathlib.Data.List.TakeWhile
import MicrochipDay.Library.Json.UniqueText

/-!
Owns where the first 'D' of a compact document stands and what comes third
behind it, read off the names, the strings and the values of the document. Only
a string can hold a 'D'; what its text leaves open is settled by what follows it.
-/

namespace MicrochipDay.Cloud

open MicrochipDay.Library.Unicode
open MicrochipDay.Library.Decimal
open MicrochipDay.Library.Json

/-! ## Layout -/

/-- What stands three bytes behind the first 'D' of a document. -/
inductive Third
  /-- The start of the value whose name ends with the 'D'; `path` leads to this member. -/
  | member (path : List JsonString) (name : JsonString) (value : Document)
  /-- The start of the item behind a string that ends with the 'D'. -/
  | item (value : Document)
  /-- A byte of the string that the 'D' stands in. -/
  | character (byte : UInt8)
  /-- A quote, a colon, a comma, a bracket or the terminator. -/
  | punctuation

/-- The same, seen from outside the member of this name. -/
def Third.inside (name : JsonString) : Third → Third
  | .member path last value => .member (name :: path) last value
  | third => third

/-- The bytes of a string between its quotes. -/
def characters (string : JsonString) : List UInt8 := utf8 (string.flatMap Written.text)

/-- From the bytes of a string from its first 'D' on. -/
def tailThird (ending : Third) : List UInt8 → Option Third
  | [] => none
  | [_] => some ending
  | _ :: _ :: _ :: byte :: _ => some (.character byte)
  | _ => some .punctuation

/-- `ending` is what a 'D' at the end of the string has behind it. -/
def stringThird (ending : Third) (string : JsonString) : Option Third :=
  tailThird ending ((characters string).dropWhile (· ≠ 68))

/-- What a string in front of these items has behind its end. -/
def nextItem : List Document → Third
  | [] => .punctuation
  | item :: _ => .item item

mutual

/-- `ending` is what a string has behind its end where the document stands. -/
def documentThird (ending : Third) : Document → Option Third
  | .string string => stringThird ending string
  | .array items => itemsThird items
  | .object members => membersThird members
  | _ => none

def itemsThird : List Document → Option Third
  | [] => none
  | item :: items => (documentThird (nextItem items) item).or (itemsThird items)

def membersThird : List (JsonString × Document) → Option Third
  | [] => none
  | (name, value) :: members =>
      (stringThird (.member [] name value) name).or
        (((documentThird .punctuation value).map (Third.inside name)).or (membersThird members))

end

/-! ### Paths -/

theorem stringThird_member {ending : Third} {string last : JsonString} {path : List JsonString}
    {value : Document} (found : stringThird ending string = some (.member path last value)) :
    ending = .member path last value := by
  unfold stringThird at found
  generalize (characters string).dropWhile (· ≠ 68) = tail at found
  match tail with
  | [_] => exact Option.some.inj found
  | [] => contradiction
  | [_, _] | [_, _, _] | _ :: _ :: _ :: _ :: _ => exact absurd (Option.some.inj found) (by simp)

theorem map_inside_member {third : Option Third} {name last : JsonString}
    {path : List JsonString} {value : Document}
    (found : third.map (Third.inside name) = some (.member path last value)) :
    ∃ inner, path = name :: inner ∧ third = some (.member inner last value) := by
  obtain ⟨inner, rfl, shown⟩ := Option.map_eq_some_iff.mp found
  cases inner with
  | member inner other otherValue =>
      obtain ⟨rfl, rfl, rfl⟩ := Third.member.inj shown
      exact ⟨inner, rfl, rfl⟩
  | item | character | punctuation => contradiction

/-- A path leads through the document: the 'D' ends the name of a member of these,
or it is inside the value of one. -/
theorem membersThird_member {members : List (JsonString × Document)} {path : List JsonString}
    {last : JsonString} {value : Document}
    (found : membersThird members = some (.member path last value)) :
    (path = [] ∧ (last, value) ∈ members) ∨ ∃ name inner rest, path = name :: rest ∧
      (name, inner) ∈ members ∧
      documentThird .punctuation inner = some (.member rest last value) := by
  induction members with
  | nil => contradiction
  | cons member members inductionHypothesis =>
      obtain ⟨name, inner⟩ := member
      unfold membersThird at found
      rcases Option.or_eq_some_iff.mp found with inName | ⟨-, behind⟩
      · obtain ⟨rfl, rfl, rfl⟩ := Third.member.inj (stringThird_member inName)
        exact .inl ⟨rfl, List.mem_cons_self⟩
      · rcases Option.or_eq_some_iff.mp behind with inValue | ⟨-, inMembers⟩
        · obtain ⟨rest, rfl, ends⟩ := map_inside_member inValue
          exact .inr ⟨name, inner, rest, rfl, List.mem_cons_self, ends⟩
        · rcases inductionHypothesis inMembers with
            ⟨rfl, inside⟩ | ⟨other, held, rest, rfl, inside, ends⟩
          · exact .inl ⟨rfl, List.mem_cons_of_mem _ inside⟩
          · exact .inr ⟨other, held, rest, rfl, List.mem_cons_of_mem _ inside, ends⟩

/-! ## Bytes -/

/-- The byte there, where it is not one of a few that are no part of a value or of a string. -/
def Third.byte? : Third → Option UInt8
  | .member _ _ value => value.encode.head?
  | .item value => value.encode.head?
  | .character byte => some byte
  | .punctuation => none

/-- The bytes that are not part of a value or of a string's text. -/
def marks : List UInt8 := [0, 34, 44, 58, 93, 125]

/-- The byte may stand where the layout says. -/
def Third.Shows : Third → UInt8 → Prop
  | .member _ _ value, byte => value.encode.head? = some byte
  | .item value, byte => value.encode.head? = some byte
  | .character shown, byte => shown = byte
  | .punctuation, byte => byte ∈ marks

theorem Third.Shows.eq_iff {third : Third} {byte digit : UInt8} (shown : third.Shows byte)
    (notMark : digit ∉ marks) : byte = digit ↔ third.byte? = some digit := by
  cases third with
  | member path name value =>
      have head : value.encode.head? = some byte := shown
      rw [Third.byte?, head, Option.some.injEq]
  | item value =>
      have head : value.encode.head? = some byte := shown
      rw [Third.byte?, head, Option.some.injEq]
  | character other =>
      obtain rfl : other = byte := shown
      rw [Third.byte?, Option.some.injEq]
  | punctuation =>
      constructor
      · rintro rfl
        exact absurd shown notMark
      · intro other
        contradiction

theorem Third.inside_shows (name : JsonString) (third : Third) (byte : UInt8) :
    (third.inside name).Shows byte ↔ third.Shows byte := by
  cases third <;> rfl

/-- The first 'D' of `bytes` is as told, where `rest` follows. -/
def Located (third : Option Third) (bytes rest : List UInt8) : Prop :=
  match third with
  | none => 68 ∉ bytes
  | some third => ∃ before after byte, bytes ++ rest = before ++ 68 :: after ∧ 68 ∉ before ∧
      after[2]? = some byte ∧ third.Shows byte

theorem Located.append {first second : Option Third} {left right rest : List UInt8}
    (inLeft : Located first left (right ++ rest)) (inRight : Located second right rest) :
    Located (first.or second) (left ++ right) rest := by
  cases first with
  | some third =>
      obtain ⟨before, after, byte, split, fresh, shown⟩ := inLeft
      refine ⟨before, after, byte, ?_, fresh, shown⟩
      rw [List.append_assoc, split]
  | none =>
      cases second with
      | none => exact fun inside => (List.mem_append.mp inside).elim inLeft inRight
      | some third =>
          obtain ⟨before, after, byte, split, fresh, shown⟩ := inRight
          refine ⟨left ++ before, after, byte, ?_, ?_, shown⟩
          · rw [List.append_assoc, List.append_assoc, split]
          · exact fun inside => (List.mem_append.mp inside).elim inLeft fresh

theorem Located.inside {third : Option Third} {bytes rest : List UInt8}
    (located : Located third bytes rest) (name : JsonString) :
    Located (third.map (Third.inside name)) bytes rest := by
  cases third with
  | none => exact located
  | some third =>
      obtain ⟨before, after, byte, split, fresh, read, shown⟩ := located
      exact ⟨before, after, byte, split, fresh, read, (third.inside_shows name byte).mpr shown⟩

/-- What follows a document: a mark, and behind it what `ending` tells. -/
def Trails (ending : Third) (rest : List UInt8) : Prop :=
  ∃ first second tail, rest = first :: second :: tail ∧ first ∈ marks ∧ ending.Shows second

/-- What follows an array or an object. -/
def Closes (rest : List UInt8) : Prop := ∃ first tail, rest = first :: tail ∧ first ∈ marks

theorem Trails.closes {ending : Third} {rest : List UInt8} (trails : Trails ending rest) :
    Closes rest := by
  obtain ⟨first, second, tail, rfl, mark, -⟩ := trails
  exact ⟨first, second :: tail, rfl, mark⟩

/-! ## Strings -/

theorem string_encode (string : JsonString) :
    utf8 string.text = 34 :: characters string ++ [34] := by
  unfold JsonString.text characters
  rw [List.cons_append, utf8_cons, utf8_append]
  rfl

/-- What comes behind the first 'D' of a string, its quote included. -/
theorem characters_split (string : JsonString) {byte : UInt8} {others : List UInt8}
    (dropped : (characters string).dropWhile (· ≠ 68) = byte :: others) :
    utf8 string.text =
      (34 :: (characters string).takeWhile (· ≠ 68)) ++ 68 :: (others ++ [34]) := by
  have stopped := List.head?_dropWhile_not (fun byte : UInt8 => byte ≠ 68) (characters string)
  rw [dropped] at stopped
  obtain rfl : byte = 68 := by simpa using stopped
  have split := List.takeWhile_append_dropWhile (p := (· ≠ 68)) (l := characters string)
  rw [dropped] at split
  rw [string_encode]
  nth_rewrite 1 [← split]
  simp only [List.cons_append, List.append_assoc]

theorem characters_fresh (string : JsonString) :
    68 ∉ 34 :: (characters string).takeWhile (· ≠ 68) := by
  intro inside
  rcases List.mem_cons.mp inside with quoted | taken
  · exact absurd quoted (by decide)
  · simpa using List.mem_takeWhile_imp taken

theorem stringThird_located (string : JsonString) {ending : Third} {rest : List UInt8}
    (trails : Trails ending rest) :
    Located (stringThird ending string) (utf8 string.text) rest := by
  obtain ⟨first, second, tail, rfl, mark, shown⟩ := trails
  have fresh := characters_fresh string
  unfold stringThird
  match dropped : (characters string).dropWhile (· ≠ 68) with
  | [] =>
      rw [dropped]
      have split := List.takeWhile_append_dropWhile (p := (· ≠ 68)) (l := characters string)
      rw [dropped, List.append_nil] at split
      rw [split] at fresh
      show 68 ∉ utf8 string.text
      rw [string_encode, List.mem_append]
      exact fun inside => inside.elim fresh (by decide)
  | [byte] =>
      rw [dropped]
      refine ⟨_, 34 :: first :: second :: tail, second, ?_, fresh, rfl, shown⟩
      rw [characters_split string dropped, List.append_assoc]
      rfl
  | [byte, next] =>
      rw [dropped]
      refine ⟨_, next :: 34 :: first :: second :: tail, first, ?_, fresh, rfl, mark⟩
      rw [characters_split string dropped, List.append_assoc]
      rfl
  | [byte, next, last] =>
      rw [dropped]
      refine ⟨_, next :: last :: 34 :: first :: second :: tail, 34, ?_, fresh, rfl,
        (by decide : (34 : UInt8) ∈ marks)⟩
      rw [characters_split string dropped, List.append_assoc]
      rfl
  | byte :: next :: last :: shownByte :: others =>
      rw [dropped]
      refine ⟨_, next :: last :: shownByte :: (others ++ 34 :: first :: second :: tail), shownByte,
        ?_, fresh, rfl, rfl⟩
      rw [characters_split string dropped]
      simp only [List.cons_append, List.append_assoc, List.nil_append]

/-! ## Documents -/

/-- An ASCII text without a 'D'. -/
def Fresh (text : Text) : Prop := ∀ point ∈ text, point.val < 0x80 ∧ point.val ≠ 68

theorem Fresh.append {left right : Text} (leftFresh : Fresh left) (rightFresh : Fresh right) :
    Fresh (left ++ right) := by
  intro point inside
  exact (List.mem_append.mp inside).elim (leftFresh point) (rightFresh point)

theorem Fresh.cons {point : CodePoint} {text : Text}
    (other : point.val < 0x80 ∧ point.val ≠ 68) (fresh : Fresh text) : Fresh (point :: text) :=
  List.forall_mem_cons.mpr ⟨other, fresh⟩

theorem fresh_nil : Fresh [] := fun _ inside => absurd inside List.not_mem_nil

theorem Fresh.encode {text : Text} (fresh : Fresh text) : 68 ∉ utf8 text := by
  intro inside
  obtain ⟨point, inText, inBytes⟩ := List.mem_flatMap.mp inside
  obtain ⟨small, differs⟩ := fresh point inText
  rw [utf8Bytes_of_small small, List.mem_singleton] at inBytes
  have value := congrArg UInt8.toNat inBytes
  rw [UInt8.toNat_ofNat'] at value
  exact differs (by simpa [Nat.mod_eq_of_lt (by omega : point.val < 256)] using value.symm)

theorem allDigits_fresh {digits : Text} (all : AllDigits digits) : Fresh digits := by
  intro point inside
  have digit := all.2 point inside
  unfold IsDigit at digit
  omega

theorem fractionText_fresh {fraction : Option Text}
    (all : ∀ digits ∈ fraction, AllDigits digits) : Fresh (fractionText fraction) := by
  cases fraction with
  | none => exact fresh_nil
  | some digits => exact .cons (by decide) (allDigits_fresh (all digits rfl))

theorem signText_fresh (sign : Option Sign) : Fresh (signText sign) := by
  rcases sign with _ | _ | _
  · exact fresh_nil
  · exact .cons (by decide) fresh_nil
  · exact .cons (by decide) fresh_nil

theorem exponentText_fresh (exponent : Option Exponent) : Fresh (exponentText exponent) := by
  cases exponent with
  | none => exact fresh_nil
  | some exponent =>
      apply Fresh.cons
      · cases exponent.upperCase <;> decide
      · exact (signText_fresh exponent.sign).append (allDigits_fresh exponent.isDigits)

theorem number_fresh (number : Number) : Fresh number.text := by
  unfold Number.text
  apply Fresh.append
  · apply Fresh.append
    · apply Fresh.append
      · cases number.negative
        · exact fresh_nil
        · exact .cons (by decide) fresh_nil
      · exact allDigits_fresh number.wholeDigits
    · exact fractionText_fresh number.fractionDigits
  · exact exponentText_fresh number.exponent

theorem encode_head (document : Document) (rest : List UInt8) :
    ∃ first tail, document.encode ++ rest = first :: tail ∧ document.encode.head? = some first := by
  obtain ⟨point, others, starts, -⟩ := document.kindOf_head []
  obtain ⟨first, tail, bytes, -⟩ := utf8Bytes_eq_cons point
  rw [List.append_nil] at starts
  unfold Document.encode
  rw [starts, utf8_cons, bytes]
  exact ⟨first, _, rfl, rfl⟩

theorem moreItems_trails (items : List Document) {rest : List UInt8} (closes : Closes rest) :
    Trails (nextItem items) (utf8 (moreItems items) ++ 93 :: rest) := by
  cases items with
  | nil =>
      obtain ⟨first, tail, rfl, mark⟩ := closes
      exact ⟨93, first, tail, rfl, by decide, mark⟩
  | cons item items =>
      obtain ⟨first, tail, starts, head⟩ :=
        encode_head item (utf8 (moreItems items) ++ 93 :: rest)
      refine ⟨44, first, tail, ?_, by decide, head⟩
      rw [← starts, moreItems, utf8_append, itemsText_cons, utf8_append, List.append_assoc,
        List.append_assoc]
      rfl

theorem moreMembers_trails (members : List (JsonString × Document)) {rest : List UInt8}
    (closes : Closes rest) : Trails .punctuation (utf8 (moreMembers members) ++ 125 :: rest) := by
  cases members with
  | nil =>
      obtain ⟨first, tail, rfl, mark⟩ := closes
      exact ⟨125, first, tail, rfl, by decide, mark⟩
  | cons member members =>
      obtain ⟨name, value⟩ := member
      have text : moreMembers ((name, value) :: members) = CodePoint.ofChar ',' :: quote ::
          (name.flatMap Written.text ++ [quote] ++
            (Text.ofString ":" ++ (value.text ++ moreMembers members))) := by
        rw [moreMembers, membersText_cons]
        rfl
      rw [text, utf8_cons, utf8_cons]
      exact ⟨44, 34, _, rfl, by decide, (by decide : (34 : UInt8) ∈ marks)⟩

theorem Located.behind {third : Option Third} {left right rest : List UInt8}
    (located : Located third right rest) (fresh : 68 ∉ left) :
    Located third (left ++ right) rest := by
  have inLeft : Located none left (right ++ rest) := fresh
  simpa using inLeft.append located

theorem Located.before {third : Option Third} {left right rest : List UInt8}
    (located : Located third left (right ++ rest)) (fresh : 68 ∉ right) :
    Located third (left ++ right) rest := by
  have inRight : Located none right rest := fresh
  simpa using located.append inRight

theorem itemsThird_more (items : List Document) {rest : List UInt8}
    (located : Located (itemsThird items) (utf8 (itemsText items)) rest) :
    Located (itemsThird items) (utf8 (moreItems items)) rest := by
  cases items with
  | nil => exact located
  | cons item items =>
      rw [moreItems, utf8_append]
      exact located.behind (by decide)

theorem membersThird_more (members : List (JsonString × Document)) {rest : List UInt8}
    (located : Located (membersThird members) (utf8 (membersText members)) rest) :
    Located (membersThird members) (utf8 (moreMembers members)) rest := by
  cases members with
  | nil => exact located
  | cons member members =>
      rw [moreMembers, utf8_append]
      exact located.behind (by decide)

/-- Behind a name stand the colon and the value. -/
theorem name_trails (name : JsonString) (value : Document) (rest : List UInt8) :
    Trails (.member [] name value) (utf8 (Text.ofString ":") ++ (value.encode ++ rest)) := by
  obtain ⟨first, tail, starts, head⟩ := encode_head value rest
  rw [starts]
  exact ⟨58, first, tail, rfl, by decide, head⟩

mutual

theorem documentThird_located : ∀ (document : Document) {ending : Third} {rest : List UInt8},
    Trails ending rest → Located (documentThird ending document) document.encode rest
  | .null, _, _, _ => by
      show 68 ∉ (Document.null).encode
      decide
  | .bool value, _, _, _ => by
      show 68 ∉ (Document.bool value).encode
      cases value <;> decide
  | .number number, _, _, _ => (number_fresh number).encode
  | .string string, _, _, trails => stringThird_located string trails
  | .array items, _, _, trails => by
      have inItems := itemsThird_located items trails.closes
      unfold Document.encode Document.text
      rw [utf8_append, utf8_append]
      exact Located.before (inItems.behind (by decide)) (by decide)
  | .object members, _, _, trails => by
      have inMembers := membersThird_located members trails.closes
      unfold Document.encode Document.text
      rw [utf8_append, utf8_append]
      exact Located.before (inMembers.behind (by decide)) (by decide)

theorem itemsThird_located : ∀ (items : List Document) {rest : List UInt8}, Closes rest →
    Located (itemsThird items) (utf8 (itemsText items)) (93 :: rest)
  | [], _, _ => List.not_mem_nil
  | item :: items, _, closes => by
      have inItem := documentThird_located item (moreItems_trails items closes)
      have inItems := itemsThird_more items (itemsThird_located items closes)
      rw [itemsText_cons, utf8_append]
      exact inItem.append inItems

theorem membersThird_located : ∀ (members : List (JsonString × Document)) {rest : List UInt8},
    Closes rest → Located (membersThird members) (utf8 (membersText members)) (125 :: rest)
  | [], _, _ => List.not_mem_nil
  | (name, value) :: members, rest, closes => by
      have inValue := documentThird_located value (moreMembers_trails members closes)
      have inMembers := membersThird_more members (membersThird_located members closes)
      have inName := stringThird_located name
        (name_trails name value (utf8 (moreMembers members) ++ 125 :: rest))
      have behindName : Located _ (utf8 (Text.ofString ":") ++ _) (125 :: rest) :=
        ((inValue.inside name).append inMembers).behind (by decide)
      rw [membersText_cons, utf8_append, utf8_append, utf8_append]
      apply Located.append _ behindName
      simpa only [List.append_assoc] using inName

end

end MicrochipDay.Cloud
