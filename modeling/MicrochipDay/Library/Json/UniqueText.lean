import MicrochipDay.Library.Json

/-!
Owns the uniqueness of compact texts: two documents with the same text are the
same document. Every token shows where it ends, numbers by the character behind
them.
-/

namespace MicrochipDay.Library.Json

open MicrochipDay.Library.Unicode
open MicrochipDay.Library.Decimal

/-! ## Runs of characters -/

/-- The text does not go on with a character of a kind. -/
def Stops (kind : CodePoint → Prop) (rest : Text) : Prop := ∀ point ∈ rest.head?, ¬ kind point

theorem stops_cons {kind : CodePoint → Prop} {point : CodePoint} (other : ¬ kind point)
    (rest : Text) : Stops kind (point :: rest) := by
  intro first inside
  obtain rfl := Option.some.inj inside
  exact other

theorem Stops.not_cons {kind : CodePoint → Prop} {point : CodePoint} {rest : Text}
    (stops : Stops kind (point :: rest)) : ¬ kind point :=
  stops point rfl

theorem Stops.mono {kind wider : CodePoint → Prop} (implies : ∀ point, kind point → wider point)
    {rest : Text} (stops : Stops wider rest) : Stops kind rest :=
  fun point inside is => stops point inside (implies point is)

/-- A run of characters of a kind ends where the kind does. -/
theorem run_unique {kind : CodePoint → Prop} {left right leftRest rightRest : Text}
    (leftAll : ∀ point ∈ left, kind point) (rightAll : ∀ point ∈ right, kind point)
    (leftStops : Stops kind leftRest) (rightStops : Stops kind rightRest)
    (same : left ++ leftRest = right ++ rightRest) : left = right ∧ leftRest = rightRest := by
  induction left generalizing right with
  | nil =>
      cases right with
      | nil => exact ⟨rfl, same⟩
      | cons point right =>
          rw [List.nil_append, List.cons_append] at same
          rw [same] at leftStops
          exact absurd (rightAll point List.mem_cons_self) leftStops.not_cons
  | cons point left inductionHypothesis =>
      cases right with
      | nil =>
          rw [List.nil_append, List.cons_append] at same
          rw [← same] at rightStops
          exact absurd (leftAll point List.mem_cons_self) rightStops.not_cons
      | cons other right =>
          obtain ⟨rfl, tails⟩ := List.cons_eq_cons.mp same
          obtain ⟨rfl, rests⟩ := inductionHypothesis
            (fun next inside => leftAll next (List.mem_cons_of_mem _ inside))
            (fun next inside => rightAll next (List.mem_cons_of_mem _ inside)) tails
          exact ⟨rfl, rests⟩

/-! ## Numbers -/

def point : CodePoint := CodePoint.ofChar '.'

/-- A character that a number may go on with. -/
def ContinuesNumber (next : CodePoint) : Prop :=
  IsDigit next ∨ next = point ∨ next = CodePoint.ofChar 'e' ∨ next = CodePoint.ofChar 'E'

theorem Sign.point_not_digit (sign : Sign) : ¬ IsDigit sign.point := by
  cases sign <;> decide

theorem Sign.point_injective {left right : Sign} (same : left.point = right.point) :
    left = right := by
  revert same
  cases left <;> cases right <;> decide

/-- A text that starts with a digit. -/
def StartsDigit (text : Text) : Prop := ∃ first rest, text = first :: rest ∧ IsDigit first

theorem AllDigits.startsDigit {digits : Text} (all : AllDigits digits) (rest : Text) :
    StartsDigit (digits ++ rest) := by
  obtain ⟨first, others, rfl⟩ := List.exists_cons_of_ne_nil all.1
  exact ⟨first, others ++ rest, rfl, all.2 first List.mem_cons_self⟩

theorem sign_unique {left right : Option Sign} {leftRest rightRest : Text}
    (leftDigits : StartsDigit leftRest) (rightDigits : StartsDigit rightRest)
    (same : signText left ++ leftRest = signText right ++ rightRest) :
    left = right ∧ leftRest = rightRest := by
  obtain ⟨first, rest, rfl, digit⟩ := leftDigits
  obtain ⟨other, others, rfl, otherDigit⟩ := rightDigits
  cases left with
  | none =>
      cases right with
      | none => exact ⟨rfl, same⟩
      | some sign =>
          obtain ⟨rfl, -⟩ := List.cons_eq_cons.mp same
          exact absurd digit sign.point_not_digit
  | some sign =>
      cases right with
      | none =>
          obtain ⟨rfl, -⟩ := List.cons_eq_cons.mp same
          exact absurd otherDigit sign.point_not_digit
      | some otherSign =>
          obtain ⟨points, rests⟩ := List.cons_eq_cons.mp same
          exact ⟨congrArg some (Sign.point_injective points), rests⟩

/-- The mark of an exponent. -/
def mark (upperCase : Bool) : CodePoint := CodePoint.ofChar (if upperCase then 'E' else 'e')

theorem continuesNumber_mark (upperCase : Bool) : ContinuesNumber (mark upperCase) := by
  cases upperCase
  · exact .inr (.inr (.inl rfl))
  · exact .inr (.inr (.inr rfl))

theorem mark_injective {left right : Bool} (same : mark left = mark right) : left = right := by
  revert same
  cases left <;> cases right <;> decide

theorem digit_continues (next : CodePoint) (digit : IsDigit next) : ContinuesNumber next :=
  .inl digit

theorem exponentText_some (exponent : Exponent) (rest : Text) :
    exponentText (some exponent) ++ rest =
      mark exponent.upperCase :: (signText exponent.sign ++ (exponent.digits ++ rest)) := by
  rw [← List.append_assoc]
  rfl

theorem exponent_unique {left right : Option Exponent} {leftRest rightRest : Text}
    (leftStops : Stops ContinuesNumber leftRest) (rightStops : Stops ContinuesNumber rightRest)
    (same : exponentText left ++ leftRest = exponentText right ++ rightRest) :
    left = right ∧ leftRest = rightRest := by
  cases left with
  | none =>
      cases right with
      | none => exact ⟨rfl, same⟩
      | some exponent =>
          obtain rfl : leftRest = _ := same
          exact absurd (continuesNumber_mark exponent.upperCase) leftStops.not_cons
  | some exponent =>
      cases right with
      | none =>
          obtain rfl : _ = rightRest := same
          exact absurd (continuesNumber_mark exponent.upperCase) rightStops.not_cons
      | some other =>
          rw [exponentText_some, exponentText_some] at same
          obtain ⟨marks, signed⟩ := List.cons_eq_cons.mp same
          obtain ⟨signs, run⟩ := sign_unique (exponent.isDigits.startsDigit _)
            (other.isDigits.startsDigit _) signed
          obtain ⟨digits, rests⟩ := run_unique exponent.isDigits.2 other.isDigits.2
            (leftStops.mono digit_continues) (rightStops.mono digit_continues) run
          exact ⟨congrArg some (Exponent.ext (mark_injective marks) signs digits), rests⟩

/-- A digit or the point in front of a fraction. -/
def ContinuesWhole (next : CodePoint) : Prop := IsDigit next ∨ next = point

theorem fraction_unique {left right : Option Text} {leftRest rightRest : Text}
    (leftDigits : ∀ digits ∈ left, AllDigits digits)
    (rightDigits : ∀ digits ∈ right, AllDigits digits)
    (leftStops : Stops ContinuesWhole leftRest) (rightStops : Stops ContinuesWhole rightRest)
    (same : fractionText left ++ leftRest = fractionText right ++ rightRest) :
    left = right ∧ leftRest = rightRest := by
  cases left with
  | none =>
      cases right with
      | none => exact ⟨rfl, same⟩
      | some digits =>
          obtain rfl : leftRest = _ := same
          exact absurd (.inr rfl) leftStops.not_cons
  | some digits =>
      cases right with
      | none =>
          obtain rfl : _ = rightRest := same
          exact absurd (.inr rfl) rightStops.not_cons
      | some others =>
          obtain ⟨-, run⟩ := List.cons_eq_cons.mp same
          obtain ⟨rfl, rests⟩ := run_unique (leftDigits _ rfl).2 (rightDigits _ rfl).2
            (leftStops.mono fun _ => .inl) (rightStops.mono fun _ => .inl) run
          exact ⟨rfl, rests⟩

theorem exponentText_stops (exponent : Option Exponent) {rest : Text}
    (stops : Stops ContinuesNumber rest) :
    Stops ContinuesWhole (exponentText exponent ++ rest) := by
  cases exponent with
  | none =>
      refine stops.mono fun next continues => ?_
      rcases continues with digit | isPoint
      · exact .inl digit
      · exact .inr (.inl isPoint)
  | some exponent =>
      refine stops_cons ?_ _
      show ¬ ContinuesWhole (mark exponent.upperCase)
      unfold ContinuesWhole
      cases exponent.upperCase <;> decide

theorem fractionText_stops (fraction : Option Text) {rest : Text}
    (stops : Stops ContinuesWhole rest) : Stops IsDigit (fractionText fraction ++ rest) := by
  cases fraction with
  | none => exact stops.mono fun _ => .inl
  | some digits => exact stops_cons (by decide) _

/-- The sign in front of a number. -/
def minusText (negative : Bool) : Text := if negative then [minus] else []

theorem minus_unique {left right : Bool} {leftRest rightRest : Text}
    (leftDigits : StartsDigit leftRest) (rightDigits : StartsDigit rightRest)
    (same : minusText left ++ leftRest = minusText right ++ rightRest) :
    left = right ∧ leftRest = rightRest := by
  have signOf (negative : Bool) :
      minusText negative = signText (if negative then some .minus else none) := by
    cases negative <;> rfl
  rw [signOf, signOf] at same
  obtain ⟨signs, rests⟩ := sign_unique leftDigits rightDigits same
  refine ⟨?_, rests⟩
  cases left <;> cases right <;> first | rfl | contradiction

theorem Number.text_unique {left right : Number} {leftRest rightRest : Text}
    (leftStops : Stops ContinuesNumber leftRest) (rightStops : Stops ContinuesNumber rightRest)
    (same : left.text ++ leftRest = right.text ++ rightRest) :
    left = right ∧ leftRest = rightRest := by
  unfold Number.text at same
  simp only [List.append_assoc] at same
  have leftExponent := exponentText_stops left.exponent leftStops
  have rightExponent := exponentText_stops right.exponent rightStops
  obtain ⟨negative, unsigned⟩ := minus_unique (left.wholeDigits.startsDigit _)
    (right.wholeDigits.startsDigit _) same
  obtain ⟨whole, fractions⟩ := run_unique left.wholeDigits.2 right.wholeDigits.2
    (fractionText_stops left.fraction leftExponent)
    (fractionText_stops right.fraction rightExponent) unsigned
  obtain ⟨fraction, exponents⟩ := fraction_unique left.fractionDigits right.fractionDigits
    leftExponent rightExponent fractions
  obtain ⟨exponent, rests⟩ := exponent_unique leftStops rightStops exponents
  exact ⟨Number.ext negative whole fraction exponent, rests⟩

/-! ## Strings -/

theorem Escape.letter_injective {left right : Escape}
    (same : CodePoint.ofChar left.entry.1 = CodePoint.ofChar right.entry.1) : left = right := by
  revert same
  cases left <;> cases right <;> decide

theorem Escape.letter_ne_unicode (escape : Escape) :
    CodePoint.ofChar escape.entry.1 ≠ CodePoint.ofChar 'u' := by
  cases escape <;> decide

theorem Written.text_unique {left right : Written} {leftRest rightRest : Text}
    (same : left.text ++ leftRest = right.text ++ rightRest) :
    left = right ∧ leftRest = rightRest := by
  cases left with
  | plain first allowed =>
      cases right with
      | plain other otherAllowed =>
          obtain ⟨rfl, rests⟩ := List.cons_eq_cons.mp same
          exact ⟨rfl, rests⟩
      | letter escape =>
          obtain ⟨rfl, -⟩ := List.cons_eq_cons.mp same
          exact absurd rfl allowed.2.2.1
      | unicode =>
          obtain ⟨rfl, -⟩ := List.cons_eq_cons.mp same
          exact absurd rfl allowed.2.2.1
  | letter escape =>
      cases right with
      | plain other otherAllowed =>
          obtain ⟨rfl, -⟩ := List.cons_eq_cons.mp same
          exact absurd rfl otherAllowed.2.2.1
      | letter other =>
          obtain ⟨-, letters⟩ := List.cons_eq_cons.mp same
          obtain ⟨letter, rests⟩ := List.cons_eq_cons.mp letters
          exact ⟨congrArg Written.letter (Escape.letter_injective letter), rests⟩
      | unicode =>
          obtain ⟨-, letters⟩ := List.cons_eq_cons.mp same
          exact absurd (List.cons_eq_cons.mp letters).1 escape.letter_ne_unicode
  | unicode first second third fourth =>
      cases right with
      | plain other otherAllowed =>
          obtain ⟨rfl, -⟩ := List.cons_eq_cons.mp same
          exact absurd rfl otherAllowed.2.2.1
      | letter escape =>
          obtain ⟨-, letters⟩ := List.cons_eq_cons.mp same
          exact absurd (List.cons_eq_cons.mp letters).1.symm escape.letter_ne_unicode
      | unicode first' second' third' fourth' =>
          simp only [Written.text, List.cons_append, List.nil_append, List.cons_eq_cons,
            true_and, ← HexDigit.ext_iff] at same
          obtain ⟨rfl, rfl, rfl, rfl, rests⟩ := same
          exact ⟨rfl, rests⟩

theorem Written.text_ne_quote (written : Written) (rest tail : Text) :
    written.text ++ rest ≠ quote :: tail := by
  intro same
  cases written with
  | plain point allowed => exact allowed.2.1 (List.cons_eq_cons.mp same).1
  | letter escape =>
      exact absurd (List.cons_eq_cons.mp same).1 (by decide)
  | unicode =>
      exact absurd (List.cons_eq_cons.mp same).1 (by decide)

theorem JsonString.characters_unique {left right : JsonString} {leftRest rightRest : Text}
    (same : left.flatMap Written.text ++ quote :: leftRest =
      right.flatMap Written.text ++ quote :: rightRest) :
    left = right ∧ leftRest = rightRest := by
  induction left generalizing right with
  | nil =>
      cases right with
      | nil => exact ⟨rfl, (List.cons_eq_cons.mp same).2⟩
      | cons other right =>
          rw [List.flatMap_cons, List.append_assoc] at same
          exact absurd same.symm (other.text_ne_quote _ _)
  | cons written left inductionHypothesis =>
      cases right with
      | nil =>
          rw [List.flatMap_cons, List.append_assoc] at same
          exact absurd same (written.text_ne_quote _ _)
      | cons other right =>
          rw [List.flatMap_cons, List.flatMap_cons, List.append_assoc, List.append_assoc] at same
          obtain ⟨rfl, tails⟩ := Written.text_unique same
          obtain ⟨rfl, rests⟩ := inductionHypothesis tails
          exact ⟨rfl, rests⟩

theorem JsonString.text_unique {left right : JsonString} {leftRest rightRest : Text}
    (same : left.text ++ leftRest = right.text ++ rightRest) :
    left = right ∧ leftRest = rightRest := by
  unfold JsonString.text at same
  simp only [List.cons_append, List.append_assoc, List.nil_append, List.cons_eq_cons,
    true_and] at same
  exact JsonString.characters_unique same

/-! ## Documents -/

/-- What the first character of a document gives away. -/
inductive Kind
  | null
  | bool (value : Bool)
  | number
  | string
  | array
  | object
  deriving DecidableEq

def Document.kind : Document → Kind
  | .null => .null
  | .bool value => .bool value
  | .number _ => .number
  | .string _ => .string
  | .array _ => .array
  | .object _ => .object

def kindOf (first : CodePoint) : Option Kind :=
  if IsDigit first ∨ first = minus then some .number
  else if first = CodePoint.ofChar 'n' then some .null
  else if first = CodePoint.ofChar 't' then some (.bool true)
  else if first = CodePoint.ofChar 'f' then some (.bool false)
  else if first = quote then some .string
  else if first = CodePoint.ofChar '[' then some .array
  else if first = CodePoint.ofChar '\x7b' then some .object
  else none

theorem Number.kindOf_head (number : Number) (rest : Text) :
    ∃ first others, number.text ++ rest = first :: others ∧ kindOf first = some .number := by
  obtain ⟨first, others, digits, digit⟩ := number.wholeDigits.startsDigit
    (fractionText number.fraction ++ (exponentText number.exponent ++ rest))
  unfold Number.text
  simp only [List.append_assoc]
  rw [digits]
  split
  · exact ⟨_, _, rfl, if_pos (.inr rfl)⟩
  · exact ⟨first, others, rfl, if_pos (.inl digit)⟩

theorem Document.kindOf_head (document : Document) (rest : Text) :
    ∃ first others, document.text ++ rest = first :: others ∧
      kindOf first = some document.kind := by
  cases document with
  | null => exact ⟨_, _, rfl, rfl⟩
  | bool value => cases value <;> exact ⟨_, _, rfl, rfl⟩
  | number number => exact number.kindOf_head rest
  | string string => exact ⟨_, _, rfl, rfl⟩
  | array items => exact ⟨_, _, rfl, rfl⟩
  | object members => exact ⟨_, _, rfl, rfl⟩

theorem Document.kind_eq {left right : Document} {leftRest rightRest : Text}
    (same : left.text ++ leftRest = right.text ++ rightRest) : left.kind = right.kind := by
  obtain ⟨first, others, starts, leftKind⟩ := left.kindOf_head leftRest
  obtain ⟨other, more, otherStarts, rightKind⟩ := right.kindOf_head rightRest
  rw [starts, otherStarts] at same
  obtain ⟨rfl, -⟩ := List.cons_eq_cons.mp same
  exact Option.some.inj (leftKind.symm.trans rightKind)

/-- The items behind the first one, each with the comma in front of it. -/
def moreItems : List Document → Text
  | [] => []
  | item :: items => comma ++ itemsText (item :: items)

theorem itemsText_cons (item : Document) (items : List Document) :
    itemsText (item :: items) = item.text ++ moreItems items := by
  cases items with
  | nil => simp [itemsText, moreItems]
  | cons next items => simp [itemsText, moreItems]

/-- The members behind the first one, each with the comma in front of it. -/
def moreMembers : List (JsonString × Document) → Text
  | [] => []
  | member :: members => comma ++ membersText (member :: members)

theorem membersText_cons (name : JsonString) (value : Document)
    (members : List (JsonString × Document)) :
    membersText ((name, value) :: members) =
      name.text ++ (Text.ofString ":" ++ (value.text ++ moreMembers members)) := by
  cases members with
  | nil => simp [membersText, moreMembers]
  | cons next members => simp [membersText, moreMembers]

def closeArray : CodePoint := CodePoint.ofChar ']'

def closeObject : CodePoint := CodePoint.ofChar '\x7d'

theorem moreItems_stops (items : List Document) (rest : Text) :
    Stops ContinuesNumber (moreItems items ++ closeArray :: rest) := by
  have closes : ¬ ContinuesNumber closeArray := by
    unfold ContinuesNumber
    decide
  have goesOn : ¬ ContinuesNumber (CodePoint.ofChar ',') := by
    unfold ContinuesNumber
    decide
  cases items with
  | nil => exact stops_cons closes rest
  | cons item items => exact stops_cons goesOn _

theorem moreMembers_stops (members : List (JsonString × Document)) (rest : Text) :
    Stops ContinuesNumber (moreMembers members ++ closeObject :: rest) := by
  have closes : ¬ ContinuesNumber closeObject := by
    unfold ContinuesNumber
    decide
  have goesOn : ¬ ContinuesNumber (CodePoint.ofChar ',') := by
    unfold ContinuesNumber
    decide
  cases members with
  | nil => exact stops_cons closes rest
  | cons member members => exact stops_cons goesOn _

theorem Document.text_ne_cons (document : Document) {other : CodePoint} (none : kindOf other = none)
    (rest tail : Text) : document.text ++ rest ≠ other :: tail := by
  intro same
  obtain ⟨first, others, starts, kind⟩ := document.kindOf_head rest
  rw [starts] at same
  obtain ⟨rfl, -⟩ := List.cons_eq_cons.mp same
  rw [none] at kind
  contradiction

mutual

/-- A text, with what follows it, is that of one document only. -/
theorem Document.text_unique : ∀ (left right : Document) {leftRest rightRest : Text},
    Stops ContinuesNumber leftRest → Stops ContinuesNumber rightRest →
    left.text ++ leftRest = right.text ++ rightRest → left = right ∧ leftRest = rightRest
  | .null, right, _, _, _, _, same => by
      have kinds := Document.kind_eq same
      cases right with
      | null => exact ⟨rfl, List.append_cancel_left same⟩
      | _ => contradiction
  | .bool value, right, _, _, _, _, same => by
      have kinds := Document.kind_eq same
      cases right with
      | bool other =>
          obtain rfl := Kind.bool.inj kinds
          exact ⟨rfl, List.append_cancel_left same⟩
      | _ => contradiction
  | .number number, right, _, _, leftStops, rightStops, same => by
      have kinds := Document.kind_eq same
      cases right with
      | number other =>
          obtain ⟨rfl, rests⟩ := Number.text_unique leftStops rightStops same
          exact ⟨rfl, rests⟩
      | _ => contradiction
  | .string string, right, _, _, _, _, same => by
      have kinds := Document.kind_eq same
      cases right with
      | string other =>
          obtain ⟨rfl, rests⟩ := JsonString.text_unique same
          exact ⟨rfl, rests⟩
      | _ => contradiction
  | .array items, right, _, _, _, _, same => by
      have kinds := Document.kind_eq same
      cases right with
      | array others =>
          simp only [Document.text, List.append_assoc] at same
          obtain ⟨rfl, rests⟩ := items_unique items others (List.cons_eq_cons.mp same).2
          exact ⟨rfl, rests⟩
      | _ => contradiction
  | .object members, right, _, _, _, _, same => by
      have kinds := Document.kind_eq same
      cases right with
      | object others =>
          simp only [Document.text, List.append_assoc] at same
          obtain ⟨rfl, rests⟩ := members_unique members others (List.cons_eq_cons.mp same).2
          exact ⟨rfl, rests⟩
      | _ => contradiction

theorem items_unique : ∀ (left right : List Document) {leftRest rightRest : Text},
    itemsText left ++ closeArray :: leftRest = itemsText right ++ closeArray :: rightRest →
    left = right ∧ leftRest = rightRest
  | [], [], _, _, same => ⟨rfl, (List.cons_eq_cons.mp same).2⟩
  | [], other :: others, _, _, same => by
      rw [itemsText_cons, List.append_assoc] at same
      exact absurd same.symm (other.text_ne_cons (by decide) _ _)
  | item :: items, [], _, _, same => by
      rw [itemsText_cons, List.append_assoc] at same
      exact absurd same (item.text_ne_cons (by decide) _ _)
  | item :: items, other :: others, leftRest, rightRest, same => by
      rw [itemsText_cons, itemsText_cons, List.append_assoc, List.append_assoc] at same
      obtain ⟨rfl, more⟩ := Document.text_unique item other (moreItems_stops items leftRest)
        (moreItems_stops others rightRest) same
      cases items with
      | nil =>
          cases others with
          | nil => exact ⟨rfl, (List.cons_eq_cons.mp more).2⟩
          | cons next others => exact absurd (List.cons_eq_cons.mp more).1 (by decide)
      | cons next items =>
          cases others with
          | nil => exact absurd (List.cons_eq_cons.mp more).1 (by decide)
          | cons second others =>
              obtain ⟨same, rests⟩ := items_unique (next :: items) (second :: others)
                (List.cons_eq_cons.mp more).2
              exact ⟨congrArg (item :: ·) same, rests⟩

theorem members_unique : ∀ (left right : List (JsonString × Document)) {leftRest rightRest : Text},
    membersText left ++ closeObject :: leftRest = membersText right ++ closeObject :: rightRest →
    left = right ∧ leftRest = rightRest
  | [], [], _, _, same => ⟨rfl, (List.cons_eq_cons.mp same).2⟩
  | [], (name, value) :: others, _, _, same => by
      rw [membersText_cons] at same
      exact absurd (List.cons_eq_cons.mp same).1 (by decide)
  | (name, value) :: members, [], _, _, same => by
      rw [membersText_cons] at same
      exact absurd (List.cons_eq_cons.mp same).1 (by decide)
  | (name, value) :: members, (other, otherValue) :: others, leftRest, rightRest, same => by
      rw [membersText_cons, membersText_cons] at same
      simp only [List.append_assoc] at same
      obtain ⟨rfl, values⟩ := JsonString.text_unique same
      obtain ⟨rfl, more⟩ := Document.text_unique value otherValue
        (moreMembers_stops members leftRest) (moreMembers_stops others rightRest)
        (List.append_cancel_left values)
      cases members with
      | nil =>
          cases others with
          | nil => exact ⟨rfl, (List.cons_eq_cons.mp more).2⟩
          | cons next others => exact absurd (List.cons_eq_cons.mp more).1 (by decide)
      | cons next members =>
          cases others with
          | nil => exact absurd (List.cons_eq_cons.mp more).1 (by decide)
          | cons second others =>
              obtain ⟨same, rests⟩ := members_unique (next :: members) (second :: others)
                (List.cons_eq_cons.mp more).2
              exact ⟨congrArg ((name, value) :: ·) same, rests⟩

end

theorem Document.text_injective {left right : Document} (same : left.text = right.text) :
    left = right := by
  have stops : Stops ContinuesNumber [] := fun _ inside => by contradiction
  have extended : left.text ++ [] = right.text ++ [] := by rw [same]
  exact (Document.text_unique left right stops stops extended).1

theorem Document.encode_injective {left right : Document} (same : left.encode = right.encode) :
    left = right :=
  Document.text_injective (utf8_injective same)

end MicrochipDay.Library.Json
