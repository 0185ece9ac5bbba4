import MicrochipDay.Library.Python.Scalars

/-!
Owns the round trip: the document that `json.dumps` prints for a value without
floats reads back as that value.
-/

namespace MicrochipDay.Library.Python

open MicrochipDay.Library.Unicode
open MicrochipDay.Library.Decimal

/-! ## Values -/

mutual

/-- The values whose documents read back: no floats, no surrogates, integers
within the digit limit and no key twice. -/
def Value.Plain (interpreter : Interpreter) : Value → Prop
  | .int number => interpreter.ReadsDigits (natText number.natAbs).length
  | .float _ => False
  | .str text => ∀ point ∈ text, ¬ IsSurrogate point
  | .list items => PlainItems interpreter items
  | .dict members => PlainMembers interpreter members ∧ (members.map Prod.fst).Nodup
  | _ => True

def PlainItems (interpreter : Interpreter) : List Value → Prop
  | [] => True
  | item :: items => item.Plain interpreter ∧ PlainItems interpreter items

def PlainMembers (interpreter : Interpreter) : List (Text × Value) → Prop
  | [] => True
  | (key, value) :: members =>
      ((∀ point ∈ key, ¬ IsSurrogate point) ∧ value.Plain interpreter) ∧
        PlainMembers interpreter members

end

/-- From some bound on, the scanner reads `value` and leaves `rest`. -/
def Reads (interpreter : Interpreter) (text : Text) (value : Value) (rest : Text) : Prop :=
  ∃ enough, ∀ fuel, enough ≤ fuel → scanOnce interpreter fuel text = some (value, rest)

theorem assign_of_not_mem {key : Text} {members : List (Text × Value)} (value : Value)
    (fresh : key ∉ members.map Prod.fst) :
    assign key value members = members ++ [(key, value)] := by
  induction members with
  | nil => rfl
  | cons member members known =>
    obtain ⟨name, old⟩ := member
    rw [List.map_cons, List.mem_cons, not_or] at fresh
    rw [assign, if_neg (Ne.symm fresh.1), known fresh.2]
    rfl

private theorem skipSpace_cons {point : CodePoint} (rest : Text) (solid : isSpace point = false) :
    skipSpace (point :: rest) = point :: rest := by
  unfold skipSpace
  rw [List.dropWhile_cons, solid]
  rfl

/-- A document starts with a code point that is neither space nor a closing one. -/
def Opens (point : CodePoint) : Prop := isSpace point = false ∧ point ≠ closeBracket

instance (point : CodePoint) : Decidable (Opens point) := by
  unfold Opens
  infer_instance

theorem opens_of_isDigit {point : CodePoint} (digit : IsDigit point) : Opens point := by
  have noDigit : ∀ char ∈ [' ', '\t', '\n', '\r', ']'], ¬IsDigit (CodePoint.ofChar char) := by
    simp [IsDigit, CodePoint.ofChar]
  have other : ∀ char ∈ [' ', '\t', '\n', '\r', ']'], point ≠ CodePoint.ofChar char := by
    intro char inside same
    exact noDigit char inside (same ▸ digit)
  simp only [List.mem_cons, List.not_mem_nil, or_false, forall_eq_or_imp, forall_eq] at other
  obtain ⟨space, tab, newline, carriageReturn, bracket⟩ := other
  exact ⟨by simp [isSpace, space, tab, newline, carriageReturn], bracket⟩

theorem head_dump {interpreter : Interpreter} {value : Value} (plain : value.Plain interpreter)
    (rest : Text) : ∃ first others, value.dump ++ rest = first :: others ∧ Opens first := by
  cases value with
  | none => exact ⟨CodePoint.ofChar 'n', _, rfl, by decide⟩
  | bool value =>
    cases value with
    | false => exact ⟨CodePoint.ofChar 'f', _, rfl, by decide⟩
    | true => exact ⟨CodePoint.ofChar 't', _, rfl, by decide⟩
  | int number =>
    cases number with
    | ofNat number =>
      obtain ⟨first, others, spelled, digit⟩ := head_natText number rest
      exact ⟨first, others, spelled, opens_of_isDigit digit⟩
    | negSucc number => exact ⟨_, _, rfl, by decide⟩
  | float value => exact plain.elim
  | str text => exact ⟨_, _, rfl, by decide⟩
  | list items => exact ⟨_, _, rfl, by decide⟩
  | dict members => exact ⟨_, _, rfl, by decide⟩

theorem skipSpace_of_opens {text : Text}
    (opens : ∃ first others, text = first :: others ∧ Opens first) : skipSpace text = text := by
  obtain ⟨first, others, rfl, solid, -⟩ := opens
  exact skipSpace_cons others solid

/-- From some bound on, a loop of the scanner gives `result`. -/
def Eventually (scan : Nat → Option (Value × Text)) (result : Value × Text) : Prop :=
  ∃ enough, ∀ fuel, enough ≤ fuel → scan fuel = some result

private theorem Eventually.succ {scan : Nat → Option (Value × Text)} {result : Value × Text}
    (enough : ∃ least, ∀ fuel, least ≤ fuel → scan (fuel + 1) = some result) :
    Eventually scan result := by
  obtain ⟨least, scanned⟩ := enough
  refine ⟨least + 1, fun fuel large => ?_⟩
  obtain ⟨fuel, rfl⟩ := Nat.exists_eq_add_of_le' (Nat.le_of_add_left_le large)
  exact scanned fuel (by omega)

variable {interpreter : Interpreter}

theorem scanItems_last {items : List Value} {text rest : Text} {value : Value}
    (first : Reads interpreter text value (closeBracket :: rest)) :
    Eventually (fun fuel => scanItems interpreter fuel items text)
      (.list (items ++ [value]), rest) := by
  obtain ⟨enough, scanned⟩ := first
  apply Eventually.succ
  refine ⟨enough, fun fuel large => ?_⟩
  rw [scanItems, scanned fuel large]
  dsimp only
  rw [skipSpace_cons rest (by decide)]
  rfl

theorem scanItems_more {items : List Value} {text next : Text} {value : Value}
    {result : Value × Text} (first : Reads interpreter text value (separator ++ next))
    (opens : ∃ point others, next = point :: others ∧ Opens point)
    (others : Eventually (fun fuel => scanItems interpreter fuel (items ++ [value]) next) result) :
    Eventually (fun fuel => scanItems interpreter fuel items text) result := by
  obtain ⟨enough, scanned⟩ := first
  obtain ⟨more, rest⟩ := others
  apply Eventually.succ
  refine ⟨max enough more, fun fuel large => ?_⟩
  have spaced : skipSpace (CodePoint.ofChar ' ' :: next) = next := skipSpace_of_opens opens
  rw [scanItems, scanned fuel (by omega)]
  dsimp only
  rw [show separator ++ next = comma :: CodePoint.ofChar ' ' :: next from rfl,
    skipSpace_cons _ (by decide), List.head?_cons, if_neg (by decide), if_pos rfl, List.tail_cons,
    spaced]
  exact rest fuel (by omega)

/-- A member up to the start of its value. -/
private theorem scanMembers_key {members : List (Text × Value)} {key after : Text} {fuel : Nat}
    (clean : ∀ point ∈ key, ¬ IsSurrogate point) (enough : key.length < fuel)
    (opens : ∃ point others, after = point :: others ∧ Opens point) :
    scanMembers interpreter (fuel + 1) members (dumpString key ++ Text.ofString ": " ++ after) =
      match scanOnce interpreter fuel after with
      | none => none
      | some (value, afterValue) =>
          if (skipSpace afterValue).head? = some closeBrace then
            some (.dict (assign key value members), (skipSpace afterValue).tail)
          else if (skipSpace afterValue).head? = some comma then
            scanMembers interpreter fuel (assign key value members)
              (skipSpace (skipSpace afterValue).tail)
          else none := by
  have spelled : dumpString key ++ Text.ofString ": " ++ after =
      doubleQuote :: (key.flatMap dumpPoint ++ doubleQuote ::
        (colon :: CodePoint.ofChar ' ' :: after)) := by
    simp only [dumpString, List.cons_append, List.append_assoc]
    rfl
  have spaced : skipSpace (CodePoint.ofChar ' ' :: after) = after := skipSpace_of_opens opens
  rw [spelled, scanMembers, if_pos rfl, scanString_flatMap_dumpPoint clean _ enough]
  dsimp only
  rewrite [skipSpace_cons _ (by decide), List.head?_cons, if_pos rfl, List.tail_cons, spaced]
  rfl

theorem scanMembers_last {members : List (Text × Value)} {key after rest : Text} {value : Value}
    (clean : ∀ point ∈ key, ¬ IsSurrogate point) (fresh : key ∉ members.map Prod.fst)
    (opens : ∃ point others, after = point :: others ∧ Opens point)
    (first : Reads interpreter after value (closeBrace :: rest)) :
    Eventually (fun fuel => scanMembers interpreter fuel members
      (dumpString key ++ Text.ofString ": " ++ after))
      (.dict (members ++ [(key, value)]), rest) := by
  obtain ⟨enough, scanned⟩ := first
  apply Eventually.succ
  refine ⟨max enough (key.length + 1), fun fuel large => ?_⟩
  rw [scanMembers_key clean (by omega) opens, scanned fuel (by omega)]
  dsimp only
  rw [skipSpace_cons rest (by decide), List.head?_cons, if_pos rfl, assign_of_not_mem value fresh]
  rfl

theorem scanMembers_more {members : List (Text × Value)} {key after next : Text} {value : Value}
    {result : Value × Text} (clean : ∀ point ∈ key, ¬ IsSurrogate point)
    (fresh : key ∉ members.map Prod.fst)
    (opens : ∃ point others, after = point :: others ∧ Opens point)
    (first : Reads interpreter after value (separator ++ next))
    (opensNext : ∃ point others, next = point :: others ∧ Opens point)
    (others : Eventually (fun fuel => scanMembers interpreter fuel (members ++ [(key, value)]) next)
      result) :
    Eventually (fun fuel => scanMembers interpreter fuel members
      (dumpString key ++ Text.ofString ": " ++ after)) result := by
  obtain ⟨enough, scanned⟩ := first
  obtain ⟨more, rest⟩ := others
  apply Eventually.succ
  refine ⟨max enough (max more (key.length + 1)), fun fuel large => ?_⟩
  have spaced : skipSpace (CodePoint.ofChar ' ' :: next) = next := skipSpace_of_opens opensNext
  rw [scanMembers_key clean (by omega) opens, scanned fuel (by omega)]
  dsimp only
  rw [show separator ++ next = comma :: CodePoint.ofChar ' ' :: next from rfl,
    skipSpace_cons _ (by decide), List.head?_cons, if_neg (by decide), if_pos rfl, List.tail_cons,
    spaced, assign_of_not_mem value fresh]
  exact rest fuel (by omega)

/-! ## The round trip -/

private theorem endsNumber_closeBracket (rest : Text) : EndsNumber (closeBracket :: rest) :=
  EndsNumber.of_cons closeBracket (by decide)

private theorem endsNumber_closeBrace (rest : Text) : EndsNumber (closeBrace :: rest) :=
  EndsNumber.of_cons closeBrace (by decide)

private theorem endsNumber_separator (rest : Text) : EndsNumber (separator ++ rest) :=
  EndsNumber.of_cons comma (by decide)

/-- A constant is read where no constant before it in the table starts the text. -/
private theorem reads_constant (first : CodePoint) {others rest : Text} {value : Value}
    (notOpening : first ≠ doubleQuote ∧ first ≠ openBrace ∧ first ≠ openBracket)
    (scanned : scanConstant (first :: others) = some (value, rest)) :
    Reads interpreter (first :: others) value rest := by
  apply Eventually.succ
  refine ⟨0, fun fuel _ => ?_⟩
  rw [scanOnce, if_neg notOpening.1, if_neg notOpening.2.1, if_neg notOpening.2.2, scanned]

theorem reads_int {number : Int} {rest : Text}
    (reads : interpreter.ReadsDigits (natText number.natAbs).length) (ends : EndsNumber rest) :
    Reads interpreter (intText number ++ rest) (.int number) rest := by
  apply Eventually.succ
  refine ⟨0, fun fuel _ => ?_⟩
  have scanned := scanNumber_intText reads ends
  have noConstant := scanConstant_intText number rest
  have unquoted : ∃ first others, intText number ++ rest = first :: others ∧
      (IsDigit first ∨ first = minus) := by
    cases number with
    | ofNat number =>
      obtain ⟨first, others, spelled, digit⟩ := head_natText number rest
      exact ⟨first, others, spelled, .inl digit⟩
    | negSucc number => exact ⟨_, _, rfl, .inr rfl⟩
  obtain ⟨first, others, spelled, starts⟩ := unquoted
  rw [spelled] at scanned noConstant ⊢
  have notOpening : first ≠ doubleQuote ∧ first ≠ openBrace ∧ first ≠ openBracket := by
    refine ⟨?_, ?_, ?_⟩ <;> (rintro rfl; revert starts; decide)
  rw [scanOnce, if_neg notOpening.1, if_neg notOpening.2.1, if_neg notOpening.2.2, noConstant]
  exact scanned

theorem reads_str {text : Text} (clean : ∀ point ∈ text, ¬ IsSurrogate point) (rest : Text) :
    Reads interpreter (dumpString text ++ rest) (.str text) rest := by
  apply Eventually.succ
  refine ⟨text.length + 1, fun fuel large => ?_⟩
  have spelled : dumpString text ++ rest =
      doubleQuote :: (text.flatMap dumpPoint ++ doubleQuote :: rest) := by
    simp only [dumpString, List.cons_append, List.append_assoc, List.nil_append]
  rw [spelled, scanOnce, if_pos rfl, scanString_flatMap_dumpPoint clean rest (by omega)]
  rfl

theorem reads_list {items : List Value} {text rest : Text}
    (opens : ∃ first others, text = first :: others ∧ Opens first)
    (inside : Eventually (fun fuel => scanItems interpreter fuel [] text) (.list items, rest)) :
    Reads interpreter (openBracket :: text) (.list items) rest := by
  obtain ⟨enough, scanned⟩ := inside
  apply Eventually.succ
  refine ⟨enough, fun fuel large => ?_⟩
  have spaced := skipSpace_of_opens opens
  obtain ⟨first, others, rfl, -, notClosed⟩ := opens
  rw [scanOnce, if_neg (by decide), if_neg (by decide), if_pos rfl, spaced, List.head?_cons,
    if_neg fun closed => notClosed (Option.some.inj closed)]
  exact scanned fuel large

theorem reads_dict {members : List (Text × Value)} {text rest : Text}
    (opens : text.head? = some doubleQuote)
    (inside : Eventually (fun fuel => scanMembers interpreter fuel [] text) (.dict members, rest)) :
    Reads interpreter (openBrace :: text) (.dict members) rest := by
  obtain ⟨enough, scanned⟩ := inside
  apply Eventually.succ
  refine ⟨enough, fun fuel large => ?_⟩
  obtain ⟨others, rfl⟩ : ∃ others, text = doubleQuote :: others :=
    ⟨text.tail, List.eq_cons_of_mem_head? opens⟩
  rw [scanOnce, if_neg (by decide), if_pos rfl, skipSpace_cons others (by decide),
    List.head?_cons, if_neg (by decide)]
  exact scanned fuel large

private theorem dumpItems_cons (item next : Value) (items : List Value) (rest : Text) :
    dumpItems (item :: next :: items) ++ rest =
      item.dump ++ (separator ++ (dumpItems (next :: items) ++ rest)) := by
  simp only [dumpItems, List.append_assoc]

private theorem dumpMembers_cons (key : Text) (value : Value) (next : Text × Value)
    (members : List (Text × Value)) (rest : Text) :
    dumpMembers ((key, value) :: next :: members) ++ rest =
      dumpString key ++ Text.ofString ": " ++
        (value.dump ++ (separator ++ (dumpMembers (next :: members) ++ rest))) := by
  simp only [dumpMembers, List.append_assoc]

private theorem head_dumpItems {item : Value} (plain : item.Plain interpreter)
    (items : List Value) (rest : Text) : ∃ first others,
      dumpItems (item :: items) ++ rest = first :: others ∧ Opens first := by
  cases items with
  | nil => exact head_dump plain rest
  | cons next items =>
    rw [dumpItems_cons]
    exact head_dump plain _

private theorem head_dumpMembers (member : Text × Value) (members : List (Text × Value))
    (rest : Text) : ∃ others,
      dumpMembers (member :: members) ++ rest = doubleQuote :: others := by
  cases members with
  | nil => exact ⟨_, rfl⟩
  | cons next members => exact ⟨_, rfl⟩

mutual

/-- The document of a plain value is read back, whatever follows it. -/
theorem reads_dump : ∀ (value : Value), value.Plain interpreter → ∀ rest, EndsNumber rest →
    Reads interpreter (value.dump ++ rest) value rest
  | .none, _, rest, _ => reads_constant (CodePoint.ofChar 'n') (by decide) rfl
  | .bool true, _, rest, _ => reads_constant (CodePoint.ofChar 't') (by decide) rfl
  | .bool false, _, rest, _ => reads_constant (CodePoint.ofChar 'f') (by decide) rfl
  | .int number, plain, rest, ends => reads_int plain ends
  | .str text, plain, rest, _ => reads_str plain rest
  | .list [], _, rest, _ => Eventually.succ ⟨0, fun fuel _ => rfl⟩
  | .list (item :: items), plain, rest, _ => by
      have inside := reads_dumpItems (item :: items) (List.cons_ne_nil _ _) plain [] rest
      have spelled : (Value.list (item :: items)).dump ++ rest =
          openBracket :: (dumpItems (item :: items) ++ closeBracket :: rest) := by
        simp only [Value.dump, List.cons_append, List.append_assoc, List.nil_append]
      rw [spelled]
      exact reads_list (head_dumpItems plain.1 items _) inside
  | .dict [], _, rest, _ => Eventually.succ ⟨0, fun fuel _ => rfl⟩
  | .dict (member :: members), plain, rest, _ => by
      have inside := reads_dumpMembers (member :: members) (List.cons_ne_nil _ _) plain.1 []
        plain.2 rest
      have spelled : (Value.dict (member :: members)).dump ++ rest =
          openBrace :: (dumpMembers (member :: members) ++ closeBrace :: rest) := by
        simp only [Value.dump, List.cons_append, List.append_assoc, List.nil_append]
      rw [spelled]
      obtain ⟨others, quoted⟩ := head_dumpMembers member members (closeBrace :: rest)
      exact reads_dict (by rw [quoted]; rfl) inside

theorem reads_dumpItems : ∀ (items : List Value), items ≠ [] → PlainItems interpreter items →
    ∀ before rest, Eventually
      (fun fuel => scanItems interpreter fuel before (dumpItems items ++ closeBracket :: rest))
      (.list (before ++ items), rest)
  | [], nonempty, _, _, _ => absurd rfl nonempty
  | [item], _, plain, before, rest =>
      scanItems_last (reads_dump item plain.1 _ (endsNumber_closeBracket rest))
  | item :: next :: items, _, plain, before, rest => by
      have others := reads_dumpItems (next :: items) (List.cons_ne_nil _ _) plain.2
        (before ++ [item]) rest
      rw [List.append_assoc] at others
      rw [dumpItems_cons]
      exact scanItems_more (reads_dump item plain.1 _ (endsNumber_separator _))
        (head_dumpItems plain.2.1 items _) others

theorem reads_dumpMembers : ∀ (members : List (Text × Value)), members ≠ [] →
    PlainMembers interpreter members → ∀ before, ((before ++ members).map Prod.fst).Nodup →
    ∀ rest, Eventually
      (fun fuel => scanMembers interpreter fuel before (dumpMembers members ++ closeBrace :: rest))
      (.dict (before ++ members), rest)
  | [], nonempty, _, _, _, _ => absurd rfl nonempty
  | [(key, value)], _, plain, before, distinct, rest => by
      have fresh : key ∉ before.map Prod.fst := by
        rw [List.map_append, List.nodup_append] at distinct
        exact fun inside => distinct.2.2 key inside key (by simp) rfl
      have spelled : dumpMembers [(key, value)] ++ closeBrace :: rest =
          dumpString key ++ Text.ofString ": " ++ (value.dump ++ closeBrace :: rest) := by
        simp only [dumpMembers, List.append_assoc]
      rw [spelled]
      exact scanMembers_last plain.1.1 fresh (head_dump plain.1.2 _)
        (reads_dump value plain.1.2 _ (endsNumber_closeBrace rest))
  | (key, value) :: next :: members, _, plain, before, distinct, rest => by
      have fresh : key ∉ before.map Prod.fst := by
        rw [List.map_append, List.nodup_append] at distinct
        exact fun inside => distinct.2.2 key inside key (by simp) rfl
      have others := reads_dumpMembers (next :: members) (List.cons_ne_nil _ _) plain.2
        (before ++ [(key, value)]) (by rw [List.append_assoc]; exact distinct) rest
      rw [List.append_assoc] at others
      rw [dumpMembers_cons]
      obtain ⟨following, quoted⟩ := head_dumpMembers next members (closeBrace :: rest)
      exact scanMembers_more plain.1.1 fresh (head_dump plain.1.2 _)
        (reads_dump value plain.1.2 _ (endsNumber_separator _))
        ⟨_, _, quoted, by decide⟩ others

end

/-- A text that holds the document of a plain value decodes to that value. -/
theorem decodeText_dump {value : Value} (plain : value.Plain interpreter) :
    decodeText interpreter value.dump = some value := by
  obtain ⟨enough, scanned⟩ := reads_dump value plain [] endsNumber_nil
  have opens := head_dump plain []
  rw [List.append_nil] at scanned opens
  have bound := scanOnce_eq_of_enough interpreter value.dump
    (show 2 * value.dump.length < max enough (2 * value.dump.length + 1) by omega)
  unfold decodeText
  rw [skipSpace_of_opens opens, ← bound, scanned _ (by omega)]
  rfl

/-! ## The bytes of a document -/

/-- Between the space and the tilde. -/
def IsPrintableAscii (text : Text) : Prop :=
  ∀ point ∈ text, 0x20 ≤ point.val ∧ point.val < 0x7F

instance (text : Text) : Decidable (IsPrintableAscii text) := by
  unfold IsPrintableAscii
  infer_instance

theorem IsPrintableAscii.append {left right : Text} (leftPrintable : IsPrintableAscii left)
    (rightPrintable : IsPrintableAscii right) : IsPrintableAscii (left ++ right) := by
  intro point inside
  rcases List.mem_append.mp inside with inLeft | inRight
  · exact leftPrintable point inLeft
  · exact rightPrintable point inRight

theorem IsPrintableAscii.cons {point : CodePoint} {text : Text}
    (first : 0x20 ≤ point.val ∧ point.val < 0x7F) (rest : IsPrintableAscii text) :
    IsPrintableAscii (point :: text) :=
  List.forall_mem_cons.mpr ⟨first, rest⟩

theorem isPrintableAscii_hexText (width number : Nat) :
    IsPrintableAscii (hexText width number) := by
  induction width generalizing number with
  | zero => exact fun _ inside => absurd inside (List.not_mem_nil)
  | succ width known =>
    have digits : ∀ digit < 16, IsPrintableAscii [CodePoint.ofChar (Nat.digitChar digit)] := by
      decide
    exact (known _).append (digits _ (Nat.mod_lt _ (by decide)))

theorem isPrintableAscii_dumpPoint (point : CodePoint) : IsPrintableAscii (dumpPoint point) := by
  have escaped (number : Nat) : IsPrintableAscii (escape 'u' 4 number) :=
    .cons (by decide) (.cons (by decide) (isPrintableAscii_hexText 4 number))
  unfold dumpPoint
  split
  · next quoted =>
    rcases quoted with rfl | rfl <;> decide
  · split
    · next printable =>
      exact .cons (by omega) (by decide)
    · split
      · next entry found =>
        have letters : ∀ entry ∈ controlEscapes,
            IsPrintableAscii [backslash, CodePoint.ofChar entry.2] := by decide
        exact letters entry (List.mem_of_find?_eq_some found)
      · split
        · exact escaped _
        · exact (escaped _).append (escaped _)

theorem isPrintableAscii_dumpString (text : Text) : IsPrintableAscii (dumpString text) := by
  have content : IsPrintableAscii (text.flatMap dumpPoint) := by
    intro point inside
    obtain ⟨origin, -, escaped⟩ := List.mem_flatMap.mp inside
    exact isPrintableAscii_dumpPoint origin point escaped
  exact .append (.cons (by decide) content) (by decide)

theorem isPrintableAscii_intText (number : Int) : IsPrintableAscii (intText number) := by
  intro point inside
  rcases (isDecimalInteger_intText number).mem inside with digit | rfl
  · unfold IsDigit at digit
    omega
  · decide

mutual

theorem isPrintableAscii_dump : ∀ (value : Value), value.Plain interpreter →
    IsPrintableAscii value.dump
  | .none, _ => by unfold Value.dump; decide
  | .bool true, _ => by unfold Value.dump; decide
  | .bool false, _ => by unfold Value.dump; decide
  | .int number, _ => isPrintableAscii_intText number
  | .str text, _ => isPrintableAscii_dumpString text
  | .list items, plain =>
      .append (.cons (by decide) (isPrintableAscii_dumpItems items plain)) (by decide)
  | .dict members, plain =>
      .append (.cons (by decide) (isPrintableAscii_dumpMembers members plain.1)) (by decide)

theorem isPrintableAscii_dumpItems : ∀ (items : List Value), PlainItems interpreter items →
    IsPrintableAscii (dumpItems items)
  | [], _ => by unfold dumpItems; decide
  | [item], plain => isPrintableAscii_dump item plain.1
  | item :: next :: items, plain =>
      ((isPrintableAscii_dump item plain.1).append (by decide)).append
        (isPrintableAscii_dumpItems (next :: items) plain.2)

theorem isPrintableAscii_dumpMembers : ∀ (members : List (Text × Value)),
    PlainMembers interpreter members → IsPrintableAscii (dumpMembers members)
  | [], _ => by unfold dumpMembers; decide
  | [(key, value)], plain =>
      ((isPrintableAscii_dumpString key).append (by decide)).append
        (isPrintableAscii_dump value plain.1.2)
  | (key, value) :: next :: members, plain =>
      ((((isPrintableAscii_dumpString key).append (by decide)).append
        (isPrintableAscii_dump value plain.1.2)).append (by decide)).append
          (isPrintableAscii_dumpMembers (next :: members) plain.2)

end

theorem mem_utf8_of_printable {text : Text} (printable : IsPrintableAscii text) {byte : UInt8}
    (inside : byte ∈ utf8 text) : 0 < byte.toNat ∧ byte.toNat < 0x80 := by
  obtain ⟨point, inText, spelled⟩ := List.mem_flatMap.mp inside
  have range := printable point inText
  rw [utf8Bytes_of_small (by omega), List.mem_singleton] at spelled
  rw [spelled, UInt8.toNat_ofNat']
  omega

/-- Bytes between 1 and 127 are taken for UTF-8. -/
theorem detectEncoding_of_small {bytes : List UInt8}
    (small : ∀ byte ∈ bytes, 0 < byte.toNat ∧ byte.toNat < 0x80) :
    detectEncoding bytes = .utf8 := by
  have notStart {mark : List UInt8} (odd : ∃ byte ∈ mark, byte = 0 ∨ 0x80 ≤ byte.toNat) :
      ¬ mark <+: bytes := by
    rcases odd with ⟨byte, inside, zero | large⟩
    · intro starts
      have range := small byte (starts.subset inside)
      rw [zero] at range
      exact absurd range.1 (by decide)
    · intro starts
      have range := small byte (starts.subset inside)
      omega
  have notZero {byte : UInt8} (inside : byte ∈ bytes) : byte ≠ 0 := by
    rintro rfl
    exact absurd (small 0 inside).1 (by decide)
  unfold detectEncoding
  rw [if_neg (not_or.mpr ⟨notStart (by decide), notStart (by decide)⟩),
    if_neg (not_or.mpr ⟨notStart (by decide), notStart (by decide)⟩), if_neg (notStart (by decide))]
  split
  · rw [if_neg (notZero (by simp)), if_neg (notZero (by simp))]
  · rw [if_neg (notZero (by simp)), if_neg (notZero (by simp))]
  · rfl

/-- What `json.dumps` prints for a plain value, sent as UTF-8, is loaded as that value. -/
theorem loads_dump {value : Value} (plain : value.Plain interpreter)
    (shallow : value.nesting ≤ interpreter.loadsNesting) :
    loads interpreter (utf8 value.dump) = some value := by
  have detected := detectEncoding_of_small fun _ =>
    mem_utf8_of_printable (isPrintableAscii_dump value plain)
  unfold loads documentText
  rw [detected]
  dsimp only
  rw [utf8Text_utf8]
  dsimp only
  rw [decodeText_dump plain]
  exact if_pos shallow

end MicrochipDay.Library.Python
