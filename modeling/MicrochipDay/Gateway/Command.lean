import MicrochipDay.Gateway

/-!
Owns what `on_message` writes to the serial port: one modem command with two
decimal integers exactly if both fields of the message that gets that far are
integers or texts of integers. A field that is any other text stands in the
command as it is, line breaks and commas included.
-/

namespace MicrochipDay.Gateway

open MicrochipDay.Library.Unicode
open MicrochipDay.Library.Decimal
open MicrochipDay.Library.Python
open MicrochipDay.Library.Binary64

/-! ## Fields that read as integers -/

/-- The integers, and the texts of a decimal integer. -/
def IsIntegerField : Value → Prop
  | .int _ => True
  | .str text => IsDecimalInteger text
  | _ => False

theorem isDecimalInteger_text_iff (interpreter : Interpreter) (value : Value) :
    IsDecimalInteger (value.text interpreter) ↔ IsIntegerField value := by
  have marked {text : Text} (mark : HasMark text) : IsDecimalInteger text ↔ False :=
    ⟨mark.not_decimalInteger, False.elim⟩
  have capital (char : Char) (word : String) (inside : CodePoint.ofChar char ∈ Text.ofString word)
      (mark : ¬ IsDigit (CodePoint.ofChar char) ∧ CodePoint.ofChar char ≠ minus) :
      IsDecimalInteger (Text.ofString word) ↔ False := marked ⟨_, inside, mark⟩
  cases value with
  | none => exact capital 'N' "None" (by decide) (by decide)
  | bool value =>
      cases value with
      | false => exact capital 'F' "False" (by decide) (by decide)
      | true => exact capital 'T' "True" (by decide) (by decide)
  | int number => exact ⟨fun _ => trivial, fun _ => isDecimalInteger_intText number⟩
  | float value =>
      apply marked
      apply hasMark_floatText
      · exact ⟨CodePoint.ofChar 'i', by decide, by decide, by decide⟩
      · exact ⟨CodePoint.ofChar 'n', by decide, by decide, by decide⟩
  | str text => exact Iff.rfl
  | list items =>
      exact marked ⟨openBracket, List.mem_cons_self, by decide, by decide⟩
  | dict members =>
      exact marked ⟨openBrace, List.mem_cons_self, by decide, by decide⟩

/-! ## Commands that read alike -/

theorem comma_notMem_decimalInteger {text : Text} (decimal : IsDecimalInteger text) :
    comma ∉ text := by
  intro inside
  exact IsDecimalInteger.not_of_mem inside (by decide) (by decide) decimal

private theorem eq_of_splitOn_singleton {text field : Text}
    (single : text.splitOn comma = [field]) : text = field := by
  have joined : [comma].intercalate (text.splitOn comma) = text := List.intercalate_splitOn comma
  rw [single, List.intercalate_singleton] at joined
  exact joined.symm

/-- A command with two decimal integers is read in one way only: the fields of
an equal command are these integers. -/
theorem atCommand_eq_decimal {uid light uidNumber lightNumber : Text}
    (uidDecimal : IsDecimalInteger uidNumber) (lightDecimal : IsDecimalInteger lightNumber)
    (same : atCommand uid light = atCommand uidNumber lightNumber) :
    uid = uidNumber ∧ light = lightNumber := by
  let pin : Text := [CodePoint.ofChar '6']
  have cut (uid light : Text) : atCommand uid light =
      Text.ofString "AT+SENDGPIO=" ++ ((uid ++ comma :: (pin ++ comma :: light)) ++
        Text.ofString "\r\n") := by
    have middle : Text.ofString ",6," = comma :: (pin ++ [comma]) := rfl
    simp only [atCommand, middle, List.append_assoc, List.cons_append, List.nil_append]
  rw [cut, cut, List.append_right_inj, List.append_left_inj] at same
  have split := congrArg (List.splitOn comma) same
  have pinSplit : pin.splitOn comma = [pin] := List.splitOn_eq_singleton (by decide)
  rw [List.splitOn_append_cons_self, List.splitOn_append_cons_self,
    List.splitOn_append_cons_self_of_not_mem (comma_notMem_decimalInteger uidDecimal),
    List.splitOn_append_cons_self, pinSplit,
    List.splitOn_eq_singleton (comma_notMem_decimalInteger lightDecimal)] at split
  -- Three fields on the right leave one for each of the two texts on the left.
  have uidFields := List.length_pos_iff.mpr (List.splitOn_ne_nil comma uid)
  have lightFields := List.length_pos_iff.mpr (List.splitOn_ne_nil comma light)
  have lengths := congrArg List.length split
  simp only [List.length_append, List.length_cons, List.length_nil] at lengths
  obtain ⟨uidField, uidSplit⟩ := List.length_eq_one_iff.mp
    (show (uid.splitOn comma).length = 1 by omega)
  obtain ⟨lightField, lightSplit⟩ := List.length_eq_one_iff.mp
    (show (light.splitOn comma).length = 1 by omega)
  rw [uidSplit, lightSplit] at split
  simp only [List.cons_append, List.nil_append, List.cons.injEq, and_true, true_and] at split
  obtain ⟨rfl, rfl⟩ := split
  exact ⟨eq_of_splitOn_singleton uidSplit, eq_of_splitOn_singleton lightSplit⟩

/-! ## What is written -/

/-- One line `AT+SENDGPIO=<integer>,6,<integer>` with its line break. -/
def IsCommandLine (bytes : List UInt8) : Prop :=
  ∃ uid light, IsDecimalInteger uid ∧ IsDecimalInteger light ∧
    bytes = utf8 (atCommand uid light)

/-- Nothing, or exactly one command line. -/
def MessageResult.WritesOneCommand (result : MessageResult) : Prop :=
  result.written = none ∨ ∃ bytes, result.written = some bytes ∧ IsCommandLine bytes

/-- A message that gets as far as the serial port: a dict with both keys, what
is printed of it can be printed, and the command has no lone surrogate. -/
structure Reaches (interpreter : Interpreter) (payload : List UInt8) (uid light : Value) :
    Prop where
  command : ∃ members, loads interpreter payload = some (.dict members) ∧
    lookup uidKey members = some uid ∧ lookup lightKey members = some light ∧
    ∃ shown, str interpreter (.dict members) = some shown ∧
      interpreter.prints (topicRec ++ Text.ofString " " ++ shown)
  prints : interpreter.prints (atCommand (uid.text interpreter) (light.text interpreter))
  clean : ¬ ∃ point ∈ atCommand (uid.text interpreter) (light.text interpreter),
    IsSurrogate point

theorem nesting_le_of_lookup {key : Text} {members : List (Text × Value)} {value : Value}
    (found : lookup key members = some value) : value.nesting ≤ nestingOfMembers members := by
  induction members with
  | nil => contradiction
  | cons member members inductionHypothesis =>
      obtain ⟨name, first⟩ := member
      unfold lookup at found
      unfold nestingOfMembers
      split at found
      · obtain rfl := Option.some.inj found
        exact Nat.le_max_left _ _
      · exact (inductionHypothesis found).trans (Nat.le_max_right _ _)

theorem str_of_lookup {interpreter : Interpreter} {key shown : Text}
    {members : List (Text × Value)} {value : Value}
    (printed : str interpreter (.dict members) = some shown)
    (found : lookup key members = some value) :
    str interpreter value = some (value.text interpreter) := by
  unfold str at printed
  split at printed
  · next shallow =>
    have inside := nesting_le_of_lookup found
    have outside : nestingOfMembers members + 1 ≤ interpreter.strNesting := shallow
    exact if_pos (by omega)
  · contradiction

/-- A message whose fields are read was a dict that has both keys. -/
theorem readCommand_eq_iff {interpreter : Interpreter} {payload : List UInt8}
    {uid pay : Value} :
    readCommand interpreter payload = some (some (uid, pay)) ↔
      ∃ members, pay = .dict members ∧ loads interpreter payload = some pay ∧
        lookup uidKey members = some uid ∧ (lookup lightKey members).isSome ∧
        ∃ shown, str interpreter pay = some shown ∧
          interpreter.prints (topicRec ++ Text.ofString " " ++ shown) := by
  unfold readCommand
  constructor
  · intro read
    split at read
    · contradiction
    · next loaded known =>
      split at read
      · contradiction
      · next shown printed =>
        split at read
        · next prints =>
          split at read
          · contradiction
          · cases Option.some.inj read
          · next hasUid =>
            split at read
            · contradiction
            · cases Option.some.inj read
            · next hasLight =>
              obtain ⟨value, found, same⟩ := Option.map_eq_some_iff.mp read
              obtain ⟨rfl, rfl⟩ := Prod.mk.inj (Option.some.inj same)
              cases loaded with
              | dict members =>
                  exact ⟨members, rfl, known, found, Option.some.inj hasLight, shown, printed,
                    prints⟩
              | _ => contradiction
        · contradiction
  · rintro ⟨members, rfl, loaded, uidFound, lightFound, shown, printed, prints⟩
    have hasUid : contains uidKey (.dict members) = some true := by
      rw [contains, uidFound]
      rfl
    have hasLight : contains lightKey (.dict members) = some true := by
      rw [contains, lightFound]
    rw [loaded]
    dsimp only
    rw [printed]
    dsimp only
    rw [if_pos prints, hasUid]
    dsimp only
    rw [hasLight]
    show ((lookup uidKey members).map fun uid => some (uid, Value.dict members)) = _
    rw [uidFound]
    rfl

theorem onMessage_written_iff {interpreter : Interpreter} {payload bytes : List UInt8} :
    (onMessage interpreter payload).written = some bytes ↔
      ∃ uid light, Reaches interpreter payload uid light ∧
        bytes = utf8 (atCommand (uid.text interpreter) (light.text interpreter)) := by
  constructor
  · intro written
    unfold onMessage at written
    split at written
    · contradiction
    · contradiction
    · next uid pay read =>
      obtain ⟨members, rfl, loaded, uidFound, lightFound, shown, printed, prints⟩ :=
        readCommand_eq_iff.mp read
      obtain ⟨light, lightKnown⟩ := Option.isSome_iff_exists.mp lightFound
      dsimp only [commandBytes, subscript] at written
      rw [uidFound, lightKnown] at written
      dsimp only at written
      rw [str_of_lookup printed uidFound, str_of_lookup printed lightKnown] at written
      dsimp only at written
      split at written
      · next commandPrints =>
        unfold encodeUtf8 at written
        split at written
        · contradiction
        · next clean =>
          exact ⟨uid, light, ⟨⟨members, loaded, uidFound, lightKnown, shown, printed, prints⟩,
            commandPrints, clean⟩, (Option.some.inj written).symm⟩
      · contradiction
  · rintro ⟨uid, light, reaches, rfl⟩
    obtain ⟨members, loaded, uidFound, lightFound, shown, printed, prints⟩ := reaches.command
    have read : readCommand interpreter payload = some (some (uid, .dict members)) :=
      readCommand_eq_iff.mpr
        ⟨members, rfl, loaded, uidFound, by rw [lightFound]; rfl, shown, printed, prints⟩
    unfold onMessage
    rw [read]
    dsimp only [commandBytes, subscript]
    rw [uidFound, lightFound]
    dsimp only
    rw [str_of_lookup printed uidFound, str_of_lookup printed lightFound]
    dsimp only
    rw [if_pos reaches.prints]
    exact if_neg reaches.clean

/-! ## One command for every message -/

/-- What is written is nothing or one well-formed command exactly if both fields
of a message that reaches the serial port are integers or texts of integers. -/
theorem onMessage_writesOneCommand_iff (interpreter : Interpreter) (payload : List UInt8) :
    (onMessage interpreter payload).WritesOneCommand ↔
      ∀ uid light, Reaches interpreter payload uid light →
        IsIntegerField uid ∧ IsIntegerField light := by
  constructor
  · intro one uid light reaches
    have written := onMessage_written_iff.mpr ⟨uid, light, reaches, rfl⟩
    rcases one with nothing | ⟨bytes, known, line⟩
    · rw [nothing] at written
      contradiction
    · obtain ⟨uidNumber, lightNumber, uidDecimal, lightDecimal, rfl⟩ := line
      rw [written] at known
      have same := utf8_injective (Option.some.inj known)
      obtain ⟨rfl, rfl⟩ := atCommand_eq_decimal uidDecimal lightDecimal same
      exact ⟨(isDecimalInteger_text_iff interpreter uid).mp uidDecimal,
        (isDecimalInteger_text_iff interpreter light).mp lightDecimal⟩
  · intro integers
    cases written : (onMessage interpreter payload).written with
    | none => exact .inl written
    | some bytes =>
        obtain ⟨uid, light, reaches, rfl⟩ := onMessage_written_iff.mp written
        obtain ⟨uidInteger, lightInteger⟩ := integers uid light reaches
        exact .inr ⟨_, written, uid.text interpreter, light.text interpreter,
          (isDecimalInteger_text_iff interpreter uid).mpr uidInteger,
          (isDecimalInteger_text_iff interpreter light).mpr lightInteger, rfl⟩

/-- The text of a `uid` that ends its own command and starts another one. -/
private def secondCommand : Text := Text.ofString "1,6,1\r\nAT+SENDGPIO=2"

private def twoCommands : List UInt8 :=
  utf8 (Text.ofString
    "\x7b\"uid\": \"1,6,1\\r\\nAT+SENDGPIO=2\", \"light\": 1\x7d")

/-- A message with a line break in its `uid` writes two modem commands. -/
theorem onMessage_writesTwoCommands :
    ¬ (onMessage plainHost.interpreter twoCommands).WritesOneCommand := by
  have known : (onMessage plainHost.interpreter twoCommands).written =
      some (utf8 (atCommand secondCommand (Text.ofString "1"))) := by decide +kernel
  rintro (nothing | ⟨bytes, written, uid, light, uidDecimal, lightDecimal, rfl⟩)
  · rw [nothing] at known
    contradiction
  · have same := utf8_injective (Option.some.inj (known.symm.trans written))
    obtain ⟨rfl, -⟩ := atCommand_eq_decimal uidDecimal lightDecimal same
    revert uidDecimal
    decide

end MicrochipDay.Gateway
