import MicrochipDay.Library.Python.Scanner

/-!
Owns that the strings and integers that `json.dumps` prints are scanned back,
and that no constant is taken for an integer.
-/

namespace MicrochipDay.Library.Python

open MicrochipDay.Library.Unicode
open MicrochipDay.Library.Decimal

/-! ## Strings -/

theorem hexValue_digitChar {digit : Nat} (small : digit < 16) :
    hexValue (CodePoint.ofChar (Nat.digitChar digit)) = some digit := by
  have digits : ∀ digit < 16,
      hexValue (CodePoint.ofChar (Nat.digitChar digit)) = some digit := by decide
  exact digits digit small

theorem hex4_hexText {number : Nat} (small : number < 0x10000) (rest : Text) :
    hex4 (hexText 4 number ++ rest) = some (CodePoint.ofNat number, rest) := by
  have spelled : hexText 4 number ++ rest =
      CodePoint.ofChar (Nat.digitChar (number / 16 / 16 / 16 % 16)) ::
        CodePoint.ofChar (Nat.digitChar (number / 16 / 16 % 16)) ::
        CodePoint.ofChar (Nat.digitChar (number / 16 % 16)) ::
        CodePoint.ofChar (Nat.digitChar (number % 16)) :: rest := rfl
  rw [spelled, hex4, hexValue_digitChar (Nat.mod_lt _ (by decide)),
    hexValue_digitChar (Nat.mod_lt _ (by decide)), hexValue_digitChar (Nat.mod_lt _ (by decide)),
    hexValue_digitChar (Nat.mod_lt _ (by decide))]
  dsimp only
  rw [show ((number / 16 / 16 / 16 % 16 * 16 + number / 16 / 16 % 16) * 16 +
    number / 16 % 16) * 16 + number % 16 = number by omega]

theorem ofNat_val (point : CodePoint) : CodePoint.ofNat point.val = point := by
  ext
  exact Nat.mod_eq_of_lt point.isLt

theorem val_ofNat {number : Nat} (small : number < 0x110000) :
    (CodePoint.ofNat number).val = number := Nat.mod_eq_of_lt small

theorem unicodeEscape_single {number : Nat} (small : number < 0x10000)
    (single : ¬ IsHighSurrogate (CodePoint.ofNat number)) (rest : Text) :
    unicodeEscape (hexText 4 number ++ rest) = some (CodePoint.ofNat number, rest) := by
  unfold unicodeEscape
  rw [hex4_hexText small]
  split
  · next high slash letter after same =>
    obtain ⟨rfl, rfl⟩ := Prod.mk.inj (Option.some.inj same)
    exact if_neg fun pair => single pair.1
  · rfl

theorem unicodeEscape_pair {high low : Nat} (highRange : 0xD800 ≤ high ∧ high < 0xDC00)
    (lowRange : 0xDC00 ≤ low ∧ low < 0xE000) (rest : Text) :
    unicodeEscape (hexText 4 high ++ (escape 'u' 4 low ++ rest)) =
      some (joinSurrogates (CodePoint.ofNat high) (CodePoint.ofNat low), rest) := by
  have isHigh : IsHighSurrogate (CodePoint.ofNat high) := by
    unfold IsHighSurrogate
    rw [val_ofNat (by omega)]
    exact highRange
  have isLow : IsLowSurrogate (CodePoint.ofNat low) := by
    unfold IsLowSurrogate
    rw [val_ofNat (by omega)]
    exact lowRange
  have spelled : escape 'u' 4 low ++ rest =
    backslash :: CodePoint.ofChar 'u' :: (hexText 4 low ++ rest) := rfl
  unfold unicodeEscape
  rw [hex4_hexText (by omega), spelled]
  dsimp only
  rw [if_pos ⟨isHigh, rfl, rfl⟩, hex4_hexText (by omega)]
  exact if_pos isLow

private theorem scanPoint_backslash (letter : CodePoint) (rest : Text) :
    scanPoint (backslash :: letter :: rest) =
      if letter = CodePoint.ofChar 'u' then unicodeEscape rest
      else (simpleEscape letter).map fun point => (point, rest) := rfl

private theorem scanPoint_plain {point : CodePoint} (notSlash : point ≠ backslash)
    (notControl : ¬ point.val < 0x20) (rest : Text) :
    scanPoint (point :: rest) = some (point, rest) := by
  unfold scanPoint
  dsimp only
  rw [if_neg notSlash, if_neg notControl]

private theorem scanPoint_unicode (rest : Text) :
    scanPoint (backslash :: CodePoint.ofChar 'u' :: rest) = unicodeEscape rest := rfl

private theorem scanPoint_control {entry : Nat × Char} (inside : entry ∈ controlEscapes)
    (rest : Text) :
    scanPoint (backslash :: CodePoint.ofChar entry.2 :: rest) =
      some (CodePoint.ofNat entry.1, rest) := by
  have table : ∀ entry ∈ controlEscapes, CodePoint.ofChar entry.2 ≠ CodePoint.ofChar 'u' ∧
      simpleEscape (CodePoint.ofChar entry.2) = some (CodePoint.ofNat entry.1) := by decide
  obtain ⟨notU, stands⟩ := table entry inside
  rw [scanPoint_backslash, if_neg notU, stands]
  rfl

/-- A pair of escapes is read back as the code point beyond the first plane. -/
private theorem joinSurrogates_split {point : CodePoint} (large : 0x10000 ≤ point.val) :
    joinSurrogates (CodePoint.ofNat (0xD800 + (point.val - 0x10000) / 0x400))
      (CodePoint.ofNat (0xDC00 + (point.val - 0x10000) % 0x400)) = point := by
  have bound := point.isLt
  unfold joinSurrogates
  rw [val_ofNat (by omega), val_ofNat (by omega)]
  ext
  rw [val_ofNat (by omega)]
  omega

/-- A code point that is no surrogate is read back from its escape. -/
theorem scanPoint_dumpPoint {point : CodePoint} (clean : ¬ IsSurrogate point) (rest : Text) :
    scanPoint (dumpPoint point ++ rest) = some (point, rest) := by
  have bound := point.isLt
  unfold IsSurrogate at clean
  unfold dumpPoint
  split
  · next quoted =>
    have notU : point ≠ CodePoint.ofChar 'u' := by
      rcases quoted with rfl | rfl <;> decide
    have stands : simpleEscape point = some point := if_pos (quoted.imp_right Or.inl)
    show scanPoint (backslash :: point :: rest) = _
    rw [scanPoint_backslash, if_neg notU, stands]
    rfl
  · next unquoted =>
    split
    · exact scanPoint_plain (fun slash => unquoted (.inr slash)) (by omega) rest
    · split
      · next entry found =>
        have same := List.find?_some found
        rw [decide_eq_true_eq] at same
        rw [List.cons_append, List.singleton_append,
          scanPoint_control (List.mem_of_find?_eq_some found), same, ofNat_val]
      · split
        · next single =>
          have notHigh : ¬ IsHighSurrogate (CodePoint.ofNat point.val) := by
            unfold IsHighSurrogate
            rw [ofNat_val]
            omega
          show scanPoint (backslash :: CodePoint.ofChar 'u' :: (hexText 4 point.val ++ rest)) = _
          rw [scanPoint_unicode, unicodeEscape_single single notHigh, ofNat_val]
        · show scanPoint (backslash :: CodePoint.ofChar 'u' ::
            (hexText 4 (0xD800 + (point.val - 0x10000) / 0x400) ++
              escape 'u' 4 (0xDC00 + (point.val - 0x10000) % 0x400) ++ rest)) = _
          rw [scanPoint_unicode, List.append_assoc, unicodeEscape_pair (by omega) (by omega),
            joinSurrogates_split (by omega)]

theorem head_dumpPoint_ne (point : CodePoint) (rest : Text) :
    (dumpPoint point ++ rest).head? ≠ some doubleQuote := by
  unfold dumpPoint
  split
  · exact (by decide : some backslash ≠ some doubleQuote)
  · next unquoted =>
    split
    · intro same
      exact unquoted (.inl (Option.some.inj same))
    · repeat' split
      all_goals exact (by decide : some backslash ≠ some doubleQuote)

theorem scanString_flatMap_dumpPoint {text : Text} (clean : ∀ point ∈ text, ¬ IsSurrogate point)
    (rest : Text) {fuel : Nat} (enough : text.length < fuel) :
    scanString fuel (text.flatMap dumpPoint ++ doubleQuote :: rest) = some (text, rest) := by
  induction text generalizing fuel with
  | nil =>
    obtain ⟨fuel, rfl⟩ := Nat.exists_eq_succ_of_ne_zero (Nat.ne_of_gt enough)
    rfl
  | cons point text known =>
    obtain ⟨fuel, rfl⟩ := Nat.exists_eq_succ_of_ne_zero (Nat.ne_of_gt (Nat.zero_lt_of_lt enough))
    rw [List.length_cons] at enough
    rw [List.flatMap_cons, List.append_assoc, scanString, if_neg (head_dumpPoint_ne point _),
      scanPoint_dumpPoint (clean point (by simp))]
    dsimp only
    rw [known (fun other inside => clean other (List.mem_cons_of_mem _ inside)) (by omega)]
    rfl

/-! ## Integers -/

/-- What follows does not carry on the number before it. -/
def EndsNumber (rest : Text) : Prop :=
  ∀ point, rest.head? = some point →
    ¬ IsDigit point ∧ point ≠ Binary64.dot ∧ point ≠ CodePoint.ofChar 'e' ∧
      point ≠ CodePoint.ofChar 'E'

theorem endsNumber_nil : EndsNumber [] := by
  intro point starts
  contradiction

theorem EndsNumber.of_cons (point : CodePoint) {rest : Text}
    (ends : ¬ IsDigit point ∧ point ≠ Binary64.dot ∧ point ≠ CodePoint.ofChar 'e' ∧
      point ≠ CodePoint.ofChar 'E') : EndsNumber (point :: rest) := by
  intro other starts
  obtain rfl := Option.some.inj starts
  exact ends

theorem takeDigits_append {digits rest : Text} (allDigits : ∀ point ∈ digits, IsDigit point)
    (ends : EndsNumber rest) : takeDigits (digits ++ rest) = (digits, rest) := by
  have stops : rest.dropWhile (fun point => IsDigit point) = rest ∧
      rest.takeWhile (fun point => IsDigit point) = [] := by
    cases rest with
    | nil => exact ⟨rfl, rfl⟩
    | cons point rest =>
      have notDigit := (ends point rfl).1
      simp [notDigit]
  have passes : ∀ point ∈ digits, decide (IsDigit point) = true :=
    fun point inside => decide_eq_true (allDigits point inside)
  rw [takeDigits, List.takeWhile_append_of_pos passes, List.dropWhile_append_of_pos passes,
    stops.1, stops.2, List.append_nil]

theorem takeFraction_of_ends {rest : Text} (ends : EndsNumber rest) :
    takeFraction rest = ([], rest) := by
  unfold takeFraction
  exact if_neg fun dotted => (ends _ dotted.1).2.1 rfl

theorem takeExponent_of_ends {rest : Text} (ends : EndsNumber rest) :
    takeExponent rest = (none, rest) := by
  unfold takeExponent
  apply if_neg
  rintro (lower | upper)
  · exact (ends _ lower).2.2.1 rfl
  · exact (ends _ upper).2.2.2 rfl

theorem takeWhole_natText (number : Nat) {rest : Text} (ends : EndsNumber rest) :
    takeWhole (natText number ++ rest) = some (natText number, rest) := by
  by_cases positive : 0 < number
  · have taken := takeDigits_append (fun _ => isDigit_of_mem_natText number) ends
    obtain ⟨first, others, spelled, nonzero⟩ := natText_eq_cons positive
    have digit : IsDigit first := isDigit_of_mem_natText number (by simp [spelled])
    have notZero : first ≠ Binary64.zero := by
      rintro rfl
      exact absurd nonzero (by decide)
    rw [spelled, List.cons_append] at taken ⊢
    unfold takeWhole
    dsimp only
    rw [if_neg notZero, if_pos digit, taken]
  · obtain rfl : number = 0 := by omega
    rfl

theorem head_natText (number : Nat) (rest : Text) :
    ∃ first others, natText number ++ rest = first :: others ∧ IsDigit first := by
  obtain ⟨first, others, spelled⟩ := List.exists_cons_of_ne_nil (natText_ne_nil number)
  refine ⟨first, others ++ rest, by rw [spelled]; rfl, ?_⟩
  exact isDigit_of_mem_natText number (by simp [spelled])

/-- Reading an integer back takes the digits that writing it gave. -/
theorem scanNumber_intText {interpreter : Interpreter} {number : Int} {rest : Text}
    (reads : interpreter.ReadsDigits (natText number.natAbs).length) (ends : EndsNumber rest) :
    scanNumber interpreter (intText number ++ rest) = some (.int number, rest) := by
  cases number with
  | ofNat number =>
    replace reads : interpreter.ReadsDigits (natText number).length := reads
    obtain ⟨first, others, spelled, digit⟩ := head_natText number rest
    have unsigned : decide ((natText number ++ rest).head? = some minus) = false := by
      rw [spelled, decide_eq_false_iff_not]
      intro same
      obtain rfl := Option.some.inj same
      exact absurd digit (by decide)
    unfold scanNumber intText
    dsimp only
    rw [unsigned, if_neg Bool.false_ne_true, takeWhole_natText number ends]
    dsimp only
    rw [takeFraction_of_ends ends, takeExponent_of_ends ends, if_pos ⟨rfl, rfl⟩, if_pos reads,
      if_neg Bool.false_ne_true, value_natText]
    rfl
  | negSucc number =>
    replace reads : interpreter.ReadsDigits (natText (number + 1)).length := reads
    unfold scanNumber intText
    dsimp only
    have signed : decide ((minus :: natText (number + 1) ++ rest).head? = some minus) = true := rfl
    rw [signed, if_pos rfl, List.cons_append, List.tail_cons, takeWhole_natText (number + 1) ends]
    dsimp only
    rw [takeFraction_of_ends ends, takeExponent_of_ends ends, if_pos ⟨rfl, rfl⟩, if_pos reads,
      if_pos rfl, value_natText]
    rfl

/-! ## Constants -/

private theorem constants_heads : ∀ constant ∈ constants, ∃ first second others,
    constant.1 = first :: second :: others ∧ ¬ IsDigit first ∧ ¬ IsDigit second := by
  intro constant inside
  have heads : ∀ constant ∈ constants, 2 ≤ constant.1.length ∧
      ∀ point ∈ constant.1.take 2, ¬ IsDigit point := by decide
  obtain ⟨long, notDigits⟩ := heads constant inside
  match spelled : constant.1 with
  | [] => simp [spelled] at long
  | [_] => simp [spelled] at long
  | first :: second :: others =>
    rw [spelled] at notDigits
    exact ⟨first, second, others, rfl, notDigits first (by simp), notDigits second (by simp)⟩

/-- No constant starts with a digit, signed or not. -/
theorem scanConstant_intText (number : Int) (rest : Text) :
    scanConstant (intText number ++ rest) = none := by
  apply List.findSome?_eq_none_iff.mpr
  intro constant inside
  apply if_neg
  obtain ⟨first, second, others, spelled, firstNot, secondNot⟩ := constants_heads constant inside
  rw [spelled]
  cases number with
  | ofNat number =>
    obtain ⟨digit, more, written, isDigit⟩ := head_natText number rest
    show ¬ first :: second :: others <+: natText number ++ rest
    rw [written, List.cons_prefix_cons]
    rintro ⟨rfl, -⟩
    exact firstNot isDigit
  | negSucc number =>
    obtain ⟨digit, more, written, isDigit⟩ := head_natText (number + 1) rest
    show ¬ first :: second :: others <+: minus :: (natText (number + 1) ++ rest)
    rw [written, List.cons_prefix_cons, List.cons_prefix_cons]
    rintro ⟨-, rfl, -⟩
    exact secondNot isDigit

end MicrochipDay.Library.Python
