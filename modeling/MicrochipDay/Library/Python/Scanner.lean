import MicrochipDay.Library.Python.Json

/-!
Owns what holds of every scan: it takes at least one code point, so the bound on
the scanner's recursion is never reached, and a larger bound changes nothing.
-/

namespace MicrochipDay.Library.Python

open MicrochipDay.Library.Unicode
open MicrochipDay.Library.Decimal

/-! ## Strings get shorter -/

theorem hex4_shortens {text rest : Text} {point : CodePoint}
    (scanned : hex4 text = some (point, rest)) : rest.length < text.length := by
  unfold hex4 at scanned
  split at scanned
  · split at scanned
    · obtain ⟨-, rfl⟩ := Prod.mk.inj (Option.some.inj scanned)
      simp only [List.length_cons]
      omega
    · contradiction
  · contradiction

theorem unicodeEscape_shortens {text rest : Text} {point : CodePoint}
    (scanned : unicodeEscape text = some (point, rest)) : rest.length < text.length := by
  unfold unicodeEscape at scanned
  split at scanned
  · next high slash letter after first =>
    have shorter := hex4_shortens first
    simp only [List.length_cons] at shorter
    split at scanned
    · split at scanned
      · next low afterLow second =>
        have again := hex4_shortens second
        split at scanned
        · obtain ⟨-, rfl⟩ := Prod.mk.inj (Option.some.inj scanned)
          omega
        · obtain ⟨-, rfl⟩ := Prod.mk.inj (Option.some.inj scanned)
          simp only [List.length_cons]
          omega
      · contradiction
    · obtain ⟨-, rfl⟩ := Prod.mk.inj (Option.some.inj scanned)
      simp only [List.length_cons]
      omega
  · exact hex4_shortens scanned

theorem scanPoint_shortens {text rest : Text} {point : CodePoint}
    (scanned : scanPoint text = some (point, rest)) : rest.length < text.length := by
  unfold scanPoint at scanned
  split at scanned
  · contradiction
  · split at scanned
    · split at scanned
      · contradiction
      · split at scanned
        · have shorter := unicodeEscape_shortens scanned
          simp only [List.length_cons]
          omega
        · obtain ⟨escaped, -, same⟩ := Option.map_eq_some_iff.mp scanned
          obtain ⟨-, rfl⟩ := Prod.mk.inj same
          simp only [List.length_cons]
          omega
    · split at scanned
      · contradiction
      · obtain ⟨-, rfl⟩ := Prod.mk.inj (Option.some.inj scanned)
        exact Nat.lt_succ_self _

private theorem tail_shortens {text : Text} {point : CodePoint}
    (starts : text.head? = some point) : text.tail.length < text.length := by
  cases text with
  | nil => contradiction
  | cons first rest => exact Nat.lt_succ_self _

theorem scanString_shortens {fuel : Nat} {text content rest : Text}
    (scanned : scanString fuel text = some (content, rest)) : rest.length < text.length := by
  induction fuel generalizing text content with
  | zero => contradiction
  | succ fuel known =>
    unfold scanString at scanned
    split at scanned
    · next closed =>
      obtain ⟨-, rfl⟩ := Prod.mk.inj (Option.some.inj scanned)
      exact tail_shortens closed
    · split at scanned
      · next point after first =>
        obtain ⟨⟨others, last⟩, second, same⟩ := Option.map_eq_some_iff.mp scanned
        obtain ⟨-, rfl⟩ := Prod.mk.inj same
        have shorter := known second
        have first := scanPoint_shortens first
        omega
      · contradiction

/-! ## Numbers and constants get shorter -/

theorem takeDigits_snd_length (text : Text) : (takeDigits text).2.length ≤ text.length := by
  exact (List.dropWhile_suffix _).length_le

theorem takeFraction_snd_length (text : Text) : (takeFraction text).2.length ≤ text.length := by
  unfold takeFraction
  split
  · exact (takeDigits_snd_length text.tail).trans (by simp)
  · exact Nat.le_refl _

theorem takeExponent_snd_length (text : Text) : (takeExponent text).2.length ≤ text.length := by
  unfold takeExponent
  split
  · dsimp only
    split
    · exact Nat.le_refl _
    · have digits := takeDigits_snd_length (dropSign text.tail)
      have unsigned := dropSign_length text.tail
      rw [List.length_tail] at unsigned
      show (takeDigits (dropSign text.tail)).2.length ≤ text.length
      omega
  · exact Nat.le_refl _

theorem takeWhole_shortens {text whole rest : Text} (taken : takeWhole text = some (whole, rest)) :
    rest.length < text.length := by
  unfold takeWhole at taken
  split at taken
  · contradiction
  · next first others =>
    split at taken
    · obtain ⟨-, rfl⟩ := Prod.mk.inj (Option.some.inj taken)
      exact Nat.lt_succ_self _
    · split at taken
      · next digit =>
        have known : (takeDigits (first :: others)).2 = rest :=
          congrArg Prod.snd (Option.some.inj taken)
        rw [← known, takeDigits]
        simp only [List.dropWhile_cons, digit, decide_true, if_true, List.length_cons]
        exact Nat.lt_succ_of_le (List.dropWhile_suffix _).length_le
      · contradiction

theorem scanNumber_shortens {interpreter : Interpreter} {text rest : Text} {value : Value}
    (scanned : scanNumber interpreter text = some (value, rest)) : rest.length < text.length := by
  unfold scanNumber at scanned
  dsimp only at scanned
  split at scanned
  · contradiction
  · next whole after taken =>
    have shorter := takeWhole_shortens taken
    have fraction := takeFraction_snd_length after
    have exponent := takeExponent_snd_length (takeFraction after).2
    have signed : (if decide (text.head? = some minus) = true then text.tail else text).length
        ≤ text.length := by
      split
      · simp
      · exact Nat.le_refl _
    have known : rest = (takeExponent (takeFraction after).2).2 := by
      split at scanned
      · split at scanned
        · exact (congrArg Prod.snd (Option.some.inj scanned)).symm
        · contradiction
      · exact (congrArg Prod.snd (Option.some.inj scanned)).symm
    rw [known]
    omega

theorem scanConstant_shortens {text rest : Text} {value : Value}
    (scanned : scanConstant text = some (value, rest)) : rest.length < text.length := by
  unfold scanConstant at scanned
  obtain ⟨constant, inside, found⟩ := List.exists_of_findSome?_eq_some scanned
  split at found
  · next starts =>
    obtain ⟨-, rfl⟩ := Prod.mk.inj (Option.some.inj found)
    have nonempty : ∀ constant ∈ constants, 0 < constant.1.length := by decide
    have positive := nonempty constant inside
    have bound := starts.length_le
    rw [List.length_drop]
    omega
  · contradiction

/-! ## Values get shorter -/

theorem skipSpace_length (text : Text) : (skipSpace text).length ≤ text.length :=
  (List.dropWhile_suffix _).length_le

/-- What one more level of the scanner may rely on. -/
structure Shortens (interpreter : Interpreter) (fuel : Nat) : Prop where
  once : ∀ {text value rest}, scanOnce interpreter fuel text = some (value, rest) →
    rest.length < text.length
  members : ∀ {members text value rest},
    scanMembers interpreter fuel members text = some (value, rest) → rest.length < text.length
  items : ∀ {items text value rest},
    scanItems interpreter fuel items text = some (value, rest) → rest.length < text.length

private theorem scanOnce_shortens {interpreter : Interpreter} {fuel : Nat}
    (known : Shortens interpreter fuel) {text rest : Text} {value : Value}
    (scanned : scanOnce interpreter (fuel + 1) text = some (value, rest)) :
    rest.length < text.length := by
  cases text with
  | nil => contradiction
  | cons first after =>
    have spaces := skipSpace_length after
    rw [List.length_cons]
    unfold scanOnce at scanned
    split at scanned
    · obtain ⟨⟨content, last⟩, inside, same⟩ := Option.map_eq_some_iff.mp scanned
      obtain ⟨-, rfl⟩ := Prod.mk.inj same
      exact Nat.lt_succ_of_lt (scanString_shortens inside)
    · split at scanned
      · split at scanned
        · next closed =>
          obtain ⟨-, rfl⟩ := Prod.mk.inj (Option.some.inj scanned)
          have shorter := tail_shortens closed
          omega
        · have shorter := known.members scanned
          omega
      · split at scanned
        · split at scanned
          · next closed =>
            obtain ⟨-, rfl⟩ := Prod.mk.inj (Option.some.inj scanned)
            have shorter := tail_shortens closed
            omega
          · have shorter := known.items scanned
            omega
        · split at scanned
          · next constant =>
            exact scanConstant_shortens (constant.trans scanned)
          · exact scanNumber_shortens scanned

private theorem scanMembers_shortens {interpreter : Interpreter} {fuel : Nat}
    (known : Shortens interpreter fuel) {members : List (Text × Value)} {text rest : Text}
    {value : Value}
    (scanned : scanMembers interpreter (fuel + 1) members text = some (value, rest)) :
    rest.length < text.length := by
  cases text with
  | nil => contradiction
  | cons first after =>
    rw [List.length_cons]
    unfold scanMembers at scanned
    split at scanned
    · split at scanned
      · contradiction
      · next key afterKey keyScanned =>
        have shorter := scanString_shortens keyScanned
        split at scanned
        · next colonFollows =>
          have spaces := skipSpace_length afterKey
          have again := tail_shortens colonFollows
          have more := skipSpace_length (skipSpace afterKey).tail
          split at scanned
          · contradiction
          · next inner afterValue valueScanned =>
            have shorterValue := known.once valueScanned
            have lastSpaces := skipSpace_length afterValue
            dsimp only at scanned
            split at scanned
            · next closed =>
              obtain ⟨-, rfl⟩ := Prod.mk.inj (Option.some.inj scanned)
              have last := tail_shortens closed
              omega
            · split at scanned
              · next separated =>
                have last := tail_shortens separated
                have final := skipSpace_length (skipSpace afterValue).tail
                have others := known.members scanned
                omega
              · contradiction
        · contradiction
    · contradiction

private theorem scanItems_shortens {interpreter : Interpreter} {fuel : Nat}
    (known : Shortens interpreter fuel) {items : List Value} {text rest : Text} {value : Value}
    (scanned : scanItems interpreter (fuel + 1) items text = some (value, rest)) :
    rest.length < text.length := by
  unfold scanItems at scanned
  split at scanned
  · contradiction
  · next inner afterValue valueScanned =>
    have shorterValue := known.once valueScanned
    have spaces := skipSpace_length afterValue
    dsimp only at scanned
    split at scanned
    · next closed =>
      obtain ⟨-, rfl⟩ := Prod.mk.inj (Option.some.inj scanned)
      have last := tail_shortens closed
      omega
    · split at scanned
      · next separated =>
        have last := tail_shortens separated
        have final := skipSpace_length (skipSpace afterValue).tail
        have others := known.items scanned
        omega
      · contradiction

theorem shortens (interpreter : Interpreter) (fuel : Nat) : Shortens interpreter fuel := by
  induction fuel with
  | zero =>
    constructor
    · intro text value rest scanned
      contradiction
    · intro members text value rest scanned
      contradiction
    · intro items text value rest scanned
      contradiction
  | succ fuel known =>
    exact ⟨scanOnce_shortens known, scanMembers_shortens known, scanItems_shortens known⟩

/-! ## The bound is never reached -/

theorem scanString_succ {fuel : Nat} {text : Text} (enough : text.length < fuel) :
    scanString (fuel + 1) text = scanString fuel text := by
  induction fuel generalizing text with
  | zero => omega
  | succ fuel known =>
    rw [scanString, scanString]
    split
    · rfl
    · split
      · next point rest first =>
        have shorter := scanPoint_shortens first
        rw [known (by omega)]
      · rfl

/-- A level that a scan of a text of this length does not reach. -/
structure Settled (interpreter : Interpreter) (fuel : Nat) : Prop where
  once : ∀ {text : Text}, 2 * text.length < fuel →
    scanOnce interpreter (fuel + 1) text = scanOnce interpreter fuel text
  members : ∀ {members} {text : Text}, 2 * text.length < fuel →
    scanMembers interpreter (fuel + 1) members text = scanMembers interpreter fuel members text
  items : ∀ {items} {text : Text}, 2 * text.length + 1 < fuel →
    scanItems interpreter (fuel + 1) items text = scanItems interpreter fuel items text

private theorem scanOnce_settled {interpreter : Interpreter} {fuel : Nat}
    (known : Settled interpreter fuel) {text : Text} (enough : 2 * text.length < fuel + 1) :
    scanOnce interpreter (fuel + 1 + 1) text = scanOnce interpreter (fuel + 1) text := by
  cases text with
  | nil => rfl
  | cons first rest =>
    rw [List.length_cons] at enough
    have spaces := skipSpace_length rest
    rw [scanOnce, scanOnce, scanString_succ (by omega), known.members (by omega),
      known.items (by omega)]

private theorem scanMembers_settled {interpreter : Interpreter} {fuel : Nat}
    (known : Settled interpreter fuel) {members : List (Text × Value)} {text : Text}
    (enough : 2 * text.length < fuel + 1) :
    scanMembers interpreter (fuel + 1 + 1) members text =
      scanMembers interpreter (fuel + 1) members text := by
  cases text with
  | nil => rfl
  | cons first rest =>
    rw [List.length_cons] at enough
    rw [scanMembers, scanMembers, scanString_succ (by omega)]
    split
    · split
      · rfl
      · next key afterKey keyScanned =>
        have shorter := scanString_shortens keyScanned
        split
        · next colonFollows =>
          have spaces := skipSpace_length afterKey
          have again := tail_shortens colonFollows
          have more := skipSpace_length (skipSpace afterKey).tail
          rw [known.once (by omega)]
          split
          · rfl
          · next inner afterValue valueScanned =>
            have shorterValue := (shortens interpreter fuel).once valueScanned
            have lastSpaces := skipSpace_length afterValue
            dsimp only
            split
            · rfl
            · split
              · next separated =>
                have last := tail_shortens separated
                have final := skipSpace_length (skipSpace afterValue).tail
                exact known.members (by omega)
              · rfl
        · rfl
    · rfl

private theorem scanItems_settled {interpreter : Interpreter} {fuel : Nat}
    (known : Settled interpreter fuel) {items : List Value} {text : Text}
    (enough : 2 * text.length + 1 < fuel + 1) :
    scanItems interpreter (fuel + 1 + 1) items text =
      scanItems interpreter (fuel + 1) items text := by
  rw [scanItems, scanItems, known.once (by omega)]
  split
  · rfl
  · next inner afterValue valueScanned =>
    have shorterValue := (shortens interpreter fuel).once valueScanned
    have spaces := skipSpace_length afterValue
    dsimp only
    split
    · rfl
    · split
      · next separated =>
        have last := tail_shortens separated
        have final := skipSpace_length (skipSpace afterValue).tail
        exact known.items (by omega)
      · rfl

theorem settled (interpreter : Interpreter) (fuel : Nat) : Settled interpreter fuel := by
  induction fuel with
  | zero =>
    constructor
    · intro text enough
      omega
    · intro members text enough
      omega
    · intro items text enough
      omega
  | succ fuel known =>
    exact ⟨scanOnce_settled known, scanMembers_settled known, scanItems_settled known⟩

/-- Any bound above twice the length gives the scan of the text. -/
theorem scanOnce_eq_of_enough (interpreter : Interpreter) (text : Text) {fuel : Nat}
    (enough : 2 * text.length < fuel) :
    scanOnce interpreter fuel text = scanOnce interpreter (2 * text.length + 1) text := by
  induction fuel with
  | zero => omega
  | succ fuel known =>
    by_cases same : 2 * text.length < fuel
    · rw [(settled interpreter fuel).once same, known same]
    · rw [show fuel = 2 * text.length by omega]

end MicrochipDay.Library.Python
