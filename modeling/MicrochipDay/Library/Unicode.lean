import Mathlib.Data.List.Basic

/-!
Owns texts as sequences of code points, lone surrogates included, and the byte
forms that they are read from and written to: UTF-8 in both directions, UTF-16
and UTF-32 for reading.
-/

namespace MicrochipDay.Library.Unicode

/-! ## Code points -/

@[ext]
structure CodePoint where
  val : Nat
  isLt : val < 0x110000
  deriving DecidableEq

abbrev Text := List CodePoint

theorem toNat_lt (char : Char) : char.toNat < 0x110000 := by
  have valid := char.valid
  show char.val.toNat < 0x110000
  unfold UInt32.isValidChar at valid
  simp only [Nat.isValidChar] at valid
  omega

def CodePoint.ofNat (number : Nat) : CodePoint :=
  ⟨number % 0x110000, Nat.mod_lt number (by decide)⟩

def CodePoint.ofChar (char : Char) : CodePoint := ⟨char.toNat, toNat_lt char⟩

def Text.ofString (literal : String) : Text := literal.toList.map CodePoint.ofChar

def IsSurrogate (point : CodePoint) : Prop := 0xD800 ≤ point.val ∧ point.val < 0xE000

def IsHighSurrogate (point : CodePoint) : Prop := 0xD800 ≤ point.val ∧ point.val < 0xDC00

def IsLowSurrogate (point : CodePoint) : Prop := 0xDC00 ≤ point.val ∧ point.val < 0xE000

instance (point : CodePoint) : Decidable (IsSurrogate point) := by
  unfold IsSurrogate
  infer_instance

instance (point : CodePoint) : Decidable (IsHighSurrogate point) := by
  unfold IsHighSurrogate
  infer_instance

instance (point : CodePoint) : Decidable (IsLowSurrogate point) := by
  unfold IsLowSurrogate
  infer_instance

/-- The code point that a surrogate pair stands for. -/
def joinSurrogates (high low : CodePoint) : CodePoint :=
  CodePoint.ofNat (0x10000 + (high.val - 0xD800) * 0x400 + (low.val - 0xDC00))

/-- A text of code points below 128. -/
def IsAscii (text : Text) : Prop := ∀ point ∈ text, point.val < 0x80

/-! ## UTF-8 -/

/-- The bytes of one code point; a lone surrogate takes three like its neighbours. -/
def utf8Bytes (point : CodePoint) : List UInt8 :=
  if point.val < 0x80 then [UInt8.ofNat point.val]
  else if point.val < 0x800 then
    [UInt8.ofNat (0xC0 + point.val / 0x40), UInt8.ofNat (0x80 + point.val % 0x40)]
  else if point.val < 0x10000 then
    [UInt8.ofNat (0xE0 + point.val / 0x1000), UInt8.ofNat (0x80 + point.val / 0x40 % 0x40),
      UInt8.ofNat (0x80 + point.val % 0x40)]
  else
    [UInt8.ofNat (0xF0 + point.val / 0x40000), UInt8.ofNat (0x80 + point.val / 0x1000 % 0x40),
      UInt8.ofNat (0x80 + point.val / 0x40 % 0x40), UInt8.ofNat (0x80 + point.val % 0x40)]

/-- The bytes of a text, lone surrogates passed through. -/
def utf8 (text : Text) : List UInt8 := text.flatMap utf8Bytes

/-- The strict encoder, which has no bytes for a lone surrogate. -/
def encodeUtf8 (text : Text) : Option (List UInt8) :=
  if ∃ point ∈ text, IsSurrogate point then none else some (utf8 text)

def IsContinuation (byte : UInt8) : Prop := 0x80 ≤ byte.toNat ∧ byte.toNat < 0xC0

instance (byte : UInt8) : Decidable (IsContinuation byte) := by
  unfold IsContinuation
  infer_instance

instance decidableContinuations (tail : List UInt8) :
    Decidable (∀ byte ∈ tail, IsContinuation byte) :=
  List.decidableBAll IsContinuation tail

/-- The number that the bits of the first byte and of the continuation bytes spell. -/
def sequenceValue (lead : Nat) (tail : List UInt8) : Nat :=
  tail.foldl (fun value byte => value * 0x40 + byte.toNat % 0x40) lead

/-- The code point of a sequence whose continuation bytes are `tail`; the least
value that needs a sequence of this length excludes the overlong forms. -/
def sequencePoint (least lead : Nat) (tail : List UInt8) : Option CodePoint :=
  if fits : sequenceValue lead tail < 0x110000 then
    if least ≤ sequenceValue lead tail ∧ ∀ byte ∈ tail, IsContinuation byte then
      some ⟨sequenceValue lead tail, fits⟩
    else none
  else none

def prepend (point : Option CodePoint) (rest : Option Text) : Option Text :=
  match point, rest with
  | some point, some rest => some (point :: rest)
  | _, _ => none

/-- The decoder that passes lone surrogates through. -/
def utf8Text : List UInt8 → Option Text
  | [] => some []
  | first :: rest =>
      if first.toNat < 0x80 then prepend (sequencePoint 0 first.toNat []) (utf8Text rest)
      else if first.toNat < 0xC0 then none
      else if first.toNat < 0xE0 then
        match rest with
        | second :: rest =>
            prepend (sequencePoint 0x80 (first.toNat % 0x20) [second]) (utf8Text rest)
        | _ => none
      else if first.toNat < 0xF0 then
        match rest with
        | second :: third :: rest =>
            prepend (sequencePoint 0x800 (first.toNat % 0x10) [second, third]) (utf8Text rest)
        | _ => none
      else if first.toNat < 0xF8 then
        match rest with
        | second :: third :: fourth :: rest =>
            prepend (sequencePoint 0x10000 (first.toNat % 0x8) [second, third, fourth])
              (utf8Text rest)
        | _ => none
      else none

/-- The strict decoder. -/
def decodeUtf8 (bytes : List UInt8) : Option Text :=
  match utf8Text bytes with
  | some text => if ∃ point ∈ text, IsSurrogate point then none else some text
  | none => none

/-! ### The decoder undoes the encoder -/

@[simp] theorem utf8_nil : utf8 [] = [] := rfl

theorem utf8_cons (point : CodePoint) (text : Text) :
    utf8 (point :: text) = utf8Bytes point ++ utf8 text := rfl

theorem utf8_append (left right : Text) : utf8 (left ++ right) = utf8 left ++ utf8 right :=
  List.flatMap_append

private theorem toNat_ofNat_of_lt {value : Nat} (small : value < 256) :
    (UInt8.ofNat value).toNat = value := by
  rw [UInt8.toNat_ofNat']
  omega

private theorem sequencePoint_eq {least lead : Nat} {tail : List UInt8} {point : CodePoint}
    (value : sequenceValue lead tail = point.val)
    (long : least ≤ point.val) (continued : ∀ byte ∈ tail, IsContinuation byte) :
    sequencePoint least lead tail = some point := by
  unfold sequencePoint
  simp only [value, point.isLt, dite_true]
  exact if_pos ⟨long, continued⟩

theorem utf8Text_utf8Bytes (point : CodePoint) (rest : List UInt8) :
    utf8Text (utf8Bytes point ++ rest) = prepend (some point) (utf8Text rest) := by
  have bound := point.isLt
  unfold utf8Bytes
  split
  case isTrue one =>
    have lead := toNat_ofNat_of_lt (show point.val < 256 by omega)
    have known : sequencePoint 0 point.val [] = some point := by
      apply sequencePoint_eq <;> simp [sequenceValue]
    rw [List.singleton_append, utf8Text.eq_def]
    simp only [lead, if_pos one, known]
  case isFalse many =>
    split
    case isTrue two =>
      have lead := toNat_ofNat_of_lt (show 0xC0 + point.val / 0x40 < 256 by omega)
      have second := toNat_ofNat_of_lt (show 0x80 + point.val % 0x40 < 256 by omega)
      have known : sequencePoint 0x80 ((0xC0 + point.val / 0x40) % 0x20)
          [UInt8.ofNat (0x80 + point.val % 0x40)] = some point := by
        apply sequencePoint_eq
        · simp only [sequenceValue, List.foldl_cons, List.foldl_nil, second]
          omega
        · omega
        · simp only [List.mem_singleton, forall_eq, IsContinuation, second]
          omega
      simp only [List.cons_append, List.nil_append, utf8Text, lead, known]
      rw [if_neg (by omega), if_neg (by omega), if_pos (by omega)]
    case isFalse more =>
      split
      case isTrue three =>
        have lead := toNat_ofNat_of_lt (show 0xE0 + point.val / 0x1000 < 256 by omega)
        have second := toNat_ofNat_of_lt (show 0x80 + point.val / 0x40 % 0x40 < 256 by omega)
        have third := toNat_ofNat_of_lt (show 0x80 + point.val % 0x40 < 256 by omega)
        have known : sequencePoint 0x800 ((0xE0 + point.val / 0x1000) % 0x10)
            [UInt8.ofNat (0x80 + point.val / 0x40 % 0x40),
              UInt8.ofNat (0x80 + point.val % 0x40)] = some point := by
          apply sequencePoint_eq
          · simp only [sequenceValue, List.foldl_cons, List.foldl_nil, second, third]
            omega
          · omega
          · simp only [List.mem_cons, List.not_mem_nil, or_false, forall_eq_or_imp, forall_eq,
              IsContinuation, second, third]
            omega
        simp only [List.cons_append, List.nil_append, utf8Text, lead, known]
        rw [if_neg (by omega), if_neg (by omega), if_neg (by omega), if_pos (by omega)]
      case isFalse four =>
        have lead := toNat_ofNat_of_lt (show 0xF0 + point.val / 0x40000 < 256 by omega)
        have second := toNat_ofNat_of_lt (show 0x80 + point.val / 0x1000 % 0x40 < 256 by omega)
        have third := toNat_ofNat_of_lt (show 0x80 + point.val / 0x40 % 0x40 < 256 by omega)
        have fourth := toNat_ofNat_of_lt (show 0x80 + point.val % 0x40 < 256 by omega)
        have known : sequencePoint 0x10000 ((0xF0 + point.val / 0x40000) % 0x8)
            [UInt8.ofNat (0x80 + point.val / 0x1000 % 0x40),
              UInt8.ofNat (0x80 + point.val / 0x40 % 0x40),
              UInt8.ofNat (0x80 + point.val % 0x40)] = some point := by
          apply sequencePoint_eq
          · simp only [sequenceValue, List.foldl_cons, List.foldl_nil, second, third, fourth]
            omega
          · omega
          · simp only [List.mem_cons, List.not_mem_nil, or_false, forall_eq_or_imp, forall_eq,
              IsContinuation, second, third, fourth]
            omega
        simp only [List.cons_append, List.nil_append, utf8Text, lead, known]
        rw [if_neg (by omega), if_neg (by omega), if_neg (by omega), if_neg (by omega),
          if_pos (by omega)]

theorem utf8Text_utf8 (text : Text) : utf8Text (utf8 text) = some text := by
  induction text with
  | nil => rfl
  | cons point text known => rw [utf8_cons, utf8Text_utf8Bytes, known, prepend]

theorem utf8_injective {left right : Text} (same : utf8 left = utf8 right) : left = right := by
  have known := utf8Text_utf8 left
  rw [same, utf8Text_utf8] at known
  exact (Option.some.inj known).symm

/-! ### The decoder accepts only what the encoder writes -/

private theorem of_prepend {point : Option CodePoint} {rest : Option Text} {text : Text}
    (decoded : prepend point rest = some text) :
    ∃ first others, point = some first ∧ rest = some others ∧ text = first :: others := by
  unfold prepend at decoded
  split at decoded
  · exact ⟨_, _, rfl, rfl, (Option.some.inj decoded).symm⟩
  · contradiction

private theorem of_sequencePoint {least lead : Nat} {tail : List UInt8} {point : CodePoint}
    (known : sequencePoint least lead tail = some point) :
    sequenceValue lead tail = point.val ∧
      least ≤ point.val ∧ ∀ byte ∈ tail, IsContinuation byte := by
  unfold sequencePoint at known
  split at known
  · split at known
    · next fits =>
      obtain rfl := Option.some.inj known
      exact ⟨rfl, fits⟩
    · contradiction
  · contradiction

private theorem ofNat_eq {value : Nat} {byte : UInt8} (same : value = byte.toNat) :
    UInt8.ofNat value = byte := by
  rw [same, UInt8.ofNat_toNat]

theorem utf8_of_utf8Text {bytes : List UInt8} {text : Text}
    (decoded : utf8Text bytes = some text) : utf8 text = bytes := by
  fun_induction utf8Text bytes generalizing text with
  | case1 =>
    obtain rfl := Option.some.inj decoded
    rfl
  | case2 first rest one known =>
    obtain ⟨point, others, start, tail, rfl⟩ := of_prepend decoded
    obtain ⟨value, -, -⟩ := of_sequencePoint start
    simp only [sequenceValue, List.foldl_nil] at value
    rw [utf8_cons, known tail, utf8Bytes, if_pos (by omega), ofNat_eq value.symm]
    rfl
  | case3 => contradiction
  | case4 first one two three second rest known =>
    obtain ⟨point, others, start, tail, rfl⟩ := of_prepend decoded
    obtain ⟨value, long, continued⟩ := of_sequencePoint start
    simp only [sequenceValue, List.foldl_cons, List.foldl_nil] at value
    have second_continues := continued second (by simp)
    unfold IsContinuation at second_continues
    rw [utf8_cons, known tail, utf8Bytes, if_neg (by omega), if_pos (by omega),
      ofNat_eq (show 0xC0 + point.val / 0x40 = first.toNat by omega),
      ofNat_eq (show 0x80 + point.val % 0x40 = second.toNat by omega)]
    rfl
  | case5 => contradiction
  | case6 first one two three four second third rest known =>
    obtain ⟨point, others, start, tail, rfl⟩ := of_prepend decoded
    obtain ⟨value, long, continued⟩ := of_sequencePoint start
    simp only [sequenceValue, List.foldl_cons, List.foldl_nil] at value
    have second_continues := continued second (by simp)
    have third_continues := continued third (by simp)
    unfold IsContinuation at second_continues third_continues
    rw [utf8_cons, known tail, utf8Bytes, if_neg (by omega), if_neg (by omega), if_pos (by omega),
      ofNat_eq (show 0xE0 + point.val / 0x1000 = first.toNat by omega),
      ofNat_eq (show 0x80 + point.val / 0x40 % 0x40 = second.toNat by omega),
      ofNat_eq (show 0x80 + point.val % 0x40 = third.toNat by omega)]
    rfl
  | case7 => contradiction
  | case8 first one two three four five second third fourth rest known =>
    obtain ⟨point, others, start, tail, rfl⟩ := of_prepend decoded
    obtain ⟨value, long, continued⟩ := of_sequencePoint start
    simp only [sequenceValue, List.foldl_cons, List.foldl_nil] at value
    have second_continues := continued second (by simp)
    have third_continues := continued third (by simp)
    have fourth_continues := continued fourth (by simp)
    unfold IsContinuation at second_continues third_continues fourth_continues
    rw [utf8_cons, known tail, utf8Bytes, if_neg (by omega), if_neg (by omega), if_neg (by omega),
      ofNat_eq (show 0xF0 + point.val / 0x40000 = first.toNat by omega),
      ofNat_eq (show 0x80 + point.val / 0x1000 % 0x40 = second.toNat by omega),
      ofNat_eq (show 0x80 + point.val / 0x40 % 0x40 = third.toNat by omega),
      ofNat_eq (show 0x80 + point.val % 0x40 = fourth.toNat by omega)]
    rfl
  | case9 => contradiction
  | case10 => contradiction

/-- The strict decoder accepts exactly the bytes of the texts without surrogates. -/
theorem decodeUtf8_eq_some_iff {bytes : List UInt8} {text : Text} :
    decodeUtf8 bytes = some text ↔ encodeUtf8 text = some bytes := by
  unfold decodeUtf8 encodeUtf8
  constructor
  · intro decoded
    split at decoded
    · next known =>
      split at decoded
      · contradiction
      · next clean =>
        obtain rfl := Option.some.inj decoded
        rw [if_neg clean, utf8_of_utf8Text known]
    · contradiction
  · intro encoded
    split at encoded
    · contradiction
    · next clean =>
      obtain rfl := Option.some.inj encoded
      rw [utf8Text_utf8]
      exact if_neg clean

/-! ### Texts below 128 -/

theorem IsAscii.not_surrogate {text : Text} (ascii : IsAscii text) :
    ¬ ∃ point ∈ text, IsSurrogate point := by
  rintro ⟨point, inside, surrogate⟩
  have small := ascii point inside
  unfold IsSurrogate at surrogate
  omega

theorem IsAscii.encodeUtf8 {text : Text} (ascii : IsAscii text) :
    encodeUtf8 text = some (utf8 text) :=
  if_neg ascii.not_surrogate

theorem IsAscii.append {left right : Text} (leftAscii : IsAscii left)
    (rightAscii : IsAscii right) : IsAscii (left ++ right) := by
  intro point inside
  rcases List.mem_append.mp inside with inLeft | inRight
  · exact leftAscii point inLeft
  · exact rightAscii point inRight

theorem utf8Bytes_of_small {point : CodePoint} (small : point.val < 0x80) :
    utf8Bytes point = [UInt8.ofNat point.val] := if_pos small

/-- The first byte of a code point is the code point itself or not below 192. -/
theorem utf8Bytes_eq_cons (point : CodePoint) : ∃ first tail, utf8Bytes point = first :: tail ∧
    (point.val < 0x80 ∧ first.toNat = point.val ∨ 0x80 ≤ point.val ∧ 0xC0 ≤ first.toNat) := by
  have bound := point.isLt
  unfold utf8Bytes
  split
  · exact ⟨_, _, rfl, .inl ⟨by assumption, toNat_ofNat_of_lt (by omega)⟩⟩
  · split
    · exact ⟨_, _, rfl, .inr ⟨by omega, by rw [toNat_ofNat_of_lt] <;> omega⟩⟩
    · split
      · exact ⟨_, _, rfl, .inr ⟨by omega, by rw [toNat_ofNat_of_lt] <;> omega⟩⟩
      · exact ⟨_, _, rfl, .inr ⟨by omega, by rw [toNat_ofNat_of_lt] <;> omega⟩⟩

/-- A byte below 128 at the start is the first character. -/
theorem utf8_head_iff (text : Text) {point : CodePoint} (small : point.val < 0x80) :
    (utf8 text).head? = some (UInt8.ofNat point.val) ↔ text.head? = some point := by
  cases text with
  | nil => simp
  | cons leading rest =>
    obtain ⟨first, tail, bytes, value⟩ := utf8Bytes_eq_cons leading
    rw [utf8_cons, bytes, List.cons_append, List.head?_cons, List.head?_cons, Option.some.injEq,
      Option.some.injEq]
    constructor
    · rintro rfl
      rw [toNat_ofNat_of_lt (by omega)] at value
      exact CodePoint.ext (by omega)
    · rintro rfl
      apply UInt8.toNat_inj.mp
      rw [toNat_ofNat_of_lt (by omega)]
      omega

/-! ## UTF-16 and UTF-32 -/

/-- The numbers that groups of `width` bytes stand for; `none` when bytes are left over. -/
def units (width : Nat) (bigEndian : Bool) (bytes : List UInt8) : Option (List Nat) :=
  if width ∣ bytes.length then
    some ((List.range (bytes.length / width)).map fun index =>
      let unit := (bytes.drop (index * width)).take width
      (if bigEndian then unit else unit.reverse).foldl (fun value byte => value * 256 + byte.toNat)
        0)
  else none

/-- A high surrogate and the low one that follows it become one code point; others stay. -/
def joinPairs : Text → Text
  | high :: low :: rest =>
      if IsHighSurrogate high ∧ IsLowSurrogate low then joinSurrogates high low :: joinPairs rest
      else high :: joinPairs (low :: rest)
  | text => text

def utf16Text (bigEndian : Bool) (bytes : List UInt8) : Option Text :=
  (units 2 bigEndian bytes).map fun units => joinPairs (units.map (CodePoint.ofNat))

def utf32Text (bigEndian : Bool) (bytes : List UInt8) : Option Text :=
  match units 4 bigEndian bytes with
  | some units =>
      units.mapM fun value => if fits : value < 0x110000 then some ⟨value, fits⟩ else none
  | none => none

example : utf16Text false [0x3D, 0xD8, 0x00, 0xDE] = some (Text.ofString "😀") := by
  decide +kernel

end MicrochipDay.Library.Unicode
