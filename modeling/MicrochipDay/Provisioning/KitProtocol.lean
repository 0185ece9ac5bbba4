import MicrochipDay.Library.Blocks
import MicrochipDay.Library.Python.Bytes

/-!
Owns the replies of the kit protocol: how a device sends one in reports
(sim_hid_device.py), and how `kit_read` and `parse_kit_reply` (mchp_aws_zt_kit.py)
recover it.

The stream of reports is what `device.read` returns, one after the other; when it
ends, the next read times out.
-/

namespace MicrochipDay.Provisioning

open MicrochipDay.Library.Blocks
open MicrochipDay.Library.Decimal
open MicrochipDay.Library.Python
open MicrochipDay.Library.Unicode

abbrev Report := List UInt8

def reportSize : Nat := 64

/-- What the functions of the host raise. -/
inductive KitError where
  /-- `'Timeout (>%d ms) waiting for reply from kit device.'` -/
  | timeout (timeoutMs : Int)
  /-- `'Unable to parse kit protocol reply: %s'` -/
  | unparsable (data : Text)
  /-- `'Kit protocol error. Received reply %s'` -/
  | kitProtocol (data : Text)
  /-- An exception of Python's own. -/
  | python
deriving DecidableEq

/-! ## The device's side -/

def openParen : CodePoint := CodePoint.ofChar '('

def closeParen : CodePoint := CodePoint.ofChar ')'

def newline : CodePoint := CodePoint.ofChar '\n'

/-- `send_reply`: a text in reports, with nulls behind it. -/
def sendReply (data : Text) : List Report := blocks reportSize 0 (data.map byteOfPoint)

/-- `'%s(%s)\n'`, of the status and the data in hexadecimal. -/
def replyLine (status : UInt8) (data : List UInt8) : Text :=
  hexOfBytes [status] ++ openParen :: (hexOfBytes data ++ [closeParen, newline])

def sendKitReply (status : UInt8) (data : List UInt8) : List Report :=
  sendReply (replyLine status data)

/-! ## The host's side -/

/-- The index at which the loop that disregards initial characters ends: that of the
first one above 32, or of the last character. -/
def firstPrintable (chunk : Report) : Nat :=
  min (chunk.findIdx fun char => 32 < char) (chunk.length - 1)

/-- The loop of `kit_read`: the data it collects, and the reports that are left. -/
def kitReadLoop (timeoutMs : Int) :
    List Report → List UInt8 → Except KitError (List UInt8 × List Report)
  | [], data => if 10 ∈ data then .ok (data, []) else .error (.timeout timeoutMs)
  | chunk :: reports, data =>
      if 10 ∈ data then .ok (data, chunk :: reports)
      else if chunk = [] then .error (.timeout timeoutMs)
      else
        kitReadLoop timeoutMs reports
          (data ++ if data = [] then chunk.drop (firstPrintable chunk) else chunk)

/-- `kit_read`, which trims what follows the newline. -/
def kitRead (timeoutMs : Int) (reports : List Report) : Except KitError (Text × List Report) := do
  let (data, reports) ← kitReadLoop timeoutMs reports []
  .ok ((data.take (data.idxOf 10 + 1)).map pointOfByte, reports)

structure KitReply where
  status : Nat
  data : Text
deriving DecidableEq

/-- `[0-9a-zA-Z]`. -/
def IsAlphanumeric (point : CodePoint) : Prop :=
  (0x30 ≤ point.val ∧ point.val ≤ 0x39) ∨ (0x61 ≤ point.val ∧ point.val ≤ 0x7A) ∨
    (0x41 ≤ point.val ∧ point.val ≤ 0x5A)

instance (point : CodePoint) : Decidable (IsAlphanumeric point) := by
  unfold IsAlphanumeric
  infer_instance

/-- `\(([^)]*)\)` at the start of a text: the group. -/
def parenthesized : Text → Option Text
  | [] => none
  | first :: rest =>
      if first = openParen ∧ closeParen ∈ rest then some (rest.takeWhile (· ≠ closeParen))
      else none

/-- `parse_kit_reply`; a status that is not hexadecimal is refused by `int`. -/
def parseKitReply (data : Text) : Except KitError KitReply :=
  match data with
  | high :: low :: rest =>
      if IsAlphanumeric high ∧ IsAlphanumeric low then
        match parenthesized rest with
        | none => .error (.unparsable data)
        | some group =>
            match hexValue high, hexValue low with
            | some high, some low => .ok ⟨high * 16 + low, group⟩
            | _, _ => .error .python
      else .error (.unparsable data)
  | _ => .error (.unparsable data)

/-! ### The loop of `kit_read` -/

section Loop

variable (timeoutMs : Int) {data : List UInt8} {chunk : Report}

theorem kitReadLoop_done (done : 10 ∈ data) (reports : List Report) :
    kitReadLoop timeoutMs reports data = .ok (data, reports) := by
  cases reports with
  | nil => exact if_pos done
  | cons chunk reports => exact if_pos done

theorem kitReadLoop_next (notYet : 10 ∉ data) (nonempty : chunk ≠ []) (reports : List Report) :
    kitReadLoop timeoutMs (chunk :: reports) data = kitReadLoop timeoutMs reports
      (data ++ if data = [] then chunk.drop (firstPrintable chunk) else chunk) := by
  rw [kitReadLoop, if_neg notYet, if_neg nonempty]

/-- Once there is data, whole reports are collected up to the one with the newline. -/
theorem kitReadLoop_reports {front : List Report} (whole : ∀ report ∈ front, report ≠ [])
    (started : data ≠ []) (noNewline : 10 ∉ data ++ front.flatten) (last : 10 ∈ chunk)
    (later : List Report) :
    kitReadLoop timeoutMs (front ++ chunk :: later) data =
      .ok (data ++ front.flatten ++ chunk, later) := by
  induction front generalizing data with
  | nil =>
      rw [List.flatten_nil, List.append_nil] at noNewline ⊢
      rw [List.nil_append, kitReadLoop_next timeoutMs noNewline (List.ne_nil_of_mem last),
        if_neg started, kitReadLoop_done timeoutMs (List.mem_append_right data last)]
  | cons report front inductionHypothesis =>
      rw [List.flatten_cons, ← List.append_assoc] at noNewline ⊢
      have notYet : 10 ∉ data := fun inside =>
        noNewline (List.mem_append_left _ (List.mem_append_left _ inside))
      rw [List.cons_append, kitReadLoop_next timeoutMs notYet (whole report List.mem_cons_self),
        if_neg started]
      have others : ∀ other ∈ front, other ≠ [] := fun other inside =>
        whole other (List.mem_cons_of_mem report inside)
      exact inductionHypothesis others (by simp [started]) noNewline

/-- What has been collected stays at the front. -/
theorem kitReadLoop_prefix {reports rest : List Report} {result : List UInt8}
    (returned : kitReadLoop timeoutMs reports data = .ok (result, rest)) : data <+: result := by
  induction reports generalizing data with
  | nil =>
      unfold kitReadLoop at returned
      split at returned
      · rw [(Prod.mk.inj (Except.ok.inj returned)).1]
      · contradiction
  | cons chunk reports inductionHypothesis =>
      unfold kitReadLoop at returned
      split at returned
      · rw [(Prod.mk.inj (Except.ok.inj returned)).1]
      · split at returned
        · contradiction
        · exact (List.prefix_append _ _).trans (inductionHypothesis returned)

end Loop

/-! ### Initial characters -/

/-- Everything before the first printable character is dropped. -/
theorem drop_firstPrintable {padding rest : List UInt8} {first : UInt8}
    (low : ∀ byte ∈ padding, byte ≤ 32) (printable : 32 < first) :
    (padding ++ first :: rest).drop (firstPrintable (padding ++ first :: rest)) =
      first :: rest := by
  have found : (padding ++ first :: rest).findIdx (fun char => 32 < char) = padding.length := by
    have absent : padding.findIdx (fun char => 32 < char) = padding.length :=
      List.findIdx_eq_length_of_false fun byte inside =>
        decide_eq_false (UInt8.not_lt.mpr (low byte inside))
    rw [List.findIdx_append, absent, if_neg (Nat.lt_irrefl _), List.findIdx_cons,
      decide_eq_true printable]
    exact Nat.zero_add padding.length
  have index : firstPrintable (padding ++ first :: rest) = padding.length := by
    unfold firstPrintable
    rw [found, List.length_append, List.length_cons]
    omega
  rw [index, List.drop_left]

/-- A byte that is not printable, as the host or as ASCII counts it. -/
def NonPrintable (byte : UInt8) : Prop := byte ≤ 32 ∨ 127 ≤ byte

instance (byte : UInt8) : Decidable (NonPrintable byte) := by
  unfold NonPrintable
  infer_instance

/-- What is kept of a chunk begins with a byte of the padding, unless the padding has
only low bytes and ends within the chunk. -/
theorem drop_firstPrintable_padding {padding rest : List UInt8}
    (kept : padding.length < (padding ++ rest).length → ∃ byte ∈ padding, 32 < byte)
    (nonempty : padding ≠ []) :
    ∃ byte ∈ padding, ∃ tail,
      (padding ++ rest).drop (firstPrintable (padding ++ rest)) = byte :: tail := by
  have positive := List.length_pos_iff.mpr nonempty
  have within : firstPrintable (padding ++ rest) < padding.length := by
    unfold firstPrintable
    by_cases longer : padding.length < (padding ++ rest).length
    · obtain ⟨byte, inside, printable⟩ := kept longer
      have found : padding.findIdx (fun char => 32 < char) < padding.length :=
        List.findIdx_lt_length_of_exists ⟨byte, inside, decide_eq_true printable⟩
      rw [List.findIdx_append, if_pos found]
      omega
    · omega
  refine ⟨padding[firstPrintable (padding ++ rest)], List.getElem_mem within,
    padding.drop (firstPrintable (padding ++ rest) + 1) ++ rest, ?_⟩
  rw [List.drop_append_of_le_length within.le, List.drop_eq_getElem_cons within]
  rfl

/-! ### Lines -/

theorem kitRead_of_loop {timeoutMs : Int} {reports later : List Report} {line rest : List UInt8}
    (collected : kitReadLoop timeoutMs reports [] = .ok (line ++ 10 :: rest, later))
    (oneLine : 10 ∉ line) :
    kitRead timeoutMs reports = .ok ((line ++ [10]).map pointOfByte, later) := by
  have position : (line ++ 10 :: rest).idxOf 10 = line.length := by
    rw [List.idxOf_append_of_notMem oneLine, List.idxOf_cons_self, Nat.add_zero]
  have trimmed : (line ++ 10 :: rest).take (line.length + 1) = line ++ [10] := by
    rw [List.take_length_add_append]
    rfl
  unfold kitRead
  rw [collected]
  show Except.ok (((line ++ 10 :: rest).take ((line ++ 10 :: rest).idxOf 10 + 1)).map pointOfByte,
    later) = _
  rw [position, trimmed]

section Line

variable {padding body : List UInt8} {first : UInt8}

/-- The loop drops the padding of the first report that it gets. -/
theorem kitReadLoop_first (low : ∀ byte ∈ padding, byte ≤ 32) (printable : 32 < first)
    (timeoutMs : Int) (begun : List UInt8) (reports : List Report) :
    kitReadLoop timeoutMs ((padding ++ first :: begun) :: reports) [] =
      kitReadLoop timeoutMs reports (first :: begun) := by
  have nonempty : padding ++ first :: begun ≠ [] := by simp
  rw [kitReadLoop_next timeoutMs List.not_mem_nil nonempty, if_pos rfl,
    drop_firstPrintable low printable, List.nil_append]

/-- A first report that is longer than the padding has the beginning of the line. -/
theorem exists_begun {report others : List UInt8}
    (joined : report ++ others = padding ++ first :: body)
    (longer : padding.length < report.length) :
    ∃ begun, report = padding ++ first :: begun ∧ begun ++ others = body := by
  rcases List.append_eq_append_iff.mp joined with ⟨more, long, -⟩ | ⟨more, cut, line⟩
  · rw [long, List.length_append] at longer
    omega
  · cases more with
    | nil =>
        rw [cut, List.append_nil] at longer
        omega
    | cons head more =>
        obtain ⟨rfl, rest⟩ := List.cons.inj line
        exact ⟨more, cut, rest.symm⟩

/-- A line behind fewer than 64 low bytes is read as it is, and its reports are used up. -/
theorem kitRead_line (low : ∀ byte ∈ padding, byte ≤ 32) (short : padding.length < reportSize)
    (printable : 32 < first) (oneLine : 10 ∉ body) (timeoutMs : Int) (later : List Report) :
    kitRead timeoutMs
        (blocks reportSize 0 (padding ++ (first :: body ++ [10])) ++ later) =
      .ok ((first :: body ++ [10]).map pointOfByte, later) := by
  obtain ⟨front, block, filling, found, joined, sizes⟩ :=
    blocks_concat (by decide : 0 < reportSize) 0 (padding ++ first :: body) 10
  have notNewline : (10 : UInt8) ∉ first :: body := by
    rintro (_ | ⟨_, inside⟩)
    · exact absurd printable (by decide)
    · exact oneLine inside
  rw [List.append_assoc] at found
  rw [found]
  cases front with
  | nil =>
      -- the line ends in the report in which it begins
      rw [List.flatten_nil, List.nil_append] at joined
      have last : block ++ 10 :: List.replicate filling (0 : UInt8) =
          padding ++ first :: (body ++ 10 :: List.replicate filling 0) := by
        rw [joined, List.append_assoc, List.cons_append]
      have collected : kitReadLoop timeoutMs
          ([] ++ [block ++ 10 :: List.replicate filling 0] ++ later) [] =
            .ok (first :: body ++ 10 :: List.replicate filling 0, later) := by
        rw [List.nil_append, List.singleton_append, last,
          kitReadLoop_first low printable timeoutMs, kitReadLoop_done timeoutMs (by simp)]
        rfl
      exact kitRead_of_loop collected notNewline
  | cons report front =>
      -- the first report has all the padding and the beginning of the line
      have size := sizes report List.mem_cons_self
      have whole : ∀ other ∈ front, other ≠ [] := by
        intro other inside empty
        have full := sizes other (List.mem_cons_of_mem report inside)
        rw [empty] at full
        exact absurd full (by decide)
      rw [List.flatten_cons, List.append_assoc] at joined
      obtain ⟨begun, rfl, others⟩ := exists_begun joined (by omega)
      have gathered : first :: begun ++ front.flatten ++ block = first :: body := by
        rw [← others, List.cons_append, List.cons_append, List.append_assoc]
      have noNewline : (10 : UInt8) ∉ first :: begun ++ front.flatten := by
        intro inside
        rw [← gathered] at notNewline
        exact notNewline (List.mem_append_left block inside)
      have collected : kitReadLoop timeoutMs ((padding ++ first :: begun) :: front ++
          [block ++ 10 :: List.replicate filling 0] ++ later) [] =
            .ok (first :: body ++ 10 :: List.replicate filling 0, later) := by
        rw [List.append_assoc, List.cons_append, List.singleton_append,
          kitReadLoop_first low printable timeoutMs,
          kitReadLoop_reports timeoutMs whole (by simp) noNewline (by simp), ← List.append_assoc,
          gathered]
      exact kitRead_of_loop collected notNewline

/-- Padding that is longer, or has a higher byte, comes out in front of the line. -/
theorem kitRead_padding (kept : padding.length < reportSize → ∃ byte ∈ padding, 32 < byte)
    (nonempty : padding ≠ []) {timeoutMs : Int} {line : List UInt8} {rest : List Report}
    {text : Text}
    (returned : kitRead timeoutMs (blocks reportSize 0 (padding ++ line)) = .ok (text, rest)) :
    ∃ byte ∈ padding, ∃ tail, text = pointOfByte byte :: tail := by
  have positive : 0 < reportSize := by decide
  have chunk : filled reportSize 0 ((padding ++ line).take reportSize) =
      padding.take reportSize ++ (line.take (reportSize - padding.length) ++
        List.replicate (reportSize - ((padding ++ line).take reportSize).length) 0) := by
    rw [filled, ← List.append_assoc, ← List.take_append]
  have full := filled_length (0 : UInt8) (List.length_take_le reportSize (padding ++ line))
  have some : padding.take reportSize ≠ [] := by
    intro empty
    rcases List.take_eq_nil_iff.mp empty with zero | none
    · exact absurd zero (by decide)
    · exact nonempty none
  rw [blocks_of_ne_nil positive 0 (by simp [nonempty]), chunk] at returned
  rw [chunk] at full
  obtain ⟨byte, inside, tail, begins⟩ := drop_firstPrintable_padding (by
    intro longer
    rw [full, List.length_take] at longer
    have short : padding.length < reportSize := by omega
    rw [List.take_of_length_le short.le]
    exact kept short) some
  refine ⟨byte, List.mem_of_mem_take inside, ?_⟩
  unfold kitRead at returned
  rw [kitReadLoop_next timeoutMs List.not_mem_nil (by simp [some]), if_pos rfl, begins,
    List.nil_append] at returned
  cases looped : kitReadLoop timeoutMs (blocks reportSize 0 ((padding ++ line).drop reportSize))
      (byte :: tail) with
  | error raised =>
      rw [looped] at returned
      contradiction
  | ok collected =>
      obtain ⟨data, left⟩ := collected
      rw [looped] at returned
      obtain ⟨more, rfl⟩ := kitReadLoop_prefix timeoutMs looped
      have trimmed := (Prod.mk.inj (Except.ok.inj returned)).1
      exact ⟨((tail ++ more).take ((byte :: tail ++ more).idxOf 10)).map pointOfByte,
        trimmed.symm⟩

end Line

/-! ## Replies -/

theorem takeWhile_closeParen {group : Text} (rest : Text) (noParen : closeParen ∉ group) :
    (group ++ closeParen :: rest).takeWhile (· ≠ closeParen) = group := by
  have kept : ∀ point ∈ group, decide (point ≠ closeParen) = true := fun point inside =>
    decide_eq_true fun same => noParen (same ▸ inside)
  rw [List.takeWhile_append_of_pos kept, List.takeWhile_cons_of_neg (by simp), List.append_nil]

theorem parenthesized_eq {group : Text} (rest : Text) (noParen : closeParen ∉ group) :
    parenthesized (openParen :: (group ++ closeParen :: rest)) = some group := by
  rw [parenthesized, if_pos ⟨rfl, by simp⟩, takeWhile_closeParen rest noParen]

/-- The points of a spelling in hexadecimal are printable, and no parentheses. -/
theorem hexOfBytes_printable {data : List UInt8} {point : CodePoint}
    (inside : point ∈ hexOfBytes data) :
    32 < point.val ∧ point.val < 127 ∧ point ≠ openParen ∧ point ≠ closeParen := by
  have digits : ∀ digit < 16, 32 < (CodePoint.ofChar (Nat.digitChar digit)).val ∧
      (CodePoint.ofChar (Nat.digitChar digit)).val < 127 ∧
      CodePoint.ofChar (Nat.digitChar digit) ≠ openParen ∧
      CodePoint.ofChar (Nat.digitChar digit) ≠ closeParen := by decide
  obtain ⟨digit, small, rfl⟩ := mem_hexOfBytes inside
  exact digits digit small

section Reply

variable (status : UInt8) (data : List UInt8)

theorem parseKitReply_replyLine :
    parseKitReply (replyLine status data) = .ok ⟨status.toNat, hexOfBytes data⟩ := by
  have digits : ∀ digit < 16, IsAlphanumeric (CodePoint.ofChar (Nat.digitChar digit)) := by decide
  have high := Nat.mod_lt (status.toNat / 16) (by decide : 0 < 16)
  have low := Nat.mod_lt status.toNat (by decide : 0 < 16)
  have value : status.toNat / 16 % 16 * 16 + status.toNat % 16 = status.toNat := by
    have small := status.toNat_lt
    omega
  have group : parenthesized (openParen :: (hexOfBytes data ++ [closeParen, newline])) =
      some (hexOfBytes data) :=
    parenthesized_eq [newline] fun inside => (hexOfBytes_printable inside).2.2.2 rfl
  show (if IsAlphanumeric _ ∧ IsAlphanumeric _ then _ else _) = _
  rw [if_pos ⟨digits _ high, digits _ low⟩]
  show (match parenthesized (openParen :: (hexOfBytes data ++ [closeParen, newline])) with
    | none => _
    | some group => _) = _
  rw [group]
  dsimp only
  rw [hexValue_digitChar high, hexValue_digitChar low]
  dsimp only
  rw [value]

/-- A reply but for its newline. -/
def replyBody : Text := hexOfBytes [status] ++ openParen :: (hexOfBytes data ++ [closeParen])

theorem replyLine_eq : replyLine status data = replyBody status data ++ [newline] := by
  simp [replyLine, replyBody]

theorem replyBody_printable {point : CodePoint} (inside : point ∈ replyBody status data) :
    32 < point.val ∧ point.val < 127 := by
  unfold replyBody at inside
  simp only [List.mem_append, List.mem_cons, List.not_mem_nil, or_false] at inside
  rcases inside with digit | rfl | digit | rfl
  · exact ⟨(hexOfBytes_printable digit).1, (hexOfBytes_printable digit).2.1⟩
  · decide
  · exact ⟨(hexOfBytes_printable digit).1, (hexOfBytes_printable digit).2.1⟩
  · decide

theorem isAscii_replyLine : IsAscii (replyLine status data) := by
  intro point inside
  rw [replyLine_eq, List.mem_append, List.mem_singleton] at inside
  rcases inside with printable | rfl
  · have range := replyBody_printable status data printable
    omega
  · decide

/-- The bytes of a reply begin with a printable one and end with the only newline. -/
theorem replyLine_bytes :
    ∃ first body, (replyLine status data).map byteOfPoint = first :: body ++ [10] ∧
      (replyBody status data).map byteOfPoint = first :: body := by
  exact ⟨_, _, by rw [replyLine_eq, List.map_append]; rfl, rfl⟩

theorem replyBody_bytes {byte : UInt8} (inside : byte ∈ (replyBody status data).map byteOfPoint) :
    32 < byte ∧ byte < 127 := by
  obtain ⟨point, inBody, rfl⟩ := List.mem_map.mp inside
  have range := replyBody_printable status data inBody
  have number := toNat_byteOfPoint (show point.val < 0x80 by omega)
  rw [UInt8.lt_iff_toNat_lt, UInt8.lt_iff_toNat_lt, number]
  exact range

/-- The host gets a reply out of the reports of some padding and the reply, and nothing
of what is sent later. -/
def Recovers (padding : List UInt8) : Prop :=
  ∀ (timeoutMs : Int) (later : List Report),
    kitRead timeoutMs
        (blocks reportSize 0 (padding ++ (replyLine status data).map byteOfPoint) ++ later) =
      .ok (replyLine status data, later) ∧
    parseKitReply (replyLine status data) = .ok ⟨status.toNat, hexOfBytes data⟩

/-- Fewer than 64 low bytes do no harm. -/
theorem recovers_of_low {padding : List UInt8} (low : ∀ byte ∈ padding, byte ≤ 32)
    (short : padding.length < reportSize) : Recovers status data padding := by
  intro timeoutMs later
  obtain ⟨first, body, line, printed⟩ := replyLine_bytes status data
  have range : ∀ byte ∈ first :: body, 32 < byte ∧ byte < 127 := fun byte inside =>
    replyBody_bytes status data (printed ▸ inside)
  have oneLine : (10 : UInt8) ∉ body := fun inside =>
    absurd (range 10 (List.mem_cons_of_mem first inside)).1 (by decide)
  have read := kitRead_line low short (range first List.mem_cons_self).1 oneLine timeoutMs later
  have restored : (first :: body ++ [10]).map pointOfByte = replyLine status data := by
    have same : ∀ point ∈ replyLine status data, pointOfByte (byteOfPoint point) = point :=
      fun point inside => pointOfByte_byteOfPoint (isAscii_replyLine status data point inside)
    rw [← line, List.map_map]
    exact (List.map_congr_left same).trans (List.map_id _)
  rw [restored] at read
  rw [line]
  exact ⟨read, parseKitReply_replyLine status data⟩

/-- The host recovers what the device sends. -/
theorem kitRead_sendKitReply (timeoutMs : Int) (later : List Report) :
    kitRead timeoutMs (sendKitReply status data ++ later) = .ok (replyLine status data, later) :=
  have nothing : ∀ byte ∈ ([] : List UInt8), byte ≤ 32 := fun _ inside =>
    absurd inside List.not_mem_nil
  (recovers_of_low status data nothing (by decide) timeoutMs later).1

/-- A reply that is sent behind padding is recovered exactly if the padding is all low and
does not fill a report: the loop over the initial characters keeps the last one where it
finds none to stop at. -/
theorem recovers_iff {padding : List UInt8} (nonPrintable : ∀ byte ∈ padding, NonPrintable byte) :
    Recovers status data padding ↔
      (∀ byte ∈ padding, byte ≤ 32) ∧ padding.length < reportSize := by
  obtain ⟨first, body, line, printed⟩ := replyLine_bytes status data
  have range : ∀ byte ∈ first :: body, 32 < byte ∧ byte < 127 := fun byte inside =>
    replyBody_bytes status data (printed ▸ inside)
  constructor
  · intro recovers
    by_contra lost
    have kept : padding.length < reportSize → ∃ byte ∈ padding, 32 < byte := by
      intro short
      by_contra none
      exact lost ⟨fun byte inside => UInt8.not_lt.mp fun high => none ⟨byte, inside, high⟩, short⟩
    have nonempty : padding ≠ [] := by
      rintro rfl
      exact lost ⟨fun _ inside => absurd inside List.not_mem_nil, by decide⟩
    have returned := (recovers 0 []).1
    rw [List.append_nil] at returned
    obtain ⟨byte, inside, tail, begins⟩ := kitRead_padding kept nonempty returned
    have text := congrArg (List.map byteOfPoint) begins
    rw [line, List.map_cons, byteOfPoint_pointOfByte] at text
    obtain ⟨rfl, -⟩ := List.cons.inj text
    have printable := range first List.mem_cons_self
    rcases nonPrintable first inside with low | high
    · exact absurd printable.1 (UInt8.not_lt.mpr low)
    · exact absurd printable.2 (UInt8.not_lt.mpr high)
  · rintro ⟨low, short⟩
    exact recovers_of_low status data low short

end Reply

/-- Some low bytes before a reply. -/
theorem recovers_lowPadding : Recovers 0x05 [0xAB, 0xCD] [0, 10, 32] :=
  (recovers_iff 0x05 [0xAB, 0xCD] (by decide +kernel)).mpr ⟨by decide +kernel, by decide⟩

/-- One report of nulls before a reply without data: what is read begins with a null. -/
theorem recovers_not_nullReport :
    NonPrintable 0 ∧ ¬ Recovers 0 [] (List.replicate 64 0) := by
  refine ⟨Or.inl (by decide), fun recovers => ?_⟩
  have returned := (recovers 0 []).1
  revert returned
  decide +kernel

end MicrochipDay.Provisioning
