import MicrochipDay.Gateway
import MicrochipDay.Library.Python.RoundTrip

/-!
Owns what the serial reader survives: for every sequence of lines, each round
ends without an exception and publishes what its line carries exactly if every
line is UTF-8, comes with an error only after telemetry, and has four readable
integers where it has four fields.
-/

namespace MicrochipDay.Gateway

open MicrochipDay.Library.Unicode
open MicrochipDay.Library.Decimal
open MicrochipDay.Library.Python

/-! ## Telemetry -/

structure Telemetry where
  uid : Int
  light : Int
  temp : Int
  humildade : Int

def Telemetry.status (telemetry : Telemetry) : Value :=
  Gateway.status telemetry.light telemetry.temp telemetry.humildade (.int telemetry.uid)

/-- After the first field there are exactly four, and they relate to the four numbers. -/
def FourFields (Field : Text → Int → Prop) (msg : Text) (telemetry : Telemetry) : Prop :=
  ∃ uid light temp humildade, fields msg = [uid, light, temp, humildade] ∧
    Field uid telemetry.uid ∧ Field light telemetry.light ∧ Field temp telemetry.temp ∧
    Field humildade telemetry.humildade

/-- The four fields denote the numbers. -/
def Carries (interpreter : Interpreter) (msg : Text) (telemetry : Telemetry) : Prop :=
  FourFields (Denotes interpreter) msg telemetry

/-- `int` reads the numbers from the four fields. -/
def ReadsTelemetry (interpreter : Interpreter) (msg : Text) (telemetry : Telemetry) : Prop :=
  FourFields (fun field number => int interpreter field = some number) msg telemetry

theorem ReadsTelemetry.carries {interpreter : Interpreter} {msg : Text} {telemetry : Telemetry}
    (reads : ReadsTelemetry interpreter msg telemetry) : Carries interpreter msg telemetry := by
  obtain ⟨uid, light, temp, humildade, split, uidRead, lightRead, tempRead, humRead⟩ := reads
  exact ⟨uid, light, temp, humildade, split, denotes_of_int uidRead, denotes_of_int lightRead,
    denotes_of_int tempRead, denotes_of_int humRead⟩

/-- A line carries one telemetry only. -/
theorem Carries.unique {interpreter : Interpreter} {msg : Text} {left right : Telemetry}
    (leftCarried : Carries interpreter msg left) (rightCarried : Carries interpreter msg right) :
    left = right := by
  obtain ⟨uid, light, temp, humildade, split, uidIs, lightIs, tempIs, humIs⟩ := leftCarried
  obtain ⟨uid', light', temp', humildade', again, uidIs', lightIs', tempIs', humIs'⟩ :=
    rightCarried
  rw [split] at again
  simp only [List.cons.injEq, and_true] at again
  obtain ⟨rfl, rfl, rfl, rfl⟩ := again
  cases left
  cases right
  simp only [Telemetry.mk.injEq]
  exact ⟨uidIs.unique uidIs', lightIs.unique lightIs', tempIs.unique tempIs', humIs.unique humIs'⟩

theorem exists_four_fields {msg : Text} (four : (fields msg).length = 4) :
    ∃ first second third fourth, fields msg = [first, second, third, fourth] := by
  match fields msg, four with
  | [first, second, third, fourth], _ => exact ⟨first, second, third, fourth, rfl⟩

/-- The integers read from four fields, as the source unpacks them. -/
theorem mapM_int_eq_iff {interpreter : Interpreter} {msg : Text} {uid light temp humildade : Int}
    (four : (fields msg).length = 4) :
    (fields msg).mapM (int interpreter) = some [uid, light, temp, humildade] ↔
      ReadsTelemetry interpreter msg ⟨uid, light, temp, humildade⟩ := by
  obtain ⟨first, second, third, fourth, split⟩ := exists_four_fields four
  unfold ReadsTelemetry FourFields
  rw [split]
  constructor
  · intro read
    refine ⟨first, second, third, fourth, rfl, ?_⟩
    simpa [Option.bind_eq_some_iff, and_assoc] using read
  · rintro ⟨_, _, _, _, same, uidRead, lightRead, tempRead, humRead⟩
    simp only [List.cons.injEq, and_true] at same
    obtain ⟨rfl, rfl, rfl, rfl⟩ := same
    simp [uidRead, lightRead, tempRead, humRead]

/-! ## One line -/

/-- The telemetry part of a round ends: what it prints can be printed, and four
fields are four readable integers whose status the client takes. -/
def EndsTelemetry (host : Host) (msg : Text) : Prop :=
  host.interpreter.prints (strTexts host.interpreter (fields msg)) ∧
    ((fields msg).length = 4 → ∃ telemetry, ReadsTelemetry host.interpreter msg telemetry ∧
      TakesStatus host telemetry.uid telemetry.status)

theorem FourFields.length {Field : Text → Int → Prop} {msg : Text} {telemetry : Telemetry}
    (four : FourFields Field msg telemetry) : (fields msg).length = 4 := by
  obtain ⟨_, _, _, _, split, _⟩ := four
  rw [split]
  rfl

theorem reportTelemetry_of_fourFields {host : Host} {msg : Text} {telemetry : Telemetry}
    (prints : host.interpreter.prints (strTexts host.interpreter (fields msg)))
    (reads : ReadsTelemetry host.interpreter msg telemetry) :
    reportTelemetry host msg = (publish host telemetry.uid telemetry.status).map
      fun publication => some (telemetry.uid, publication) := by
  unfold reportTelemetry
  rw [if_pos prints, if_pos reads.length, (mapM_int_eq_iff reads.length).mpr reads]
  rfl

theorem reportTelemetry_of_other {host : Host} {msg : Text}
    (prints : host.interpreter.prints (strTexts host.interpreter (fields msg)))
    (other : (fields msg).length ≠ 4) : reportTelemetry host msg = some none := by
  unfold reportTelemetry
  rw [if_pos prints, if_neg other]

theorem exists_readsTelemetry {interpreter : Interpreter} {msg : Text} {numbers : List Int}
    (four : (fields msg).length = 4) (read : (fields msg).mapM (int interpreter) = some numbers) :
    ∃ telemetry, ReadsTelemetry interpreter msg telemetry := by
  obtain ⟨first, second, third, fourth, split⟩ := exists_four_fields four
  rw [split] at read
  simp only [List.mapM_cons, List.mapM_nil, Option.pure_def, Option.bind_eq_bind,
    Option.bind_eq_some_iff] at read
  obtain ⟨uid, uidRead, _, ⟨light, lightRead, _, ⟨temp, tempRead, _, ⟨humildade, humRead, -⟩, -⟩,
    -⟩, -⟩ := read
  exact ⟨⟨uid, light, temp, humildade⟩, first, second, third, fourth, split, uidRead, lightRead,
    tempRead, humRead⟩

theorem reportTelemetry_isSome_iff (host : Host) (msg : Text) :
    (reportTelemetry host msg).isSome ↔ EndsTelemetry host msg := by
  unfold EndsTelemetry
  by_cases prints : host.interpreter.prints (strTexts host.interpreter (fields msg))
  · by_cases four : (fields msg).length = 4
    · constructor
      · intro ends
        refine ⟨prints, fun _ => ?_⟩
        cases read : (fields msg).mapM (int host.interpreter) with
        | none =>
            unfold reportTelemetry at ends
            rw [if_pos prints, if_pos four, read] at ends
            contradiction
        | some numbers =>
            obtain ⟨telemetry, reads⟩ := exists_readsTelemetry four read
            refine ⟨telemetry, reads, ?_⟩
            rw [reportTelemetry_of_fourFields prints reads, Option.isSome_map] at ends
            exact publish_isSome_iff.mp ends
      · rintro ⟨-, known⟩
        obtain ⟨telemetry, reads, takes⟩ := known four
        rw [reportTelemetry_of_fourFields prints reads, Option.isSome_map]
        exact publish_isSome_iff.mpr takes
    · rw [reportTelemetry_of_other prints four]
      exact ⟨fun _ => ⟨prints, fun same => absurd same four⟩, fun _ => rfl⟩
  · unfold reportTelemetry
    rw [if_neg prints]
    exact ⟨fun ends => absurd ends (by decide), fun known => absurd known.1 prints⟩

/-- A line that a round of `pub_loop` survives: what is printed can be printed,
a line that is not empty is UTF-8, one with the error word comes after `uid` is
bound and its status is taken, and the telemetry part ends. -/
def Survives (host : Host) (uid : Option Int) (lastUID : Value) (line : List UInt8) : Prop :=
  host.interpreter.prints (reprBytes line) ∧
    (line ≠ [] → ∃ msg, encodeUtf8 msg = some line ∧
      (errorWord <:+: msg → ∃ bound, uid = some bound ∧
        TakesStatus host bound (status 0 0 0 lastUID)) ∧
      EndsTelemetry host msg)

theorem finishRound_raised_iff {host : Host} {uid : Option Int} {lastUID : Value}
    {published : List Publication} {msg : Text} :
    (finishRound host uid lastUID published msg).raised = false ↔ EndsTelemetry host msg := by
  rw [← reportTelemetry_isSome_iff]
  unfold finishRound
  split
  · next none => simp [none]
  · next some => simp [some]
  · next some => simp [some]

theorem reportError_isSome_iff {host : Host} {uid : Option Int} {lastUID : Value} :
    (reportError host uid lastUID).isSome ↔
      ∃ bound, uid = some bound ∧ TakesStatus host bound (status 0 0 0 lastUID) := by
  cases uid with
  | none =>
      constructor
      · intro reported
        contradiction
      · rintro ⟨bound, same, -⟩
        contradiction
  | some uid =>
      show (publish host uid (status 0 0 0 lastUID)).isSome ↔ _
      rw [publish_isSome_iff]
      constructor
      · intro takes
        exact ⟨uid, rfl, takes⟩
      · rintro ⟨bound, same, takes⟩
        obtain rfl := Option.some.inj same
        exact takes

/-- A round ends without an exception exactly if the line is one that it survives. -/
theorem pubRound_raised_iff (host : Host) (uid : Option Int) (lastUID : Value)
    (line : List UInt8) :
    (pubRound host uid lastUID line).raised = false ↔ Survives host uid lastUID line := by
  unfold pubRound readLine Survives
  by_cases prints : host.interpreter.prints (reprBytes line)
  · rw [if_pos prints]
    by_cases empty : line = []
    · rw [if_pos empty]
      exact ⟨fun _ => ⟨prints, fun full => absurd empty full⟩, fun _ => rfl⟩
    · rw [if_neg empty]
      cases decoded : decodeUtf8 line with
      | none =>
          constructor
          · intro ended
            contradiction
          · rintro ⟨-, known⟩
            obtain ⟨msg, encoded, -⟩ := known empty
            rw [decodeUtf8_eq_some_iff.mpr encoded] at decoded
            contradiction
      | some msg =>
          have encoded := decodeUtf8_eq_some_iff.mp decoded
          have only {other : Text} (same : encodeUtf8 other = some line) : other = msg := by
            have again := decodeUtf8_eq_some_iff.mpr same
            rw [decoded] at again
            exact (Option.some.inj again).symm
          dsimp only [Option.map_some]
          by_cases error : errorWord <:+: msg
          · rw [if_pos error]
            cases reported : reportError host uid lastUID with
            | none =>
                constructor
                · intro ended
                  contradiction
                · rintro ⟨-, known⟩
                  obtain ⟨other, same, errors, -⟩ := known empty
                  obtain rfl := only same
                  have some := reportError_isSome_iff.mpr (errors error)
                  rw [reported] at some
                  contradiction
            | some publication =>
                have errors := reportError_isSome_iff.mp (by rw [reported]; rfl)
                dsimp only
                rw [finishRound_raised_iff]
                constructor
                · intro ends
                  exact ⟨prints, fun _ => ⟨msg, encoded, fun _ => errors, ends⟩⟩
                · rintro ⟨-, known⟩
                  obtain ⟨other, same, -, ends⟩ := known empty
                  obtain rfl := only same
                  exact ends
          · rw [if_neg error, finishRound_raised_iff]
            constructor
            · intro ends
              exact ⟨prints, fun _ => ⟨msg, encoded, fun has => absurd has error, ends⟩⟩
            · rintro ⟨-, known⟩
              obtain ⟨other, same, -, ends⟩ := known empty
              obtain rfl := only same
              exact ends
  · rw [if_neg prints]
    exact ⟨fun ended => absurd ended Bool.noConfusion, fun known => absurd known.1 prints⟩

/-! ## What a line's status says -/

/-- The status is on the topic of the first number, and its document decodes to the four. -/
def Telemetry.PublishedAs (interpreter : Interpreter) (telemetry : Telemetry)
    (publication : Publication) : Prop :=
  publication.topico = topicCmd ++ intText telemetry.uid ∧
    ∃ members, loads interpreter (utf8 publication.payload) = some (.dict members) ∧
      lookup uidKey members = some (.int telemetry.uid) ∧
      lookup lightKey members = some (.int telemetry.light) ∧
      lookup tempKey members = some (.int telemetry.temp) ∧
      lookup humKey members = some (.int telemetry.humildade)

theorem ReadsTelemetry.plain {interpreter : Interpreter} {msg : Text} {telemetry : Telemetry}
    (reads : ReadsTelemetry interpreter msg telemetry) : telemetry.status.Plain interpreter := by
  obtain ⟨_, _, _, _, -, uidRead, lightRead, tempRead, humRead⟩ := reads
  have clean : ∀ key ∈ [lightKey, tempKey, humKey, uidKey], ∀ point ∈ key, ¬ IsSurrogate point := by
    decide
  simp only [List.mem_cons, List.not_mem_nil, or_false, forall_eq_or_imp, forall_eq] at clean
  obtain ⟨light, temp, hum, uid⟩ := clean
  refine ⟨⟨⟨light, readsDigits_of_int lightRead⟩, ⟨temp, readsDigits_of_int tempRead⟩,
    ⟨hum, readsDigits_of_int humRead⟩, ⟨uid, readsDigits_of_int uidRead⟩, trivial⟩, ?_⟩
  show [lightKey, tempKey, humKey, uidKey].Nodup
  decide

theorem ReadsTelemetry.publishedAs {host : Host} {msg : Text} {telemetry : Telemetry}
    (reads : ReadsTelemetry host.interpreter msg telemetry) :
    telemetry.PublishedAs host.interpreter
      ⟨topico telemetry.uid, telemetry.status, telemetry.status.dump⟩ := by
  have loaded := loads_dump reads.plain host.interpreter.flat.1
  refine ⟨rfl, _, loaded, ?_, ?_, ?_, ?_⟩ <;> rfl

/-- A round on a line ends without an exception, and a line without the error
word is published exactly if it carries telemetry, in one status that says what
the line says. -/
structure Handles (host : Host) (uid : Option Int) (lastUID : Value) (line : List UInt8) :
    Prop where
  survives : (pubRound host uid lastUID line).raised = false
  publishes : ∀ msg, encodeUtf8 msg = some line → ¬ errorWord <:+: msg →
    ((pubRound host uid lastUID line).published ≠ [] ↔
      ∃ telemetry, Carries host.interpreter msg telemetry) ∧
    ∀ telemetry, Carries host.interpreter msg telemetry → ∃ publication,
      (pubRound host uid lastUID line).published = [publication] ∧
        telemetry.PublishedAs host.interpreter publication

theorem pubRound_of_text {host : Host} {uid : Option Int} {lastUID : Value} {line : List UInt8}
    {msg : Text} (prints : host.interpreter.prints (reprBytes line)) (full : line ≠ [])
    (encoded : encodeUtf8 msg = some line) (noError : ¬ errorWord <:+: msg) :
    pubRound host uid lastUID line = finishRound host uid lastUID [] msg := by
  unfold pubRound readLine
  rw [if_pos prints, if_neg full, decodeUtf8_eq_some_iff.mpr encoded]
  exact if_neg noError

theorem finishRound_published {host : Host} {uid : Option Int} {lastUID : Value} {msg : Text}
    (ends : EndsTelemetry host msg) :
    ((finishRound host uid lastUID [] msg).published ≠ [] ↔
      ∃ telemetry, Carries host.interpreter msg telemetry) ∧
    ∀ telemetry, Carries host.interpreter msg telemetry → ∃ publication,
      (finishRound host uid lastUID [] msg).published = [publication] ∧
        telemetry.PublishedAs host.interpreter publication := by
  obtain ⟨prints, known⟩ := ends
  by_cases four : (fields msg).length = 4
  · obtain ⟨telemetry, reads, takes⟩ := known four
    have reported := reportTelemetry_of_fourFields prints reads
    rw [publish_eq_some_iff.mpr ⟨takes, rfl⟩] at reported
    have published : (finishRound host uid lastUID [] msg).published =
        [⟨topico telemetry.uid, telemetry.status, telemetry.status.dump⟩] := by
      unfold finishRound
      rw [reported]
      rfl
    rw [published]
    refine ⟨⟨fun _ => ⟨telemetry, reads.carries⟩, fun _ => List.cons_ne_nil _ _⟩, ?_⟩
    intro other carries
    obtain rfl := carries.unique reads.carries
    exact ⟨_, rfl, reads.publishedAs⟩
  · have published : (finishRound host uid lastUID [] msg).published = [] := by
      unfold finishRound
      rw [reportTelemetry_of_other prints four]
    rw [published]
    constructor
    · constructor
      · intro nonempty
        exact absurd rfl nonempty
      · rintro ⟨telemetry, carries⟩
        exact absurd carries.length four
    · intro telemetry carries
      exact absurd carries.length four

theorem handles_iff (host : Host) (uid : Option Int) (lastUID : Value) (line : List UInt8) :
    Handles host uid lastUID line ↔ Survives host uid lastUID line := by
  constructor
  · intro handles
    exact (pubRound_raised_iff host uid lastUID line).mp handles.survives
  · intro survives
    refine ⟨(pubRound_raised_iff host uid lastUID line).mpr survives, ?_⟩
    intro msg encoded noError
    obtain ⟨prints, known⟩ := survives
    by_cases empty : line = []
    · -- The empty text has no field after the first.
      obtain rfl : msg = [] := by
        have decoded := decodeUtf8_eq_some_iff.mpr encoded
        rw [empty] at decoded
        exact (Option.some.inj decoded).symm
      have published : (pubRound host uid lastUID line).published = [] := by
        unfold pubRound readLine
        rw [if_pos prints, if_pos empty]
      have noFields {telemetry : Telemetry} : ¬ Carries host.interpreter [] telemetry := by
        intro carries
        exact absurd carries.length (by decide)
      rw [published]
      constructor
      · constructor
        · intro nonempty
          exact absurd rfl nonempty
        · rintro ⟨telemetry, carries⟩
          exact absurd carries noFields
      · intro telemetry carries
        exact absurd carries noFields
    · obtain ⟨other, same, -, ends⟩ := known empty
      obtain rfl : other = msg := by
        have decoded := decodeUtf8_eq_some_iff.mpr same
        rw [decodeUtf8_eq_some_iff.mpr encoded] at decoded
        exact (Option.some.inj decoded).symm
      rw [pubRound_of_text prints empty encoded noError]
      exact finishRound_published ends

/-! ## Every sequence of lines -/

/-- Every round of `pub_loop` handles its line. A round starts with the `uid` of
the round before it and with the value that `lastUID` has then; no round follows
one that raises. -/
def Serves (host : Host) : Option Int → List (Value × List UInt8) → Prop
  | _, [] => True
  | uid, (lastUID, line) :: lines =>
      Handles host uid lastUID line ∧ Serves host (pubRound host uid lastUID line).uid lines

/-- The first integer of a line with four readable ones. -/
def telemetryUid (interpreter : Interpreter) (line : List UInt8) : Option Int :=
  match decodeUtf8 line with
  | none => none
  | some msg =>
      if (fields msg).length = 4 then
        match (fields msg).mapM (int interpreter) with
        | some (uid :: _) => some uid
        | _ => none
      else none

/-- The `uid` of the latest telemetry line. -/
def latestUid (interpreter : Interpreter) (start : Option Int)
    (lines : List (Value × List UInt8)) : Option Int :=
  lines.foldl (fun uid entry => (telemetryUid interpreter entry.2).or uid) start

theorem finishRound_uid {host : Host} {uid : Option Int} {lastUID : Value}
    {published : List Publication} {line : List UInt8} {msg : Text}
    (encoded : encodeUtf8 msg = some line) (ends : EndsTelemetry host msg) :
    (finishRound host uid lastUID published msg).uid =
      (telemetryUid host.interpreter line).or uid := by
  obtain ⟨prints, known⟩ := ends
  unfold finishRound telemetryUid
  rw [decodeUtf8_eq_some_iff.mpr encoded]
  dsimp only
  by_cases four : (fields msg).length = 4
  · obtain ⟨telemetry, reads, takes⟩ := known four
    have reported := reportTelemetry_of_fourFields prints reads
    rw [publish_eq_some_iff.mpr ⟨takes, rfl⟩] at reported
    rw [reported, if_pos four, (mapM_int_eq_iff four).mpr reads]
    rfl
  · rw [reportTelemetry_of_other prints four, if_neg four]
    rfl

theorem pubRound_uid {host : Host} {uid : Option Int} {lastUID : Value} {line : List UInt8}
    (survives : Survives host uid lastUID line) :
    (pubRound host uid lastUID line).uid = (telemetryUid host.interpreter line).or uid := by
  obtain ⟨prints, known⟩ := survives
  unfold pubRound readLine
  rw [if_pos prints]
  by_cases empty : line = []
  · rw [if_pos empty, empty]
    rfl
  · obtain ⟨msg, encoded, errors, ends⟩ := known empty
    rw [if_neg empty, decodeUtf8_eq_some_iff.mpr encoded]
    dsimp only [Option.map_some]
    split
    · next error =>
      obtain ⟨publication, reported⟩ :=
        Option.isSome_iff_exists.mp (reportError_isSome_iff.mpr (errors error))
      rw [reported]
      exact finishRound_uid encoded ends
    · exact finishRound_uid encoded ends

theorem serves_iff_from (host : Host) (uid : Option Int) (lines : List (Value × List UInt8)) :
    Serves host uid lines ↔ ∀ before lastUID line after,
      lines = before ++ (lastUID, line) :: after →
        Survives host (latestUid host.interpreter uid before) lastUID line := by
  induction lines generalizing uid with
  | nil =>
      constructor
      · intro _ before lastUID line after split
        simp at split
      · intro _
        trivial
  | cons entry lines inductionHypothesis =>
      obtain ⟨first, firstLine⟩ := entry
      show Handles host uid first firstLine ∧ Serves host _ lines ↔ _
      rw [handles_iff, inductionHypothesis]
      constructor
      · rintro ⟨survives, others⟩ before lastUID line after split
        cases before with
        | nil =>
            obtain ⟨same, rfl⟩ := List.cons_eq_cons.mp split
            obtain ⟨rfl, rfl⟩ := Prod.mk.inj same
            exact survives
        | cons head before =>
            obtain ⟨rfl, rfl⟩ := List.cons_eq_cons.mp split
            have later := others before lastUID line after rfl
            rw [pubRound_uid survives] at later
            exact later
      · intro all
        have survives : Survives host uid first firstLine := all [] first firstLine lines rfl
        refine ⟨survives, ?_⟩
        rintro before lastUID line after rfl
        rw [pubRound_uid survives]
        exact all ((first, firstLine) :: before) lastUID line after rfl

/-- The reader handles every line of a sequence exactly if each line is one that
it survives, where `uid` is that of the latest telemetry line before it. -/
theorem serves_iff (host : Host) (lines : List (Value × List UInt8)) :
    Serves host none lines ↔ ∀ before lastUID line after,
      lines = before ++ (lastUID, line) :: after →
        Survives host (latestUid host.interpreter none before) lastUID line :=
  serves_iff_from host none lines

private def noRoute : List UInt8 := utf8 (Text.ofString "ERROR:17 - NO ROUTE\r\n")

/-- An error line before the first telemetry line ends the thread. -/
theorem serves_noRoute : ¬ Serves plainHost none [(.int 0, noRoute)] := by
  intro serves
  have ended := serves.1.survives
  revert ended
  decide +kernel

end MicrochipDay.Gateway
