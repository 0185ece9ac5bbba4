import MicrochipDay.Umqtt.Receive

/-!
Owns what `umqtt_process` takes the bytes in the receive ring for: a row of
packets, read off the bytes alone, and which of these packets call back.
-/

namespace MicrochipDay.Umqtt

/-- A packet as it comes off the ring: its header and the second byte of its body. -/
structure Frame where
  header : UInt8
  code : UInt8
deriving DecidableEq, Repr

/-- A PUBLISH or an accepted CONNACK. -/
def Frame.CallsBack (frame : Frame) : Prop :=
  umqttHeaderType frame.header = umqttPublishType ∨
    umqttHeaderType frame.header = umqttConnackType ∧ frame.code = 0

instance (frame : Frame) : Decidable frame.CallsBack :=
  inferInstanceAs (Decidable (_ ∨ _))

/-- The packets that some bytes are taken for. Each one takes two bytes at least,
so the count of the bytes is fuel enough. -/
def frames (scratch : Scratch) : Nat → Nat → List UInt8 → List UInt8 → List Frame
  | fuel + 1, call, buf, header :: first :: more =>
      let field := lengthBytes 4 (first :: more)
      let after := (first :: more).drop field.length
      -- where the bytes end in the length, the rest of it is what `buf` held before
      let buf := writeAt buf 0 (header :: field)
      let len := (umqttDecodeLength 16 (buf.drop 1 ++ scratch.afterBuf)).1.toNat
      ⟨header, bodyCell (scratch.data call) (after.take len) 1⟩ ::
        frames scratch fuel (call + 1) buf (after.drop len)
  | _, _, _, _ => []

/-- One byte alone is no packet. -/
theorem frames_of_short (scratch : Scratch) (fuel call : Nat) (buf : List UInt8)
    {bytes : List UInt8} (short : bytes.length < 2) :
    frames scratch fuel call buf bytes = [] := by
  rcases bytes with _ | ⟨header, _ | ⟨first, more⟩⟩
  · cases fuel <;> rfl
  · cases fuel <;> rfl
  · rw [List.length_cons, List.length_cons] at short
    omega

theorem arrivalOf_callback_iff (junk : Nat → UInt8) (header : UInt8) (len : Int)
    (body : List UInt8) :
    (arrivalOf junk header len body).callback ≠ none ↔
      Frame.CallsBack ⟨header, bodyCell junk body 1⟩ := by
  have connackDiffers : umqttConnackType ≠ umqttPublishType := by decide
  have subackDiffers : umqttSubackType ≠ umqttPublishType ∧ umqttSubackType ≠ umqttConnackType := by
    decide
  have pingrespDiffers :
      umqttPingrespType ≠ umqttPublishType ∧ umqttPingrespType ≠ umqttConnackType := by decide
  unfold arrivalOf Frame.CallsBack
  dsimp only
  split
  · next connack => simp [connack, connackDiffers, Arrival.callback]
  · next notConnack =>
    split
    · next suback =>
      rw [suback]
      simp [subackDiffers, Arrival.callback]
    · split
      · next pingresp =>
        rw [pingresp]
        simp [pingrespDiffers, Arrival.callback]
      · split
        · next publish => simp [publish, Arrival.callback]
        · next notPublish => simp [notPublish, notConnack, Arrival.callback]

theorem umqttProcessLoop_callback_iff (scratch : Scratch) (fuel : Nat) :
    ∀ (call : Nat) {conn : UmqttConnection} {buf : List UInt8} (_ : conn.rxbuff.Valid)
      (_ : buf.length = 5),
      (∃ arrival ∈ (umqttProcessLoop scratch fuel call conn buf).arrivals,
          arrival.callback ≠ none) ↔
        ∃ frame ∈ frames scratch fuel call buf conn.rxbuff.contents, frame.CallsBack := by
  induction fuel with
  | zero =>
      intro call conn buf _ _
      simp [umqttProcessLoop, frames]
  | succ fuel inductionHypothesis =>
      intro call conn buf valid size
      by_cases few : conn.rxbuff.datalen < 2
      · have short : conn.rxbuff.contents.length < 2 := by
          rw [UmqttCircBuffer.contents_length]
          exact few
        rw [umqttProcessLoop_stops scratch _ call few, frames_of_short scratch _ call buf short]
        simp
      · obtain ⟨header, bytes, nonempty, stored⟩ := exists_two_bytes conn (by omega)
        obtain ⟨first, more, rfl⟩ := List.exists_cons_of_ne_nil nonempty
        obtain ⟨next, nextBuf, _, nextSize, written, nextValid, _, nextContents, _, _, _,
            unfolded⟩ :=
          umqttProcessLoop_step scratch fuel call valid size nonempty stored rfl rfl
            (Prod.eta _).symm
        have rest := inductionHypothesis (call + 1) nextValid nextSize
        have cells : (writeAt buf 0 (header :: lengthBytes 4 (first :: more))).drop 1 ++
            scratch.afterBuf = lengthBytes 4 (first :: more) ++
              (buf.drop ((lengthBytes 4 (first :: more)).length + 1) ++ scratch.afterBuf) := by
          simp [writeAt]
        rw [nextContents, written] at rest
        rw [unfolded, stored, frames]
        simp only [List.exists_mem_cons_iff, arrivalOf_callback_iff, cells, written, rest]

/-- The packets call back exactly if one of those that the bytes in the ring are
taken for does. -/
theorem umqttProcess_callback_iff (scratch : Scratch) {conn : UmqttConnection}
    (valid : conn.rxbuff.Valid) :
    (∃ arrival ∈ (umqttProcess scratch conn).arrivals, arrival.callback ≠ none) ↔
      ∃ frame ∈ frames scratch conn.rxbuff.contents.length 0 scratch.buf conn.rxbuff.contents,
        frame.CallsBack := by
  rw [UmqttCircBuffer.contents_length]
  exact umqttProcessLoop_callback_iff scratch _ 0 valid scratch.bufSize

end MicrochipDay.Umqtt
