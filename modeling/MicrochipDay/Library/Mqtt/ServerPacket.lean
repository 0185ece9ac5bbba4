import MicrochipDay.Library.Mqtt.Packet

/-!
Owns the MQTT 3.1.1 packets that a broker sends to a client that subscribes
and publishes at QoS 0: CONNACK, SUBACK, PINGRESP and QoS 0 PUBLISH, and their
encoding.
-/

namespace MicrochipDay.Library.Mqtt

inductive ServerPacket where
  | connack (sessionPresent : Bool) (code : UInt8)
  | suback (packetId : Nat) (codes : List UInt8)
  | pingresp
  | publish (retain : Bool) (topic payload : List UInt8)
deriving DecidableEq, Repr

namespace ServerPacket

def header : ServerPacket → UInt8
  | .connack .. => 0x20
  | .suback .. => 0x90
  | .pingresp => 0xD0
  | .publish retain .. => if retain then 0x31 else 0x30

def body : ServerPacket → List UInt8
  | .connack sessionPresent code => [if sessionPresent then 1 else 0, code]
  | .suback packetId codes => wordBytes packetId ++ codes
  | .pingresp => []
  | .publish _ topic payload => wordBytes topic.length ++ (topic ++ payload)

def encode (packet : ServerPacket) : List UInt8 := frame packet.header packet.body

theorem encode_length (packet : ServerPacket) :
    packet.encode.length =
      1 + (encodeRemainingLength packet.body.length).length + packet.body.length :=
  frame_length packet.header packet.body

theorem two_le_encode_length (packet : ServerPacket) : 2 ≤ packet.encode.length := by
  have field := (encodeRemainingLength packet.body.length).length_pos_of_ne_nil
    (encodeDigits_ne_nil 3 packet.body.length)
  rw [encode_length]
  omega

def encodeAll (packets : List ServerPacket) : List UInt8 := (packets.map encode).flatten

@[simp] theorem encodeAll_nil : encodeAll [] = [] := rfl

theorem encodeAll_cons (packet : ServerPacket) (packets : List ServerPacket) :
    encodeAll (packet :: packets) = packet.encode ++ encodeAll packets := rfl

end ServerPacket

end MicrochipDay.Library.Mqtt
