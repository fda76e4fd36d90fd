/-
Datagrams: a twelve-byte header and a payload.

The first word of the header holds five flag bits above an eleven-bit length, the length of the whole datagram. Then
come the session id, three packet ids (acknowledged, to be resent from, own) and a reserved word before the last of
them. Reading checks the stated length against the datagram and keeps ids inside their space; writing fills in the
length.
-/
import VisionMixer.Error
import VisionMixer.Packet.Id

namespace VisionMixer

/-- a set of packet flags, one bit each -/
structure PacketFlags where
  bits : UInt8
  deriving DecidableEq

namespace PacketFlags

def none : PacketFlags := ⟨0⟩
/-- the sender wants this packet acknowledged -/
def ackRequest : PacketFlags := ⟨0x01⟩
/-- the packet belongs to the hello exchange -/
def hello : PacketFlags := ⟨0x02⟩
/-- the packet was sent before -/
def retransmit : PacketFlags := ⟨0x04⟩
/-- the sender misses packets -/
def retransmitRequest : PacketFlags := ⟨0x08⟩
/-- the packet acknowledges others -/
def ackReply : PacketFlags := ⟨0x10⟩

/-- the flags of either set -/
def union (a b : PacketFlags) : PacketFlags := ⟨a.bits ||| b.bits⟩

/-- every flag of the second set is in the first -/
def contains (a b : PacketFlags) : Bool := a.bits &&& b.bits = b.bits

/-- no flag at all -/
def isEmpty (a : PacketFlags) : Bool := a.bits = 0

end PacketFlags

/-- what a hello packet says, by the first byte of its payload -/
inductive ConnectCode where
  | request
  | accepted
  | refused
  | disconnect
  | other (code : UInt8)
  deriving DecidableEq

namespace ConnectCode

/-- the code of a byte -/
def ofByte (b : UInt8) : ConnectCode :=
  if b = 1 then .request
  else if b = 2 then .accepted
  else if b = 3 then .refused
  else if b = 4 then .disconnect
  else .other b

/-- the byte of a code -/
def byte : ConnectCode → UInt8
  | .request => 1
  | .accepted => 2
  | .refused => 3
  | .disconnect => 4
  | .other code => code

end ConnectCode

/-- the fixed part of a datagram -/
structure Header where
  flags : PacketFlags := .none
  /-- bytes of the whole datagram -/
  length : UInt16 := 0
  sessionId : UInt16 := 0
  ackId : PacketId := 0
  resendFrom : PacketId := 0
  packetId : PacketId := 0
  deriving DecidableEq

namespace Header

/-- bytes of a header -/
def size : Nat := 12

/-- the greatest length that fits the header -/
def maxLength : Nat := 0x7FF

/-- the header at the front of a datagram -/
def parse (datagram : Bytes) : Except Error Header :=
  if datagram.length < size then .error (.framing (.shortDatagram datagram.length))
  else
    let word := Bytes.toWord16 datagram
    let header : Header := {
      flags := ⟨(word >>> 11).toUInt8⟩
      length := word &&& 0x7FF
      sessionId := Bytes.toWord16 (datagram.drop 2)
      ackId := Bytes.toWord16 (datagram.drop 4)
      resendFrom := Bytes.toWord16 (datagram.drop 6)
      packetId := Bytes.toWord16 (datagram.drop 10) }
    if header.length.toNat ≠ datagram.length then
      .error (.framing (.lengthMismatch header.length.toNat datagram.length))
    else if PacketId.space ≤ header.packetId ∨ PacketId.space ≤ header.ackId ∨ PacketId.space ≤ header.resendFrom then
      .error (.framing .idOutsideSpace)
    else .ok header

/-- the bytes of a header; flags above the fifth and lengths above eleven bits are cut off -/
def write (h : Header) : Bytes :=
  Bytes.word16 (h.flags.bits.toUInt16 <<< 11 ||| (h.length &&& 0x7FF)) ++ Bytes.word16 h.sessionId
    ++ Bytes.word16 h.ackId ++ Bytes.word16 h.resendFrom ++ Bytes.word16 0 ++ Bytes.word16 h.packetId

end Header

/-- a datagram: its header, and command records or a connect code -/
structure Packet where
  header : Header
  payload : Bytes
  deriving DecidableEq

namespace Packet

/-- the packet of a datagram -/
def decode (datagram : Bytes) : Except Error Packet := do
  return { header := ← Header.parse datagram, payload := datagram.drop Header.size }

/-- the datagram of a packet, its length filled in -/
def encode (p : Packet) : Except Error Bytes :=
  let total := Header.size + p.payload.length
  if Header.maxLength < total then .error (.encoding (.oversizedPacket total))
  else .ok (({ p.header with length := UInt16.ofNat total } : Header).write ++ p.payload)

/-- a hello packet with a connect code -/
def hello (sessionId : UInt16) (code : ConnectCode) : Packet :=
  { header := { flags := .hello, sessionId }, payload := code.byte :: Bytes.zeros 7 }

/-- a bare acknowledgement -/
def ack (sessionId : UInt16) (id : PacketId) : Packet :=
  { header := { flags := .ackReply, sessionId, ackId := id }, payload := [] }

/-- a request to send everything from an id on once more -/
def retransmitRequest (sessionId : UInt16) (id : PacketId) : Packet :=
  { header := { flags := .retransmitRequest, sessionId, resendFrom := id }, payload := [] }

/-- a packet with its commands, to be acknowledged -/
def data (sessionId : UInt16) (id : PacketId) (payload : Bytes) : Packet :=
  { header := { flags := .ackRequest, sessionId, packetId := id }, payload }

/-- the packet marked as sent before -/
def resent (p : Packet) : Packet := { p with header := { p.header with flags := p.header.flags.union .retransmit } }

/-- the connect code of a hello packet, if its payload has one -/
def connectCode? (p : Packet) : Option ConnectCode :=
  if p.header.flags.contains .hello then p.payload.head?.map .ofByte else none

end Packet

end VisionMixer
