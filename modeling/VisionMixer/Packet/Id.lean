/-
Packet ids: fifteen bits that wrap.

Ids are ordered only within half the space: `a` is before `b` when going forward from `a` reaches `b` in less than half
of it.
-/
namespace VisionMixer

/-- the number of a packet, in a space of `PacketId.space` that wraps -/
abbrev PacketId := UInt16

namespace PacketId

/-- the size of the id space -/
def space : UInt16 := 0x8000

/-- the id after another -/
def next (id : PacketId) : PacketId := (id + 1) % space

/-- the id before another -/
def previous (id : PacketId) : PacketId := (id + space - 1) % space

/-- steps forward from one id to another -/
def distance (a b : PacketId) : UInt16 := (b - a) % space

/-- less than half the space behind -/
def isBefore (id reference : PacketId) : Bool :=
  let back := distance id reference
  back ≠ 0 && back < space / 2

end PacketId

end VisionMixer
