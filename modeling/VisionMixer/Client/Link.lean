/-
One end of a link to a device: what waits to be read from it, and how its next writes will go.
-/
import VisionMixer.Bytes

namespace VisionMixer

/-- why a socket could not read or write -/
structure SocketFault where
  /-- nobody listens at the other end -/
  refused : Bool
  message : String
  deriving DecidableEq

namespace SocketFault

/-- the other end is gone -/
def peerClosed : SocketFault := ⟨false, "peer closed"⟩

end SocketFault

/-- what a read gives -/
inductive Arrival where
  | datagram (bytes : Bytes)
  | fault (fault : SocketFault)

/-- an end of a link -/
structure Link where
  /-- what waits to be read, in order -/
  waiting : List Arrival
  /-- how the next writes go, in order: the fault of one that fails, none for one that gets through, as all others do -/
  writes : List (Option SocketFault)
  /-- the other end is gone: writes fail, and reads once nothing waits -/
  peerClosed : Bool

namespace Link

/-- a link on which nothing has happened -/
def fresh : Link := ⟨[], [], false⟩

instance : Inhabited Link := ⟨fresh⟩

/-- bytes that a read takes of one datagram; the rest is lost -/
def readSize : Nat := 0x800

/-- the next thing read, none if a read would wait -/
def read (l : Link) : Option (Arrival × Link) :=
  match l.waiting with
  | .datagram bytes :: rest => some (.datagram (bytes.take readSize), { l with waiting := rest })
  | .fault f :: rest => some (.fault f, { l with waiting := rest })
  | [] => if l.peerClosed then some (.fault .peerClosed, l) else none

/-- the fault of a write, none if the datagram got through -/
def write (l : Link) : Option SocketFault × Link :=
  (l.writes.headD none <|> if l.peerClosed then some .peerClosed else none, { l with writes := l.writes.tail })

/-- the link with one more thing to be read -/
def arrive (l : Link) (a : Arrival) : Link := { l with waiting := l.waiting ++ [a] }

/-- the link with one more write before the next ones, which fails -/
def failNext (l : Link) (f : SocketFault) : Link := { l with writes := some f :: l.writes }

/-- the link after the other end is gone -/
def close (l : Link) : Link := { l with peerClosed := true }

end Link

end VisionMixer
