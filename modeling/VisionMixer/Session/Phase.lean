/-
The life of a session: its phases, in order, and the reasons for which it ends.
-/
namespace VisionMixer

/-- where a session is in its life -/
inductive Phase where
  | connecting
  | handshaking
  | live
  | disconnecting
  | disconnected
  deriving DecidableEq

namespace Phase

/-- ended, or about to -/
def isTerminal (p : Phase) : Bool := p = .disconnecting ∨ p = .disconnected

/-- the name of a phase -/
def name : Phase → String
  | .connecting => "Connecting"
  | .handshaking => "Handshaking"
  | .live => "Live"
  | .disconnecting => "Disconnecting"
  | .disconnected => "Disconnected"

/-- every phase, in the order of a life -/
def all : List Phase := [.connecting, .handshaking, .live, .disconnecting, .disconnected]

/-- the phase of a name -/
def ofName? (s : String) : Option Phase := all.find? (·.name = s)

end Phase

/-- why a session ended -/
inductive EndReason where
  /-- closed on this side -/
  | closed
  /-- the device sent a disconnect -/
  | remoteClosed
  /-- the device refused the connect request -/
  | refused
  | handshakeTimeout
  | keepaliveTimeout
  /-- an outbound packet ran out of attempts -/
  | retransmitExhausted
  /-- the socket failed -/
  | socketFailed (message : String)
  deriving DecidableEq

namespace EndReason

/-- the reason in words -/
def text : EndReason → String
  | .closed => "closed"
  | .remoteClosed => "closed by device"
  | .refused => "connection refused by device"
  | .handshakeTimeout => "handshake timed out"
  | .keepaliveTimeout => "keepalive timed out"
  | .retransmitExhausted => "retransmit attempts exhausted"
  | .socketFailed message => "socket error: " ++ message

end EndReason

end VisionMixer
