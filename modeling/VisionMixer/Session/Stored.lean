/-
The document forms of phases and of reasons for the end of a session: their names, a socket error with its message.
-/
import VisionMixer.Document
import VisionMixer.Session.Phase

namespace VisionMixer

instance : Stored Phase where
  store p := .text p.name
  load? d := d.plainAlternative?.bind Phase.ofName?

namespace EndReason

/-- the reasons that are known by their name alone -/
def plain : List (String × EndReason) :=
  [("Closed", .closed), ("RemoteClosed", .remoteClosed), ("Refused", .refused), ("HandshakeTimeout", .handshakeTimeout),
    ("KeepaliveTimeout", .keepaliveTimeout), ("RetransmitExhausted", .retransmitExhausted)]

instance : Stored EndReason where
  store
    | .closed => .text "Closed"
    | .remoteClosed => .text "RemoteClosed"
    | .refused => .text "Refused"
    | .handshakeTimeout => .text "HandshakeTimeout"
    | .keepaliveTimeout => .text "KeepaliveTimeout"
    | .retransmitExhausted => .text "RetransmitExhausted"
    | .socketFailed message => .object [("SocketError", .text message)]
  load?
    | .object [("SocketError", .text message)] => some (.socketFailed message)
    | d => d.plainAlternative?.bind fun name => (plain.find? (·.1 = name)).map (·.2)

end EndReason

end VisionMixer
