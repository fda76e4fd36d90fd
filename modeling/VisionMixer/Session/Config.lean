/-
How a session is run.

Durations are whole nanoseconds. As a document they are seconds: reading takes the nearest nanosecond, a half going to
the even one, and refuses negative numbers; writing gives the double nearest to the seconds plus the fraction. Members
are read in the order in which they stand, so the first bad one decides what is reported, and missing ones are noticed
last.
-/
import VisionMixer.Document
import VisionMixer.Error
import VisionMixer.Session.Address

namespace VisionMixer

/-- a span of time, in nanoseconds; one that is read from a document is below `Duration.bound` -/
abbrev Duration := Nat

namespace Duration

/-- nanoseconds in a second -/
def second : Duration := 1_000_000_000

/-- nanoseconds in a millisecond -/
def millisecond : Duration := 1_000_000

/-- a duration is shorter than this -/
def bound : Duration := UInt64.size * second

/-- the nearest integer, an exact half going to the even one -/
def roundEven (q : Rat) : Int :=
  let low := q.floor
  let rest := q - low
  if rest < 1 / 2 ∨ rest = 1 / 2 ∧ low % 2 = 0 then low else low + 1

/-- the duration of a number of seconds, none if it is too long -/
def ofSeconds? (q : Rat) : Option Duration :=
  let nanos := (roundEven (q * second)).toNat
  if nanos < bound then some nanos else none

/-- the seconds of a duration, as near as doubles come -/
def seconds (d : Duration) : Number :=
  let whole := Number.ofInt (d / second : Nat)
  let fraction := Arithmetic.binary64.div (Number.ofInt (d % second : Nat)) (Number.ofInt second)
  Arithmetic.binary64.add whole fraction

end Duration

/-- how a session is run -/
structure SessionConfig where
  /-- the local address to bind to -/
  bindAddress : SocketAddress
  /-- time to become live after connecting -/
  handshakeTimeout : Duration
  /-- time between connect requests while there is no session id -/
  helloInterval : Duration
  /-- silence after which the device counts as gone -/
  keepaliveTimeout : Duration
  /-- time between attempts to send an unacknowledged packet -/
  retransmitInterval : Duration
  /-- attempts after the first before the session is given up -/
  maxRetransmits : Nat
  /-- packets held while one before them is missing -/
  reorderWindow : Nat
  /-- changes held for a slow listener -/
  eventCapacity : Nat
  /-- bytes asked of the socket -/
  receiveBufferSize : Nat
  deriving DecidableEq

namespace SessionConfig

instance : Inhabited SessionConfig where
  default := {
    bindAddress := .unspecified
    handshakeTimeout := 5 * Duration.second
    helloInterval := Duration.second
    keepaliveTimeout := 5 * Duration.second
    retransmitInterval := 200 * Duration.millisecond
    maxRetransmits := 10
    reorderWindow := 64
    eventCapacity := 256
    receiveBufferSize := 262144 }

/-- changes by which a listener may fall behind before it loses any: the capacity, rounded up to a power of two -/
def backlog (c : SessionConfig) : Nat := c.eventCapacity.nextPowerOfTwo

/-- the settings are usable -/
def validate (c : SessionConfig) : Except Error Unit :=
  if c.retransmitInterval = 0 then .error (.config .zeroRetransmitInterval)
  else if c.helloInterval = 0 then .error (.config .zeroHelloInterval)
  else if c.handshakeTimeout < c.helloInterval then .error (.config .shortHandshakeTimeout)
  else if c.reorderWindow = 0 ∨ 0x4000 ≤ c.reorderWindow then .error (.config .reorderWindowOutOfRange)
  else if c.eventCapacity = 0 then .error (.config .zeroEventCapacity)
  else .ok ()

/-- why a document is no configuration -/
inductive LoadFault where
  /-- a member is missing or of the wrong kind -/
  | malformed
  /-- a duration below zero, or no number at all -/
  | negativeDuration (seconds : Number)
  /-- a duration that no clock can hold -/
  | endlessDuration (seconds : Number)

/-- the wording of a fault, where it has one of its own -/
def LoadFault.message? : LoadFault → Option String
  | .negativeDuration seconds => some ("duration must be a non-negative number of seconds, got " ++ seconds.text)
  | .malformed | .endlessDuration _ => none

/-- what a well-formed document holds -/
def wellFormed {α : Type} : Option α → Except LoadFault α
  | some a => .ok a
  | none => .error .malformed

/-- a duration from a document -/
def loadDuration (d : Document) : Except LoadFault Duration := do
  let seconds : Number ← wellFormed (load? d)
  match seconds.toRat? with
  | none => .error (.negativeDuration seconds)
  | some q =>
    if q < 0 then .error (.negativeDuration seconds)
    else
      match Duration.ofSeconds? q with
      | some d => .ok d
      | none => .error (.endlessDuration seconds)

/-- a count below a bound from a document -/
def loadCount (bound : Nat) (d : Document) : Except LoadFault Nat := wellFormed (Stored.loadNat? bound d)

/-- an address from a document -/
def loadAddress (d : Document) : Except LoadFault SocketAddress := do
  wellFormed (SocketAddress.parse? (← wellFormed (load? d)))

/-- a setting by the name of its member: how it is written, and how one is read into a configuration -/
structure Setting where
  name : String
  store : SessionConfig → Document
  load : Document → SessionConfig → Except LoadFault SessionConfig

/-- a duration among the settings -/
def durationSetting (name : String) (get : SessionConfig → Duration) (set : SessionConfig → Duration → SessionConfig) :
    Setting :=
  ⟨name, fun c => store (get c).seconds, fun d c => set c <$> loadDuration d⟩

/-- a count among the settings -/
def countSetting (name : String) (bound : Nat) (get : SessionConfig → Nat) (set : SessionConfig → Nat → SessionConfig) :
    Setting :=
  ⟨name, fun c => .integer (get c), fun d c => set c <$> loadCount bound d⟩

/-- the settings in order -/
def settings : List Setting := [
  ⟨"bind_addr", fun c => .text c.bindAddress.text, fun d c => do return { c with bindAddress := ← loadAddress d }⟩,
  durationSetting "handshake_timeout" (·.handshakeTimeout) fun c d => { c with handshakeTimeout := d },
  durationSetting "hello_interval" (·.helloInterval) fun c d => { c with helloInterval := d },
  durationSetting "keepalive_timeout" (·.keepaliveTimeout) fun c d => { c with keepaliveTimeout := d },
  durationSetting "retransmit_interval" (·.retransmitInterval) fun c d => { c with retransmitInterval := d },
  countSetting "max_retransmits" UInt32.size (·.maxRetransmits) fun c n => { c with maxRetransmits := n },
  countSetting "reorder_window" UInt64.size (·.reorderWindow) fun c n => { c with reorderWindow := n },
  countSetting "event_capacity" UInt64.size (·.eventCapacity) fun c n => { c with eventCapacity := n },
  countSetting "recv_buffer_size" UInt64.size (·.receiveBufferSize) fun c n => { c with receiveBufferSize := n }]

/-- the document of a configuration -/
def store (c : SessionConfig) : Document := .object (settings.map fun s => (s.name, s.store c))

/-- a configuration with one member of a document read into it; unknown members are ignored -/
def loadMember (c : SessionConfig) (m : String × Document) : Except LoadFault SessionConfig :=
  match settings.find? (·.name = m.1) with
  | some s => s.load m.2 c
  | none => .ok c

/-- the configuration of a document: a record of all settings, or the list of them in order -/
def load : Document → Except LoadFault SessionConfig
  | .object members => do
    let c ← members.foldlM loadMember default
    if settings.all fun s => members.any (·.1 = s.name) then return c else .error .malformed
  | .list items => do
    let c ← (settings.zip items).foldlM (fun c s => s.1.load s.2 c) default
    if items.length = settings.length then return c else .error .malformed
  | _ => .error .malformed

end SessionConfig

end VisionMixer
