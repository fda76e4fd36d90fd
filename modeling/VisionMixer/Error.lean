/-
What can go wrong, as causes, and the wording of each cause.

An `Error` says in which part of the job a fault lies and carries the fault itself; `Error.message` is the one place
where faults are put into words. A `TableFault` is a defect of a field table and not of any input: it stands for an
access outside the body, which a well-formed table never causes, or for a position that cannot be counted.
-/
import VisionMixer.Field.Text
import VisionMixer.Session.Phase
import VisionMixer.Version

namespace VisionMixer

/-- bytes from the device that cannot be read -/
inductive FramingFault where
  | shortDatagram (size : Nat)
  | lengthMismatch (stated size : Nat)
  | idOutsideSpace
  | shortRecord (length : Nat)
  | trailingBytes (size : Nat)
  | noTables
  | notTabular (tag : String)
  | shortBody (size : Nat) (field : String) (stop : Nat)
  | shortRecords (count : Nat) (field : String) (needed size : Nat)
  | missingField (field : String)
  | outOfRange (field : String) (value : Int)
  | wrongKind (field wanted : String) (value : Value)
  | shortFixedPart (size : Nat)
  | overrunningTexts (needed size : Nat)
  | unknownMacroAction (code : UInt8)
  /-- a fault in the body of a command -/
  | inCommand (tag : String) (fault : FramingFault)
  | described (message : String)

/-- values that cannot be written -/
inductive EncodingFault where
  | oversizedPacket (size : Nat)
  | oversizedRecord (tag : String) (size : Nat)
  | oversizedPayload (size : Nat)
  | requiredField (field : String)
  | fieldNotCarried (field : String)
  | recordsExpected (field : String)
  | tooManyRecords (field : String)
  | missingInRecord (field : String)
  | wrongKind (field : String) (value : Value) (wire : Wire)
  | doesNotFit (field : String) (value : Int) (width : Width)
  | notSingle (field : String) (value : Number)
  | outsideRange (field : String) (value least greatest : Number)
  | notAscii (field : String)
  | longText (field : String) (size limit : Nat)
  | longMacroText (field : String) (size : Nat)
  | superSourceNotAddressable (tag : String) (superSource : UInt8) (version : Version)
  | described (message : String)

/-- a session that cannot do what was asked -/
inductive TransportFault where
  | alreadyStarted
  | notLive (phase : Phase)
  | noSessionId
  | ended (reason : EndReason)
  | described (message : String)

/-- an id with no entry in the device's tree -/
inductive StaleReference where
  | mixEffect (block : UInt8)
  | upstreamKeyer (keyer block : UInt8)
  | downstreamKeyer (keyer : UInt8)
  | superSource (index : UInt8)
  | superSourceBox (box superSource : UInt8)
  | mediaPlayer (player : UInt8)
  | multiviewer (index : UInt8)
  | described (message : String)

/-- settings or paths that make no sense -/
inductive ConfigFault where
  | zeroRetransmitInterval
  | zeroHelloInterval
  | shortHandshakeTimeout
  | reorderWindowOutOfRange
  | zeroEventCapacity
  | emptySegment (path : String)
  | described (message : String)

/-- a field table that does not fit its own body -/
inductive TableFault where
  | outsideBody (field : String)
  | zeroStride (field : String)
  /-- a position or a size that is not below the limit -/
  | uncountable (size : Nat)

/-- anything that can go wrong -/
inductive Error where
  | io (message : String)
  | transport (fault : TransportFault)
  | handshakeTimeout
  | keepaliveTimeout
  | disconnected
  | framing (fault : FramingFault)
  | encoding (fault : EncodingFault)
  | stale (reference : StaleReference)
  | config (fault : ConfigFault)
  | table (fault : TableFault)

namespace FramingFault

/-- the wording of a framing fault -/
def message : FramingFault → String
  | .shortDatagram size => String.join ["datagram of ", toString size, " bytes is shorter than the header"]
  | .lengthMismatch stated size =>
    String.join ["header length ", toString stated, " does not match datagram length ", toString size]
  | .idOutsideSpace => "packet id outside the 15-bit id space"
  | .shortRecord length => String.join ["record length ", toString length, " below header size"]
  | .trailingBytes size => String.join [toString size, " trailing bytes after last command record"]
  | .noTables => "command has no field table"
  | .notTabular tag => String.join [tag, " has no field table"]
  | .shortBody size field stop =>
    String.join ["body of ", toString size, " bytes too short for field ", field, " ending at ", toString stop]
  | .shortRecords count field needed size =>
    String.join [toString count, " ", field, " records need ", toString needed, " bytes, body has ", toString size]
  | .missingField field => String.join ["missing field ", field]
  | .outOfRange field value => String.join ["field ", field, " value ", toString value, " out of range"]
  | .wrongKind field wanted value => String.join ["field ", field, " is not ", wanted, ": ", value.shown]
  | .shortFixedPart size => String.join ["body of ", toString size, " bytes shorter than the fixed part"]
  | .overrunningTexts needed size =>
    String.join ["strings of ", toString needed, " bytes overrun body of ", toString size]
  | .unknownMacroAction code => String.join ["unknown macro action ", toString code.toNat]
  | .inCommand tag fault => String.join [tag, ": ", fault.message]
  | .described message => message

end FramingFault

namespace EncodingFault

/-- the wording of an encoding fault -/
def message : EncodingFault → String
  | .oversizedPacket size => String.join ["packet of ", toString size, " bytes exceeds the 11-bit length field"]
  | .oversizedRecord tag size => String.join ["command ", tag, " body of ", toString size, " bytes is too large"]
  | .oversizedPayload size => String.join [toString size, " bytes of commands do not fit in one packet"]
  | .requiredField field => String.join ["field ", field, " is required by this protocol version"]
  | .fieldNotCarried field => String.join ["field ", field, " is not carried by this protocol version"]
  | .recordsExpected field => String.join ["field ", field, " expects records"]
  | .tooManyRecords field => String.join ["too many ", field, " records"]
  | .missingInRecord field => String.join ["record field ", field, " missing"]
  | .wrongKind field value wire => String.join ["field ", field, " cannot encode ", value.shown, " as ", wire.shown]
  | .doesNotFit field value width => String.join [field, " = ", toString value, " does not fit ", width.text]
  | .notSingle field value => String.join [field, " = ", value.text, " is not a finite f32"]
  | .outsideRange field value least greatest =>
    String.join [field, " = ", value.text, " outside ", least.text, "..=", greatest.text]
  | .notAscii field => String.join [field, " must be printable ASCII"]
  | .longText field size limit => String.join [field, " is ", toString size, " bytes, limit is ", toString limit]
  | .longMacroText field size => String.join ["macro ", field, " of ", toString size, " bytes is too long"]
  | .superSourceNotAddressable tag index version =>
    String.join [tag, " for super-source ", toString index.toNat, " needs protocol ", Version.v8_0.text,
      " or later, session is ", version.text]
  | .described message => message

end EncodingFault

namespace TransportFault

/-- the wording of a transport fault -/
def message : TransportFault → String
  | .alreadyStarted => "session already started"
  | .notLive phase => String.join ["session is ", phase.name, ", not live"]
  | .noSessionId => "no session id"
  | .ended reason => reason.text
  | .described message => message

end TransportFault

namespace StaleReference

/-- the thing a stale reference names -/
def message : StaleReference → String
  | .mixEffect block => String.join ["mix effect ", toString block.toNat]
  | .upstreamKeyer keyer block =>
    String.join ["upstream keyer ", toString keyer.toNat, " on mix effect ", toString block.toNat]
  | .downstreamKeyer keyer => String.join ["downstream keyer ", toString keyer.toNat]
  | .superSource index => String.join ["super source ", toString index.toNat]
  | .superSourceBox box index =>
    String.join ["box ", toString box.toNat, " of super source ", toString index.toNat]
  | .mediaPlayer player => String.join ["media player ", toString player.toNat]
  | .multiviewer index => String.join ["multiviewer ", toString index.toNat]
  | .described message => message

end StaleReference

namespace ConfigFault

/-- the wording of a configuration fault -/
def message : ConfigFault → String
  | .zeroRetransmitInterval => "retransmit_interval must be non-zero"
  | .zeroHelloInterval => "hello_interval must be non-zero"
  | .shortHandshakeTimeout => "handshake_timeout must be at least hello_interval"
  | .reorderWindowOutOfRange => "reorder_window must be between 1 and half the packet id space"
  | .zeroEventCapacity => "event_capacity must be non-zero"
  | .emptySegment path => String.join ["empty segment in state path ", Text.quoted path]
  | .described message => message

end ConfigFault

namespace TableFault

/-- the wording of a table fault -/
def message : TableFault → String
  | .outsideBody field => String.join ["field ", field, " lies outside its body"]
  | .zeroStride field => String.join ["records of field ", field, " have no size"]
  | .uncountable size => String.join ["position ", toString size, " cannot be counted"]

end TableFault

namespace Error

/-- the wording of an error -/
def message : Error → String
  | .io message => String.join ["IO error: ", message]
  | .transport fault => String.join ["Transport error: ", fault.message]
  | .handshakeTimeout => "Handshake timed out"
  | .keepaliveTimeout => "Keepalive timed out"
  | .disconnected => "Session disconnected"
  | .framing fault => String.join ["Framing error: ", fault.message]
  | .encoding fault => String.join ["Encoding error: ", fault.message]
  | .stale reference => String.join ["Stale reference: ", reference.message]
  | .config fault => String.join ["Configuration error: ", fault.message]
  | .table fault => String.join ["Table error: ", fault.message]

/-- whether the error ends the session it occurred on -/
def isFatal : Error → Bool
  | .io _ | .transport _ | .handshakeTimeout | .keepaliveTimeout | .disconnected => true
  | .framing _ | .encoding _ | .stale _ | .config _ | .table _ => false

end Error

namespace EndReason

/-- the error reported to those who wait on the session -/
def toError : EndReason → Error
  | .handshakeTimeout => .handshakeTimeout
  | .keepaliveTimeout => .keepaliveTimeout
  | .closed => .disconnected
  | reason => .transport (.ended reason)

end EndReason

end VisionMixer
