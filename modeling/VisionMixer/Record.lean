/-
Command records inside a payload.

A record is a 16-bit length that counts its own eight header bytes, a reserved word, a four-byte tag and a body.
`Record.next` takes one record off the front of a run; it waits when the run is too short and consumes nothing when the
length is malformed. `splitAll` is the whole run of such steps, and `split` the strict reading of a complete payload.
-/
import VisionMixer.Error
import VisionMixer.Text.Utf8

namespace VisionMixer

/-- the four bytes that name a command -/
structure Tag where
  a : UInt8
  b : UInt8
  c : UInt8
  d : UInt8
  deriving DecidableEq

namespace Tag

/-- the bytes of a tag -/
def bytes (t : Tag) : Bytes := [t.a, t.b, t.c, t.d]

/-- the first four bytes of a run, zero where it is shorter -/
def ofBytes (b : Bytes) : Tag := ⟨b[0]?.getD 0, b[1]?.getD 0, b[2]?.getD 0, b[3]?.getD 0⟩

/-- the tag of four ASCII characters -/
def ofChars (a b c d : Char) : Tag := ⟨a.toUInt8, b.toUInt8, c.toUInt8, d.toUInt8⟩

/-- a tag in words, with U+FFFD for what is no text -/
def text (t : Tag) : String := Utf8.decode t.bytes

end Tag

/-- one command, its body still encoded -/
structure Record where
  tag : Tag
  body : Bytes
  deriving DecidableEq

namespace Record

/-- bytes before the body -/
def headerSize : Nat := 8

/-- bytes of the whole record -/
def size (r : Record) : Nat := headerSize + r.body.length

/-- what a run of bytes starts with -/
inductive Front where
  /-- a record, and the bytes after it -/
  | record (r : Record) (rest : Bytes)
  /-- too few bytes for a record -/
  | wait
  | malformed (fault : FramingFault)

/-- the front of a run -/
def next (b : Bytes) : Front :=
  if b.length < headerSize then .wait
  else
    let length := (Bytes.toWord16 b).toNat
    if length < headerSize then .malformed (.shortRecord length)
    else if b.length < length then .wait
    else .record ⟨Tag.ofBytes (b.drop 4), (b.take length).drop headerSize⟩ (b.drop length)

/-- why reading stopped, and the bytes left -/
structure Stop where
  fault : Option FramingFault
  rest : Bytes

/-- all records at the front of a run, at most `fuel` of them -/
def splitUpTo : Nat → Bytes → List Record × Stop
  | 0, b => ([], ⟨none, b⟩)
  | fuel + 1, b =>
    match next b with
    | .wait => ([], ⟨none, b⟩)
    | .malformed fault => ([], ⟨some fault, b⟩)
    | .record r rest =>
      let (records, stop) := splitUpTo fuel rest
      (r :: records, stop)

/-- all records at the front of a run; a record takes at least one byte, so the length of the run is enough -/
def splitAll (b : Bytes) : List Record × Stop := splitUpTo b.length b

/-- the records of a complete payload -/
def split (payload : Bytes) : Except Error (List Record) :=
  let (records, stop) := splitAll payload
  match stop.fault with
  | some fault => .error (.framing fault)
  | none => if stop.rest = [] then .ok records else .error (.framing (.trailingBytes stop.rest.length))

/-- the bytes of a record -/
def encode (r : Record) : Except Error Bytes :=
  if 65535 < r.size then .error (.encoding (.oversizedRecord r.tag.text r.body.length))
  else .ok (Bytes.ofNat 2 r.size ++ [0, 0] ++ r.tag.bytes ++ r.body)

/-- the payload of records -/
def join (records : List Record) : Except Error Bytes := do return (← records.mapM encode).flatten

/-- a record as messages show it: its tag and the size of its body -/
def shown (kind : String) (r : Record) : String :=
  braced kind [("name", Text.quoted r.tag.text), ("body_len", toString r.body.length)]

end Record

end VisionMixer
