/-
Field tables: how the body of a command is laid out.

A `Layout` lists named fields at fixed offsets, each with a `Wire` encoding; a counted list of sub-records may stand
last. A `Value` is what a field holds once read, and `FieldValues` are the values of one body by name, in the order in
which they were written down. The first value of a name is the one that counts.
-/
import VisionMixer.Number.Decimal
import VisionMixer.Text.Quoted

namespace VisionMixer

/-- an integer width on the wire -/
inductive Width where
  | u8
  | u16
  | i16
  | u32
  | i32
  deriving DecidableEq

namespace Width

/-- bytes of the width -/
def size : Width → Nat
  | .u8 => 1
  | .u16 | .i16 => 2
  | .u32 | .i32 => 4

/-- the least integer of the width -/
def low : Width → Int
  | .u8 | .u16 | .u32 => 0
  | .i16 => -0x8000
  | .i32 => -0x80000000

/-- the greatest integer of the width -/
def high : Width → Int
  | .u8 => 0xFF
  | .u16 => 0xFFFF
  | .i16 => 0x7FFF
  | .u32 => 0xFFFFFFFF
  | .i32 => 0x7FFFFFFF

/-- the integer at the front of a run, in two's complement if the width is signed -/
def read (w : Width) (b : Bytes) : Int :=
  let n : Int := Bytes.toNat (b.take w.size)
  if n ≤ w.high then n else n - Bytes.runs w.size

/-- the bytes of an integer, in two's complement if it is negative -/
def write (w : Width) (n : Int) : Bytes := Bytes.ofNat w.size (n % Bytes.runs w.size).toNat

/-- the name of the width in messages -/
def text : Width → String
  | .u8 => "U8"
  | .u16 => "U16"
  | .i16 => "I16"
  | .u32 => "U32"
  | .i32 => "I32"

end Width

/-- a named field at a byte offset, over some kind of encoding -/
structure FieldOf (ω : Type) where
  name : String
  offset : Nat
  wire : ω
  /-- a trailing field that a body may leave out -/
  optional : Bool := false
  deriving Inhabited

/-- the encoding of a field -/
inductive Wire where
  /-- a plain integer -/
  | int (width : Width)
  /-- one byte, true unless zero -/
  | bool
  /-- a single-precision number -/
  | single
  /-- fixed point: the integer nearest to `scale` times a value between `least` and `greatest` -/
  | scaled (width : Width) (scale least greatest : Number)
  /-- text of a fixed size, padded with zeros -/
  | ascii (size : Nat)
  /-- a bit mask -/
  | flags (width : Width)
  /-- a 16-bit count at the offset, and that many records of `stride` bytes at the end of the body -/
  | records (stride : Nat) (fields : List (FieldOf Wire))
  deriving Inhabited

/-- a named field -/
abbrev Field := FieldOf Wire

namespace Wire

/-- bytes a field takes at its offset -/
def size : Wire → Nat
  | .int w | .flags w | .scaled w .. => w.size
  | .bool => 1
  | .single => 4
  | .ascii n => n
  | .records .. => 2

end Wire

/-- the first byte after a field -/
def FieldOf.stop (f : Field) : Nat := f.offset + f.wire.size

/-- how one body is laid out -/
structure Layout where
  /-- bytes of the fixed part, padding included -/
  size : Nat
  fields : List Field

/-- bytes up to the end of the last field that must be there -/
def Layout.minSize (l : Layout) : Nat := ((l.fields.filter (!·.optional)).map FieldOf.stop).foldl max 0

/-- what a field holds -/
inductive Value where
  | int (n : Int)
  | float (x : Number)
  | bool (b : Bool)
  | text (s : String)
  | records (items : List (List (String × Value)))

namespace Value

/-- an unsigned byte -/
def byte (b : UInt8) : Value := .int b.toNat

/-- an unsigned 16-bit word -/
def word (w : UInt16) : Value := .int w.toNat

end Value

/-- the values of one body by name, in the order in which they were written down -/
abbrev FieldValues := List (String × Value)

namespace FieldValues

/-- the value of a name -/
def get? (values : FieldValues) (name : String) : Option Value := (values.find? (·.1 = name)).map (·.2)

/-- the values but those of a name -/
def without (values : FieldValues) (name : String) : FieldValues := values.filter (·.1 ≠ name)

/-- a named value, unless it is missing -/
def maybe (name : String) (v : Option Value) : FieldValues := (v.map fun v => (name, v)).toList

end FieldValues

end VisionMixer
