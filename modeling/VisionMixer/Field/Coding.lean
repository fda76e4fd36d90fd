/-
Bodies to values and back, by a field table.

Decoding reads every field of the table from its offset; a body that ends before a field leaves it out if it is optional
and is refused otherwise. Encoding refuses values that the table has no field for, checks every value against its
encoding, and writes them over a body of zeros; a missing optional value shortens the body to its least size. Scaled
fields go through `Arithmetic`, everything else is exact.
-/
import VisionMixer.Field.Values
import VisionMixer.Text.Utf8

namespace VisionMixer

/-- the first `count` pieces of a run, `size` bytes each -/
def Bytes.chunks (size : Nat) : Nat → Bytes → List Bytes
  | 0, _ => []
  | count + 1, b => b.take size :: chunks size count (b.drop size)

/-- the text before the first zero byte -/
def Bytes.paddedText (b : Bytes) : String := Utf8.decode (b.takeWhile (· ≠ 0))

mutual

/-- the value of an encoding at an offset that leaves room for it -/
def Wire.decode (a : Arithmetic) (name : String) (offset : Nat) (body : Bytes) : Wire → Except Error Value
  | .int w => .ok (.int (w.read (body.drop offset)))
  | .flags w => .ok (.int (w.read (body.drop offset)))
  | .bool => .ok (.bool ((body.drop offset).head?.getD 0 ≠ 0))
  | .single => .ok (.float (Number.ofBinary32 ((body.drop offset).take 4)))
  | .scaled w scale _ _ => .ok (.float (a.div (Number.ofInt (w.read (body.drop offset))) scale))
  | .ascii n => .ok (.text (Bytes.paddedText ((body.drop offset).take n)))
  | .records stride fields =>
    let count := (Width.u16.read (body.drop offset)).toNat
    let needed := offset + 2 + count * stride
    if body.length < needed then .error (.framing (.shortRecords count name needed body.length))
    else if stride = 0 then .error (.table (.zeroStride name))
    else do
      let items ← (Bytes.chunks stride count (body.drop (offset + 2))).mapM fun chunk => decodeFields a chunk fields
      return .records items

/-- the value of one field, none if it is left out -/
def Wire.decodeField (a : Arithmetic) (body : Bytes) : FieldOf Wire → Except Error FieldValues
  | ⟨name, offset, wire, optional⟩ =>
    if body.length < offset + wire.size then
      if optional then .ok [] else .error (.framing (.shortBody body.length name (offset + wire.size)))
    else do return [(name, ← Wire.decode a name offset body wire)]

/-- the values of the fields of a table, in its order -/
def Wire.decodeFields (a : Arithmetic) (body : Bytes) : List (FieldOf Wire) → Except Error FieldValues
  | [] => .ok []
  | f :: rest => do
    let first ← Wire.decodeField a body f
    return first ++ (← Wire.decodeFields a body rest)

end

/-- the values of a body -/
def Layout.decode (a : Arithmetic) (l : Layout) (body : Bytes) : Except Error FieldValues :=
  Wire.decodeFields a body l.fields

/-- how far past its bounds a scaled value may lie -/
def Wire.tolerance : Number := .rational (1 / 1000000000)

/-- an integer in a width -/
def Width.encode (w : Width) (field : String) (n : Int) : Except Error Bytes :=
  if n < w.low ∨ w.high < n then .error (.encoding (.doesNotFit field n w)) else .ok (w.write n)

/-- a value between the bounds of a scaled field, the tolerance included -/
def Wire.inRange (a : Arithmetic) (least greatest x : Number) : Bool :=
  x.isFinite && !x.lt (a.sub least Wire.tolerance) && !(a.add greatest Wire.tolerance).lt x

/-- a text that a padded field can hold -/
def Wire.isPlain (s : String) : Bool := s.toList.all fun c => c.toNat < 128 && c ≠ '\x00'

/-- the bytes of a value in the encoding of its field; text comes without its padding -/
def Wire.encode (a : Arithmetic) (name : String) : Wire → Value → Except Error Bytes
  | .int w, .int n => w.encode name n
  | .flags w, .int n => w.encode name n
  | .bool, .bool b => .ok [if b then 1 else 0]
  | .single, .float x =>
    if x.isFinite ∧ !(Number.rational Format.binary32.greatest).lt (if x.isNegative then -x else x) then
      .ok x.toBinary32
    else .error (.encoding (.notSingle name x))
  | .scaled w scale least greatest, .float x =>
    if Wire.inRange a least greatest x then w.encode name (a.mul x scale).toInt64
    else .error (.encoding (.outsideRange name x least greatest))
  | .ascii size, .text s =>
    if !Wire.isPlain s then .error (.encoding (.notAscii name))
    else if size < s.utf8ByteSize then .error (.encoding (.longText name s.utf8ByteSize size))
    else .ok (Utf8.encode s)
  | wire, v => .error (.encoding (.wrongKind name v wire))

/-- a body with the value of a field written over it -/
def FieldOf.write (a : Arithmetic) (f : Field) (v : Value) (body : Bytes) : Except Error Bytes :=
  if body.length < f.offset then .error (.table (.outsideBody f.name))
  else do
    let patch ← f.wire.encode a f.name v
    match body.patch? f.offset patch with
    | some body => .ok body
    | none => .error (.table (.outsideBody f.name))

/-- every value belongs to a field of the table -/
def FieldValues.checkCarried (fields : List Field) (values : FieldValues) : Except Error Unit :=
  match values.find? fun v => !fields.any (·.name = v.1) with
  | some v => .error (.encoding (.fieldNotCarried v.1))
  | none => .ok ()

/-- a record with the value of one of its fields written over it -/
def Layout.encodeInRecord (a : Arithmetic) (item : FieldValues) (record : Bytes) (f : Field) : Except Error Bytes :=
  match item.get? f.name with
  | some v => f.write a v record
  | none => .error (.encoding (.missingInRecord f.name))

/-- one record of a list -/
def Layout.encodeRecord (a : Arithmetic) (stride : Nat) (fields : List Field) (item : FieldValues) :
    Except Error Bytes := do
  item.checkCarried fields
  fields.foldlM (Layout.encodeInRecord a item) (Bytes.zeros stride)

/-- a body on its way to the wire: the fixed part, the records after it, and whether an optional value was missing -/
structure Layout.Draft where
  body : Bytes
  tail : Bytes
  short : Bool

/-- a draft with one more field -/
def Layout.encodeField (a : Arithmetic) (values : FieldValues) (d : Layout.Draft) (f : Field) :
    Except Error Layout.Draft :=
  match values.get? f.name with
  | none => if f.optional then .ok { d with short := true } else .error (.encoding (.requiredField f.name))
  | some v =>
    match f.wire with
    | .records stride fields =>
      match v with
      | .records items =>
        if 65535 < items.length then .error (.encoding (.tooManyRecords f.name))
        else
          match d.body.patch? f.offset (Width.u16.write items.length) with
          | none => .error (.table (.outsideBody f.name))
          | some body => do
            let records ← items.mapM (Layout.encodeRecord a stride fields)
            return { d with body, tail := d.tail ++ records.flatten }
      | _ => .error (.encoding (.recordsExpected f.name))
    | _ => do return { d with body := ← f.write a v d.body }

/-- the body of values -/
def Layout.encode (a : Arithmetic) (l : Layout) (values : FieldValues) : Except Error Bytes := do
  values.checkCarried l.fields
  let d ← l.fields.foldlM (Layout.encodeField a values) ⟨Bytes.zeros l.size, [], false⟩
  return (if d.short then d.body.take l.minSize else d.body) ++ d.tail

/-- a layout and the version from which it holds, until the next edition's -/
structure Edition where
  since : Version
  layout : Layout

/-- the layouts of a body over time, oldest first -/
abbrev Editions := List Edition

/-- the layout in effect for a version; one older than every edition uses the oldest -/
def Editions.resolve (editions : Editions) (v : Version) : Except Error Layout :=
  match editions with
  | [] => .error (.framing .noTables)
  | oldest :: _ => .ok ((editions.reverse.find? (·.since ≤ v)).getD oldest).layout

end VisionMixer
