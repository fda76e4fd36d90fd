/-
Bodies read and written access by access.

This is what `Layout.decode` and `Layout.encode` do with nothing taken for granted. Every run is cut at positions that
have to lie inside it, every integer asks for its bytes, and records are cut into pieces of a size that must not be zero.
Positions are counted, and buffers are measured, below a limit, as a machine that counts in words has one. An access that
is refused is a fault of the table. Writing over a body is checked as it is (`Bytes.patch?`), so that a writer only adds
the sizes of its buffers.
-/
import VisionMixer.Field.Coding

namespace VisionMixer

/-! ### Accesses -/

namespace Bytes

/-- the bytes from a position on -/
def from? (b : Bytes) (i : Nat) : Option Bytes := if i ≤ b.length then some (b.drop i) else none

/-- the bytes before a position -/
def before? (b : Bytes) (i : Nat) : Option Bytes := if i ≤ b.length then some (b.take i) else none

/-- the bytes between two positions -/
def between? (b : Bytes) (i j : Nat) : Option Bytes := if i ≤ j ∧ j ≤ b.length then some ((b.take j).drop i) else none

/-- as many pieces of a size as there are; the size must not be zero -/
def pieces? (b : Bytes) (size : Nat) : Option (List Bytes) :=
  if size = 0 then none else some (chunks size (b.length / size) b)

end Bytes

/-- the integer at the front of a run that has all its bytes -/
def Width.read? (w : Width) (b : Bytes) : Option Int := if w.size ≤ b.length then some (w.read b) else none

/-- a position, or the size of a buffer, that is below a limit -/
def counted (limit n : Nat) : Except Error Nat := if n < limit then .ok n else .error (.table (.uncountable n))

/-- an access for a field, which is refused if it has no result -/
def granted {α : Type} (name : String) : Option α → Except Error α
  | some x => .ok x
  | none => .error (.table (.outsideBody name))

/-! ### Reading -/

mutual

/-- the value of an encoding at an offset of a body, given what comes from the offset on -/
def Wire.decodeChecked (limit : Nat) (a : Arithmetic) (name : String) (offset : Nat) (body front : Bytes) :
    Wire → Except Error Value
  | .int w => do return .int (← granted name (w.read? front))
  | .flags w => do return .int (← granted name (w.read? front))
  | .bool => do return .bool ((← granted name front.head?) ≠ 0)
  | .single => do return .float (Number.ofBinary32 (← granted name (front.before? 4)))
  | .scaled w scale _ _ => do return .float (a.div (Number.ofInt (← granted name (w.read? front))) scale)
  | .ascii n => do
    let padded ← granted name (front.before? n)
    let text ← granted name (padded.before? ((padded.findIdx? (· = 0)).getD n))
    return .text (Utf8.decode text)
  | .records stride fields => do
    let count ← granted name (Width.u16.read? front)
    let start ← counted limit (offset + 2)
    let needed ← counted limit (start + count.toNat * stride)
    if body.length < needed then .error (.framing (.shortRecords count.toNat name needed body.length))
    else do
      let listed ← granted name (body.between? start needed)
      match listed.pieces? stride with
      | none => .error (.table (.zeroStride name))
      | some chunks => do
        let items ← chunks.mapM fun chunk => Wire.decodeFieldsChecked limit a chunk fields
        return .records items

/-- the value of one field, none if it is left out -/
def Wire.decodeFieldChecked (limit : Nat) (a : Arithmetic) (body : Bytes) : FieldOf Wire → Except Error FieldValues
  | ⟨name, offset, wire, optional⟩ => do
    let stop ← counted limit (offset + wire.size)
    if body.length < stop then
      if optional then .ok [] else .error (.framing (.shortBody body.length name stop))
    else do
      let front ← granted name (body.from? offset)
      return [(name, ← Wire.decodeChecked limit a name offset body front wire)]

/-- the values of the fields of a table, in its order -/
def Wire.decodeFieldsChecked (limit : Nat) (a : Arithmetic) (body : Bytes) : List (FieldOf Wire) → Except Error FieldValues
  | [] => .ok []
  | f :: rest => do
    let first ← Wire.decodeFieldChecked limit a body f
    return first ++ (← Wire.decodeFieldsChecked limit a body rest)

end

namespace Layout

/-- the values of a body -/
def decodeChecked (limit : Nat) (a : Arithmetic) (l : Layout) (body : Bytes) : Except Error FieldValues :=
  Wire.decodeFieldsChecked limit a body l.fields

/-! ### Writing -/

/-- the records so far and one more, in a buffer of its own until it is whole -/
def appendRecord (limit : Nat) (a : Arithmetic) (stride : Nat) (fields : List Field) (tail : Bytes) (item : FieldValues) :
    Except Error Bytes := do
  item.checkCarried fields
  let size ← counted limit stride
  let record ← fields.foldlM (encodeInRecord a item) (Bytes.zeros size)
  let _ ← counted limit (tail.length + record.length)
  return tail ++ record

/-- a draft with one more field -/
def encodeFieldChecked (limit : Nat) (a : Arithmetic) (values : FieldValues) (d : Draft) (f : Field) :
    Except Error Draft :=
  match f.wire, values.get? f.name with
  | .records stride fields, some (.records items) =>
    if 65535 < items.length then .error (.encoding (.tooManyRecords f.name))
    else
      match d.body.patch? f.offset (Width.u16.write items.length) with
      | none => .error (.table (.outsideBody f.name))
      | some body => do
        let tail ← items.foldlM (appendRecord limit a stride fields) d.tail
        return { d with body, tail }
  | _, _ => encodeField a values d f

/-- the body of values -/
def encodeChecked (limit : Nat) (a : Arithmetic) (l : Layout) (values : FieldValues) : Except Error Bytes := do
  values.checkCarried l.fields
  let size ← counted limit l.size
  let d ← l.fields.foldlM (encodeFieldChecked limit a values) ⟨Bytes.zeros size, [], false⟩
  -- the ends of the required fields are counted where a body is cut, and only there
  let body ← if d.short then d.body.take <$> counted limit l.minSize else .ok d.body
  let _ ← counted limit (body.length + d.tail.length)
  return body ++ d.tail

end Layout

end VisionMixer
