/-
Reading values of a body by name and kind.

A value that is missing, of another kind, or outside the width asked for is a framing fault; the readers whose names end
in `?` take a missing value as none, but still refuse one of another kind.
-/
import VisionMixer.Error

namespace VisionMixer.FieldValues

/-- the value of a name, which must be there -/
def require (values : FieldValues) (name : String) : Except Error Value :=
  match values.get? name with
  | some v => .ok v
  | none => .error (.framing (.missingField name))

/-- an integer between two bounds -/
def getInt (values : FieldValues) (name : String) (low high : Int) : Except Error Int := do
  match ← values.require name with
  | .int n => if low ≤ n ∧ n ≤ high then .ok n else .error (.framing (.outOfRange name n))
  | v => .error (.framing (.wrongKind name "an integer" v))

/-- an integer of a width -/
def getWidth (values : FieldValues) (name : String) (w : Width) : Except Error Int := values.getInt name w.low w.high

/-- an unsigned byte -/
def getU8 (values : FieldValues) (name : String) : Except Error UInt8 := do
  return UInt8.ofNat (← values.getWidth name .u8).toNat

/-- an unsigned 16-bit word -/
def getU16 (values : FieldValues) (name : String) : Except Error UInt16 := do
  return UInt16.ofNat (← values.getWidth name .u16).toNat

/-- an unsigned 32-bit word -/
def getU32 (values : FieldValues) (name : String) : Except Error UInt32 := do
  return UInt32.ofNat (← values.getWidth name .u32).toNat

/-- a signed 16-bit word -/
def getI16 (values : FieldValues) (name : String) : Except Error Int16 := do
  return Int16.ofInt (← values.getWidth name .i16)

/-- a truth value -/
def getBool (values : FieldValues) (name : String) : Except Error Bool := do
  match ← values.require name with
  | .bool b => .ok b
  | v => .error (.framing (.wrongKind name "a bool" v))

/-- a number -/
def getFloat (values : FieldValues) (name : String) : Except Error Number := do
  match ← values.require name with
  | .float x => .ok x
  | v => .error (.framing (.wrongKind name "a float" v))

/-- a text -/
def getText (values : FieldValues) (name : String) : Except Error String := do
  match ← values.require name with
  | .text s => .ok s
  | v => .error (.framing (.wrongKind name "text" v))

/-- a list of records -/
def getRecords (values : FieldValues) (name : String) : Except Error (List FieldValues) := do
  match ← values.require name with
  | .records items => .ok items
  | v => .error (.framing (.wrongKind name "a record list" v))

/-- what a reader finds, or none for a missing value -/
def ifPresent {α : Type} (values : FieldValues) (name : String) (read : Except Error α) : Except Error (Option α) :=
  match values.get? name with
  | some _ => read.map some
  | none => .ok none

/-- an unsigned byte, if present -/
def getU8? (values : FieldValues) (name : String) : Except Error (Option UInt8) :=
  values.ifPresent name (values.getU8 name)

/-- a truth value, if present -/
def getBool? (values : FieldValues) (name : String) : Except Error (Option Bool) :=
  values.ifPresent name (values.getBool name)

/-- a number, if present -/
def getFloat? (values : FieldValues) (name : String) : Except Error (Option Number) :=
  values.ifPresent name (values.getFloat name)

end VisionMixer.FieldValues
