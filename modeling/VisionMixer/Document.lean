/-
Documents: the tree-shaped values that snapshots are stored as.

A document is null, a truth value, an integer, any other number, a text, a list, or an object of named members. `Stored
α` is a type with a document form. A record is stored as an object of its members; it is read from an object, whatever
the order of the members and with unknown ones ignored, or from a list that has all of its members in order. A missing
member is none where the member is optional and a refusal otherwise. A map is stored as an object whose names are the
decimal ids.
-/
import VisionMixer.IdMap
import VisionMixer.Number.Rounding
import VisionMixer.Text.Digits

namespace VisionMixer

/-- a tree-shaped value -/
inductive Document where
  | null
  | bool (b : Bool)
  | integer (n : Int)
  | number (x : Number)
  | text (s : String)
  | list (items : List Document)
  | object (members : List (String × Document))
  deriving Inhabited

namespace Document

/-- the member of a name -/
def member? (members : List (String × Document)) (name : String) : Option Document :=
  (members.find? (·.1 = name)).map (·.2)

/-- a record of members with these names -/
def ofRecord (names : List String) (members : List Document) : Document := .object (names.zip members)

/-- the members of a record by their names in order, each none if it is missing; none for what is no record -/
def record? (names : List String) : Document → Option (List (Option Document))
  | .object members => some (names.map (member? members))
  | .list items => if items.length = names.length then some (items.map some) else none
  | _ => none

/-- the name and the content of one alternative among several: a text, or a record of one member -/
def alternative? : Document → Option (String × Option Document)
  | .text name => some (name, none)
  | .object [(name, content)] => some (name, some content)
  | _ => none

/-- the name of an alternative without content -/
def plainAlternative? (d : Document) : Option String :=
  match d.alternative? with
  | some (name, none) => some name
  | some (name, some .null) => some name
  | _ => none

end Document

/-- a type with a document form -/
class Stored (α : Type) where
  store : α → Document
  load? : Document → Option α

export Stored (store load?)

namespace Stored

variable {α β : Type}

/-- a member that must be there -/
def required [Stored α] (d : Option Document) : Option α := d.bind load?

instance : Stored Bool where
  store := .bool
  load?
    | .bool b => some b
    | _ => none

instance : Stored String where
  store := .text
  load?
    | .text s => some s
    | _ => none

/-- an integer within bounds -/
def loadNat? (bound : Nat) : Document → Option Nat
  | .integer n => if 0 ≤ n ∧ n < bound then some n.toNat else none
  | _ => none

instance : Stored UInt8 where
  store n := .integer n.toNat
  load? d := (loadNat? UInt8.size d).map UInt8.ofNat

instance : Stored UInt16 where
  store n := .integer n.toNat
  load? d := (loadNat? UInt16.size d).map UInt16.ofNat

instance : Stored UInt32 where
  store n := .integer n.toNat
  load? d := (loadNat? UInt32.size d).map UInt32.ofNat

/-- only finite numbers are kept; an integer is also a number, as near as a double comes -/
instance : Stored Number where
  store x := if x.isFinite then .number x else .null
  load?
    | .number x => some x
    | .integer n => some (Format.binary64.nearest n)
    | _ => none

instance [Stored α] : Stored (Option α) where
  store
    | none => .null
    | some a => store a
  load?
    | .null => some none
    | d => some <$> load? d

/-- a member that may be missing -/
def ifPresent [Stored α] : Option Document → Option (Option α)
  | none => some none
  | some d => load? d

instance [Stored α] : Stored (List α) where
  store items := .list (items.map store)
  load?
    | .list items => items.mapM load?
    | _ => none

/-- the id a decimal name stands for -/
def idOfName? {κ : Type} [Id κ] (name : String) : Option κ := (Text.ofCanonical? name.toList).bind Id.ofNat?

/-- the decimal name of an id -/
def nameOfId {κ : Type} [Id κ] (k : κ) : String := String.ofList (Text.digits (Id.toNat k))

/-- an entry of a map from a named member -/
def loadEntry? {κ : Type} [Id κ] [Stored α] (m : String × Document) : Option (κ × α) := do
  return (← idOfName? m.1, ← load? m.2)

instance {κ : Type} [Id κ] [Stored α] : Stored (IdMap κ α) where
  store m := .object (m.entries.map fun e => (nameOfId e.1, store e.2))
  load?
    | .object members => (members.mapM loadEntry?).map IdMap.ofList
    | _ => none

end Stored

end VisionMixer
