/-
Values and encodings as messages show them: the kind, then what it holds in brackets or braces, every part named.
-/
import VisionMixer.Field.Basic

namespace VisionMixer

/-- a kind with one thing in brackets -/
def bracketed (kind inside : String) : String := kind ++ "(" ++ inside ++ ")"

/-- a kind with named parts in braces -/
def braced (kind : String) (parts : List (String × String)) : String :=
  kind ++ " \x7b " ++ ", ".intercalate (parts.map fun p => p.1 ++ ": " ++ p.2) ++ " \x7d"

/-- things in square brackets -/
def listed (items : List String) : String := "[" ++ ", ".intercalate items ++ "]"

/-- a truth value -/
def truthText (b : Bool) : String := if b then "true" else "false"

mutual

/-- a value -/
def Value.shown : Value → String
  | .int n => bracketed "Int" (toString n)
  | .float x => bracketed "Float" x.shown
  | .bool b => bracketed "Bool" (truthText b)
  | .text s => bracketed "Text" (Text.quoted s)
  | .records items => bracketed "Records" (listed (Value.shownRecords items))

/-- each record of a list -/
def Value.shownRecords : List (List (String × Value)) → List String
  | [] => []
  | r :: rest => braced "FieldValues" [("values", listed (Value.shownFields r))] :: Value.shownRecords rest

/-- each named value of a record -/
def Value.shownFields : List (String × Value) → List String
  | [] => []
  | f :: rest => Value.shownField f :: Value.shownFields rest

/-- one named value -/
def Value.shownField : String × Value → String
  | (name, v) => bracketed "" (Text.quoted name ++ ", " ++ v.shown)

end

mutual

/-- an encoding -/
def Wire.shown : Wire → String
  | .int w => bracketed "Int" w.text
  | .bool => "Bool"
  | .single => "F32"
  | .scaled w scale least greatest =>
    braced "Scaled" [("width", w.text), ("scale", scale.shown), ("min", least.shown), ("max", greatest.shown)]
  | .ascii n => bracketed "Ascii" (toString n)
  | .flags w => bracketed "Flags" w.text
  | .records stride fields =>
    braced "Records" [("stride", toString stride), ("fields", listed (Wire.shownFields fields))]

/-- each field of a table -/
def Wire.shownFields : List (FieldOf Wire) → List String
  | [] => []
  | f :: rest => Wire.shownField f :: Wire.shownFields rest

/-- one field of a table -/
def Wire.shownField : FieldOf Wire → String
  | ⟨name, offset, wire, optional⟩ =>
    braced "Field" [("name", Text.quoted name), ("offset", toString offset), ("wire", wire.shown),
      ("optional", truthText optional)]

end

end VisionMixer
