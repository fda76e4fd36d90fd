/-
Natural numbers in decimal.

`digits` writes a number without superfluous zeros. `ofDigits?` reads any run of digits, and `ofCanonical?` only what
`digits` writes.
-/
namespace VisionMixer.Text

/-- the decimal digits of a number -/
def digits (n : Nat) : List Char := Nat.toDigits 10 n

/-- the number that a run of digits spells, none for an empty run or another character -/
def ofDigits? (cs : List Char) : Option Nat :=
  if cs ≠ [] ∧ cs.all Char.isDigit then some (cs.foldl (fun n c => n * 10 + (c.toNat - '0'.toNat)) 0) else none

/-- the number that a run of digits spells without superfluous zeros -/
def ofCanonical? (cs : List Char) : Option Nat :=
  match cs with
  | '0' :: _ :: _ => none
  | _ => ofDigits? cs

end VisionMixer.Text
