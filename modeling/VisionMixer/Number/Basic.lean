/-
Measured quantities and their exact arithmetic.

A `Number` is a rational, zero approached from below, an infinity, or not a number. The operations here are exact on
rationals and follow the usual rules at the edges: a zero keeps the sign of what it came from, a quotient by zero is
infinite, and an operation without an answer is `nan`. `==` compares as numbers do: the two zeros are equal and `nan`
differs from everything, itself included; `=` tells all of them apart.
-/
namespace VisionMixer

/-- a measured quantity -/
inductive Number where
  | nan
  | infinity (negative : Bool)
  | negativeZero
  | rational (q : Rat)
  deriving DecidableEq

namespace Number

instance : Inhabited Number := ⟨.rational 0⟩

instance (n : Nat) : OfNat Number n := ⟨.rational n⟩

/-- an integer as a number -/
def ofInt (n : Int) : Number := .rational n

/-- the zero of a sign -/
def zero (negative : Bool) : Number := if negative then .negativeZero else .rational 0

/-- a rational with a sign for zero -/
def signed (negative : Bool) (q : Rat) : Number := if q = 0 then zero negative else .rational q

/-- the rational a finite number stands for -/
def toRat? : Number → Option Rat
  | .nan => none
  | .infinity _ => none
  | .negativeZero => some 0
  | .rational q => some q

/-- neither infinite nor `nan` -/
def isFinite (x : Number) : Bool := x.toRat?.isSome

/-- the sign, which a zero has too -/
def isNegative : Number → Bool
  | .nan => false
  | .infinity negative => negative
  | .negativeZero => true
  | .rational q => q < 0

/-- the number of opposite sign -/
def neg : Number → Number
  | .nan => .nan
  | .infinity negative => .infinity (!negative)
  | .negativeZero => .rational 0
  | .rational q => if q = 0 then .negativeZero else .rational (-q)

instance : Neg Number := ⟨neg⟩

/-- strictly less, as numbers compare -/
def lt : Number → Number → Bool
  | .nan, _ => false
  | _, .nan => false
  | .infinity a, .infinity b => a && !b
  | .infinity a, _ => a
  | _, .infinity b => !b
  | x, y => x.toRat?.getD 0 < y.toRat?.getD 0

/-- equal, as numbers compare -/
def eq : Number → Number → Bool
  | .nan, _ => false
  | _, .nan => false
  | .infinity a, .infinity b => a == b
  | .infinity _, _ => false
  | _, .infinity _ => false
  | x, y => x.toRat? == y.toRat?

instance : BEq Number := ⟨eq⟩

/-- the exact sum -/
def add : Number → Number → Number
  | .nan, _ => .nan
  | _, .nan => .nan
  | .infinity a, .infinity b => if a = b then .infinity a else .nan
  | .infinity a, _ => .infinity a
  | _, .infinity b => .infinity b
  | .negativeZero, y => y
  | x, .negativeZero => x
  | .rational p, .rational q => .rational (p + q)

/-- the exact difference -/
def sub (x y : Number) : Number := x.add (-y)

/-- the exact product -/
def mul (x y : Number) : Number :=
  let negative := x.isNegative != y.isNegative
  match x.toRat?, y.toRat? with
  | some p, some q => signed negative (p * q)
  | some p, none => if y = .nan ∨ p = 0 then .nan else .infinity negative
  | none, some q => if x = .nan ∨ q = 0 then .nan else .infinity negative
  | none, none => if x = .nan ∨ y = .nan then .nan else .infinity negative

/-- the exact quotient -/
def div (x y : Number) : Number :=
  let negative := x.isNegative != y.isNegative
  match x.toRat?, y.toRat? with
  | some p, some q => if q = 0 then (if p = 0 then .nan else .infinity negative) else signed negative (p / q)
  | some _, none => if y = .nan then .nan else zero negative
  | none, some _ => if x = .nan then .nan else .infinity negative
  | none, none => .nan

/-- the nearest integer, an exact half going away from zero -/
def roundAway (q : Rat) : Int := if q < 0 then -((-q + 1 / 2).floor) else (q + 1 / 2).floor

/-- the nearest integer, an exact half going away from zero, held inside 64 signed bits; `nan` counts as zero -/
def toInt64 : Number → Int
  | .nan => 0
  | .infinity negative => if negative then -0x8000000000000000 else 0x7FFFFFFFFFFFFFFF
  | .negativeZero => 0
  | .rational q => max (-0x8000000000000000) (min 0x7FFFFFFFFFFFFFFF (roundAway q))

end Number

end VisionMixer
