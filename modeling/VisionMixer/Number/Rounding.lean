/-
Binary floating formats, and arithmetic that rounds to one.

A format counts in units of a power of two: a number is a significand below `2 ^ precision` times a unit, the unit as
small as the significand allows but never below the least one. `Format.parts` finds both for a rational, to nearest with
a half going to the even significand, so the value of the result is the format's nearest number. `Arithmetic` says how
results are kept: exactly, or rounded to `binary64` after every operation.
-/
import VisionMixer.Bytes
import VisionMixer.Number.Basic

namespace VisionMixer

/-- the whole number nearest to `n / d`, a half going to the even neighbour -/
def roundDivEven (n d : Nat) : Nat :=
  let q := n / d
  if 2 * (n % d) < d ∨ 2 * (n % d) = d ∧ q % 2 = 0 then q else q + 1

/-- `2 ^ e` -/
def powTwo (e : Int) : Rat := if 0 ≤ e then Nat.pow 2 e.toNat else 1 / Nat.pow 2 (-e).toNat

/-- the greatest `k` with `2 ^ k` at most the positive rational `q` -/
def floorLog2 (q : Rat) : Int :=
  let k := (q.num.toNat.log2 : Int) - q.den.log2
  if powTwo k ≤ q then k else k - 1

/-- a binary floating format -/
structure Format where
  /-- bits of a significand -/
  precision : Nat
  /-- exponent of the least unit -/
  least : Int
  /-- exponent of the first power of two past the greatest number -/
  bound : Int

namespace Format

/-- the single-precision interchange format -/
def binary32 : Format := ⟨24, -149, 128⟩

/-- the double-precision interchange format -/
def binary64 : Format := ⟨53, -1074, 1024⟩

/-- significand and unit exponent of the nearest number to a nonnegative rational -/
def parts (f : Format) (q : Rat) : Nat × Int :=
  let e := max f.least (floorLog2 q - (f.precision - 1))
  let scaled := q * powTwo (-e)
  (roundDivEven scaled.num.toNat scaled.den, e)

/-- the nearest number of the format, infinite past the greatest; an underflow to zero keeps its sign -/
def nearest (f : Format) (q : Rat) : Number :=
  if q = 0 then .rational 0
  else
    let (m, e) := f.parts (if q < 0 then -q else q)
    let magnitude : Rat := m * powTwo e
    if powTwo f.bound ≤ magnitude then .infinity (q < 0)
    else .signed (q < 0) (if q < 0 then -magnitude else magnitude)

/-- the greatest number of the format -/
def greatest (f : Format) : Rat := ((Nat.pow 2 f.precision - 1 : Nat) : Rat) * powTwo (f.bound - f.precision)

end Format

/-- how the results of arithmetic are kept -/
inductive Arithmetic where
  | exact
  | binary64
  deriving DecidableEq

namespace Arithmetic

/-- a number as this arithmetic keeps it -/
def keep : Arithmetic → Number → Number
  | .exact, x => x
  | .binary64, .rational q => Format.binary64.nearest q
  | .binary64, x => x

/-- the sum, operands and result kept -/
def add (a : Arithmetic) (x y : Number) : Number := a.keep ((a.keep x).add (a.keep y))

/-- the difference, operands and result kept -/
def sub (a : Arithmetic) (x y : Number) : Number := a.keep ((a.keep x).sub (a.keep y))

/-- the product, operands and result kept -/
def mul (a : Arithmetic) (x y : Number) : Number := a.keep ((a.keep x).mul (a.keep y))

/-- the quotient, operands and result kept -/
def div (a : Arithmetic) (x y : Number) : Number := a.keep ((a.keep x).div (a.keep y))

end Arithmetic

namespace Number

/-- the number four bytes spell as single precision: a sign bit, eight bits of exponent, twenty-three of fraction -/
def ofBinary32 (b : Bytes) : Number :=
  let word : Nat := Bytes.toNat b
  let negative : Bool := 0x80000000 ≤ word
  let exponent : Nat := word / 0x800000 % 0x100
  let fraction : Nat := word % 0x800000
  if exponent = 255 then (if fraction = 0 then .infinity negative else .nan)
  else
    let magnitude : Rat :=
      if exponent = 0 then fraction * powTwo (-149) else (fraction + 0x800000 : Nat) * powTwo (exponent - 150)
    .signed negative (if negative then -magnitude else magnitude)

/-- four bytes of single precision for the nearest number of that format -/
def toBinary32 (x : Number) : Bytes :=
  let sign := if x.isNegative then 0x80000000 else 0
  let magnitude : Nat := match x with
    | .nan => 255 * 0x800000 + 0x400000
    | .infinity _ => 255 * 0x800000
    | .negativeZero => 0
    | .rational q =>
      if q = 0 then 0
      else
        let (m, e) := Format.binary32.parts (if q < 0 then -q else q)
        min (255 * 0x800000) (m + (e + 149).toNat * 0x800000)
  Bytes.ofNat 4 (sign + magnitude)

end Number

end VisionMixer
