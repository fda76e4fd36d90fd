/-
The shortest decimal that reads back as a number, and its written forms.

A decimal is a digit string times a power of ten. `Decimal.shortest` looks at the grids of one digit, two digits and so
on; on each it takes the two neighbours of the number, and the first grid with a neighbour inside the interval of
numbers that round to the same double wins. Of two neighbours inside, the nearer wins, and the greater if they are
equally near. The ends of the interval belong to it when the significand is even.
-/
import VisionMixer.Number.Rounding

namespace VisionMixer

/-- `10 ^ e` -/
def powTen (e : Int) : Rat := if 0 ≤ e then Nat.pow 10 e.toNat else 1 / Nat.pow 10 (-e).toNat

/-- `digits * 10 ^ exponent` -/
structure Decimal where
  digits : Nat
  exponent : Int

namespace Decimal

/-- the rational a decimal stands for -/
def toRat (d : Decimal) : Rat := d.digits * powTen d.exponent

/-- the rationals that round to a double: its bounds, and whether they belong -/
structure Interval where
  low : Rat
  high : Rat
  closed : Bool

/-- the interval of a positive double given by its parts -/
def interval (m : Nat) (e : Int) : Interval where
  low :=
    if m = 0x10000000000000 ∧ Format.binary64.least < e then m * powTwo e - powTwo (e - 2)
    else m * powTwo e - powTwo (e - 1)
  high := m * powTwo e + powTwo (e - 1)
  closed := m % 2 = 0

/-- inside an interval -/
def Interval.has (i : Interval) (q : Rat) : Bool := if i.closed then i.low ≤ q && q ≤ i.high else i.low < q && q < i.high

/-- the number of decimal digits before the point of a positive rational, negative for leading zeros after it -/
def magnitude (q : Rat) : Int :=
  let guess := floorLog2 q * 30103 / 100000
  if powTen (guess + 1) ≤ q then guess + 2 else if powTen guess ≤ q then guess + 1 else guess

/-- the neighbour on the grid of `10 ^ exponent` that lies in the interval, nearest to `q` -/
def onGrid? (i : Interval) (q : Rat) (exponent : Int) : Option Decimal :=
  let below := (q / powTen exponent).floor.toNat
  let down : Decimal := ⟨below, exponent⟩
  let up : Decimal := ⟨below + 1, exponent⟩
  match i.has down.toRat, i.has up.toRat with
  | true, true => some (if q - down.toRat < up.toRat - q then down else up)
  | true, false => some down
  | false, true => some up
  | false, false => none

/-- the decimal without its trailing zeros, at most `fuel` of them -/
def trim : Nat → Decimal → Decimal
  | 0, d => d
  | fuel + 1, d => if d.digits ≠ 0 ∧ d.digits % 10 = 0 then trim fuel ⟨d.digits / 10, d.exponent + 1⟩ else d

/-- the shortest decimal of the double nearest to a positive rational -/
def shortest (q : Rat) : Decimal :=
  let (m, e) := Format.binary64.parts q
  let value : Rat := m * powTwo e
  let top := magnitude value
  let found := (List.range 17).findSome? fun (n : Nat) => onGrid? (interval m e) value (top - (n + 1))
  trim 18 (found.getD ⟨0, 0⟩)

/-- a whole number keeps `.0`, and exponents outside the range are written -/
structure Form where
  pointZero : Bool
  /-- the powers of ten of the leading digit that are written out in full; all of them if absent -/
  inFull : Option (Int × Int)

/-- digits with a point, never an exponent -/
def positional (form : Form) (d : Decimal) : String :=
  let digits := Nat.toDigits 10 d.digits
  let whole : Int := digits.length + d.exponent
  if 0 ≤ d.exponent then
    String.ofList (digits ++ List.replicate d.exponent.toNat '0') ++ (if form.pointZero then ".0" else "")
  else if 0 < whole then
    String.ofList (digits.take whole.toNat ++ '.' :: digits.drop whole.toNat)
  else
    String.ofList ('0' :: '.' :: List.replicate (-whole).toNat '0' ++ digits)

/-- one digit before the point, and a power of ten -/
def scientific (d : Decimal) : String :=
  let digits := Nat.toDigits 10 d.digits
  let fraction := digits.drop 1
  let mantissa := digits.take 1 ++ (if fraction = [] then [] else '.' :: fraction)
  String.ofList mantissa ++ "e" ++ toString (digits.length - 1 + d.exponent : Int)

/-- the decimal as a form writes it -/
def write (form : Form) (d : Decimal) : String :=
  let leading : Int := (Nat.toDigits 10 d.digits).length - 1 + d.exponent
  match form.inFull with
  | none => d.positional form
  | some (least, greatest) =>
    if d.digits = 0 ∨ least ≤ leading ∧ leading ≤ greatest then d.positional form else d.scientific

end Decimal

namespace Number

/-- the text of a number in a form -/
def write (form : Decimal.Form) : Number → String
  | .nan => "NaN"
  | .infinity negative => if negative then "-inf" else "inf"
  | .negativeZero => "-" ++ Decimal.write form ⟨0, 0⟩
  | .rational q =>
    if q = 0 then Decimal.write form ⟨0, 0⟩
    else if q < 0 then "-" ++ Decimal.write form (Decimal.shortest (-q))
    else Decimal.write form (Decimal.shortest q)

/-- the plain text: all digits in full, no point for a whole number -/
def text : Number → String := write ⟨false, none⟩

/-- the text inside a shown value: a point always, a power of ten below 0.0001 and from 10000000000000000 on -/
def shown : Number → String := write ⟨true, some (-4, 15)⟩

end Number

end VisionMixer
