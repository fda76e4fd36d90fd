/-
Socket addresses in words.

Four octets are written in decimal with points, eight groups in hexadecimal with colons and in square brackets; the
first of the longest runs of two or more zero groups is left out, and an address that stands for four octets shows them.
Reading accepts any one run left out, four octets in place of the last two groups, a scope after a percent sign, and
leading zeros everywhere but in octets.
-/
import VisionMixer.Text.Digits

namespace VisionMixer

/-- a socket address -/
inductive SocketAddress where
  | octets (a b c d : UInt8) (port : UInt16)
  /-- eight groups; a scope of zero is none -/
  | grouped (groups : List UInt16) (scope : UInt32) (port : UInt16)
  deriving DecidableEq

namespace SocketAddress

/-- any address of the host, any port -/
def unspecified : SocketAddress := .octets 0 0 0 0 0

instance : Inhabited SocketAddress := ⟨unspecified⟩

/-- the text of four octets -/
def octetsText (a b c d : UInt8) : String := ".".intercalate ([a, b, c, d].map fun o => toString o.toNat)

/-- groups with colons between -/
def groupsText (groups : List UInt16) : String :=
  ":".intercalate (groups.map fun g => String.ofList (Nat.toDigits 16 g.toNat))

/-- where the first of the longest runs of zero groups starts, and its length -/
def longestZeros (groups : List UInt16) : Nat × Nat :=
  (List.range groups.length).foldl (fun best start =>
    let run := ((groups.drop start).takeWhile (· = 0)).length
    if best.2 < run then (start, run) else best) (0, 0)

/-- the text of eight groups -/
def hostText (groups : List UInt16) : String :=
  match groups with
  | [0, 0, 0, 0, 0, 0xFFFF, high, low] =>
    "::ffff:" ++ octetsText (high >>> 8).toUInt8 high.toUInt8 (low >>> 8).toUInt8 low.toUInt8
  | _ =>
    let (start, run) := longestZeros groups
    if 1 < run then groupsText (groups.take start) ++ "::" ++ groupsText (groups.drop (start + run))
    else groupsText groups

/-- the text of an address -/
def text : SocketAddress → String
  | .octets a b c d port => octetsText a b c d ++ ":" ++ toString port.toNat
  | .grouped groups scope port =>
    "[" ++ hostText groups ++ (if scope = 0 then "" else "%" ++ toString scope.toNat) ++ "]:" ++ toString port.toNat

/-- a thing read from the front of a text, and the text after it -/
abbrev Reader (α : Type) := List Char → Option (α × List Char)

/-- one character -/
def expect (c : Char) : Reader Unit
  | [] => none
  | x :: rest => if x = c then some ((), rest) else none

/-- the value of a hexadecimal digit -/
def digit? (c : Char) : Option Nat :=
  if '0' ≤ c ∧ c ≤ '9' then some (c.toNat - '0'.toNat)
  else if 'a' ≤ c ∧ c ≤ 'f' then some (c.toNat - 'a'.toNat + 10)
  else if 'A' ≤ c ∧ c ≤ 'F' then some (c.toNat - 'A'.toNat + 10)
  else none

/-- a number below a bound, in all the digits that follow -/
def number (radix bound : Nat) : Reader Nat := fun cs =>
  let digits := cs.takeWhile fun c => (digit? c).any (· < radix)
  let n := digits.foldl (fun n c => n * radix + (digit? c).getD 0) 0
  if digits = [] ∨ bound ≤ n then none else some (n, cs.drop digits.length)

/-- a number below a bound in at most so many digits -/
def shortNumber (radix bound most : Nat) : Reader Nat := fun cs => do
  let (n, rest) ← number radix bound cs
  if most < cs.length - rest.length then none else return (n, rest)

/-- an octet, without leading zeros -/
def octet : Reader UInt8 := fun cs => do
  let (n, rest) ← shortNumber 10 256 3 cs
  if cs.head? = some '0' ∧ 1 < cs.length - rest.length then none else return (UInt8.ofNat n, rest)

/-- four octets -/
def fourOctets : Reader (UInt8 × UInt8 × UInt8 × UInt8) := fun cs => do
  let (a, cs) ← octet cs
  let ((), cs) ← expect '.' cs
  let (b, cs) ← octet cs
  let ((), cs) ← expect '.' cs
  let (c, cs) ← octet cs
  let ((), cs) ← expect '.' cs
  let (d, cs) ← octet cs
  return ((a, b, c, d), cs)

/-- groups read, whether the last two came as octets, and the text after them -/
structure Groups where
  groups : List UInt16
  inOctets : Bool
  rest : List Char

/-- at most so many groups with colons between, the last two possibly as octets -/
def takeGroups : Nat → Bool → List Char → Groups
  | 0, _, cs => ⟨[], false, cs⟩
  | left + 1, first, cs =>
    match if first then some ((), cs) else expect ':' cs with
    | none => ⟨[], false, cs⟩
    | some (_, after) =>
      match if left = 0 then none else fourOctets after with
      | some ((a, b, c, d), rest) =>
        ⟨[a.toUInt16 <<< 8 ||| b.toUInt16, c.toUInt16 <<< 8 ||| d.toUInt16], true, rest⟩
      | none =>
        match shortNumber 16 65536 4 after with
        | none => ⟨[], false, cs⟩
        | some (g, rest) =>
          let more := takeGroups left false rest
          { more with groups := UInt16.ofNat g :: more.groups }

/-- eight groups, a run of zeros possibly left out -/
def host : Reader (List UInt16) := fun cs =>
  let front := takeGroups 8 true cs
  let size := front.groups.length
  if size = 8 then some (front.groups, front.rest)
  else if front.inOctets then none
  else do
    let ((), cs) ← expect ':' front.rest
    let ((), cs) ← expect ':' cs
    let back := takeGroups (7 - size) true cs
    return (front.groups ++ List.replicate (8 - size - back.groups.length) 0 ++ back.groups, back.rest)

/-- a scope after a percent sign, or none -/
def scope (cs : List Char) : Nat × List Char :=
  ((expect '%' cs).bind fun after => number 10 UInt32.size after.2).getD (0, cs)

/-- a port after a colon, at the end of the text -/
def port? (cs : List Char) : Option UInt16 := do
  let ((), cs) ← expect ':' cs
  let (n, []) ← number 10 65536 cs | none
  return UInt16.ofNat n

/-- an address of four octets -/
def octets? (cs : List Char) : Option SocketAddress := do
  let ((a, b, c, d), cs) ← fourOctets cs
  return .octets a b c d (← port? cs)

/-- an address of eight groups -/
def groups? (cs : List Char) : Option SocketAddress := do
  let ((), cs) ← expect '[' cs
  let (groups, cs) ← host cs
  let (scope, cs) := scope cs
  let ((), cs) ← expect ']' cs
  return .grouped groups (UInt32.ofNat scope) (← port? cs)

/-- the address that a text spells -/
def parse? (s : String) : Option SocketAddress := (octets? s.toList).orElse fun _ => groups? s.toList

end SocketAddress

end VisionMixer
