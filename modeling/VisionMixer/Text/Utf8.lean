/-
UTF-8, read leniently.

The reader is a machine over bytes: between characters it is `idle`, inside one it is `pending` with the value so far,
the number of bytes still owed and the bounds on the next of them. A byte that cannot continue the character at hand
ends it as one U+FFFD and is then read afresh, so every maximal invalid run becomes exactly one U+FFFD and no byte is
skipped.
-/
import VisionMixer.Bytes

namespace VisionMixer.Utf8

/-- the bytes of a text -/
def encode (s : String) : Bytes := s.toList.flatMap String.utf8EncodeChar

/-- what stands for bytes that spell no character -/
def replacement : Char := '\uFFFD'

/-- the reader between bytes -/
inductive State where
  | idle
  | pending (value left : Nat) (low high : UInt8)
  deriving DecidableEq

/-- a byte read where a character may start -/
def start (b : UInt8) : List Char × State :=
  if b < 0x80 then ([Char.ofNat b.toNat], .idle)
  else if b < 0xC2 then ([replacement], .idle)
  else if b < 0xE0 then ([], .pending (b.toNat % 32) 1 0x80 0xBF)
  else if b < 0xF0 then
    ([], .pending (b.toNat % 16) 2 (if b = 0xE0 then 0xA0 else 0x80) (if b = 0xED then 0x9F else 0xBF))
  else if b < 0xF5 then
    ([], .pending (b.toNat % 8) 3 (if b = 0xF0 then 0x90 else 0x80) (if b = 0xF4 then 0x8F else 0xBF))
  else ([replacement], .idle)

/-- one byte: the characters it completes and the state after it -/
def step : State → UInt8 → List Char × State
  | .idle, b => start b
  | .pending value left low high, b =>
    if low ≤ b ∧ b ≤ high then
      let value := value * 64 + b.toNat % 64
      if left = 1 then ([Char.ofNat value], .idle) else ([], .pending value (left - 1) 0x80 0xBF)
    else
      let (chars, next) := start b
      (replacement :: chars, next)

/-- the characters of the bytes still to come -/
def chars : State → Bytes → List Char
  | .idle, [] => []
  | .pending .., [] => [replacement]
  | s, b :: rest => (step s b).1 ++ chars (step s b).2 rest

/-- the text that bytes spell, with U+FFFD for what spells nothing -/
def decode (b : Bytes) : String := String.ofList (chars .idle b)

end VisionMixer.Utf8
