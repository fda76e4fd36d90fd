/-
Texts in quotation marks, as messages show them.

A quotation mark and a backslash are escaped by a backslash, the blank controls by their letters, and any other
character without a glyph of its own by its code point, so that two different texts never look alike.
-/
import VisionMixer.Text.Invisible

namespace VisionMixer.Text

/-- a code point in lower-case hexadecimal, between braces -/
def codePoint (c : Char) : List Char := '\\' :: 'u' :: '\x7b' :: Nat.toDigits 16 c.toNat ++ ['\x7d']

/-- one character inside quotation marks -/
def escape (c : Char) : List Char :=
  if c = '"' then ['\\', '"']
  else if c = '\\' then ['\\', '\\']
  else if c = '\t' then ['\\', 't']
  else if c = '\n' then ['\\', 'n']
  else if c = '\r' then ['\\', 'r']
  else if c = '\x00' then ['\\', '0']
  else if isInvisible c then codePoint c
  else [c]

/-- a text in quotation marks -/
def quoted (s : String) : String := String.ofList ('"' :: s.toList.flatMap escape ++ ['"'])

end VisionMixer.Text
