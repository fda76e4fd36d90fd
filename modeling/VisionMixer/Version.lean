/-
Protocol versions.

A version is one 32-bit word, the major half above the minor half, and is compared as that word. Five versions have had
their field tables checked.
-/
namespace VisionMixer

/-- a protocol version -/
structure Version where
  value : UInt32
  deriving DecidableEq

namespace Version

instance : LE Version := ⟨fun a b => a.value ≤ b.value⟩
instance : LT Version := ⟨fun a b => a.value < b.value⟩
instance (a b : Version) : Decidable (a ≤ b) := inferInstanceAs (Decidable (a.value ≤ b.value))
instance (a b : Version) : Decidable (a < b) := inferInstanceAs (Decidable (a.value < b.value))

/-- the version of two wire halves -/
def ofParts (major minor : UInt16) : Version := ⟨major.toUInt32 <<< 16 ||| minor.toUInt32⟩

/-- the upper half -/
def major (v : Version) : UInt16 := (v.value >>> 16).toUInt16

/-- the lower half -/
def minor (v : Version) : UInt16 := v.value.toUInt16

/-- firmware 7.2 -/
def v7_2 : Version := ⟨0x00020016⟩
/-- firmware 7.5.2 -/
def v7_5_2 : Version := ⟨0x0002001B⟩
/-- firmware 8.0 -/
def v8_0 : Version := ⟨0x0002001C⟩
/-- firmware 8.0.1 -/
def v8_0_1 : Version := ⟨0x0002001D⟩
/-- firmware 8.1.1 -/
def v8_1_1 : Version := ⟨0x0002001E⟩

/-- the versions whose field tables have been checked, oldest first -/
def supported : List Version := [v7_2, v7_5_2, v8_0, v8_0_1, v8_1_1]

/-- one of the checked versions -/
def isSupported (v : Version) : Bool := v ∈ supported

/-- what a session speaks before the device announces a version -/
instance : Inhabited Version := ⟨v7_2⟩

/-- both halves in decimal, a point between -/
def text (v : Version) : String := toString v.major.toNat ++ "." ++ toString v.minor.toNat

end Version

end VisionMixer
