/-
Short forms for writing field tables.
-/
import VisionMixer.Field.Coding

namespace VisionMixer

namespace Field

/-- an unsigned byte -/
def u8 (name : String) (offset : Nat) : Field := ⟨name, offset, .int .u8, false⟩

/-- an unsigned 16-bit word -/
def u16 (name : String) (offset : Nat) : Field := ⟨name, offset, .int .u16, false⟩

/-- a truth value -/
def bool (name : String) (offset : Nat) : Field := ⟨name, offset, .bool, false⟩

/-- a padded text -/
def ascii (name : String) (offset size : Nat) : Field := ⟨name, offset, .ascii size, false⟩

/-- a mask of eight bits -/
def flags8 (name : String) (offset : Nat) : Field := ⟨name, offset, .flags .u8, false⟩

/-- a mask of sixteen bits -/
def flags16 (name : String) (offset : Nat) : Field := ⟨name, offset, .flags .u16, false⟩

/-- a number in an encoding that tables share -/
def number (name : String) (offset : Nat) (wire : Wire) : Field := ⟨name, offset, wire, false⟩

end Field

namespace Wire

/-- a percentage in tenths -/
def percentTenths : Wire := .scaled .u16 10 0 100

/-- a percentage in hundredths -/
def percentHundredths : Wire := .scaled .u16 100 0 100

/-- a fraction of one in ten-thousandths -/
def unitInterval : Wire := .scaled .u16 10000 0 1

/-- a hue in tenths of a degree -/
def hue : Wire := .scaled .u16 10 0 (.rational (3599 / 10))

/-- a vertical edge of a mask in thousandths of a screen unit -/
def maskVertical : Wire := .scaled .i16 1000 (-9) 9

/-- a horizontal edge of a mask in thousandths of a screen unit -/
def maskHorizontal : Wire := .scaled .i16 1000 (-16) 16

/-- a gain in hundredths of a decibel -/
def gain : Wire := .scaled .i16 100 (-60) 6

/-- a balance from full left to full right in ten-thousandths -/
def balance : Wire := .scaled .i16 10000 (-1) 1

end Wire

namespace Editions

/-- a body that never changed -/
def only (l : Layout) : Editions := [⟨.v7_2, l⟩]

/-- a body that changed with firmware 8.0 -/
def changed (old new : Layout) : Editions := [⟨.v7_2, old⟩, ⟨.v8_0, new⟩]

end Editions

end VisionMixer
