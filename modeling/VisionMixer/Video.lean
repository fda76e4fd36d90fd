/-
Video modes, keyer masks and the source ids of media players.

A mode is kept as its wire byte, so one that is not in the tables here survives a round trip. The full-frame mask and
the number of whole frames in a second follow from it.
-/
import VisionMixer.Number.Basic

namespace VisionMixer

/-- a video standard, by its wire byte -/
structure VideoMode where
  code : UInt8
  deriving DecidableEq

/-- the edges of a keyer mask, in screen units -/
structure MaskRect where
  top : Number
  bottom : Number
  left : Number
  right : Number
  deriving DecidableEq, BEq

instance : Inhabited MaskRect := ⟨⟨0, 0, 0, 0⟩⟩

namespace VideoMode

/-- the four modes of 525 and 625 lines -/
def isStandardDefinition (m : VideoMode) : Bool := m.code ≤ 3

/-- whole frames in a second, fractional rates rounded up; interlaced modes count frames, not fields -/
def framesPerSecond (m : VideoMode) : UInt8 :=
  if m.code ∈ [1, 3, 6, 10, 16] then 25
  else if m.code ∈ [4, 12] then 50
  else if m.code ∈ [5, 13] then 60
  else if m.code ∈ [8, 9, 14, 15] then 24
  else 30

end VideoMode

namespace MaskRect

/-- the full frame of a mode -/
def fullFrame (m : VideoMode) : MaskRect :=
  if m.isStandardDefinition then ⟨3, -3, 4, -4⟩ else ⟨9, -9, 16, -16⟩

end MaskRect

namespace MediaPlayer

/-- media players that have source ids -/
def addressable : Nat := 8

/-- the source ids of the players' fills, ten apart; the key of a player comes right after its fill -/
def fillSources : List UInt16 := (List.range addressable).map fun player => UInt16.ofNat (3010 + 10 * player)

/-- the key source paired with a fill source, if that is a media player's -/
def keySource? (fill : UInt16) : Option UInt16 :=
  if fill ∈ fillSources then some (fill + 1) else none

end MediaPlayer

end VisionMixer
