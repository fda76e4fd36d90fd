/-
Reports on mix-effect blocks: what is on the program and preview buses, the transition at hand and the fade to black.
-/
import VisionMixer.Field.Table

namespace VisionMixer

/-- a source on a bus of a block -/
structure BusSource where
  mixEffect : UInt8
  source : UInt16
  deriving DecidableEq

namespace BusSource

def toValues (c : BusSource) : FieldValues := [("mix_effect", .byte c.mixEffect), ("source", .word c.source)]

def ofValues (f : FieldValues) : Except Error BusSource := do
  return { mixEffect := ← f.getU8 "mix_effect", source := ← f.getU16 "source" }

def editions : Editions := .only ⟨4, [.u8 "mix_effect" 0, .u16 "source" 2]⟩

end BusSource

/-- the source on the preview bus; later firmware adds whether preview is live during a transition -/
structure PreviewSource where
  mixEffect : UInt8
  source : UInt16
  previewLive : Option Bool
  deriving DecidableEq

namespace PreviewSource

def toValues (c : PreviewSource) : FieldValues :=
  [("mix_effect", .byte c.mixEffect), ("source", .word c.source)]
  ++ FieldValues.maybe "preview_live" (c.previewLive.map .bool)

def ofValues (f : FieldValues) : Except Error PreviewSource := do
  return {
    mixEffect := ← f.getU8 "mix_effect"
    source := ← f.getU16 "source"
    previewLive := ← f.getBool? "preview_live" }

def editions : Editions := .only ⟨8, [.u8 "mix_effect" 0, .u16 "source" 2, ⟨"preview_live", 4, .bool, true⟩]⟩

end PreviewSource

/-- the current and the next transition; a selection has one bit for the background and one for each upstream keyer -/
structure TransitionStyle where
  style : UInt8
  selection : UInt8
  nextStyle : UInt8
  nextSelection : UInt8
  deriving DecidableEq, Inhabited

/-- the transition style of a block -/
structure TransitionProperties where
  mixEffect : UInt8
  style : TransitionStyle
  deriving DecidableEq

namespace TransitionProperties

def toValues (c : TransitionProperties) : FieldValues :=
  [("mix_effect", .byte c.mixEffect), ("style", .byte c.style.style), ("selection", .byte c.style.selection),
    ("next_style", .byte c.style.nextStyle), ("next_selection", .byte c.style.nextSelection)]

def ofValues (f : FieldValues) : Except Error TransitionProperties := do
  return {
    mixEffect := ← f.getU8 "mix_effect"
    style := {
      style := ← f.getU8 "style"
      selection := ← f.getU8 "selection"
      nextStyle := ← f.getU8 "next_style"
      nextSelection := ← f.getU8 "next_selection" } }

def editions : Editions :=
  .only ⟨8, [.u8 "mix_effect" 0, .u8 "style" 1, .flags8 "selection" 2, .u8 "next_style" 3, .flags8 "next_selection" 4]⟩

end TransitionProperties

/-- how far a transition is, from 0 to 1 -/
structure TransitionProgress where
  inTransition : Bool
  remainingFrames : UInt8
  position : Number
  deriving DecidableEq, BEq, Inhabited

/-- the progress of a block's transition -/
structure TransitionPosition where
  mixEffect : UInt8
  progress : TransitionProgress
  deriving DecidableEq, BEq

namespace TransitionPosition

def toValues (c : TransitionPosition) : FieldValues :=
  [("mix_effect", .byte c.mixEffect), ("in_transition", .bool c.progress.inTransition),
    ("remaining_frames", .byte c.progress.remainingFrames), ("position", .float c.progress.position)]

def ofValues (f : FieldValues) : Except Error TransitionPosition := do
  return {
    mixEffect := ← f.getU8 "mix_effect"
    progress := {
      inTransition := ← f.getBool "in_transition"
      remainingFrames := ← f.getU8 "remaining_frames"
      position := ← f.getFloat "position" } }

def editions : Editions :=
  .only ⟨8, [.u8 "mix_effect" 0, .bool "in_transition" 1, .u8 "remaining_frames" 2, .number "position" 4 .unitInterval]⟩

end TransitionPosition

/-- a rate in frames, of a block's mix transition or of its fade to black -/
structure BlockRate where
  mixEffect : UInt8
  rate : UInt8
  deriving DecidableEq

namespace BlockRate

def toValues (c : BlockRate) : FieldValues := [("mix_effect", .byte c.mixEffect), ("rate", .byte c.rate)]

def ofValues (f : FieldValues) : Except Error BlockRate := do
  return { mixEffect := ← f.getU8 "mix_effect", rate := ← f.getU8 "rate" }

def editions : Editions := .only ⟨4, [.u8 "mix_effect" 0, .u8 "rate" 1]⟩

end BlockRate

/-- a dip transition: its rate and the source it dips to -/
structure DipSettings where
  rate : UInt8
  input : UInt16
  deriving DecidableEq, Inhabited

/-- the dip transition of a block -/
structure TransitionDip where
  mixEffect : UInt8
  settings : DipSettings
  deriving DecidableEq

namespace TransitionDip

def toValues (c : TransitionDip) : FieldValues :=
  [("mix_effect", .byte c.mixEffect), ("rate", .byte c.settings.rate), ("input", .word c.settings.input)]

def ofValues (f : FieldValues) : Except Error TransitionDip := do
  return { mixEffect := ← f.getU8 "mix_effect", settings := { rate := ← f.getU8 "rate", input := ← f.getU16 "input" } }

def editions : Editions := .only ⟨4, [.u8 "mix_effect" 0, .u8 "rate" 1, .u16 "input" 2]⟩

end TransitionDip

/-- a wipe transition: width, symmetry and softness are percentages, the centre of the pattern lies between 0 and 1 -/
structure WipeSettings where
  rate : UInt8
  pattern : UInt8
  borderWidth : Number
  borderInput : UInt16
  symmetry : Number
  borderSoftness : Number
  xPosition : Number
  yPosition : Number
  reverseDirection : Bool
  flipFlop : Bool
  deriving DecidableEq, BEq, Inhabited

/-- the wipe transition of a block -/
structure TransitionWipe where
  mixEffect : UInt8
  settings : WipeSettings
  deriving DecidableEq, BEq

namespace TransitionWipe

def toValues (c : TransitionWipe) : FieldValues :=
  [("mix_effect", .byte c.mixEffect), ("rate", .byte c.settings.rate), ("pattern", .byte c.settings.pattern),
    ("border_width", .float c.settings.borderWidth), ("border_input", .word c.settings.borderInput),
    ("symmetry", .float c.settings.symmetry), ("border_softness", .float c.settings.borderSoftness),
    ("x_position", .float c.settings.xPosition), ("y_position", .float c.settings.yPosition),
    ("reverse_direction", .bool c.settings.reverseDirection), ("flip_flop", .bool c.settings.flipFlop)]

def ofValues (f : FieldValues) : Except Error TransitionWipe := do
  return {
    mixEffect := ← f.getU8 "mix_effect"
    settings := {
      rate := ← f.getU8 "rate"
      pattern := ← f.getU8 "pattern"
      borderWidth := ← f.getFloat "border_width"
      borderInput := ← f.getU16 "border_input"
      symmetry := ← f.getFloat "symmetry"
      borderSoftness := ← f.getFloat "border_softness"
      xPosition := ← f.getFloat "x_position"
      yPosition := ← f.getFloat "y_position"
      reverseDirection := ← f.getBool "reverse_direction"
      flipFlop := ← f.getBool "flip_flop" } }

def editions : Editions :=
  .only ⟨20, [.u8 "mix_effect" 0, .u8 "rate" 1, .u8 "pattern" 2, .number "border_width" 4 .percentHundredths,
    .u16 "border_input" 6, .number "symmetry" 8 .percentHundredths, .number "border_softness" 10 .percentHundredths,
    .number "x_position" 12 .unitInterval, .number "y_position" 14 .unitInterval, .bool "reverse_direction" 16,
    .bool "flip_flop" 17]⟩

end TransitionWipe

/-- how far a fade to black is -/
structure FadeProgress where
  fullyBlack : Bool
  inTransition : Bool
  remainingFrames : UInt8
  deriving DecidableEq, Inhabited

/-- the progress of a block's fade to black -/
structure FadeToBlackState where
  mixEffect : UInt8
  progress : FadeProgress
  deriving DecidableEq

namespace FadeToBlackState

def toValues (c : FadeToBlackState) : FieldValues :=
  [("mix_effect", .byte c.mixEffect), ("fully_black", .bool c.progress.fullyBlack),
    ("in_transition", .bool c.progress.inTransition), ("remaining_frames", .byte c.progress.remainingFrames)]

def ofValues (f : FieldValues) : Except Error FadeToBlackState := do
  return {
    mixEffect := ← f.getU8 "mix_effect"
    progress := {
      fullyBlack := ← f.getBool "fully_black"
      inTransition := ← f.getBool "in_transition"
      remainingFrames := ← f.getU8 "remaining_frames" } }

def editions : Editions :=
  .only ⟨4, [.u8 "mix_effect" 0, .bool "fully_black" 1, .bool "in_transition" 2, .u8 "remaining_frames" 3]⟩

end FadeToBlackState

end VisionMixer
