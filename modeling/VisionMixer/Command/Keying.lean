/-
Reports on keyers: the upstream keyers of a mix-effect block, the downstream keyers, and super sources with their boxes.

Clips and gains are percentages in tenths, hues are degrees in tenths, mask edges are screen units in thousandths. The
bodies on super sources start with the number of the super source from 8.0; older ones always mean number 0.
-/
import VisionMixer.Field.Table
import VisionMixer.Video

namespace VisionMixer

namespace MaskRect

/-- the edges by name -/
def toValues (m : MaskRect) : FieldValues :=
  [("mask_top", .float m.top), ("mask_bottom", .float m.bottom), ("mask_left", .float m.left),
    ("mask_right", .float m.right)]

/-- a mask from its edges -/
def ofValues (f : FieldValues) : Except Error MaskRect := do
  return {
    top := ← f.getFloat "mask_top"
    bottom := ← f.getFloat "mask_bottom"
    left := ← f.getFloat "mask_left"
    right := ← f.getFloat "mask_right" }

/-- the edges one after another from an offset -/
def fields (offset : Nat) : List Field :=
  [.number "mask_top" offset .maskVertical, .number "mask_bottom" (offset + 2) .maskVertical,
    .number "mask_left" (offset + 4) .maskHorizontal, .number "mask_right" (offset + 6) .maskHorizontal]

end MaskRect

/-- a luma key -/
structure LumaSettings where
  preMultiplied : Bool
  clip : Number
  gain : Number
  invert : Bool
  deriving DecidableEq, BEq, Inhabited

namespace LumaSettings

/-- the settings by name -/
def toValues (l : LumaSettings) : FieldValues :=
  [("pre_multiplied", .bool l.preMultiplied), ("clip", .float l.clip), ("gain", .float l.gain), ("invert", .bool l.invert)]

/-- a luma key from its settings -/
def ofValues (f : FieldValues) : Except Error LumaSettings := do
  return {
    preMultiplied := ← f.getBool "pre_multiplied"
    clip := ← f.getFloat "clip"
    gain := ← f.getFloat "gain"
    invert := ← f.getBool "invert" }

end LumaSettings

/-- a chroma key: the hue in degrees, all else percentages -/
structure ChromaSettings where
  hue : Number
  gain : Number
  ySuppress : Number
  lift : Number
  narrow : Bool
  deriving DecidableEq, BEq, Inhabited

/-- a keyer put on or off air -/
structure KeyerOnAir where
  mixEffect : UInt8
  keyer : UInt8
  onAir : Bool
  deriving DecidableEq

namespace KeyerOnAir

def toValues (c : KeyerOnAir) : FieldValues :=
  [("mix_effect", .byte c.mixEffect), ("keyer", .byte c.keyer), ("on_air", .bool c.onAir)]

def ofValues (f : FieldValues) : Except Error KeyerOnAir := do
  return { mixEffect := ← f.getU8 "mix_effect", keyer := ← f.getU8 "keyer", onAir := ← f.getBool "on_air" }

def editions : Editions := .only ⟨4, [.u8 "mix_effect" 0, .u8 "keyer" 1, .bool "on_air" 2]⟩

end KeyerOnAir

/-- the type, sources and mask of a keyer -/
structure KeyerBase where
  mixEffect : UInt8
  keyer : UInt8
  keyType : UInt8
  canFly : Bool
  flyEnabled : Bool
  fillSource : UInt16
  keySource : UInt16
  maskEnabled : Bool
  mask : MaskRect
  deriving DecidableEq, BEq

namespace KeyerBase

def toValues (c : KeyerBase) : FieldValues :=
  [("mix_effect", .byte c.mixEffect), ("keyer", .byte c.keyer), ("key_type", .byte c.keyType), ("can_fly", .bool c.canFly),
    ("fly_enabled", .bool c.flyEnabled), ("fill_source", .word c.fillSource), ("key_source", .word c.keySource),
    ("mask_enabled", .bool c.maskEnabled)]
  ++ c.mask.toValues

def ofValues (f : FieldValues) : Except Error KeyerBase := do
  return {
    mixEffect := ← f.getU8 "mix_effect"
    keyer := ← f.getU8 "keyer"
    keyType := ← f.getU8 "key_type"
    canFly := ← f.getBool "can_fly"
    flyEnabled := ← f.getBool "fly_enabled"
    fillSource := ← f.getU16 "fill_source"
    keySource := ← f.getU16 "key_source"
    maskEnabled := ← f.getBool "mask_enabled"
    mask := ← MaskRect.ofValues f }

def editions : Editions :=
  .only ⟨20, [.u8 "mix_effect" 0, .u8 "keyer" 1, .u8 "key_type" 2, .bool "can_fly" 3, .bool "fly_enabled" 4,
    .u16 "fill_source" 6, .u16 "key_source" 8, .bool "mask_enabled" 10] ++ MaskRect.fields 12⟩

end KeyerBase

/-- the luma key of a keyer -/
structure KeyerLuma where
  mixEffect : UInt8
  keyer : UInt8
  settings : LumaSettings
  deriving DecidableEq, BEq

namespace KeyerLuma

def toValues (c : KeyerLuma) : FieldValues :=
  [("mix_effect", .byte c.mixEffect), ("keyer", .byte c.keyer)] ++ c.settings.toValues

def ofValues (f : FieldValues) : Except Error KeyerLuma := do
  return { mixEffect := ← f.getU8 "mix_effect", keyer := ← f.getU8 "keyer", settings := ← LumaSettings.ofValues f }

def editions : Editions :=
  .only ⟨12, [.u8 "mix_effect" 0, .u8 "keyer" 1, .bool "pre_multiplied" 2, .number "clip" 4 .percentTenths,
    .number "gain" 6 .percentTenths, .bool "invert" 8]⟩

end KeyerLuma

/-- the chroma key of a keyer -/
structure KeyerChroma where
  mixEffect : UInt8
  keyer : UInt8
  settings : ChromaSettings
  deriving DecidableEq, BEq

namespace KeyerChroma

def toValues (c : KeyerChroma) : FieldValues :=
  [("mix_effect", .byte c.mixEffect), ("keyer", .byte c.keyer), ("hue", .float c.settings.hue),
    ("gain", .float c.settings.gain), ("y_suppress", .float c.settings.ySuppress), ("lift", .float c.settings.lift),
    ("narrow", .bool c.settings.narrow)]

def ofValues (f : FieldValues) : Except Error KeyerChroma := do
  return {
    mixEffect := ← f.getU8 "mix_effect"
    keyer := ← f.getU8 "keyer"
    settings := {
      hue := ← f.getFloat "hue"
      gain := ← f.getFloat "gain"
      ySuppress := ← f.getFloat "y_suppress"
      lift := ← f.getFloat "lift"
      narrow := ← f.getBool "narrow" } }

def editions : Editions :=
  .only ⟨12, [.u8 "mix_effect" 0, .u8 "keyer" 1, .number "hue" 2 .hue, .number "gain" 4 .percentTenths,
    .number "y_suppress" 6 .percentTenths, .number "lift" 8 .percentTenths, .bool "narrow" 10]⟩

end KeyerChroma

/-- the fill and the key of a downstream keyer -/
structure DskSources where
  keyer : UInt8
  fillSource : UInt16
  keySource : UInt16
  deriving DecidableEq

namespace DskSources

def toValues (c : DskSources) : FieldValues :=
  [("keyer", .byte c.keyer), ("fill_source", .word c.fillSource), ("key_source", .word c.keySource)]

def ofValues (f : FieldValues) : Except Error DskSources := do
  return { keyer := ← f.getU8 "keyer", fillSource := ← f.getU16 "fill_source", keySource := ← f.getU16 "key_source" }

def editions : Editions := .only ⟨8, [.u8 "keyer" 0, .u16 "fill_source" 2, .u16 "key_source" 4]⟩

end DskSources

/-- the tie, rate, luma key and mask of a downstream keyer -/
structure DskProperties where
  keyer : UInt8
  tie : Bool
  rate : UInt8
  luma : LumaSettings
  maskEnabled : Bool
  mask : MaskRect
  deriving DecidableEq, BEq

namespace DskProperties

def toValues (c : DskProperties) : FieldValues :=
  [("keyer", .byte c.keyer), ("tie", .bool c.tie), ("rate", .byte c.rate)] ++ c.luma.toValues
  ++ [("mask_enabled", .bool c.maskEnabled)] ++ c.mask.toValues

def ofValues (f : FieldValues) : Except Error DskProperties := do
  return {
    keyer := ← f.getU8 "keyer"
    tie := ← f.getBool "tie"
    rate := ← f.getU8 "rate"
    luma := ← LumaSettings.ofValues f
    maskEnabled := ← f.getBool "mask_enabled"
    mask := ← MaskRect.ofValues f }

def editions : Editions :=
  .only ⟨20, [.u8 "keyer" 0, .bool "tie" 1, .u8 "rate" 2, .bool "pre_multiplied" 3, .number "clip" 4 .percentTenths,
    .number "gain" 6 .percentTenths, .bool "invert" 8, .bool "mask_enabled" 9] ++ MaskRect.fields 10⟩

end DskProperties

/-- a downstream keyer on air, and its transition -/
structure DskProgress where
  onAir : Bool
  inTransition : Bool
  isAutoTransitioning : Bool
  remainingFrames : UInt8
  deriving DecidableEq, Inhabited

/-- the progress of a downstream keyer -/
structure DskState where
  keyer : UInt8
  progress : DskProgress
  deriving DecidableEq

namespace DskState

def toValues (c : DskState) : FieldValues :=
  [("keyer", .byte c.keyer), ("on_air", .bool c.progress.onAir), ("in_transition", .bool c.progress.inTransition),
    ("is_auto_transitioning", .bool c.progress.isAutoTransitioning),
    ("remaining_frames", .byte c.progress.remainingFrames)]

def ofValues (f : FieldValues) : Except Error DskState := do
  return {
    keyer := ← f.getU8 "keyer"
    progress := {
      onAir := ← f.getBool "on_air"
      inTransition := ← f.getBool "in_transition"
      isAutoTransitioning := ← f.getBool "is_auto_transitioning"
      remainingFrames := ← f.getU8 "remaining_frames" } }

def editions : Editions :=
  .only ⟨8, [.u8 "keyer" 0, .bool "on_air" 1, .bool "in_transition" 2, .bool "is_auto_transitioning" 3,
    .u8 "remaining_frames" 4]⟩

end DskState

/-- the border of super-source boxes -/
structure BorderSettings where
  enabled : Bool
  hue : Number
  saturation : Number
  luma : Number
  deriving DecidableEq, BEq, Inhabited

/-- the art of a super source and the border of its boxes -/
structure SuperSourceArt where
  superSource : UInt8
  fillSource : UInt16
  keySource : UInt16
  /-- 0 for background, 1 for foreground -/
  artOption : UInt8
  luma : LumaSettings
  border : BorderSettings
  deriving DecidableEq, BEq

namespace SuperSourceArt

def toValues (c : SuperSourceArt) : FieldValues :=
  [("super_source", .byte c.superSource), ("fill_source", .word c.fillSource), ("key_source", .word c.keySource),
    ("art_option", .byte c.artOption)]
  ++ c.luma.toValues
  ++ [("border_enabled", .bool c.border.enabled), ("border_hue", .float c.border.hue),
    ("border_saturation", .float c.border.saturation), ("border_luma", .float c.border.luma)]

def ofValues (f : FieldValues) : Except Error SuperSourceArt := do
  return {
    superSource := (← f.getU8? "super_source").getD 0
    fillSource := ← f.getU16 "fill_source"
    keySource := ← f.getU16 "key_source"
    artOption := ← f.getU8 "art_option"
    luma := ← LumaSettings.ofValues f
    border := {
      enabled := ← f.getBool "border_enabled"
      hue := ← f.getFloat "border_hue"
      saturation := ← f.getFloat "border_saturation"
      luma := ← f.getFloat "border_luma" } }

/-- the fields after the number of the super source -/
def fields (offset : Nat) : List Field :=
  [.u16 "fill_source" offset, .u16 "key_source" (offset + 2), .u8 "art_option" (offset + 4),
    .bool "pre_multiplied" (offset + 5), .number "clip" (offset + 6) .percentTenths,
    .number "gain" (offset + 8) .percentTenths, .bool "invert" (offset + 10), .bool "border_enabled" (offset + 11),
    .number "border_hue" (offset + 12) .hue, .number "border_saturation" (offset + 14) .percentTenths,
    .number "border_luma" (offset + 16) .percentTenths]

def editions : Editions := .changed ⟨20, fields 0⟩ ⟨24, .u8 "super_source" 0 :: fields 4⟩

end SuperSourceArt

/-- a super-source box: its position in screen units, its size and crop as fractions of the frame -/
structure BoxSettings where
  enabled : Bool
  source : UInt16
  x : Number
  y : Number
  size : Number
  cropped : Bool
  crop : MaskRect
  deriving DecidableEq, BEq, Inhabited

/-- one box of a super source -/
structure SuperSourceBox where
  superSource : UInt8
  index : UInt8
  settings : BoxSettings
  deriving DecidableEq, BEq

namespace SuperSourceBox

def toValues (c : SuperSourceBox) : FieldValues :=
  [("super_source", .byte c.superSource), ("index", .byte c.index), ("enabled", .bool c.settings.enabled),
    ("source", .word c.settings.source), ("x", .float c.settings.x), ("y", .float c.settings.y),
    ("size", .float c.settings.size), ("cropped", .bool c.settings.cropped), ("crop_top", .float c.settings.crop.top),
    ("crop_bottom", .float c.settings.crop.bottom), ("crop_left", .float c.settings.crop.left),
    ("crop_right", .float c.settings.crop.right)]

def ofValues (f : FieldValues) : Except Error SuperSourceBox := do
  return {
    superSource := (← f.getU8? "super_source").getD 0
    index := ← f.getU8 "index"
    settings := {
      enabled := ← f.getBool "enabled"
      source := ← f.getU16 "source"
      x := ← f.getFloat "x"
      y := ← f.getFloat "y"
      size := ← f.getFloat "size"
      cropped := ← f.getBool "cropped"
      crop := {
        top := ← f.getFloat "crop_top"
        bottom := ← f.getFloat "crop_bottom"
        left := ← f.getFloat "crop_left"
        right := ← f.getFloat "crop_right" } } }

/-- the numbers after the source, one after another from an offset -/
def geometry (offset : Nat) : List Field :=
  [.number "x" offset (.scaled .i16 100 (-48) 48), .number "y" (offset + 2) (.scaled .i16 100 (-27) 27),
    .number "size" (offset + 4) (.scaled .u16 1000 (.rational (7 / 100)) 1), .bool "cropped" (offset + 6),
    .number "crop_top" (offset + 8) (.scaled .u16 1000 0 18), .number "crop_bottom" (offset + 10) (.scaled .u16 1000 0 18),
    .number "crop_left" (offset + 12) (.scaled .u16 1000 0 32),
    .number "crop_right" (offset + 14) (.scaled .u16 1000 0 32)]

def editions : Editions :=
  .changed ⟨20, [.u8 "index" 0, .bool "enabled" 1, .u16 "source" 2] ++ geometry 4⟩
    ⟨24, [.u8 "super_source" 0, .u8 "index" 1, .bool "enabled" 2, .u16 "source" 4] ++ geometry 6⟩

end SuperSourceBox

end VisionMixer
