/-
Reports on the facilities around the mixer: the classic audio mixer, media players, multiviewers and tally lights.

Both tally lists are counted records and always describe every source the device tallies.
-/
import VisionMixer.Field.Table

namespace VisionMixer

/-- one strip of the audio mixer: gain in decibels, balance from -1 to 1 -/
structure AudioStrip where
  sourceType : UInt8
  fromMediaPlayer : Bool
  plugType : UInt8
  /-- 0 off, 1 on, 2 follows video -/
  mixOption : UInt8
  gain : Number
  balance : Number
  deriving DecidableEq, BEq

/-- a strip by its index -/
structure AudioMixerInput where
  index : UInt16
  strip : AudioStrip
  deriving DecidableEq, BEq

namespace AudioMixerInput

def toValues (c : AudioMixerInput) : FieldValues :=
  [("index", .word c.index), ("source_type", .byte c.strip.sourceType), ("from_media_player", .bool c.strip.fromMediaPlayer),
    ("plug_type", .byte c.strip.plugType), ("mix_option", .byte c.strip.mixOption), ("gain", .float c.strip.gain),
    ("balance", .float c.strip.balance)]

def ofValues (f : FieldValues) : Except Error AudioMixerInput := do
  return {
    index := ← f.getU16 "index"
    strip := {
      sourceType := ← f.getU8 "source_type"
      fromMediaPlayer := ← f.getBool "from_media_player"
      plugType := ← f.getU8 "plug_type"
      mixOption := ← f.getU8 "mix_option"
      gain := ← f.getFloat "gain"
      balance := ← f.getFloat "balance" } }

def editions : Editions :=
  .only ⟨16, [.u16 "index" 0, .u8 "source_type" 2, .bool "from_media_player" 6, .u8 "plug_type" 7, .u8 "mix_option" 8,
    .number "gain" 10 .gain, .number "balance" 12 .balance]⟩

end AudioMixerInput

/-- the master output of the audio mixer -/
structure AudioMaster where
  gain : Number
  balance : Number
  followFadeToBlack : Bool
  deriving DecidableEq, BEq

namespace AudioMaster

def toValues (c : AudioMaster) : FieldValues :=
  [("gain", .float c.gain), ("balance", .float c.balance), ("follow_fade_to_black", .bool c.followFadeToBlack)]

def ofValues (f : FieldValues) : Except Error AudioMaster := do
  return {
    gain := ← f.getFloat "gain"
    balance := ← f.getFloat "balance"
    followFadeToBlack := ← f.getBool "follow_fade_to_black" }

def editions : Editions :=
  .only ⟨8, [.number "gain" 0 .gain, .number "balance" 2 .balance, .bool "follow_fade_to_black" 4]⟩

end AudioMaster

/-- what a media player plays: 1 a still, 2 a clip -/
structure MediaSource where
  sourceType : UInt8
  stillIndex : UInt8
  clipIndex : UInt8
  deriving DecidableEq, Inhabited

/-- the source of a media player -/
structure MediaPlayerSource where
  player : UInt8
  source : MediaSource
  deriving DecidableEq

namespace MediaPlayerSource

def toValues (c : MediaPlayerSource) : FieldValues :=
  [("player", .byte c.player), ("source_type", .byte c.source.sourceType), ("still_index", .byte c.source.stillIndex),
    ("clip_index", .byte c.source.clipIndex)]

def ofValues (f : FieldValues) : Except Error MediaPlayerSource := do
  return {
    player := ← f.getU8 "player"
    source := {
      sourceType := ← f.getU8 "source_type"
      stillIndex := ← f.getU8 "still_index"
      clipIndex := ← f.getU8 "clip_index" } }

def editions : Editions :=
  .only ⟨4, [.u8 "player" 0, .u8 "source_type" 1, .u8 "still_index" 2, .u8 "clip_index" 3]⟩

end MediaPlayerSource

/-- the layout of a multiviewer, and whether its program and preview windows have changed places -/
structure MultiviewerProperties where
  multiviewer : UInt8
  layout : UInt8
  programPreviewSwapped : Bool
  deriving DecidableEq

namespace MultiviewerProperties

def toValues (c : MultiviewerProperties) : FieldValues :=
  [("multiviewer", .byte c.multiviewer), ("layout", .byte c.layout),
    ("program_preview_swapped", .bool c.programPreviewSwapped)]

def ofValues (f : FieldValues) : Except Error MultiviewerProperties := do
  return {
    multiviewer := ← f.getU8 "multiviewer"
    layout := ← f.getU8 "layout"
    programPreviewSwapped := ← f.getBool "program_preview_swapped" }

def editions : Editions := .only ⟨4, [.u8 "multiviewer" 0, .u8 "layout" 1, .bool "program_preview_swapped" 2]⟩

end MultiviewerProperties

/-- the source in a window of a multiviewer; the safe area is reported from 8.0 -/
structure MultiviewerWindow where
  multiviewer : UInt8
  window : UInt8
  source : UInt16
  supportsVuMeter : Bool
  supportsSafeArea : Option Bool
  deriving DecidableEq

namespace MultiviewerWindow

def toValues (c : MultiviewerWindow) : FieldValues :=
  [("multiviewer", .byte c.multiviewer), ("window", .byte c.window), ("source", .word c.source),
    ("supports_vu_meter", .bool c.supportsVuMeter)]
  ++ FieldValues.maybe "supports_safe_area" (c.supportsSafeArea.map .bool)

def ofValues (f : FieldValues) : Except Error MultiviewerWindow := do
  return {
    multiviewer := ← f.getU8 "multiviewer"
    window := ← f.getU8 "window"
    source := ← f.getU16 "source"
    supportsVuMeter := ← f.getBool "supports_vu_meter"
    supportsSafeArea := ← f.getBool? "supports_safe_area" }

/-- the fields every version has -/
def fields : List Field := [.u8 "multiviewer" 0, .u8 "window" 1, .u16 "source" 2, .bool "supports_vu_meter" 4]

def editions : Editions := .changed ⟨8, fields⟩ ⟨8, fields ++ [.bool "supports_safe_area" 5]⟩

end MultiviewerWindow

/-- tally lights of a source: bit 0 for program, bit 1 for preview -/
structure TallyFlags where
  bits : UInt8
  deriving DecidableEq

namespace TallyFlags

/-- the source is on program -/
def program (t : TallyFlags) : Bool := t.bits &&& 1 ≠ 0

/-- the source is on preview -/
def preview (t : TallyFlags) : Bool := t.bits &&& 2 ≠ 0

end TallyFlags

/-- tally lights in the order of the inputs -/
structure TallyByIndex where
  flags : List TallyFlags
  deriving DecidableEq

namespace TallyByIndex

def toValues (c : TallyByIndex) : FieldValues :=
  [("entries", .records (c.flags.map fun t => [("flags", .byte t.bits)]))]

def ofValues (f : FieldValues) : Except Error TallyByIndex := do
  return { flags := ← (← f.getRecords "entries").mapM fun entry => return ⟨← entry.getU8 "flags"⟩ }

def editions : Editions := .only ⟨2, [⟨"entries", 0, .records 1 [Field.flags8 "flags" 0], false⟩]⟩

end TallyByIndex

/-- tally lights by source id -/
structure TallyBySource where
  entries : List (UInt16 × TallyFlags)
  deriving DecidableEq

namespace TallyBySource

def toValues (c : TallyBySource) : FieldValues :=
  [("entries", .records (c.entries.map fun e => [("source", .word e.1), ("flags", .byte e.2.bits)]))]

def ofValues (f : FieldValues) : Except Error TallyBySource := do
  return {
    entries := ← (← f.getRecords "entries").mapM fun entry =>
      return (← entry.getU16 "source", ⟨← entry.getU8 "flags"⟩) }

def editions : Editions := .only ⟨2, [⟨"entries", 0, .records 3 [Field.u16 "source" 0, Field.flags8 "flags" 2], false⟩]⟩

end TallyBySource

end VisionMixer
