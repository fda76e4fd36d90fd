/-
What a device says about itself during the handshake: its product, its resources, its inputs and its video mode.

Each kind has its named values (`toValues`), the way back (`ofValues`) and the editions of its body. Values that arrived
with firmware 8.0 are optional.
-/
import VisionMixer.Field.Table
import VisionMixer.Video

namespace VisionMixer

namespace Version

/-- the two halves -/
def toValues (v : Version) : FieldValues := [("major", .word v.major), ("minor", .word v.minor)]

/-- a version from its halves -/
def ofValues (f : FieldValues) : Except Error Version := do
  return .ofParts (← f.getU16 "major") (← f.getU16 "minor")

/-- the version the device speaks -/
def editions : Editions := .only ⟨4, [.u16 "major" 0, .u16 "minor" 2]⟩

end Version

/-- the product, and its model from 8.0 -/
structure Product where
  name : String
  model : Option UInt8
  deriving DecidableEq

namespace Product

def toValues (c : Product) : FieldValues := [("name", .text c.name)] ++ FieldValues.maybe "model" (c.model.map .byte)

def ofValues (f : FieldValues) : Except Error Product := do
  return { name := ← f.getText "name", model := ← f.getU8? "model" }

def editions : Editions := .changed ⟨44, [.ascii "name" 0 44]⟩ ⟨48, [.ascii "name" 0 44, .u8 "model" 44]⟩

end Product

/-- resource counts -/
structure Topology where
  mixEffects : UInt8
  sources : UInt8
  downstreamKeyers : UInt8
  auxiliaries : UInt8
  mixMinusOutputs : UInt8
  mediaPlayers : UInt8
  serialPorts : UInt8
  hyperdecks : UInt8
  dves : UInt8
  stingers : UInt8
  superSources : UInt8
  /-- from 8.0, as all that follow -/
  multiviewers : Option UInt8
  talkbackChannels : Option UInt8
  cameraControl : Option Bool
  advancedChromaKeyers : Option Bool
  deriving DecidableEq

namespace Topology

def toValues (c : Topology) : FieldValues :=
  [("mix_effects", .byte c.mixEffects), ("sources", .byte c.sources), ("downstream_keyers", .byte c.downstreamKeyers),
    ("auxiliaries", .byte c.auxiliaries), ("mix_minus_outputs", .byte c.mixMinusOutputs),
    ("media_players", .byte c.mediaPlayers), ("serial_ports", .byte c.serialPorts), ("hyperdecks", .byte c.hyperdecks),
    ("dves", .byte c.dves), ("stingers", .byte c.stingers), ("super_sources", .byte c.superSources)]
  ++ FieldValues.maybe "multiviewers" (c.multiviewers.map .byte)
  ++ FieldValues.maybe "talkback_channels" (c.talkbackChannels.map .byte)
  ++ FieldValues.maybe "camera_control" (c.cameraControl.map .bool)
  ++ FieldValues.maybe "advanced_chroma_keyers" (c.advancedChromaKeyers.map .bool)

def ofValues (f : FieldValues) : Except Error Topology := do
  return {
    mixEffects := ← f.getU8 "mix_effects"
    sources := ← f.getU8 "sources"
    downstreamKeyers := ← f.getU8 "downstream_keyers"
    auxiliaries := ← f.getU8 "auxiliaries"
    mixMinusOutputs := ← f.getU8 "mix_minus_outputs"
    mediaPlayers := ← f.getU8 "media_players"
    serialPorts := ← f.getU8 "serial_ports"
    hyperdecks := ← f.getU8 "hyperdecks"
    dves := ← f.getU8 "dves"
    stingers := ← f.getU8 "stingers"
    superSources := ← f.getU8 "super_sources"
    multiviewers := ← f.getU8? "multiviewers"
    talkbackChannels := ← f.getU8? "talkback_channels"
    cameraControl := ← f.getBool? "camera_control"
    advancedChromaKeyers := ← f.getBool? "advanced_chroma_keyers" }

/-- the counts every version has -/
def counts : List Field :=
  [.u8 "mix_effects" 0, .u8 "sources" 1, .u8 "downstream_keyers" 2, .u8 "auxiliaries" 3, .u8 "mix_minus_outputs" 4,
    .u8 "media_players" 5, .u8 "serial_ports" 6, .u8 "hyperdecks" 7, .u8 "dves" 8, .u8 "stingers" 9, .u8 "super_sources" 10]

def editions : Editions :=
  .changed ⟨12, counts⟩
    ⟨20, counts ++ [.u8 "multiviewers" 11, .u8 "talkback_channels" 12, .bool "camera_control" 16,
      .bool "advanced_chroma_keyers" 17]⟩

end Topology

/-- upstream keyers of one mix-effect block -/
structure MixEffectConfig where
  mixEffect : UInt8
  keyers : UInt8
  deriving DecidableEq

namespace MixEffectConfig

def toValues (c : MixEffectConfig) : FieldValues := [("mix_effect", .byte c.mixEffect), ("keyers", .byte c.keyers)]

def ofValues (f : FieldValues) : Except Error MixEffectConfig := do
  return { mixEffect := ← f.getU8 "mix_effect", keyers := ← f.getU8 "keyers" }

def editions : Editions := .only ⟨4, [.u8 "mix_effect" 0, .u8 "keyers" 1]⟩

end MixEffectConfig

/-- capacity of the media pool -/
structure MediaPool where
  stills : UInt8
  clips : UInt8
  deriving DecidableEq

namespace MediaPool

def toValues (c : MediaPool) : FieldValues := [("stills", .byte c.stills), ("clips", .byte c.clips)]

def ofValues (f : FieldValues) : Except Error MediaPool := do
  return { stills := ← f.getU8 "stills", clips := ← f.getU8 "clips" }

def editions : Editions := .only ⟨4, [.u8 "stills" 0, .u8 "clips" 1]⟩

end MediaPool

/-- number of multiviewers, and from 8.0 what they can do -/
structure MultiviewerConfig where
  count : UInt8
  windows : UInt8
  canRouteInputs : Option Bool
  canSwapPreviewProgram : Option Bool
  canToggleSafeArea : Option Bool
  deriving DecidableEq

namespace MultiviewerConfig

def toValues (c : MultiviewerConfig) : FieldValues :=
  [("count", .byte c.count), ("windows", .byte c.windows)]
  ++ FieldValues.maybe "can_route_inputs" (c.canRouteInputs.map .bool)
  ++ FieldValues.maybe "can_swap_preview_program" (c.canSwapPreviewProgram.map .bool)
  ++ FieldValues.maybe "can_toggle_safe_area" (c.canToggleSafeArea.map .bool)

def ofValues (f : FieldValues) : Except Error MultiviewerConfig := do
  return {
    count := ← f.getU8 "count"
    windows := ← f.getU8 "windows"
    canRouteInputs := ← f.getBool? "can_route_inputs"
    canSwapPreviewProgram := ← f.getBool? "can_swap_preview_program"
    canToggleSafeArea := ← f.getBool? "can_toggle_safe_area" }

def editions : Editions :=
  .changed ⟨4, [.u8 "count" 0, .u8 "windows" 1]⟩
    ⟨8, [.u8 "count" 0, .u8 "windows" 1, .bool "can_route_inputs" 2, .bool "can_swap_preview_program" 4,
      .bool "can_toggle_safe_area" 5]⟩

end MultiviewerConfig

/-- dimensions of the classic audio mixer -/
structure AudioMixerConfig where
  inputs : UInt8
  monitors : UInt8
  headphones : UInt8
  deriving DecidableEq

namespace AudioMixerConfig

def toValues (c : AudioMixerConfig) : FieldValues :=
  [("inputs", .byte c.inputs), ("monitors", .byte c.monitors), ("headphones", .byte c.headphones)]

def ofValues (f : FieldValues) : Except Error AudioMixerConfig := do
  return { inputs := ← f.getU8 "inputs", monitors := ← f.getU8 "monitors", headphones := ← f.getU8 "headphones" }

def editions : Editions := .only ⟨4, [.u8 "inputs" 0, .u8 "monitors" 1, .u8 "headphones" 2]⟩

end AudioMixerConfig

/-- names of an input, its ports, and where it may be routed -/
structure Input where
  longName : String
  shortName : String
  areNamesDefault : Bool
  availableExternalPorts : UInt16
  externalPortType : UInt16
  internalPortType : UInt8
  /-- bits: auxiliary, multiviewer, super-source art, super-source box, key source -/
  sourceAvailability : UInt8
  /-- one bit for each mix-effect block -/
  mixEffectAvailability : UInt8
  deriving DecidableEq

/-- the properties of an input -/
structure InputProperties where
  id : UInt16
  input : Input
  deriving DecidableEq

namespace InputProperties

def toValues (c : InputProperties) : FieldValues :=
  [("id", .word c.id), ("long_name", .text c.input.longName), ("short_name", .text c.input.shortName),
    ("are_names_default", .bool c.input.areNamesDefault),
    ("available_external_ports", .word c.input.availableExternalPorts),
    ("external_port_type", .word c.input.externalPortType), ("internal_port_type", .byte c.input.internalPortType),
    ("source_availability", .byte c.input.sourceAvailability),
    ("mix_effect_availability", .byte c.input.mixEffectAvailability)]

def ofValues (f : FieldValues) : Except Error InputProperties := do
  return {
    id := ← f.getU16 "id"
    input := {
      longName := ← f.getText "long_name"
      shortName := ← f.getText "short_name"
      areNamesDefault := ← f.getBool "are_names_default"
      availableExternalPorts := ← f.getU16 "available_external_ports"
      externalPortType := ← f.getU16 "external_port_type"
      internalPortType := ← f.getU8 "internal_port_type"
      sourceAvailability := ← f.getU8 "source_availability"
      mixEffectAvailability := ← f.getU8 "mix_effect_availability" } }

def editions : Editions :=
  .only ⟨36, [.u16 "id" 0, .ascii "long_name" 2 20, .ascii "short_name" 22 4, .bool "are_names_default" 26,
    .flags16 "available_external_ports" 28, .u16 "external_port_type" 30, .u8 "internal_port_type" 32,
    .flags8 "source_availability" 34, .flags8 "mix_effect_availability" 35]⟩

end InputProperties

namespace VideoMode

def toValues (m : VideoMode) : FieldValues := [("mode", .byte m.code)]

def ofValues (f : FieldValues) : Except Error VideoMode := do return ⟨← f.getU8 "mode"⟩

def editions : Editions := .only ⟨4, [.u8 "mode" 0]⟩

end VideoMode

end VisionMixer
