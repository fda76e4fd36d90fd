/-
The tree in which the state of a device is kept.

Every map is keyed by the id the device uses on the wire, so an entry stays where it is when the device is reconfigured.
A new entry is the default of its type: zeros, empty texts and maps, nothing known.
-/
import VisionMixer.Command.Description
import VisionMixer.Command.Bus
import VisionMixer.Command.Keying
import VisionMixer.Command.Facility
import VisionMixer.Command.Macros
import VisionMixer.IdMap

namespace VisionMixer

/-- what the device said about itself during the handshake -/
structure DeviceInfo where
  apiVersion : Option Version
  productName : Option String
  model : Option UInt8
  topology : Option Topology
  /-- upstream keyers of each mix-effect block -/
  mixEffectKeyers : IdMap UInt8 UInt8
  mediaPool : Option MediaPool
  multiviewers : Option MultiviewerConfig
  superSourceBoxes : Option UInt8
  audioMixer : Option AudioMixerConfig
  macroPool : Option UInt8
  lastWarning : Option String
  deriving DecidableEq, Inhabited

/-- the transition of a mix-effect block -/
structure Transition where
  style : TransitionStyle
  progress : TransitionProgress
  mixRate : UInt8
  dip : DipSettings
  wipe : WipeSettings
  deriving DecidableEq, Inhabited

/-- the fade to black of a mix-effect block -/
structure FadeToBlack where
  rate : UInt8
  progress : FadeProgress
  deriving DecidableEq, Inhabited

/-- a keyer on a mix-effect block -/
structure UpstreamKeyer where
  onAir : Bool
  keyType : UInt8
  canFly : Bool
  flyEnabled : Bool
  fillSource : UInt16
  keySource : UInt16
  maskEnabled : Bool
  mask : MaskRect
  luma : LumaSettings
  chroma : ChromaSettings
  deriving DecidableEq, Inhabited

/-- a mix-effect block; only some firmware reports whether preview is live -/
structure MixEffect where
  program : UInt16
  preview : UInt16
  previewLive : Option Bool
  transition : Transition
  fadeToBlack : FadeToBlack
  keyers : IdMap UInt8 UpstreamKeyer
  deriving DecidableEq, Inhabited

/-- a keyer after all mix-effect blocks -/
structure DownstreamKeyer where
  fillSource : UInt16
  keySource : UInt16
  tie : Bool
  rate : UInt8
  luma : LumaSettings
  maskEnabled : Bool
  mask : MaskRect
  progress : DskProgress
  deriving DecidableEq, Inhabited

/-- boxes over art -/
structure SuperSource where
  fillSource : UInt16
  keySource : UInt16
  artOption : UInt8
  luma : LumaSettings
  border : BorderSettings
  boxes : IdMap UInt8 BoxSettings
  deriving DecidableEq, Inhabited

/-- all that mixes and keys video -/
structure VideoTree where
  mode : Option VideoMode
  mixEffects : IdMap UInt8 MixEffect
  downstreamKeyers : IdMap UInt8 DownstreamKeyer
  superSources : IdMap UInt8 SuperSource
  deriving DecidableEq, Inhabited

/-- the audio mixer -/
structure AudioTree where
  master : Option AudioMaster
  inputs : IdMap UInt16 AudioStrip
  deriving DecidableEq, Inhabited

/-- a window of a multiviewer -/
structure Window where
  source : UInt16
  supportsVuMeter : Bool
  supportsSafeArea : Option Bool
  deriving DecidableEq, Inhabited

/-- a multiviewer -/
structure Multiviewer where
  layout : UInt8
  programPreviewSwapped : Bool
  windows : IdMap UInt8 Window
  deriving DecidableEq, Inhabited

/-- the macro that plays, if one does -/
structure MacroPlayer where
  isRunning : Bool
  isWaiting : Bool
  loopEnabled : Bool
  index : Option UInt16
  deriving DecidableEq, Inhabited

/-- the macro pool and its player -/
structure MacroTree where
  slots : IdMap UInt16 MacroSlot
  player : MacroPlayer
  deriving DecidableEq, Inhabited

/-- the tally lights, in the order of the inputs and by source -/
structure TallyTree where
  byIndex : List TallyFlags
  bySource : IdMap UInt16 TallyFlags
  deriving DecidableEq, Inhabited

/-- the state of one device -/
structure DeviceTree where
  info : DeviceInfo
  video : VideoTree
  inputs : IdMap UInt16 Input
  players : IdMap UInt8 MediaSource
  audio : AudioTree
  multiviewers : IdMap UInt8 Multiviewer
  macros : MacroTree
  tally : TallyTree
  deriving DecidableEq, Inhabited

namespace DeviceTree

/-- nothing known -/
def empty : DeviceTree := default

/-- everything forgotten, for a new connection -/
def clear (_ : DeviceTree) : DeviceTree := empty

end DeviceTree

end VisionMixer
