/-
What can be asked of a device.

Requests that share their body with a report use the report's type; here are the others. A request that changes some of
several settings carries a mask of those it changes, which follows from the settings that are present.
-/
import VisionMixer.Field.Table

namespace VisionMixer

namespace BlockOnly

/-- a mix-effect block and nothing else -/
def toValues (mixEffect : UInt8) : FieldValues := [("mix_effect", .byte mixEffect)]

/-- the block -/
def ofValues (f : FieldValues) : Except Error UInt8 := f.getU8 "mix_effect"

def editions : Editions := .only ⟨4, [.u8 "mix_effect" 0]⟩

end BlockOnly

/-- put a downstream keyer on or off air -/
structure SetDskOnAir where
  keyer : UInt8
  onAir : Bool
  deriving DecidableEq

namespace SetDskOnAir

def toValues (c : SetDskOnAir) : FieldValues := [("keyer", .byte c.keyer), ("on_air", .bool c.onAir)]

def ofValues (f : FieldValues) : Except Error SetDskOnAir := do
  return { keyer := ← f.getU8 "keyer", onAir := ← f.getBool "on_air" }

def editions : Editions := .only ⟨4, [.u8 "keyer" 0, .bool "on_air" 1]⟩

end SetDskOnAir

/-- change the fill of a downstream keyer -/
structure SetDskFill where
  keyer : UInt8
  source : UInt16
  deriving DecidableEq

namespace SetDskFill

def toValues (c : SetDskFill) : FieldValues := [("keyer", .byte c.keyer), ("source", .word c.source)]

def ofValues (f : FieldValues) : Except Error SetDskFill := do
  return { keyer := ← f.getU8 "keyer", source := ← f.getU16 "source" }

def editions : Editions := .only ⟨4, [.u8 "keyer" 0, .u16 "source" 2]⟩

end SetDskFill

/-- change some settings of an audio strip -/
structure SetAudioMixerInput where
  index : UInt16
  mixOption : Option UInt8
  gain : Option Number
  balance : Option Number
  deriving DecidableEq, BEq

namespace SetAudioMixerInput

/-- bit 0 for the mix option, bit 1 for the gain, bit 2 for the balance -/
def mask (c : SetAudioMixerInput) : UInt8 :=
  (if c.mixOption.isSome then 1 else 0) ||| (if c.gain.isSome then 2 else 0) ||| (if c.balance.isSome then 4 else 0)

def toValues (c : SetAudioMixerInput) : FieldValues :=
  [("mask", .byte c.mask), ("index", .word c.index), ("mix_option", .byte (c.mixOption.getD 0)),
    ("gain", .float (c.gain.getD 0)), ("balance", .float (c.balance.getD 0))]

def ofValues (f : FieldValues) : Except Error SetAudioMixerInput := do
  let mask ← f.getU8 "mask"
  return {
    index := ← f.getU16 "index"
    mixOption := ← if mask &&& 1 ≠ 0 then some <$> f.getU8 "mix_option" else .ok none
    gain := ← if mask &&& 2 ≠ 0 then some <$> f.getFloat "gain" else .ok none
    balance := ← if mask &&& 4 ≠ 0 then some <$> f.getFloat "balance" else .ok none }

def editions : Editions :=
  .only ⟨12, [.flags8 "mask" 0, .u16 "index" 2, .u8 "mix_option" 4, .number "gain" 6 .gain, .number "balance" 8 .balance]⟩

end SetAudioMixerInput

/-- change some properties of a multiviewer -/
structure SetMultiviewerProperties where
  multiviewer : UInt8
  layout : Option UInt8
  programPreviewSwapped : Option Bool
  deriving DecidableEq

namespace SetMultiviewerProperties

/-- bit 0 for the layout, bit 1 for the swap -/
def mask (c : SetMultiviewerProperties) : UInt8 :=
  (if c.layout.isSome then 1 else 0) ||| (if c.programPreviewSwapped.isSome then 2 else 0)

def toValues (c : SetMultiviewerProperties) : FieldValues :=
  [("mask", .byte c.mask), ("multiviewer", .byte c.multiviewer), ("layout", .byte (c.layout.getD 0)),
    ("program_preview_swapped", .bool (c.programPreviewSwapped.getD false))]

def ofValues (f : FieldValues) : Except Error SetMultiviewerProperties := do
  let mask ← f.getU8 "mask"
  return {
    multiviewer := ← f.getU8 "multiviewer"
    layout := ← if mask &&& 1 ≠ 0 then some <$> f.getU8 "layout" else .ok none
    programPreviewSwapped := ←
      if mask &&& 2 ≠ 0 then some <$> f.getBool "program_preview_swapped" else .ok none }

def editions : Editions :=
  .only ⟨4, [.flags8 "mask" 0, .u8 "multiviewer" 1, .u8 "layout" 2, .bool "program_preview_swapped" 3]⟩

end SetMultiviewerProperties

/-- what to do with a macro -/
inductive MacroVerb where
  | run
  | stop
  | stopRecording
  | insertUserWait
  | continue
  | delete
  deriving DecidableEq

namespace MacroVerb

/-- the verbs in the order of their codes -/
def all : List MacroVerb := [.run, .stop, .stopRecording, .insertUserWait, .continue, .delete]

/-- the wire code of a verb -/
def code : MacroVerb → UInt8
  | .run => 0
  | .stop => 1
  | .stopRecording => 2
  | .insertUserWait => 3
  | .continue => 4
  | .delete => 5

/-- the verb of a code -/
def ofCode (code : UInt8) : Except Error MacroVerb :=
  match all[code.toNat]? with
  | some verb => .ok verb
  | none => .error (.framing (.unknownMacroAction code))

end MacroVerb

/-- run, stop or edit a macro; verbs that need no macro expect the index 65535 -/
structure MacroAction where
  index : UInt16
  verb : MacroVerb
  deriving DecidableEq

namespace MacroAction

def toValues (c : MacroAction) : FieldValues := [("index", .word c.index), ("action", .byte c.verb.code)]

def ofValues (f : FieldValues) : Except Error MacroAction := do
  return { index := ← f.getU16 "index", verb := ← MacroVerb.ofCode (← f.getU8 "action") }

def editions : Editions := .only ⟨4, [.u16 "index" 0, .u8 "action" 2]⟩

end MacroAction

end VisionMixer
