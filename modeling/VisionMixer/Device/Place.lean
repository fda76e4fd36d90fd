/-
Where the parts of the tree are: the path of each kind of entry, as it stands in the tree's document.
-/
import VisionMixer.StatePath

namespace VisionMixer.Place

/-- a part of the description of the device -/
def info (key : String) : StatePath := (StatePath.root "info").key key

/-- the video mode -/
def videoMode : StatePath := (StatePath.root "video").key "mode"

/-- a mix-effect block -/
def mixEffect (block : UInt8) : StatePath := ((StatePath.root "video").key "mixEffects").index block

/-- the transition of a block -/
def transition (block : UInt8) : StatePath := (mixEffect block).key "transition"

/-- the fade to black of a block -/
def fadeToBlack (block : UInt8) : StatePath := (mixEffect block).key "fadeToBlack"

/-- a keyer on a block -/
def upstreamKeyer (block keyer : UInt8) : StatePath := ((mixEffect block).key "upstreamKeyers").index keyer

/-- a downstream keyer -/
def downstreamKeyer (keyer : UInt8) : StatePath := ((StatePath.root "video").key "downstreamKeyers").index keyer

/-- a super source -/
def superSource (index : UInt8) : StatePath := ((StatePath.root "video").key "superSources").index index

/-- a box of a super source -/
def box (index box : UInt8) : StatePath := ((superSource index).key "boxes").index box

/-- an input -/
def input (id : UInt16) : StatePath := (StatePath.root "inputs").index id

/-- a media player -/
def mediaPlayer (player : UInt8) : StatePath := ((StatePath.root "media").key "players").index player

/-- the master of the audio mixer -/
def audioMaster : StatePath := (StatePath.root "audio").key "master"

/-- a strip of the audio mixer -/
def audioInput (index : UInt16) : StatePath := ((StatePath.root "audio").key "inputs").index index

/-- a multiviewer -/
def multiviewer (index : UInt8) : StatePath := ((StatePath.root "settings").key "multiViewers").index index

/-- a window of a multiviewer -/
def window (index window : UInt8) : StatePath := ((multiviewer index).key "windows").index window

/-- a slot of the macro pool -/
def macroSlot (index : UInt16) : StatePath := ((StatePath.root "macros").key "slots").index index

/-- the macro player -/
def macroPlayer : StatePath := (StatePath.root "macros").key "player"

/-- a list of tally lights -/
def tally (key : String) : StatePath := (StatePath.root "tally").key key

end VisionMixer.Place
