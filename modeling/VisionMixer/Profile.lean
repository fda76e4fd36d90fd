/-
What a device can do, from all it said during the handshake.

A device never states most of its abilities. A family of commands shows an optional feature, and counts are the numbers
of different ids mentioned, unless the device gave a count of its own. Counts are kept in the width of the ids they
count, so they wrap where every id is in use.
-/
import VisionMixer.Command.Basic
import VisionMixer.Device.Stored

namespace VisionMixer

namespace Command

/-- the upstream keyer a report is about -/
def upstreamKeyer? : Command → Option (UInt8 × UInt8)
  | .keyerOnAir c => some (c.mixEffect, c.keyer)
  | .keyerBase c => some (c.mixEffect, c.keyer)
  | .keyerLuma c => some (c.mixEffect, c.keyer)
  | .keyerChroma c => some (c.mixEffect, c.keyer)
  | _ => none

/-- the mix-effect block a report is about -/
def mixEffect? : Command → Option UInt8
  | .mixEffectConfig c => some c.mixEffect
  | .programInput c => some c.mixEffect
  | .previewInput c => some c.mixEffect
  | .transitionProperties c => some c.mixEffect
  | .transitionPosition c => some c.mixEffect
  | .transitionMix c => some c.mixEffect
  | .transitionDip c => some c.mixEffect
  | .transitionWipe c => some c.mixEffect
  | .fadeToBlackRate c => some c.mixEffect
  | .fadeToBlackState c => some c.mixEffect
  | c => c.upstreamKeyer?.map (·.1)

/-- the downstream keyer a report is about -/
def downstreamKeyer? : Command → Option UInt8
  | .dskSources c => some c.keyer
  | .dskProperties c => some c.keyer
  | .dskState c => some c.keyer
  | _ => none

/-- the multiviewer a report is about -/
def multiviewer? : Command → Option UInt8
  | .multiviewerProperties c => some c.multiviewer
  | .multiviewerWindow c => some c.multiviewer
  | _ => none

/-- the super-source box a report is about, on whichever super source it is -/
def box? : Command → Option UInt8
  | .superSourceBox c => some c.index
  | _ => none

/-- the media player a report is about -/
def mediaPlayer? : Command → Option UInt8
  | .mediaPlayerSource c => some c.player
  | _ => none

/-- the macro slot a report is about -/
def macroSlot? : Command → Option UInt16
  | .macroProperties c => some c.index
  | _ => none

/-- the input a report is about -/
def input? : Command → Option UInt16
  | .inputProperties c => some c.id
  | _ => none

/-- the record of an unknown tag -/
def unrecognized? : Command → Option Record
  | .unrecognized r => some r
  | _ => none

end Command

/-- the audio mixer of a device -/
inductive AudioMixerKind where
  | none
  | classic
  | fairlight
  deriving DecidableEq, Inhabited

namespace AudioMixerKind

/-- the name of a kind -/
def name : AudioMixerKind → String
  | .none => "None"
  | .classic => "Classic"
  | .fairlight => "Fairlight"

/-- every kind -/
def all : List AudioMixerKind := [.none, .classic, .fairlight]

/-- tags that only a Fairlight mixer sends -/
def fairlightTags : List Tag :=
  [.ofChars '_' 'F' 'A' 'C', .ofChars 'F' 'A' 'S' 'P', .ofChars 'F' 'A' 'M' 'P', .ofChars 'F' 'A' 'I' 'P']

/-- the kind of mixer a command shows, if it shows one -/
def shownBy? : Command → Option AudioMixerKind
  | .audioMixerConfig _ => some .classic
  | .audioMixerInput _ => some .classic
  | .audioMaster _ => some .classic
  | .unrecognized r => if r.tag ∈ fairlightTags then some .fairlight else Option.none
  | _ => Option.none

/-- the kind a burst shows; one sign of a Fairlight mixer is enough -/
def ofBurst (burst : List Command) : AudioMixerKind :=
  let shown := burst.filterMap shownBy?
  if .fairlight ∈ shown then .fairlight else if .classic ∈ shown then .classic else .none

instance : Stored AudioMixerKind where
  store k := .text k.name
  load? d := d.plainAlternative?.bind fun name => all.find? (·.name = name)

end AudioMixerKind

/-- what a device can do -/
structure Profile where
  productName : Option String
  model : Option UInt8
  protocolVersion : Option Version
  mixEffects : UInt8
  /-- upstream keyers of each block -/
  keyers : IdMap UInt8 UInt8
  downstreamKeyers : UInt8
  multiviewers : UInt8
  superSource : Bool
  superSourceBoxes : UInt8
  audioMixer : AudioMixerKind
  mediaPlayers : UInt8
  stills : UInt8
  clips : UInt8
  macros : UInt16
  inputs : UInt16
  topology : Option Topology
  /-- unknown tags in words, each once, in the order of their first mention -/
  unrecognized : List String
  deriving DecidableEq, Inhabited

namespace Profile

/-- the last thing of a kind that a burst says -/
def last? {α : Type} (burst : List Command) (said : Command → Option α) : Option α := (burst.filterMap said).getLast?

/-- the different ids of a kind that a burst mentions, in order -/
def mentioned {κ : Type} [Id κ] (burst : List Command) (id : Command → Option κ) : List κ :=
  IdMap.distinct (burst.filterMap id)

/-- the number of different ids of a kind that a burst mentions -/
def count {κ : Type} [Id κ] (burst : List Command) (id : Command → Option κ) : Nat := (mentioned burst id).length

/-- the keyer a report is about, if it is on this block -/
def keyerOn? (block : UInt8) (c : Command) : Option UInt8 :=
  c.upstreamKeyer?.bind fun k => if k.1 = block then some k.2 else none

/-- the keyers the device counts on a block -/
def configuredOn? (block : UInt8) : Command → Option UInt8
  | .mixEffectConfig c => if c.mixEffect = block then some c.keyers else none
  | _ => none

/-- the upstream keyers of a block -/
def keyersOn (burst : List Command) (block : UInt8) : UInt8 :=
  (last? burst (configuredOn? block)).getD (UInt8.ofNat (count burst (keyerOn? block)))

/-- every element of a list once, where it stands first -/
def firsts (items : List String) : List String := items.foldl (fun seen s => if s ∈ seen then seen else seen ++ [s]) []

/-- the profile of a device after a burst of commands -/
def ofBurst (burst : List Command) : Profile :=
  let blocks := mentioned burst Command.mixEffect?
  let topology := last? burst fun | .topology c => some c | _ => none
  let pool := last? burst fun | .mediaPool c => some c | _ => none
  let viewers := last? burst fun | .multiviewerConfig c => some c.count | _ => none
  let boxes := last? burst fun | .superSourceConfig boxes => some boxes | _ => none
  let slots := last? burst fun | .macroPool slots => some slots | _ => none
  { productName := last? burst fun | .product c => some c.name | _ => none
    model := last? burst fun | .product c => c.model | _ => none
    protocolVersion := last? burst fun | .version v => some v | _ => none
    mixEffects := UInt8.ofNat blocks.length
    keyers := .ofList (blocks.map fun block => (block, keyersOn burst block))
    downstreamKeyers := UInt8.ofNat (count burst Command.downstreamKeyer?)
    multiviewers := max (UInt8.ofNat (count burst Command.multiviewer?)) (viewers.getD 0)
    superSource := burst.any fun | .superSourceArt _ => true | _ => false
    superSourceBoxes := boxes.getD (UInt8.ofNat (count burst Command.box?))
    audioMixer := .ofBurst burst
    mediaPlayers := max (UInt8.ofNat (count burst Command.mediaPlayer?)) ((topology.map (·.mediaPlayers)).getD 0)
    stills := (pool.map (·.stills)).getD 0
    clips := (pool.map (·.clips)).getD 0
    macros := (slots.map UInt8.toUInt16).getD (UInt16.ofNat (count burst Command.macroSlot?))
    inputs := UInt16.ofNat (count burst Command.input?)
    topology
    unrecognized := firsts ((burst.filterMap Command.unrecognized?).map (·.tag.text)) }

/-- the device has a mix-effect block of this id -/
def hasMixEffect (p : Profile) (block : UInt8) : Bool := block < p.mixEffects

open Document (ofRecord record?)
open Stored (required ifPresent)

/-- the members of its document -/
def members : List String :=
  ["productName", "model", "protocolVersion", "mixEffects", "keyers", "downstreamKeyers", "multiviewers", "superSource",
    "superSourceBoxes", "audioMixer", "mediaPlayers", "stills", "clips", "macros", "inputs", "topology", "unrecognized"]

instance : Stored Profile where
  store p := ofRecord members
    [store p.productName, store p.model, store p.protocolVersion, store p.mixEffects, store p.keyers,
      store p.downstreamKeyers, store p.multiviewers, store p.superSource, store p.superSourceBoxes, store p.audioMixer,
      store p.mediaPlayers, store p.stills, store p.clips, store p.macros, store p.inputs, store p.topology,
      store p.unrecognized]
  load? d := do
    let [productName, model, protocolVersion, mixEffects, keyers, downstreamKeyers, multiviewers, superSource,
      superSourceBoxes, audioMixer, mediaPlayers, stills, clips, macros, inputs, topology, unrecognized] ←
      record? members d | none
    return {
      productName := ← ifPresent productName
      model := ← ifPresent model
      protocolVersion := ← ifPresent protocolVersion
      mixEffects := ← required mixEffects
      keyers := ← required keyers
      downstreamKeyers := ← required downstreamKeyers
      multiviewers := ← required multiviewers
      superSource := ← required superSource
      superSourceBoxes := ← required superSourceBoxes
      audioMixer := ← required audioMixer
      mediaPlayers := ← required mediaPlayers
      stills := ← required stills
      clips := ← required clips
      macros := ← required macros
      inputs := ← required inputs
      topology := ← ifPresent topology
      unrecognized := ← required unrecognized }

end Profile

end VisionMixer
