/-
The profile as it builds up.

The burst comes in one command at a time, and a `Builder` keeps what it has shown so far: the last thing said of each
kind, the ids mentioned as sets, and the unknown tags. `observe` takes one more command in, and `finish` draws the profile
up. `Holds` says what a builder holds of a burst, in the words in which the profile of a whole burst is defined; one more
command keeps it (`Holds.observe`), so a builder that has seen a burst finishes with the profile of it
(`finish_ofBurst`).
-/
import VisionMixer.Profile
import VisionMixer.Proofs.IdMap

namespace VisionMixer

/-! ### What a command says -/

namespace Command

/-- the name of the device -/
def productName? : Command → Option String
  | .product c => some c.name
  | _ => none

/-- the model of the device -/
def model? : Command → Option UInt8
  | .product c => c.model
  | _ => none

/-- the version of the protocol -/
def version? : Command → Option Version
  | .version v => some v
  | _ => none

/-- the counts of the topology -/
def topology? : Command → Option Topology
  | .topology c => some c
  | _ => none

/-- the size of the media pool -/
def mediaPool? : Command → Option MediaPool
  | .mediaPool c => some c
  | _ => none

/-- the upstream keyers that the device counts on a block -/
def keyerCount? : Command → Option (UInt8 × UInt8)
  | .mixEffectConfig c => some (c.mixEffect, c.keyers)
  | _ => none

/-- the multiviewers that the device counts -/
def multiviewerCount? : Command → Option UInt8
  | .multiviewerConfig c => some c.count
  | _ => none

/-- the boxes that the device counts on a super source -/
def boxCount? : Command → Option UInt8
  | .superSourceConfig boxes => some boxes
  | _ => none

/-- the slots that the device counts in the macro pool -/
def slotCount? : Command → Option UInt8
  | .macroPool slots => some slots
  | _ => none

/-- the command is about the art of a super source -/
def isArt : Command → Bool
  | .superSourceArt _ => true
  | _ => false

end Command

namespace Profile

/-- what a burst has shown so far -/
structure Builder where
  productName : Option String := none
  model : Option UInt8 := none
  protocolVersion : Option Version := none
  topology : Option Topology := none
  mixEffects : IdMap UInt8 Unit := ∅
  configuredKeyers : IdMap UInt8 UInt8 := ∅
  seenKeyers : IdMap UInt8 (IdMap UInt8 Unit) := ∅
  downstreamKeyers : IdMap UInt8 Unit := ∅
  multiviewers : IdMap UInt8 Unit := ∅
  multiviewerCount : Option UInt8 := none
  superSource : Bool := false
  configuredBoxes : Option UInt8 := none
  seenBoxes : IdMap UInt8 Unit := ∅
  classicAudio : Bool := false
  fairlightAudio : Bool := false
  mediaPlayers : IdMap UInt8 Unit := ∅
  stills : UInt8 := 0
  clips : UInt8 := 0
  macroCount : Option UInt8 := none
  macros : IdMap UInt16 Unit := ∅
  inputs : IdMap UInt16 Unit := ∅
  unrecognized : List String := []

namespace Builder

variable {b : Builder} {burst : List Command} {c : Command}

/-- a block has been mentioned -/
def mixEffect (b : Builder) (block : UInt8) : Builder := { b with mixEffects := b.mixEffects.insert block () }

/-- an upstream keyer has been mentioned, and with it its block -/
def keyer (b : Builder) (block keyer : UInt8) : Builder :=
  let seen := (b.seenKeyers.get? block).getD ∅
  { b.mixEffect block with seenKeyers := b.seenKeyers.insert block (seen.insert keyer ()) }

/-- a downstream keyer has been mentioned -/
def downstreamKeyer (b : Builder) (keyer : UInt8) : Builder :=
  { b with downstreamKeyers := b.downstreamKeyers.insert keyer () }

/-- a multiviewer has been mentioned -/
def multiviewer (b : Builder) (index : UInt8) : Builder := { b with multiviewers := b.multiviewers.insert index () }

/-- a tag that is not known; each is kept once -/
def unknown (b : Builder) (tag : Tag) : Builder :=
  { b with
    fairlightAudio := tag ∈ AudioMixerKind.fairlightTags || b.fairlightAudio
    unrecognized := if tag.text ∈ b.unrecognized then b.unrecognized else b.unrecognized ++ [tag.text] }

/-- the builder after the next command of the burst -/
def observe (b : Builder) : Command → Builder
  | .version v => { b with protocolVersion := some v }
  | .product c => { b with productName := some c.name, model := c.model.or b.model }
  | .topology c => { b with topology := some c }
  | .mixEffectConfig c =>
    { b.mixEffect c.mixEffect with configuredKeyers := b.configuredKeyers.insert c.mixEffect c.keyers }
  | .mediaPool c => { b with stills := c.stills, clips := c.clips }
  | .multiviewerConfig c => { b with multiviewerCount := some c.count }
  | .superSourceConfig boxes => { b with configuredBoxes := some boxes }
  | .audioMixerConfig _ | .audioMixerInput _ | .audioMaster _ => { b with classicAudio := true }
  | .macroPool slots => { b with macroCount := some slots }
  | .inputProperties c => { b with inputs := b.inputs.insert c.id () }
  | .programInput c => b.mixEffect c.mixEffect
  | .previewInput c => b.mixEffect c.mixEffect
  | .transitionProperties c => b.mixEffect c.mixEffect
  | .transitionPosition c => b.mixEffect c.mixEffect
  | .transitionMix c => b.mixEffect c.mixEffect
  | .transitionDip c => b.mixEffect c.mixEffect
  | .transitionWipe c => b.mixEffect c.mixEffect
  | .fadeToBlackRate c => b.mixEffect c.mixEffect
  | .fadeToBlackState c => b.mixEffect c.mixEffect
  | .keyerOnAir c => b.keyer c.mixEffect c.keyer
  | .keyerBase c => b.keyer c.mixEffect c.keyer
  | .keyerLuma c => b.keyer c.mixEffect c.keyer
  | .keyerChroma c => b.keyer c.mixEffect c.keyer
  | .dskSources c => b.downstreamKeyer c.keyer
  | .dskProperties c => b.downstreamKeyer c.keyer
  | .dskState c => b.downstreamKeyer c.keyer
  | .multiviewerProperties c => b.multiviewer c.multiviewer
  | .multiviewerWindow c => b.multiviewer c.multiviewer
  | .superSourceArt _ => { b with superSource := true }
  | .superSourceBox c => { b with seenBoxes := b.seenBoxes.insert c.index () }
  | .mediaPlayerSource c => { b with mediaPlayers := b.mediaPlayers.insert c.player () }
  | .macroProperties c => { b with macros := b.macros.insert c.index () }
  | .unrecognized r => b.unknown r.tag
  | .initComplete | .warning _ | .videoMode _ | .macroRunStatus _ | .tallyByIndex _ | .tallyBySource _
  | .setProgramInput _ | .setPreviewInput _ | .cut _ | .auto _ | .setKeyerOnAir _ | .setDskOnAir _ | .setDskFill _
  | .setVideoMode _ | .setAudioMixerInput _ | .setMultiviewerProperties _ | .macroAction _ => b

/-- the builder after a burst -/
def ofBurst (burst : List Command) : Builder := burst.foldl observe {}

/-- the upstream keyers of a block: those that the device counts, or those that were mentioned -/
def keyersOn (b : Builder) (block : UInt8) : UInt8 :=
  (b.configuredKeyers.get? block).getD (UInt8.ofNat (((b.seenKeyers.get? block).map IdMap.size).getD 0))

/-- the profile of what has been shown -/
def finish (b : Builder) : Profile where
  productName := b.productName
  model := b.model
  protocolVersion := b.protocolVersion
  mixEffects := UInt8.ofNat b.mixEffects.size
  keyers := b.mixEffects.mapEntries fun block _ => b.keyersOn block
  downstreamKeyers := UInt8.ofNat b.downstreamKeyers.size
  multiviewers := max (UInt8.ofNat b.multiviewers.size) (b.multiviewerCount.getD 0)
  superSource := b.superSource
  superSourceBoxes := b.configuredBoxes.getD (UInt8.ofNat b.seenBoxes.size)
  audioMixer := if b.fairlightAudio then .fairlight else if b.classicAudio then .classic else .none
  mediaPlayers := max (UInt8.ofNat b.mediaPlayers.size) ((b.topology.map (·.mediaPlayers)).getD 0)
  stills := b.stills
  clips := b.clips
  macros := (b.macroCount.map UInt8.toUInt16).getD (UInt16.ofNat b.macros.size)
  inputs := UInt16.ofNat b.inputs.size
  topology := b.topology
  unrecognized := b.unrecognized

/-! ### One more command -/

/-- a set of ids with the id of a command, if it has one -/
def mark {κ : Type} [Id κ] (ids : IdMap κ Unit) : Option κ → IdMap κ Unit
  | none => ids
  | some k => ids.insert k ()

/-- what a command adds to each part of a builder -/
theorem observe_eq (b : Builder) (c : Command) : b.observe c =
    { productName := c.productName?.or b.productName
      model := c.model?.or b.model
      protocolVersion := c.version?.or b.protocolVersion
      topology := c.topology?.or b.topology
      mixEffects := mark b.mixEffects c.mixEffect?
      configuredKeyers := c.keyerCount?.elim b.configuredKeyers fun e => b.configuredKeyers.insert e.1 e.2
      seenKeyers := c.upstreamKeyer?.elim b.seenKeyers fun k =>
        b.seenKeyers.insert k.1 (((b.seenKeyers.get? k.1).getD ∅).insert k.2 ())
      downstreamKeyers := mark b.downstreamKeyers c.downstreamKeyer?
      multiviewers := mark b.multiviewers c.multiviewer?
      multiviewerCount := c.multiviewerCount?.or b.multiviewerCount
      superSource := c.isArt || b.superSource
      configuredBoxes := c.boxCount?.or b.configuredBoxes
      seenBoxes := mark b.seenBoxes c.box?
      classicAudio := AudioMixerKind.shownBy? c = some .classic || b.classicAudio
      fairlightAudio := AudioMixerKind.shownBy? c = some .fairlight || b.fairlightAudio
      mediaPlayers := mark b.mediaPlayers c.mediaPlayer?
      stills := (c.mediaPool?.map (·.stills)).getD b.stills
      clips := (c.mediaPool?.map (·.clips)).getD b.clips
      macroCount := c.slotCount?.or b.macroCount
      macros := mark b.macros c.macroSlot?
      inputs := mark b.inputs c.input?
      unrecognized := c.unrecognized?.elim b.unrecognized fun r =>
        if r.tag.text ∈ b.unrecognized then b.unrecognized else b.unrecognized ++ [r.tag.text] } := by
  cases c with
  | unrecognized r =>
    by_cases htag : r.tag ∈ AudioMixerKind.fairlightTags
    · simp only [observe, unknown, AudioMixerKind.shownBy?, htag, if_true]
      rfl
    · simp only [observe, unknown, AudioMixerKind.shownBy?, htag, if_false]
      rfl
  | _ => rfl

/-! ### A whole burst -/

theorem last?_concat {α : Type} (burst : List Command) (c : Command) (said : Command → Option α) :
    last? (burst ++ [c]) said = (said c).or (last? burst said) := by
  rw [last?, last?, List.filterMap_append, List.filterMap_cons, List.filterMap_nil]
  cases said c <;> simp

theorem marked_filterMap_concat {κ : Type} [Id κ] (burst : List Command) (c : Command) (id : Command → Option κ) :
    IdMap.marked ((burst ++ [c]).filterMap id) = mark (IdMap.marked (burst.filterMap id)) (id c) := by
  rw [List.filterMap_append, List.filterMap_cons, List.filterMap_nil]
  cases id c with
  | none => rw [List.append_nil, mark]
  | some k => rw [IdMap.marked_concat, mark]

theorem firsts_concat (items : List String) (s : String) :
    firsts (items ++ [s]) = if s ∈ firsts items then firsts items else firsts items ++ [s] := by
  rw [firsts, List.foldl_concat, firsts]

/-- what a builder holds of a burst -/
structure Holds (b : Builder) (burst : List Command) : Prop where
  productName : b.productName = last? burst Command.productName?
  model : b.model = last? burst Command.model?
  protocolVersion : b.protocolVersion = last? burst Command.version?
  topology : b.topology = last? burst Command.topology?
  mixEffects : b.mixEffects = IdMap.marked (burst.filterMap Command.mixEffect?)
  configuredKeyers : ∀ block, b.configuredKeyers.get? block = last? burst (configuredOn? block)
  seenKeyers : ∀ block, (b.seenKeyers.get? block).getD ∅ = IdMap.marked (burst.filterMap (keyerOn? block))
  downstreamKeyers : b.downstreamKeyers = IdMap.marked (burst.filterMap Command.downstreamKeyer?)
  multiviewers : b.multiviewers = IdMap.marked (burst.filterMap Command.multiviewer?)
  multiviewerCount : b.multiviewerCount = last? burst Command.multiviewerCount?
  superSource : b.superSource = burst.any Command.isArt
  configuredBoxes : b.configuredBoxes = last? burst Command.boxCount?
  seenBoxes : b.seenBoxes = IdMap.marked (burst.filterMap Command.box?)
  classicAudio : b.classicAudio = (burst.any fun c => AudioMixerKind.shownBy? c = some .classic)
  fairlightAudio : b.fairlightAudio = (burst.any fun c => AudioMixerKind.shownBy? c = some .fairlight)
  mediaPlayers : b.mediaPlayers = IdMap.marked (burst.filterMap Command.mediaPlayer?)
  stills : b.stills = ((last? burst Command.mediaPool?).map (·.stills)).getD 0
  clips : b.clips = ((last? burst Command.mediaPool?).map (·.clips)).getD 0
  macroCount : b.macroCount = last? burst Command.slotCount?
  macros : b.macros = IdMap.marked (burst.filterMap Command.macroSlot?)
  inputs : b.inputs = IdMap.marked (burst.filterMap Command.input?)
  unrecognized : b.unrecognized = firsts ((burst.filterMap Command.unrecognized?).map (·.tag.text))

theorem holds_nil : Holds {} [] where
  productName := rfl
  model := rfl
  protocolVersion := rfl
  topology := rfl
  mixEffects := rfl
  configuredKeyers _ := rfl
  seenKeyers _ := rfl
  downstreamKeyers := rfl
  multiviewers := rfl
  multiviewerCount := rfl
  superSource := rfl
  configuredBoxes := rfl
  seenBoxes := rfl
  classicAudio := rfl
  fairlightAudio := rfl
  mediaPlayers := rfl
  stills := rfl
  clips := rfl
  macroCount := rfl
  macros := rfl
  inputs := rfl
  unrecognized := rfl

/-- the count of a block is the last one for it -/
theorem get?_configuredKeyers_observe (b : Builder) (c : Command) (block : UInt8) :
    (b.observe c).configuredKeyers.get? block = (configuredOn? block c).or (b.configuredKeyers.get? block) := by
  cases c with
  | mixEffectConfig c =>
    simp only [observe, configuredOn?, IdMap.get?_insert, IdMap.toNat_byte, UInt8.toNat_inj]
    split <;> rfl
  | _ => rfl

/-- a keyer is marked on its own block -/
theorem get?_seenKeyers_observe (b : Builder) (c : Command) (block : UInt8) :
    ((b.observe c).seenKeyers.get? block).getD ∅ = mark ((b.seenKeyers.get? block).getD ∅) (keyerOn? block c) := by
  rw [observe_eq, keyerOn?]
  cases c.upstreamKeyer? with
  | none => rfl
  | some k =>
    simp only [Option.elim_some, Option.bind_some, IdMap.get?_insert, IdMap.toNat_byte, UInt8.toNat_inj]
    by_cases hblock : k.1 = block
    · simp only [hblock, if_true, Option.getD_some, mark]
    · simp only [hblock, if_false, mark]

/-- **One more command** is held too. -/
theorem Holds.observe (h : b.Holds burst) (c : Command) : (b.observe c).Holds (burst ++ [c]) where
  configuredKeyers block := by rw [get?_configuredKeyers_observe, last?_concat, h.configuredKeyers]
  seenKeyers block := by rw [get?_seenKeyers_observe, marked_filterMap_concat, h.seenKeyers]
  productName := by rw [observe_eq, last?_concat, h.productName]
  model := by rw [observe_eq, last?_concat, h.model]
  protocolVersion := by rw [observe_eq, last?_concat, h.protocolVersion]
  topology := by rw [observe_eq, last?_concat, h.topology]
  mixEffects := by rw [observe_eq, marked_filterMap_concat, h.mixEffects]
  downstreamKeyers := by rw [observe_eq, marked_filterMap_concat, h.downstreamKeyers]
  multiviewers := by rw [observe_eq, marked_filterMap_concat, h.multiviewers]
  multiviewerCount := by rw [observe_eq, last?_concat, h.multiviewerCount]
  superSource := by
    rw [observe_eq, h.superSource]
    simp [Bool.or_comm]
  configuredBoxes := by rw [observe_eq, last?_concat, h.configuredBoxes]
  seenBoxes := by rw [observe_eq, marked_filterMap_concat, h.seenBoxes]
  classicAudio := by
    rw [observe_eq, h.classicAudio]
    simp [Bool.or_comm]
  fairlightAudio := by
    rw [observe_eq, h.fairlightAudio]
    simp [Bool.or_comm]
  mediaPlayers := by rw [observe_eq, marked_filterMap_concat, h.mediaPlayers]
  stills := by
    rw [observe_eq, last?_concat, h.stills]
    cases c.mediaPool? <;> rfl
  clips := by
    rw [observe_eq, last?_concat, h.clips]
    cases c.mediaPool? <;> rfl
  macroCount := by rw [observe_eq, last?_concat, h.macroCount]
  macros := by rw [observe_eq, marked_filterMap_concat, h.macros]
  inputs := by rw [observe_eq, marked_filterMap_concat, h.inputs]
  unrecognized := by
    rw [observe_eq, h.unrecognized, List.filterMap_append, List.filterMap_cons, List.filterMap_nil]
    cases c.unrecognized? with
    | none => simp
    | some r =>
      rw [List.map_append, List.map_singleton, firsts_concat]
      rfl

theorem ofBurst_concat (burst : List Command) (c : Command) : ofBurst (burst ++ [c]) = (ofBurst burst).observe c := by
  rw [ofBurst, List.foldl_concat, ofBurst]

theorem holds_ofBurst (burst : List Command) : (ofBurst burst).Holds burst := by
  induction burst using List.reverseRecOn with
  | nil => exact holds_nil
  | append_singleton burst c ih =>
    rw [ofBurst_concat]
    exact ih.observe c

/-! ### The profile of it -/

theorem keyersOn_eq (h : b.Holds burst) (block : UInt8) : b.keyersOn block = Profile.keyersOn burst block := by
  have hseen : ((b.seenKeyers.get? block).map IdMap.size).getD 0 = count burst (keyerOn? block) := by
    rw [count, mentioned, ← IdMap.size_marked, ← h.seenKeyers block]
    cases b.seenKeyers.get? block <;> rfl
  rw [keyersOn, Profile.keyersOn, h.configuredKeyers, hseen]

theorem audioMixer_eq (burst : List Command) :
    AudioMixerKind.ofBurst burst =
      if burst.any fun c => AudioMixerKind.shownBy? c = some .fairlight then .fairlight
      else if burst.any fun c => AudioMixerKind.shownBy? c = some .classic then .classic else .none := by
  simp [AudioMixerKind.ofBurst]

/-- **A builder that has seen a burst finishes with its profile.** -/
theorem finish_eq (h : b.Holds burst) : b.finish = Profile.ofBurst burst := by
  have hcount {κ : Type} [Id κ] (id : Command → Option κ) :
      (IdMap.marked (burst.filterMap id)).size = count burst id := IdMap.size_marked _
  have hkeyers : (b.mixEffects.mapEntries fun block _ => b.keyersOn block) =
      IdMap.ofList ((mentioned burst Command.mixEffect?).map fun block => (block, Profile.keyersOn burst block)) := by
    rw [mentioned, IdMap.ofList_map_distinct, h.mixEffects]
    simp only [keyersOn_eq h]
  rw [finish, hkeyers, h.productName, h.model, h.protocolVersion, h.mixEffects, h.downstreamKeyers, h.multiviewers,
    h.multiviewerCount, h.superSource, h.configuredBoxes, h.seenBoxes, h.fairlightAudio, h.classicAudio,
    h.mediaPlayers, h.stills, h.clips, h.macroCount, h.macros, h.inputs, h.topology, h.unrecognized, ← audioMixer_eq]
  simp only [hcount]
  rfl

theorem finish_ofBurst (burst : List Command) : (ofBurst burst).finish = Profile.ofBurst burst :=
  finish_eq (holds_ofBurst burst)

end Builder

end Profile

end VisionMixer
