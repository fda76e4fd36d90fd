/-
What commands do to the tree.

The description of the device creates the entries it promises: a count creates every id below it that has no entry yet,
and nothing is ever removed. Inputs, audio strips, macro slots and multiviewer windows are created by their own reports.
Every other report on an id without an entry is stale and changes nothing. An applied report overwrites the parts it
carries and lists their paths, whether their values changed or not.

Three rules reach beyond what a report carries. A keyer whose fill is a media player takes the key of that player. A new
video mode resets every mask to the full frame and every rate to one second. Swapping the program and preview windows of
a multiviewer exchanges what they show.
-/
import VisionMixer.Command.Basic
import VisionMixer.Device.Place
import VisionMixer.Device.Tree

namespace VisionMixer

/-- a tree after a command, and the paths the command wrote -/
structure Update where
  tree : DeviceTree
  paths : List StatePath

/-- a block with its rates at one second and its masks at the full frame -/
def MixEffect.reset (b : MixEffect) (mode : VideoMode) : MixEffect :=
  let rate := mode.framesPerSecond
  { b with
    transition := { b.transition with
      mixRate := rate
      dip := { b.transition.dip with rate }
      wipe := { b.transition.wipe with rate } }
    fadeToBlack := { b.fadeToBlack with rate }
    keyers := b.keyers.mapEntries fun _ k => { k with mask := .fullFrame mode } }

/-- the paths a reset writes in a block -/
def MixEffect.resetPaths (b : MixEffect) (block : UInt8) : List StatePath :=
  (Place.transition block).keys ["mix", "dip", "wipe"] ++ [(Place.fadeToBlack block).key "rate"]
  ++ b.keyers.keys.map fun keyer => (Place.upstreamKeyer block keyer).key "mask"

/-- a multiviewer with windows for every id below a count -/
def Multiviewer.openWindows (m : Multiviewer) (count : Nat) : Multiviewer :=
  { m with windows := m.windows.fill count default }

/-- a window that shows what another one showed; its safe area stays -/
def Window.showing (w shown : Window) : Window :=
  { w with source := shown.source, supportsVuMeter := shown.supportsVuMeter }

/-- the first two windows exchanged, if both are there -/
def Multiviewer.exchanged (m : Multiviewer) : Multiviewer :=
  match m.windows.get? 0, m.windows.get? 1 with
  | some first, some second =>
    { m with windows := (m.windows.insert 0 (first.showing second)).insert 1 (second.showing first) }
  | _, _ => m

namespace DeviceTree

/-- the tree with another description of the device, written at some of its parts -/
def describe (t : DeviceTree) (keys : List String) (info : DeviceInfo) : Update :=
  ⟨{ t with info }, keys.map Place.info⟩

/-- the tree with one mix-effect block changed -/
def onMixEffect (t : DeviceTree) (block : UInt8) (paths : List StatePath) (f : MixEffect → MixEffect) :
    Except StaleReference Update :=
  match t.video.mixEffects.get? block with
  | none => .error (.mixEffect block)
  | some b => .ok ⟨{ t with video.mixEffects := t.video.mixEffects.insert block (f b) }, paths⟩

/-- the tree with the transition of one block changed -/
def onTransition (t : DeviceTree) (block : UInt8) (keys : List String) (f : Transition → Transition) :
    Except StaleReference Update :=
  t.onMixEffect block ((Place.transition block).keys keys) fun b => { b with transition := f b.transition }

/-- the tree with the fade to black of one block changed -/
def onFadeToBlack (t : DeviceTree) (block : UInt8) (keys : List String) (f : FadeToBlack → FadeToBlack) :
    Except StaleReference Update :=
  t.onMixEffect block ((Place.fadeToBlack block).keys keys) fun b => { b with fadeToBlack := f b.fadeToBlack }

/-- the tree with one upstream keyer changed -/
def onUpstreamKeyer (t : DeviceTree) (block keyer : UInt8) (keys : List String) (f : UpstreamKeyer → UpstreamKeyer) :
    Except StaleReference Update :=
  match t.video.mixEffects.get? block with
  | none => .error (.mixEffect block)
  | some b =>
    match b.keyers.get? keyer with
    | none => .error (.upstreamKeyer keyer block)
    | some k =>
      let b := { b with keyers := b.keyers.insert keyer (f k) }
      .ok ⟨{ t with video.mixEffects := t.video.mixEffects.insert block b }, (Place.upstreamKeyer block keyer).keys keys⟩

/-- the tree with one downstream keyer changed -/
def onDownstreamKeyer (t : DeviceTree) (keyer : UInt8) (keys : List String) (f : DownstreamKeyer → DownstreamKeyer) :
    Except StaleReference Update :=
  match t.video.downstreamKeyers.get? keyer with
  | none => .error (.downstreamKeyer keyer)
  | some k =>
    .ok ⟨{ t with video.downstreamKeyers := t.video.downstreamKeyers.insert keyer (f k) },
      (Place.downstreamKeyer keyer).keys keys⟩

/-- the tree with one super source changed -/
def onSuperSource (t : DeviceTree) (index : UInt8) (keys : List String) (f : SuperSource → SuperSource) :
    Except StaleReference Update :=
  match t.video.superSources.get? index with
  | none => .error (.superSource index)
  | some s =>
    .ok ⟨{ t with video.superSources := t.video.superSources.insert index (f s) }, (Place.superSource index).keys keys⟩

/-- the tree with other settings for one box of a super source -/
def setBox (t : DeviceTree) (index box : UInt8) (settings : BoxSettings) : Except StaleReference Update :=
  match t.video.superSources.get? index with
  | none => .error (.superSource index)
  | some s =>
    if s.boxes.contains box then
      let s := { s with boxes := s.boxes.insert box settings }
      .ok ⟨{ t with video.superSources := t.video.superSources.insert index s }, [Place.box index box]⟩
    else .error (.superSourceBox box index)

/-- the tree with another source for a media player -/
def setPlayer (t : DeviceTree) (player : UInt8) (source : MediaSource) : Except StaleReference Update :=
  if t.players.contains player then .ok ⟨{ t with players := t.players.insert player source }, [Place.mediaPlayer player]⟩
  else .error (.mediaPlayer player)

/-- entries for everything the topology counts -/
def applyTopology (t : DeviceTree) (c : Topology) : Update :=
  let boxes : Nat := (t.info.superSourceBoxes.getD 0).toNat
  let viewers : Nat := (c.multiviewers.getD 0).toNat
  { tree := { t with
      info.topology := some c
      video.mixEffects := t.video.mixEffects.fill c.mixEffects.toNat default
      video.downstreamKeyers := t.video.downstreamKeyers.fill c.downstreamKeyers.toNat default
      video.superSources := t.video.superSources.fill c.superSources.toNat
        { (default : SuperSource) with boxes := IdMap.fill ∅ boxes default }
      players := t.players.fill c.mediaPlayers.toNat default
      multiviewers := t.multiviewers.fill viewers default }
    paths := Place.info "topology"
      :: (t.video.mixEffects.missing c.mixEffects.toNat).map Place.mixEffect
      ++ (t.video.downstreamKeyers.missing c.downstreamKeyers.toNat).map Place.downstreamKeyer
      ++ (t.video.superSources.missing c.superSources.toNat).map Place.superSource
      ++ (t.players.missing c.mediaPlayers.toNat).map Place.mediaPlayer
      ++ (t.multiviewers.missing viewers).map Place.multiviewer }

/-- a block with its upstream keyers; the block is created too, but only its new keyers are listed -/
def applyMixEffectConfig (t : DeviceTree) (c : MixEffectConfig) : Update :=
  let b := (t.video.mixEffects.get? c.mixEffect).getD default
  { tree := { t with
      info.mixEffectKeyers := t.info.mixEffectKeyers.insert c.mixEffect c.keyers
      video.mixEffects := t.video.mixEffects.insert c.mixEffect
        { b with keyers := b.keyers.fill c.keyers.toNat default } }
    paths := (Place.info "mixEffectKeyers").index c.mixEffect
      :: (b.keyers.missing c.keyers.toNat).map (Place.upstreamKeyer c.mixEffect) }

/-- multiviewers with their windows; multiviewers are created too, but only new windows are listed -/
def applyMultiviewerConfig (t : DeviceTree) (c : MultiviewerConfig) : Update :=
  let viewers := (IdMap.below UInt8 c.count.toNat).map fun index => (index, (t.multiviewers.get? index).getD default)
  { tree := { t with
      info.multiviewers := some c
      multiviewers := viewers.foldl (fun m v => m.insert v.1 (v.2.openWindows c.windows.toNat)) t.multiviewers }
    paths := Place.info "multiViewer"
      :: viewers.flatMap fun v => (v.2.windows.missing c.windows.toNat).map (Place.window v.1) }

/-- boxes for every super source there is -/
def applySuperSourceConfig (t : DeviceTree) (boxes : UInt8) : Update :=
  { tree := { t with
      info.superSourceBoxes := some boxes
      video.superSources := t.video.superSources.mapEntries fun _ s =>
        { s with boxes := s.boxes.fill boxes.toNat default } }
    paths := Place.info "superSourceBoxes"
      :: t.video.superSources.entries.flatMap fun e => (e.2.boxes.missing boxes.toNat).map (Place.box e.1) }

/-- slots for the whole macro pool -/
def applyMacroPool (t : DeviceTree) (slots : UInt8) : Update :=
  { tree := { t with
      info.macroPool := some slots
      macros.slots := t.macros.slots.fill slots.toNat default }
    paths := Place.info "macroPool" :: (t.macros.slots.missing slots.toNat).map Place.macroSlot }

/-- another video mode, and all that follows from it; the mode that is set already changes nothing -/
def applyVideoMode (t : DeviceTree) (mode : VideoMode) : Update :=
  if t.video.mode = some mode then ⟨t, [Place.videoMode]⟩
  else
    { tree := { t with
        video.mode := some mode
        video.mixEffects := t.video.mixEffects.mapEntries fun _ b => b.reset mode
        video.downstreamKeyers := t.video.downstreamKeyers.mapEntries fun _ k =>
          { k with mask := .fullFrame mode, rate := mode.framesPerSecond } }
      paths := Place.videoMode
        :: t.video.mixEffects.entries.flatMap (fun e => e.2.resetPaths e.1)
        ++ t.video.downstreamKeyers.keys.flatMap fun keyer => (Place.downstreamKeyer keyer).keys ["mask", "rate"] }

/-- the layout of a multiviewer and its swap, with the windows exchanged when the swap changes -/
def applyMultiviewerProperties (t : DeviceTree) (c : MultiviewerProperties) : Except StaleReference Update :=
  match t.multiviewers.get? c.multiviewer with
  | none => .error (.multiviewer c.multiviewer)
  | some m =>
    let written := (Place.multiviewer c.multiviewer).keys ["layout", "programPreviewSwapped"]
    let set (m : Multiviewer) : Multiviewer :=
      { m with layout := c.layout, programPreviewSwapped := c.programPreviewSwapped }
    if m.programPreviewSwapped ≠ c.programPreviewSwapped ∧ m.windows.contains 0 ∧ m.windows.contains 1 then
      .ok ⟨{ t with multiviewers := t.multiviewers.insert c.multiviewer (set m.exchanged) },
        written ++ [0, 1].map (Place.window c.multiviewer)⟩
    else .ok ⟨{ t with multiviewers := t.multiviewers.insert c.multiviewer (set m) }, written⟩

/-- what a window shows; a report without a safe area leaves the known one -/
def applyWindow (t : DeviceTree) (c : MultiviewerWindow) : Except StaleReference Update :=
  match t.multiviewers.get? c.multiviewer with
  | none => .error (.multiviewer c.multiviewer)
  | some m =>
    let known := (m.windows.get? c.window).bind (·.supportsSafeArea)
    let window : Window := {
      source := c.source
      supportsVuMeter := c.supportsVuMeter
      supportsSafeArea := c.supportsSafeArea.orElse fun _ => known }
    let m := { m with windows := m.windows.insert c.window window }
    .ok ⟨{ t with multiviewers := t.multiviewers.insert c.multiviewer m }, [Place.window c.multiviewer c.window]⟩

/-- the key source of a keyer: that of the media player in its fill, or the one reported -/
def keySource (fill key : UInt16) : UInt16 := (MediaPlayer.keySource? fill).getD key

/-- the tree after a command, or what the command missed; requests and unknown records leave the tree alone -/
def update (t : DeviceTree) : Command → Except StaleReference Update
  | .version v => .ok (t.describe ["apiVersion"] { t.info with apiVersion := some v })
  | .product c =>
    .ok (t.describe ("productName" :: if c.model.isSome then ["model"] else [])
      { t.info with productName := some c.name, model := c.model.orElse fun _ => t.info.model })
  | .topology c => .ok (t.applyTopology c)
  | .mixEffectConfig c => .ok (t.applyMixEffectConfig c)
  | .mediaPool c => .ok (t.describe ["mediaPool"] { t.info with mediaPool := some c })
  | .multiviewerConfig c => .ok (t.applyMultiviewerConfig c)
  | .superSourceConfig boxes => .ok (t.applySuperSourceConfig boxes)
  | .audioMixerConfig c => .ok (t.describe ["audioMixer"] { t.info with audioMixer := some c })
  | .macroPool slots => .ok (t.applyMacroPool slots)
  | .warning text => .ok (t.describe ["lastWarning"] { t.info with lastWarning := some text })
  | .inputProperties c => .ok ⟨{ t with inputs := t.inputs.insert c.id c.input }, [Place.input c.id]⟩
  | .videoMode m => .ok (t.applyVideoMode m)
  | .programInput c =>
    t.onMixEffect c.mixEffect [(Place.mixEffect c.mixEffect).key "programInput"] fun b => { b with program := c.source }
  | .previewInput c =>
    t.onMixEffect c.mixEffect
      ((Place.mixEffect c.mixEffect).keys ("previewInput" :: if c.previewLive.isSome then ["previewLive"] else []))
      fun b => { b with preview := c.source, previewLive := c.previewLive.orElse fun _ => b.previewLive }
  | .transitionProperties c =>
    t.onTransition c.mixEffect ["style", "selection", "nextStyle", "nextSelection"] fun r => { r with style := c.style }
  | .transitionPosition c =>
    t.onTransition c.mixEffect ["inTransition", "remainingFrames", "position"] fun r => { r with progress := c.progress }
  | .transitionMix c => t.onTransition c.mixEffect ["mix"] fun r => { r with mixRate := c.rate }
  | .transitionDip c => t.onTransition c.mixEffect ["dip"] fun r => { r with dip := c.settings }
  | .transitionWipe c => t.onTransition c.mixEffect ["wipe"] fun r => { r with wipe := c.settings }
  | .fadeToBlackRate c => t.onFadeToBlack c.mixEffect ["rate"] fun f => { f with rate := c.rate }
  | .fadeToBlackState c =>
    t.onFadeToBlack c.mixEffect ["fullyBlack", "inTransition", "remainingFrames"] fun f => { f with progress := c.progress }
  | .keyerOnAir c => t.onUpstreamKeyer c.mixEffect c.keyer ["onAir"] fun k => { k with onAir := c.onAir }
  | .keyerBase c =>
    t.onUpstreamKeyer c.mixEffect c.keyer
      ["keyType", "canFly", "flyEnabled", "fillSource", "keySource", "maskEnabled", "mask"] fun k =>
      { k with
        keyType := c.keyType
        canFly := c.canFly
        flyEnabled := c.flyEnabled
        fillSource := c.fillSource
        keySource := keySource c.fillSource c.keySource
        maskEnabled := c.maskEnabled
        mask := c.mask }
  | .keyerLuma c => t.onUpstreamKeyer c.mixEffect c.keyer ["luma"] fun k => { k with luma := c.settings }
  | .keyerChroma c => t.onUpstreamKeyer c.mixEffect c.keyer ["chroma"] fun k => { k with chroma := c.settings }
  | .dskSources c =>
    t.onDownstreamKeyer c.keyer ["fillSource", "keySource"] fun k =>
      { k with fillSource := c.fillSource, keySource := keySource c.fillSource c.keySource }
  | .dskProperties c =>
    t.onDownstreamKeyer c.keyer ["tie", "rate", "luma", "maskEnabled", "mask"] fun k =>
      { k with tie := c.tie, rate := c.rate, luma := c.luma, maskEnabled := c.maskEnabled, mask := c.mask }
  | .dskState c =>
    t.onDownstreamKeyer c.keyer ["onAir", "inTransition", "isAutoTransitioning", "remainingFrames"] fun k =>
      { k with progress := c.progress }
  | .audioMixerInput c =>
    .ok ⟨{ t with audio.inputs := t.audio.inputs.insert c.index c.strip }, [Place.audioInput c.index]⟩
  | .audioMaster c => .ok ⟨{ t with audio.master := some c }, [Place.audioMaster]⟩
  | .mediaPlayerSource c => t.setPlayer c.player c.source
  | .superSourceArt c =>
    t.onSuperSource c.superSource ["fillSource", "keySource", "artOption", "luma", "border"] fun s =>
      { s with
        fillSource := c.fillSource
        keySource := c.keySource
        artOption := c.artOption
        luma := c.luma
        border := c.border }
  | .superSourceBox c => t.setBox c.superSource c.index c.settings
  | .multiviewerProperties c => t.applyMultiviewerProperties c
  | .multiviewerWindow c => t.applyWindow c
  | .macroProperties c => .ok ⟨{ t with macros.slots := t.macros.slots.insert c.index c.slot }, [Place.macroSlot c.index]⟩
  | .macroRunStatus c =>
    let player : MacroPlayer := {
      isRunning := c.isRunning
      isWaiting := c.isWaiting
      loopEnabled := c.loopEnabled
      index := if c.index = 0xffff then none else some c.index }
    .ok ⟨{ t with macros.player := player }, [Place.macroPlayer]⟩
  | .tallyByIndex c => .ok ⟨{ t with tally.byIndex := c.flags }, [Place.tally "byIndex"]⟩
  | .tallyBySource c => .ok ⟨{ t with tally.bySource := .ofList c.entries }, [Place.tally "bySource"]⟩
  | .initComplete | .setProgramInput _ | .setPreviewInput _ | .cut _ | .auto _ | .setKeyerOnAir _ | .setDskOnAir _
  | .setDskFill _ | .setVideoMode _ | .setAudioMixerInput _ | .setMultiviewerProperties _ | .macroAction _
  | .unrecognized _ => .ok ⟨t, []⟩

/-- the tree after a command and the paths it wrote; a stale command changes nothing and writes nowhere -/
def apply (t : DeviceTree) (c : Command) : DeviceTree × ChangedPaths :=
  match t.update c with
  | .ok u => (u.tree, .ofList u.paths)
  | .error _ => (t, .empty)

/-- the tree after a list of commands -/
def applyAll (t : DeviceTree) (commands : List Command) : DeviceTree := commands.foldl (fun t c => (t.apply c).1) t

end DeviceTree

end VisionMixer
