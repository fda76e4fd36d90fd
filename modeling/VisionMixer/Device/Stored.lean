/-
The document form of the tree.

Every part is a record with its members named in one word each; what a device may not have said is optional. The
settings of a transition and the progress beside them share one record, as do the settings and the progress of a fade
and of a downstream keyer; a mix rate, the media players and the multiviewers stand in records of their own.
-/
import VisionMixer.Device.Tree
import VisionMixer.Document

namespace VisionMixer

open Document (ofRecord record?)
open Stored (required ifPresent)

instance : Stored Version where
  store v := store v.value
  load? d := Version.mk <$> load? d

instance : Stored VideoMode where
  store m := store m.code
  load? d := VideoMode.mk <$> load? d

instance : Stored TallyFlags where
  store t := store t.bits
  load? d := TallyFlags.mk <$> load? d

/-- a record of one member -/
def Document.ofSingle {α : Type} [Stored α] (name : String) (a : α) : Document := ofRecord [name] [store a]

/-- the one member of a record -/
def Document.single? (α : Type) [Stored α] (name : String) (d : Document) : Option α := do
  let [a] ← record? [name] d | none
  required a

/-- the members of its document -/
def MaskRect.members : List String := ["top", "bottom", "left", "right"]

instance : Stored MaskRect where
  store x := ofRecord MaskRect.members [store x.top, store x.bottom, store x.left, store x.right]
  load? d := do
    let [top, bottom, left, right] ← record? MaskRect.members d | none
    return {
      top := ← required top
      bottom := ← required bottom
      left := ← required left
      right := ← required right }

/-- the members of its document -/
def Topology.members : List String :=
  ["mixEffects", "sources", "downstreamKeyers", "auxiliaries", "mixMinusOutputs", "mediaPlayers", "serialPorts",
  "hyperdecks", "dves", "stingers", "superSources", "multiviewers", "talkbackChannels", "cameraControl",
  "advancedChromaKeyers"]

instance : Stored Topology where
  store x := ofRecord Topology.members
    [store x.mixEffects, store x.sources, store x.downstreamKeyers, store x.auxiliaries, store x.mixMinusOutputs,
    store x.mediaPlayers, store x.serialPorts, store x.hyperdecks, store x.dves, store x.stingers,
    store x.superSources, store x.multiviewers, store x.talkbackChannels, store x.cameraControl,
    store x.advancedChromaKeyers]
  load? d := do
    let [mixEffects, sources, downstreamKeyers, auxiliaries, mixMinusOutputs, mediaPlayers, serialPorts, hyperdecks,
      dves, stingers, superSources, multiviewers, talkbackChannels, cameraControl, advancedChromaKeyers] ←
      record? Topology.members d | none
    return {
      mixEffects := ← required mixEffects
      sources := ← required sources
      downstreamKeyers := ← required downstreamKeyers
      auxiliaries := ← required auxiliaries
      mixMinusOutputs := ← required mixMinusOutputs
      mediaPlayers := ← required mediaPlayers
      serialPorts := ← required serialPorts
      hyperdecks := ← required hyperdecks
      dves := ← required dves
      stingers := ← required stingers
      superSources := ← required superSources
      multiviewers := ← ifPresent multiviewers
      talkbackChannels := ← ifPresent talkbackChannels
      cameraControl := ← ifPresent cameraControl
      advancedChromaKeyers := ← ifPresent advancedChromaKeyers }

/-- the members of its document -/
def MediaPool.members : List String := ["stills", "clips"]

instance : Stored MediaPool where
  store x := ofRecord MediaPool.members [store x.stills, store x.clips]
  load? d := do
    let [stills, clips] ← record? MediaPool.members d | none
    return {
      stills := ← required stills
      clips := ← required clips }

/-- the members of its document -/
def MultiviewerConfig.members : List String :=
  ["count", "windows", "canRouteInputs", "canSwapPreviewProgram", "canToggleSafeArea"]

instance : Stored MultiviewerConfig where
  store x := ofRecord MultiviewerConfig.members
    [store x.count, store x.windows, store x.canRouteInputs, store x.canSwapPreviewProgram, store x.canToggleSafeArea]
  load? d := do
    let [count, windows, canRouteInputs, canSwapPreviewProgram, canToggleSafeArea] ←
      record? MultiviewerConfig.members d | none
    return {
      count := ← required count
      windows := ← required windows
      canRouteInputs := ← ifPresent canRouteInputs
      canSwapPreviewProgram := ← ifPresent canSwapPreviewProgram
      canToggleSafeArea := ← ifPresent canToggleSafeArea }

/-- the members of its document -/
def AudioMixerConfig.members : List String := ["inputs", "monitors", "headphones"]

instance : Stored AudioMixerConfig where
  store x := ofRecord AudioMixerConfig.members [store x.inputs, store x.monitors, store x.headphones]
  load? d := do
    let [inputs, monitors, headphones] ← record? AudioMixerConfig.members d | none
    return {
      inputs := ← required inputs
      monitors := ← required monitors
      headphones := ← required headphones }

/-- the members of its document -/
def DeviceInfo.members : List String :=
  ["apiVersion", "productName", "model", "topology", "mixEffectKeyers", "mediaPool", "multiViewer",
  "superSourceBoxes", "audioMixer", "macroPool", "lastWarning"]

instance : Stored DeviceInfo where
  store x := ofRecord DeviceInfo.members
    [store x.apiVersion, store x.productName, store x.model, store x.topology, store x.mixEffectKeyers,
    store x.mediaPool, store x.multiviewers, store x.superSourceBoxes, store x.audioMixer, store x.macroPool,
    store x.lastWarning]
  load? d := do
    let [apiVersion, productName, model, topology, mixEffectKeyers, mediaPool, multiViewer, superSourceBoxes,
      audioMixer, macroPool, lastWarning] ← record? DeviceInfo.members d | none
    return {
      apiVersion := ← ifPresent apiVersion
      productName := ← ifPresent productName
      model := ← ifPresent model
      topology := ← ifPresent topology
      mixEffectKeyers := ← required mixEffectKeyers
      mediaPool := ← ifPresent mediaPool
      multiviewers := ← ifPresent multiViewer
      superSourceBoxes := ← ifPresent superSourceBoxes
      audioMixer := ← ifPresent audioMixer
      macroPool := ← ifPresent macroPool
      lastWarning := ← ifPresent lastWarning }

/-- the members of its document -/
def DipSettings.members : List String := ["rate", "input"]

instance : Stored DipSettings where
  store x := ofRecord DipSettings.members [store x.rate, store x.input]
  load? d := do
    let [rate, input] ← record? DipSettings.members d | none
    return {
      rate := ← required rate
      input := ← required input }

/-- the members of its document -/
def WipeSettings.members : List String :=
  ["rate", "pattern", "borderWidth", "borderInput", "symmetry", "borderSoftness", "xPosition", "yPosition",
  "reverseDirection", "flipFlop"]

instance : Stored WipeSettings where
  store x := ofRecord WipeSettings.members
    [store x.rate, store x.pattern, store x.borderWidth, store x.borderInput, store x.symmetry,
    store x.borderSoftness, store x.xPosition, store x.yPosition, store x.reverseDirection, store x.flipFlop]
  load? d := do
    let [rate, pattern, borderWidth, borderInput, symmetry, borderSoftness, xPosition, yPosition, reverseDirection,
      flipFlop] ← record? WipeSettings.members d | none
    return {
      rate := ← required rate
      pattern := ← required pattern
      borderWidth := ← required borderWidth
      borderInput := ← required borderInput
      symmetry := ← required symmetry
      borderSoftness := ← required borderSoftness
      xPosition := ← required xPosition
      yPosition := ← required yPosition
      reverseDirection := ← required reverseDirection
      flipFlop := ← required flipFlop }

/-- the members of its document -/
def LumaSettings.members : List String := ["preMultiplied", "clip", "gain", "invert"]

instance : Stored LumaSettings where
  store x := ofRecord LumaSettings.members [store x.preMultiplied, store x.clip, store x.gain, store x.invert]
  load? d := do
    let [preMultiplied, clip, gain, invert] ← record? LumaSettings.members d | none
    return {
      preMultiplied := ← required preMultiplied
      clip := ← required clip
      gain := ← required gain
      invert := ← required invert }

/-- the members of its document -/
def ChromaSettings.members : List String := ["hue", "gain", "ySuppress", "lift", "narrow"]

instance : Stored ChromaSettings where
  store x := ofRecord ChromaSettings.members
    [store x.hue, store x.gain, store x.ySuppress, store x.lift, store x.narrow]
  load? d := do
    let [hue, gain, ySuppress, lift, narrow] ← record? ChromaSettings.members d | none
    return {
      hue := ← required hue
      gain := ← required gain
      ySuppress := ← required ySuppress
      lift := ← required lift
      narrow := ← required narrow }

/-- the members of its document -/
def BorderSettings.members : List String := ["enabled", "hue", "saturation", "luma"]

instance : Stored BorderSettings where
  store x := ofRecord BorderSettings.members [store x.enabled, store x.hue, store x.saturation, store x.luma]
  load? d := do
    let [enabled, hue, saturation, luma] ← record? BorderSettings.members d | none
    return {
      enabled := ← required enabled
      hue := ← required hue
      saturation := ← required saturation
      luma := ← required luma }

/-- the members of its document -/
def BoxSettings.members : List String := ["enabled", "source", "x", "y", "size", "cropped", "crop"]

instance : Stored BoxSettings where
  store x := ofRecord BoxSettings.members
    [store x.enabled, store x.source, store x.x, store x.y, store x.size, store x.cropped, store x.crop]
  load? d := do
    let [enabled, source, x, y, size, cropped, crop] ← record? BoxSettings.members d | none
    return {
      enabled := ← required enabled
      source := ← required source
      x := ← required x
      y := ← required y
      size := ← required size
      cropped := ← required cropped
      crop := ← required crop }

/-- the members of its document -/
def Input.members : List String :=
  ["longName", "shortName", "areNamesDefault", "availableExternalPorts", "externalPortType", "internalPortType",
  "sourceAvailability", "mixEffectAvailability"]

instance : Stored Input where
  store x := ofRecord Input.members
    [store x.longName, store x.shortName, store x.areNamesDefault, store x.availableExternalPorts,
    store x.externalPortType, store x.internalPortType, store x.sourceAvailability, store x.mixEffectAvailability]
  load? d := do
    let [longName, shortName, areNamesDefault, availableExternalPorts, externalPortType, internalPortType,
      sourceAvailability, mixEffectAvailability] ← record? Input.members d | none
    return {
      longName := ← required longName
      shortName := ← required shortName
      areNamesDefault := ← required areNamesDefault
      availableExternalPorts := ← required availableExternalPorts
      externalPortType := ← required externalPortType
      internalPortType := ← required internalPortType
      sourceAvailability := ← required sourceAvailability
      mixEffectAvailability := ← required mixEffectAvailability }

/-- the members of its document -/
def MediaSource.members : List String := ["sourceType", "stillIndex", "clipIndex"]

instance : Stored MediaSource where
  store x := ofRecord MediaSource.members [store x.sourceType, store x.stillIndex, store x.clipIndex]
  load? d := do
    let [sourceType, stillIndex, clipIndex] ← record? MediaSource.members d | none
    return {
      sourceType := ← required sourceType
      stillIndex := ← required stillIndex
      clipIndex := ← required clipIndex }

/-- the members of its document -/
def AudioMaster.members : List String := ["gain", "balance", "followFadeToBlack"]

instance : Stored AudioMaster where
  store x := ofRecord AudioMaster.members [store x.gain, store x.balance, store x.followFadeToBlack]
  load? d := do
    let [gain, balance, followFadeToBlack] ← record? AudioMaster.members d | none
    return {
      gain := ← required gain
      balance := ← required balance
      followFadeToBlack := ← required followFadeToBlack }

/-- the members of its document -/
def AudioStrip.members : List String := ["sourceType", "fromMediaPlayer", "plugType", "mixOption", "gain", "balance"]

instance : Stored AudioStrip where
  store x := ofRecord AudioStrip.members
    [store x.sourceType, store x.fromMediaPlayer, store x.plugType, store x.mixOption, store x.gain, store x.balance]
  load? d := do
    let [sourceType, fromMediaPlayer, plugType, mixOption, gain, balance] ← record? AudioStrip.members d | none
    return {
      sourceType := ← required sourceType
      fromMediaPlayer := ← required fromMediaPlayer
      plugType := ← required plugType
      mixOption := ← required mixOption
      gain := ← required gain
      balance := ← required balance }

/-- the members of its document -/
def MacroSlot.members : List String := ["isUsed", "hasUnsupportedOps", "name", "description"]

instance : Stored MacroSlot where
  store x := ofRecord MacroSlot.members [store x.isUsed, store x.hasUnsupportedOps, store x.name, store x.description]
  load? d := do
    let [isUsed, hasUnsupportedOps, name, description] ← record? MacroSlot.members d | none
    return {
      isUsed := ← required isUsed
      hasUnsupportedOps := ← required hasUnsupportedOps
      name := ← required name
      description := ← required description }

/-- the members of its document -/
def MacroPlayer.members : List String := ["isRunning", "isWaiting", "loopEnabled", "index"]

instance : Stored MacroPlayer where
  store x := ofRecord MacroPlayer.members [store x.isRunning, store x.isWaiting, store x.loopEnabled, store x.index]
  load? d := do
    let [isRunning, isWaiting, loopEnabled, index] ← record? MacroPlayer.members d | none
    return {
      isRunning := ← required isRunning
      isWaiting := ← required isWaiting
      loopEnabled := ← required loopEnabled
      index := ← ifPresent index }

/-- the members of its document -/
def FadeToBlack.members : List String := ["rate", "fullyBlack", "inTransition", "remainingFrames"]

instance : Stored FadeToBlack where
  store x := ofRecord FadeToBlack.members
    [store x.rate, store x.progress.fullyBlack, store x.progress.inTransition, store x.progress.remainingFrames]
  load? d := do
    let [rate, fullyBlack, inTransition, remainingFrames] ← record? FadeToBlack.members d | none
    return {
      rate := ← required rate
      progress := {
        fullyBlack := ← required fullyBlack
        inTransition := ← required inTransition
        remainingFrames := ← required remainingFrames } }

/-- the members of its document -/
def Transition.members : List String :=
  ["style", "selection", "nextStyle", "nextSelection", "inTransition", "remainingFrames", "position", "mix", "dip",
  "wipe"]

instance : Stored Transition where
  store x := ofRecord Transition.members
    [store x.style.style, store x.style.selection, store x.style.nextStyle, store x.style.nextSelection,
    store x.progress.inTransition, store x.progress.remainingFrames, store x.progress.position,
    .ofSingle "rate" x.mixRate, store x.dip, store x.wipe]
  load? d := do
    let [style, selection, nextStyle, nextSelection, inTransition, remainingFrames, position, mix, dip, wipe] ←
      record? Transition.members d | none
    return {
      style := {
        style := ← required style
        selection := ← required selection
        nextStyle := ← required nextStyle
        nextSelection := ← required nextSelection }
      progress := {
        inTransition := ← required inTransition
        remainingFrames := ← required remainingFrames
        position := ← required position }
      mixRate := ← mix.bind (Document.single? UInt8 "rate")
      dip := ← required dip
      wipe := ← required wipe }

/-- the members of its document -/
def UpstreamKeyer.members : List String :=
  ["onAir", "keyType", "canFly", "flyEnabled", "fillSource", "keySource", "maskEnabled", "mask", "luma", "chroma"]

instance : Stored UpstreamKeyer where
  store x := ofRecord UpstreamKeyer.members
    [store x.onAir, store x.keyType, store x.canFly, store x.flyEnabled, store x.fillSource, store x.keySource,
    store x.maskEnabled, store x.mask, store x.luma, store x.chroma]
  load? d := do
    let [onAir, keyType, canFly, flyEnabled, fillSource, keySource, maskEnabled, mask, luma, chroma] ←
      record? UpstreamKeyer.members d | none
    return {
      onAir := ← required onAir
      keyType := ← required keyType
      canFly := ← required canFly
      flyEnabled := ← required flyEnabled
      fillSource := ← required fillSource
      keySource := ← required keySource
      maskEnabled := ← required maskEnabled
      mask := ← required mask
      luma := ← required luma
      chroma := ← required chroma }

/-- the members of its document -/
def MixEffect.members : List String :=
  ["programInput", "previewInput", "previewLive", "transition", "fadeToBlack", "upstreamKeyers"]

instance : Stored MixEffect where
  store x := ofRecord MixEffect.members
    [store x.program, store x.preview, store x.previewLive, store x.transition, store x.fadeToBlack, store x.keyers]
  load? d := do
    let [programInput, previewInput, previewLive, transition, fadeToBlack, upstreamKeyers] ←
      record? MixEffect.members d | none
    return {
      program := ← required programInput
      preview := ← required previewInput
      previewLive := ← ifPresent previewLive
      transition := ← required transition
      fadeToBlack := ← required fadeToBlack
      keyers := ← required upstreamKeyers }

/-- the members of its document -/
def DownstreamKeyer.members : List String :=
  ["fillSource", "keySource", "tie", "rate", "luma", "maskEnabled", "mask", "onAir", "inTransition",
  "isAutoTransitioning", "remainingFrames"]

instance : Stored DownstreamKeyer where
  store x := ofRecord DownstreamKeyer.members
    [store x.fillSource, store x.keySource, store x.tie, store x.rate, store x.luma, store x.maskEnabled,
    store x.mask, store x.progress.onAir, store x.progress.inTransition, store x.progress.isAutoTransitioning,
    store x.progress.remainingFrames]
  load? d := do
    let [fillSource, keySource, tie, rate, luma, maskEnabled, mask, onAir, inTransition, isAutoTransitioning,
      remainingFrames] ← record? DownstreamKeyer.members d | none
    return {
      fillSource := ← required fillSource
      keySource := ← required keySource
      tie := ← required tie
      rate := ← required rate
      luma := ← required luma
      maskEnabled := ← required maskEnabled
      mask := ← required mask
      progress := {
        onAir := ← required onAir
        inTransition := ← required inTransition
        isAutoTransitioning := ← required isAutoTransitioning
        remainingFrames := ← required remainingFrames } }

/-- the members of its document -/
def SuperSource.members : List String := ["fillSource", "keySource", "artOption", "luma", "border", "boxes"]

instance : Stored SuperSource where
  store x := ofRecord SuperSource.members
    [store x.fillSource, store x.keySource, store x.artOption, store x.luma, store x.border, store x.boxes]
  load? d := do
    let [fillSource, keySource, artOption, luma, border, boxes] ← record? SuperSource.members d | none
    return {
      fillSource := ← required fillSource
      keySource := ← required keySource
      artOption := ← required artOption
      luma := ← required luma
      border := ← required border
      boxes := ← required boxes }

/-- the members of its document -/
def VideoTree.members : List String := ["mode", "mixEffects", "downstreamKeyers", "superSources"]

instance : Stored VideoTree where
  store x := ofRecord VideoTree.members
    [store x.mode, store x.mixEffects, store x.downstreamKeyers, store x.superSources]
  load? d := do
    let [mode, mixEffects, downstreamKeyers, superSources] ← record? VideoTree.members d | none
    return {
      mode := ← ifPresent mode
      mixEffects := ← required mixEffects
      downstreamKeyers := ← required downstreamKeyers
      superSources := ← required superSources }

/-- the members of its document -/
def AudioTree.members : List String := ["master", "inputs"]

instance : Stored AudioTree where
  store x := ofRecord AudioTree.members [store x.master, store x.inputs]
  load? d := do
    let [master, inputs] ← record? AudioTree.members d | none
    return {
      master := ← ifPresent master
      inputs := ← required inputs }

/-- the members of its document -/
def Window.members : List String := ["source", "supportsVuMeter", "supportsSafeArea"]

instance : Stored Window where
  store x := ofRecord Window.members [store x.source, store x.supportsVuMeter, store x.supportsSafeArea]
  load? d := do
    let [source, supportsVuMeter, supportsSafeArea] ← record? Window.members d | none
    return {
      source := ← required source
      supportsVuMeter := ← required supportsVuMeter
      supportsSafeArea := ← ifPresent supportsSafeArea }

/-- the members of its document -/
def Multiviewer.members : List String := ["layout", "programPreviewSwapped", "windows"]

instance : Stored Multiviewer where
  store x := ofRecord Multiviewer.members [store x.layout, store x.programPreviewSwapped, store x.windows]
  load? d := do
    let [layout, programPreviewSwapped, windows] ← record? Multiviewer.members d | none
    return {
      layout := ← required layout
      programPreviewSwapped := ← required programPreviewSwapped
      windows := ← required windows }

/-- the members of its document -/
def MacroTree.members : List String := ["slots", "player"]

instance : Stored MacroTree where
  store x := ofRecord MacroTree.members [store x.slots, store x.player]
  load? d := do
    let [slots, player] ← record? MacroTree.members d | none
    return {
      slots := ← required slots
      player := ← required player }

/-- the members of its document -/
def TallyTree.members : List String := ["byIndex", "bySource"]

instance : Stored TallyTree where
  store x := ofRecord TallyTree.members [store x.byIndex, store x.bySource]
  load? d := do
    let [byIndex, bySource] ← record? TallyTree.members d | none
    return {
      byIndex := ← required byIndex
      bySource := ← required bySource }

/-- the members of its document -/
def DeviceTree.members : List String := ["info", "video", "inputs", "media", "audio", "settings", "macros", "tally"]

instance : Stored DeviceTree where
  store x := ofRecord DeviceTree.members
    [store x.info, store x.video, store x.inputs, .ofSingle "players" x.players, store x.audio,
    .ofSingle "multiViewers" x.multiviewers, store x.macros, store x.tally]
  load? d := do
    let [info, video, inputs, media, audio, settings, macros, tally] ← record? DeviceTree.members d | none
    return {
      info := ← required info
      video := ← required video
      inputs := ← required inputs
      players := ← media.bind (Document.single? (IdMap UInt8 MediaSource) "players")
      audio := ← required audio
      multiviewers := ← settings.bind (Document.single? (IdMap UInt8 Multiviewer) "multiViewers")
      macros := ← required macros
      tally := ← required tally }

end VisionMixer
