/-
Commands that change a tree in place.

`update` makes another tree of the one it is given, or none. `perform` is a program for one tree that is kept: it looks
entries up, which may fail, overwrites fields one after another, and lists paths. What it has done by the time it fails
stays done (`Changing`). A `Part` is where it writes: an entry of the tree, which may be missing.

`run_overwrite` is the one argument for all programs that look entries up, write and list; the two that do more have
their own. `perform_eq`: a program does what `update` says, and if it fails the tree is the one it found. `tells_what_it_does`
adds when nothing is listed: for requests, the end of the description and unknown records, and for reports on an entry
that is not there.
-/
import VisionMixer.Proofs.Device.Agreement
import VisionMixer.Proofs.Device.Stale

namespace VisionMixer

/-- a part of a whole that may be missing, and can be overwritten where it is there -/
structure Part (σ α : Type) where
  get? : σ → Option α
  set : σ → α → σ
  get?_set : ∀ {s a b}, get? s = some a → get? (set s b) = some b
  set_set : ∀ {s a b c}, get? s = some a → set (set s b) c = set s c

namespace Part

variable {σ α β : Type}

/-- the whole with a part changed, if it is there -/
def revise (p : Part σ α) (f : α → α) (s : σ) : σ :=
  match p.get? s with
  | some a => p.set s (f a)
  | none => s

theorem revise_of_get? {p : Part σ α} {s : σ} {a : α} (h : p.get? s = some a) (f : α → α) : p.revise f s = p.set s (f a) := by
  rw [revise, h]

/-- a part of a part -/
def within (p : Part σ α) (q : Part α β) : Part σ β where
  get? s := (p.get? s).bind q.get?
  set s b := p.revise (fun a => q.set a b) s
  get?_set := by
    intro s old b h
    obtain ⟨a, ha, hold⟩ := Option.bind_eq_some_iff.1 h
    rw [revise_of_get? ha, p.get?_set ha]
    exact q.get?_set hold
  set_set := by
    intro s old b c h
    obtain ⟨a, ha, hold⟩ := Option.bind_eq_some_iff.1 h
    rw [revise_of_get? ha, revise_of_get? (p.get?_set ha), revise_of_get? ha, p.set_set ha, q.set_set hold]

section

variable {p : Part σ α} {q : Part α β} {s : σ} {a : α}

theorem get?_within (h : p.get? s = some a) : (p.within q).get? s = q.get? a := by
  show (p.get? s).bind q.get? = _
  rw [h]
  rfl

theorem set_within (h : p.get? s = some a) (b : β) : (p.within q).set s b = p.set s (q.set a b) := revise_of_get? h _

end

/-- the entry of an id in a map of the whole -/
def entry {κ : Type} [Id κ] (get : σ → IdMap κ α) (set : σ → IdMap κ α → σ) (get_set : ∀ s m, get (set s m) = m)
    (set_set : ∀ s m n, set (set s m) n = set s n) (k : κ) : Part σ α where
  get? s := (get s).get? k
  set s a := set s ((get s).insert k a)
  get?_set := by
    intro s _ b _
    rw [get_set, IdMap.get?_insert_self]
  set_set := by
    intro s _ b c _
    rw [get_set, set_set, IdMap.insert_insert]

end Part

/-- the command is the end of the description, a request or an unknown record -/
def Command.isIdle : Command → Bool
  | .initComplete | .unrecognized _ => true
  | c => c.isRequest

namespace DeviceTree

/-! ### Where programs write -/

def blockPart (block : UInt8) : Part DeviceTree MixEffect :=
  .entry (·.video.mixEffects) (fun t m => { t with video.mixEffects := m }) (fun _ _ => rfl) (fun _ _ _ => rfl) block

def keyerPart (block keyer : UInt8) : Part DeviceTree UpstreamKeyer :=
  (blockPart block).within <|
    .entry (·.keyers) (fun b m => { b with keyers := m }) (fun _ _ => rfl) (fun _ _ _ => rfl) keyer

def dskPart (keyer : UInt8) : Part DeviceTree DownstreamKeyer :=
  .entry (·.video.downstreamKeyers) (fun t m => { t with video.downstreamKeyers := m }) (fun _ _ => rfl)
    (fun _ _ _ => rfl) keyer

def superSourcePart (index : UInt8) : Part DeviceTree SuperSource :=
  .entry (·.video.superSources) (fun t m => { t with video.superSources := m }) (fun _ _ => rfl) (fun _ _ _ => rfl) index

def boxPart (index box : UInt8) : Part DeviceTree BoxSettings :=
  (superSourcePart index).within <|
    .entry (·.boxes) (fun s m => { s with boxes := m }) (fun _ _ => rfl) (fun _ _ _ => rfl) box

def playerPart (player : UInt8) : Part DeviceTree MediaSource :=
  .entry (·.players) (fun t m => { t with players := m }) (fun _ _ => rfl) (fun _ _ _ => rfl) player

def viewerPart (index : UInt8) : Part DeviceTree Multiviewer :=
  .entry (·.multiviewers) (fun t m => { t with multiviewers := m }) (fun _ _ => rfl) (fun _ _ _ => rfl) index

def windowPart (index window : UInt8) : Part DeviceTree Window :=
  (viewerPart index).within <|
    .entry (·.windows) (fun m w => { m with windows := w }) (fun _ _ => rfl) (fun _ _ _ => rfl) window

/-! ### Programs -/

/-- a program that may fail, on the tree that it changes and the paths it has listed; what it has done by then stays -/
abbrev Changing := EStateM StaleReference Update

namespace Changing

variable {α β : Type}

/-- an entry that must be there -/
def seek (p : Part DeviceTree α) (missing : StaleReference) : Changing Unit := do
  if (p.get? (← get).tree).isNone then throw missing

/-- a field, or more, of an entry overwritten -/
def write (p : Part DeviceTree α) (f : α → α) : Changing Unit := modify fun s => { s with tree := p.revise f s.tree }

/-- paths listed -/
def list (paths : List StatePath) : Changing Unit := modify fun s => { s with paths := s.paths ++ paths }

/-- what a program finds and then overwrites, one field after another, with the paths it lists -/
def overwrite (find : Changing Unit) (p : Part DeviceTree α) (writes : List (α → α)) (paths : List StatePath) :
    Changing Unit := do
  find
  writes.forM (write p)
  list paths

/-- one change without a lookup -/
def whole (f : DeviceTree → Except StaleReference Update) : Changing Unit := fun s =>
  match f s.tree with
  | .ok u => .ok () ⟨u.tree, s.paths ++ u.paths⟩
  | .error missing => .error missing s

end Changing

open Changing

def findBlock (block : UInt8) : Changing Unit := seek (blockPart block) (.mixEffect block)

def findKeyer (block keyer : UInt8) : Changing Unit := do
  findBlock block
  seek (keyerPart block keyer) (.upstreamKeyer keyer block)

def findDsk (keyer : UInt8) : Changing Unit := seek (dskPart keyer) (.downstreamKeyer keyer)

def findSuperSource (index : UInt8) : Changing Unit := seek (superSourcePart index) (.superSource index)

def findBox (index box : UInt8) : Changing Unit := do
  findSuperSource index
  seek (boxPart index box) (.superSourceBox box index)

def findPlayer (player : UInt8) : Changing Unit := seek (playerPart player) (.mediaPlayer player)

def findViewer (index : UInt8) : Changing Unit := seek (viewerPart index) (.multiviewer index)

/-- a window that is there shows what another one showed -/
def showIn (index window : UInt8) (shown : Window) : Changing Unit :=
  overwrite (return) (windowPart index window)
    [fun w => { w with source := shown.source }, fun w => { w with supportsVuMeter := shown.supportsVuMeter }]
    [Place.window index window]

/-- the first two windows exchange what they show, if they are to and are there -/
def exchangeWindows (index : UInt8) (swaps : Bool) : Changing Unit := do
  let tree := (← get).tree
  match swaps, (windowPart index 0).get? tree, (windowPart index 1).get? tree with
  | true, some first, some second =>
    showIn index 0 second
    showIn index 1 first
  | _, _, _ => return

/-- the swap is compared and then written, with the layout -/
def performMultiviewerProperties (c : MultiviewerProperties) : Changing Unit := do
  let swaps := ((viewerPart c.multiviewer).get? (← get).tree).any (·.programPreviewSwapped ≠ c.programPreviewSwapped)
  overwrite (findViewer c.multiviewer) (viewerPart c.multiviewer)
    [fun m => { m with layout := c.layout }, fun m => { m with programPreviewSwapped := c.programPreviewSwapped }]
    ((Place.multiviewer c.multiviewer).keys ["layout", "programPreviewSwapped"])
  exchangeWindows c.multiviewer swaps

/-- a window that is not there is made, and then written as one that is -/
def performWindow (c : MultiviewerWindow) : Changing Unit :=
  overwrite
    (do
      findViewer c.multiviewer
      write (viewerPart c.multiviewer) fun m => { m with windows := m.windows.ensure c.window default })
    (windowPart c.multiviewer c.window)
    ((fun w => { w with source := c.source }) ::
      (fun w => { w with supportsVuMeter := c.supportsVuMeter }) ::
        c.supportsSafeArea.toList.map fun known w => { w with supportsSafeArea := some known })
    [Place.window c.multiviewer c.window]

/-- the program of a command -/
def perform : Command → Changing Unit
  | .programInput c =>
    overwrite (findBlock c.mixEffect) (blockPart c.mixEffect) [fun b => { b with program := c.source }]
      [(Place.mixEffect c.mixEffect).key "programInput"]
  | .previewInput c =>
    overwrite (findBlock c.mixEffect) (blockPart c.mixEffect)
      ((fun b => { b with preview := c.source }) ::
        c.previewLive.toList.map fun live b => { b with previewLive := some live })
      ((Place.mixEffect c.mixEffect).keys ("previewInput" :: if c.previewLive.isSome then ["previewLive"] else []))
  | .transitionProperties c =>
    overwrite (findBlock c.mixEffect) (blockPart c.mixEffect)
      [fun b => { b with transition.style.style := c.style.style },
        fun b => { b with transition.style.selection := c.style.selection },
        fun b => { b with transition.style.nextStyle := c.style.nextStyle },
        fun b => { b with transition.style.nextSelection := c.style.nextSelection }]
      ((Place.transition c.mixEffect).keys ["style", "selection", "nextStyle", "nextSelection"])
  | .transitionPosition c =>
    overwrite (findBlock c.mixEffect) (blockPart c.mixEffect)
      [fun b => { b with transition.progress.inTransition := c.progress.inTransition },
        fun b => { b with transition.progress.remainingFrames := c.progress.remainingFrames },
        fun b => { b with transition.progress.position := c.progress.position }]
      ((Place.transition c.mixEffect).keys ["inTransition", "remainingFrames", "position"])
  | .transitionMix c =>
    overwrite (findBlock c.mixEffect) (blockPart c.mixEffect) [fun b => { b with transition.mixRate := c.rate }]
      ((Place.transition c.mixEffect).keys ["mix"])
  | .transitionDip c =>
    overwrite (findBlock c.mixEffect) (blockPart c.mixEffect)
      [fun b => { b with transition.dip.rate := c.settings.rate },
        fun b => { b with transition.dip.input := c.settings.input }]
      ((Place.transition c.mixEffect).keys ["dip"])
  | .transitionWipe c =>
    overwrite (findBlock c.mixEffect) (blockPart c.mixEffect) [fun b => { b with transition.wipe := c.settings }]
      ((Place.transition c.mixEffect).keys ["wipe"])
  | .fadeToBlackRate c =>
    overwrite (findBlock c.mixEffect) (blockPart c.mixEffect) [fun b => { b with fadeToBlack.rate := c.rate }]
      ((Place.fadeToBlack c.mixEffect).keys ["rate"])
  | .fadeToBlackState c =>
    overwrite (findBlock c.mixEffect) (blockPart c.mixEffect)
      [fun b => { b with fadeToBlack.progress.fullyBlack := c.progress.fullyBlack },
        fun b => { b with fadeToBlack.progress.inTransition := c.progress.inTransition },
        fun b => { b with fadeToBlack.progress.remainingFrames := c.progress.remainingFrames }]
      ((Place.fadeToBlack c.mixEffect).keys ["fullyBlack", "inTransition", "remainingFrames"])
  | .keyerOnAir c =>
    overwrite (findKeyer c.mixEffect c.keyer) (keyerPart c.mixEffect c.keyer) [fun k => { k with onAir := c.onAir }]
      ((Place.upstreamKeyer c.mixEffect c.keyer).keys ["onAir"])
  | .keyerBase c =>
    overwrite (findKeyer c.mixEffect c.keyer) (keyerPart c.mixEffect c.keyer)
      [fun k => { k with keyType := c.keyType },
        fun k => { k with canFly := c.canFly },
        fun k => { k with flyEnabled := c.flyEnabled },
        fun k => { k with fillSource := c.fillSource },
        fun k => { k with keySource := keySource c.fillSource c.keySource },
        fun k => { k with maskEnabled := c.maskEnabled },
        fun k => { k with mask := c.mask }]
      ((Place.upstreamKeyer c.mixEffect c.keyer).keys
        ["keyType", "canFly", "flyEnabled", "fillSource", "keySource", "maskEnabled", "mask"])
  | .keyerLuma c =>
    overwrite (findKeyer c.mixEffect c.keyer) (keyerPart c.mixEffect c.keyer) [fun k => { k with luma := c.settings }]
      ((Place.upstreamKeyer c.mixEffect c.keyer).keys ["luma"])
  | .keyerChroma c =>
    overwrite (findKeyer c.mixEffect c.keyer) (keyerPart c.mixEffect c.keyer) [fun k => { k with chroma := c.settings }]
      ((Place.upstreamKeyer c.mixEffect c.keyer).keys ["chroma"])
  | .dskSources c =>
    overwrite (findDsk c.keyer) (dskPart c.keyer)
      [fun k => { k with fillSource := c.fillSource },
        fun k => { k with keySource := keySource c.fillSource c.keySource }]
      ((Place.downstreamKeyer c.keyer).keys ["fillSource", "keySource"])
  | .dskProperties c =>
    overwrite (findDsk c.keyer) (dskPart c.keyer)
      [fun k => { k with tie := c.tie },
        fun k => { k with rate := c.rate },
        fun k => { k with luma := c.luma },
        fun k => { k with maskEnabled := c.maskEnabled },
        fun k => { k with mask := c.mask }]
      ((Place.downstreamKeyer c.keyer).keys ["tie", "rate", "luma", "maskEnabled", "mask"])
  | .dskState c =>
    overwrite (findDsk c.keyer) (dskPart c.keyer)
      [fun k => { k with progress.onAir := c.progress.onAir },
        fun k => { k with progress.inTransition := c.progress.inTransition },
        fun k => { k with progress.isAutoTransitioning := c.progress.isAutoTransitioning },
        fun k => { k with progress.remainingFrames := c.progress.remainingFrames }]
      ((Place.downstreamKeyer c.keyer).keys ["onAir", "inTransition", "isAutoTransitioning", "remainingFrames"])
  | .mediaPlayerSource c =>
    overwrite (findPlayer c.player) (playerPart c.player)
      [fun p => { p with sourceType := c.source.sourceType },
        fun p => { p with stillIndex := c.source.stillIndex },
        fun p => { p with clipIndex := c.source.clipIndex }]
      [Place.mediaPlayer c.player]
  | .superSourceArt c =>
    overwrite (findSuperSource c.superSource) (superSourcePart c.superSource)
      [fun s => { s with fillSource := c.fillSource },
        fun s => { s with keySource := c.keySource },
        fun s => { s with artOption := c.artOption },
        fun s => { s with luma := c.luma },
        fun s => { s with border := c.border }]
      ((Place.superSource c.superSource).keys ["fillSource", "keySource", "artOption", "luma", "border"])
  | .superSourceBox c =>
    overwrite (findBox c.superSource c.index) (boxPart c.superSource c.index) [fun _ => c.settings]
      [Place.box c.superSource c.index]
  | .multiviewerProperties c => performMultiviewerProperties c
  | .multiviewerWindow c => performWindow c
  -- the others look nothing up
  | c => whole (·.update c)

/-! ### What programs do -/

/-- several changes as one -/
def allOf {α : Type} (writes : List (α → α)) (a : α) : α := writes.foldl (fun a f => f a) a

/-- how a program on a tree comes out that does what an update says, or fails before it has done anything -/
def outcome (t : DeviceTree) : Except StaleReference Update → EStateM.Result StaleReference Update Unit
  | .ok u => .ok () u
  | .error missing => .error missing ⟨t, []⟩

section

variable {α : Type} {p : Part DeviceTree α} {t : DeviceTree} {s : Update} {a : α} {missing : StaleReference}

theorem run_seek (h : p.get? s.tree = some a) : (seek p missing).run s = .ok () s := by
  show (if (p.get? s.tree).isNone then throw missing else pure () : Changing Unit).run s = .ok () s
  rw [h]
  rfl

theorem run_seek_missing (h : p.get? s.tree = none) : (seek p missing).run s = .error missing s := by
  show (if (p.get? s.tree).isNone then throw missing else pure () : Changing Unit).run s = .error missing s
  rw [h]
  rfl

/-- fields written one after another are one change of the entry -/
theorem run_writes (h : p.get? t = some a) (f : α → α) (writes : List (α → α)) (paths : List StatePath) :
    ((f :: writes).forM (write p)).run ⟨t, paths⟩ =
      .ok () ⟨p.set t (allOf (f :: writes) a), paths⟩ := by
  induction writes generalizing t a f with
  | nil =>
    show EStateM.Result.ok () (Update.mk (p.revise f t) paths) = _
    rw [Part.revise_of_get? h]
    rfl
  | cons g writes ih =>
    show ((g :: writes).forM (write p)).run ⟨p.revise f t, paths⟩ = _
    rw [Part.revise_of_get? h, ih (p.get?_set h), p.set_set h]
    rfl

theorem run_overwrite {find : Changing Unit} {s' : Update} (hfind : find.run s = .ok () s') (h : p.get? s'.tree = some a)
    (f : α → α) (writes : List (α → α)) (paths : List StatePath) :
    (overwrite find p (f :: writes) paths).run s =
      .ok () ⟨p.set s'.tree (allOf (f :: writes) a), s'.paths ++ paths⟩ := by
  have hwrites := run_writes h f writes s'.paths
  simp only [EStateM.run] at hfind hwrites
  simp only [overwrite, EStateM.run, bind, EStateM.bind, hfind, hwrites]
  rfl

theorem run_overwrite_missing {find : Changing Unit} (hfind : find.run s = .error missing s) (writes : List (α → α))
    (paths : List StatePath) : (overwrite find p writes paths).run s = .error missing s := by
  simp only [EStateM.run] at hfind
  simp only [overwrite, EStateM.run, bind, EStateM.bind, hfind]

/-- two lookups, one after the other -/
theorem run_then {first second : Changing Unit} {s' : Update} (h : first.run s = .ok () s') :
    (first >>= fun _ => second).run s = second.run s' := by
  simp only [EStateM.run] at h
  simp only [EStateM.run, bind, EStateM.bind, h]

theorem run_then_missing {first second : Changing Unit} (h : first.run s = .error missing s) :
    (first >>= fun _ => second).run s = .error missing s := by
  simp only [EStateM.run] at h
  simp only [EStateM.run, bind, EStateM.bind, h]

end

variable {t : DeviceTree} {keys : List String} {paths : List StatePath}

/-! ### Programs that write one entry -/

theorem run_onMixEffect (block : UInt8) (f : MixEffect → MixEffect) (writes : List (MixEffect → MixEffect)) :
    (overwrite (findBlock block) (blockPart block) (f :: writes) paths).run ⟨t, []⟩ =
      outcome t (t.onMixEffect block paths (allOf (f :: writes))) := by
  unfold onMixEffect
  cases hb : t.video.mixEffects.get? block with
  | none => exact run_overwrite_missing (run_seek_missing hb) _ _
  | some b => exact run_overwrite (run_seek hb) hb f writes paths

theorem run_onUpstreamKeyer (block keyer : UInt8) (f : UpstreamKeyer → UpstreamKeyer)
    (writes : List (UpstreamKeyer → UpstreamKeyer)) :
    (overwrite (findKeyer block keyer) (keyerPart block keyer) (f :: writes)
        ((Place.upstreamKeyer block keyer).keys keys)).run ⟨t, []⟩ =
      outcome t (t.onUpstreamKeyer block keyer keys (allOf (f :: writes))) := by
  unfold onUpstreamKeyer
  cases hb : t.video.mixEffects.get? block with
  | none => exact run_overwrite_missing (run_then_missing (run_seek_missing hb)) _ _
  | some b =>
    have hblock : (blockPart block).get? t = some b := hb
    have hfind : (findKeyer block keyer).run ⟨t, []⟩ = _ := run_then (run_seek hblock)
    have hget : (keyerPart block keyer).get? t = b.keyers.get? keyer := Part.get?_within hblock
    dsimp only
    cases hk : b.keyers.get? keyer with
    | none => exact run_overwrite_missing (hfind.trans (run_seek_missing (hget.trans hk))) _ _
    | some k =>
      rw [run_overwrite (hfind.trans (run_seek (hget.trans hk))) (hget.trans hk), keyerPart, Part.set_within hblock]
      rfl

theorem run_onDownstreamKeyer (keyer : UInt8) (f : DownstreamKeyer → DownstreamKeyer)
    (writes : List (DownstreamKeyer → DownstreamKeyer)) :
    (overwrite (findDsk keyer) (dskPart keyer) (f :: writes) ((Place.downstreamKeyer keyer).keys keys)).run ⟨t, []⟩ =
      outcome t (t.onDownstreamKeyer keyer keys (allOf (f :: writes))) := by
  unfold onDownstreamKeyer
  cases hk : t.video.downstreamKeyers.get? keyer with
  | none => exact run_overwrite_missing (run_seek_missing hk) _ _
  | some k => exact run_overwrite (run_seek hk) hk f writes _

theorem run_onSuperSource (index : UInt8) (f : SuperSource → SuperSource) (writes : List (SuperSource → SuperSource)) :
    (overwrite (findSuperSource index) (superSourcePart index) (f :: writes)
        ((Place.superSource index).keys keys)).run ⟨t, []⟩ =
      outcome t (t.onSuperSource index keys (allOf (f :: writes))) := by
  unfold onSuperSource
  cases hs : t.video.superSources.get? index with
  | none => exact run_overwrite_missing (run_seek_missing hs) _ _
  | some s => exact run_overwrite (run_seek hs) hs f writes _

theorem run_setBox (index box : UInt8) (settings : BoxSettings) :
    (overwrite (findBox index box) (boxPart index box) [fun _ => settings] [Place.box index box]).run ⟨t, []⟩ =
      outcome t (t.setBox index box settings) := by
  unfold setBox
  cases hs : t.video.superSources.get? index with
  | none => exact run_overwrite_missing (run_then_missing (run_seek_missing hs)) _ _
  | some s =>
    have hsource : (superSourcePart index).get? t = some s := hs
    have hfind : (findBox index box).run ⟨t, []⟩ = _ := run_then (run_seek hsource)
    have hget : (boxPart index box).get? t = s.boxes.get? box := Part.get?_within hsource
    dsimp only
    rw [IdMap.contains]
    cases hk : s.boxes.get? box with
    | none => exact run_overwrite_missing (hfind.trans (run_seek_missing (hget.trans hk))) _ _
    | some k =>
      rw [run_overwrite (hfind.trans (run_seek (hget.trans hk))) (hget.trans hk), boxPart, Part.set_within hsource]
      rfl

theorem run_setPlayer (player : UInt8) (f : MediaSource → MediaSource) (writes : List (MediaSource → MediaSource))
    {source : MediaSource} (hall : ∀ old, allOf (f :: writes) old = source) :
    (overwrite (findPlayer player) (playerPart player) (f :: writes) [Place.mediaPlayer player]).run ⟨t, []⟩ =
      outcome t (t.setPlayer player source) := by
  unfold setPlayer
  rw [IdMap.contains]
  cases hp : t.players.get? player with
  | none => exact run_overwrite_missing (run_seek_missing hp) _ _
  | some old =>
    rw [← hall old]
    exact run_overwrite (run_seek hp) hp f writes _

/-! ### Programs that do more -/

section

variable {index : UInt8} {m : Multiviewer}

theorem get?_windowPart (h : (viewerPart index).get? t = some m) (window : UInt8) :
    (windowPart index window).get? t = m.windows.get? window := Part.get?_within h

theorem set_windowPart (h : (viewerPart index).get? t = some m) (window : UInt8) (w : Window) :
    (windowPart index window).set t w = (viewerPart index).set t { m with windows := m.windows.insert window w } :=
  Part.set_within h w

end

theorem run_applyWindow (c : MultiviewerWindow) : (performWindow c).run ⟨t, []⟩ = outcome t (t.applyWindow c) := by
  unfold applyWindow
  cases h : t.multiviewers.get? c.multiviewer with
  | none => exact run_overwrite_missing (run_then_missing (run_seek_missing h)) _ _
  | some m =>
    have hviewer : (viewerPart c.multiviewer).get? t = some m := h
    set made : Multiviewer := { m with windows := m.windows.ensure c.window default } with hmade
    have hmade' : (viewerPart c.multiviewer).get? ((viewerPart c.multiviewer).set t made) = some made :=
      (viewerPart c.multiviewer).get?_set hviewer
    have hfind : (do
        findViewer c.multiviewer
        write (viewerPart c.multiviewer) fun m => { m with windows := m.windows.ensure c.window default } :
          Changing Unit).run ⟨t, []⟩ = .ok () ⟨(viewerPart c.multiviewer).set t made, []⟩ := by
      refine (run_then (run_seek hviewer)).trans ?_
      show EStateM.Result.ok () (Update.mk ((viewerPart c.multiviewer).revise _ t) []) = _
      rw [Part.revise_of_get? hviewer]
    have hwindow : (windowPart c.multiviewer c.window).get? ((viewerPart c.multiviewer).set t made) =
        some ((m.windows.get? c.window).getD default) := by
      rw [get?_windowPart hmade', hmade, IdMap.get?_ensure, if_pos rfl]
      cases m.windows.get? c.window <;> rfl
    rw [performWindow, run_overwrite hfind hwindow, set_windowPart hmade', (viewerPart c.multiviewer).set_set hviewer,
      hmade, IdMap.insert_ensure]
    dsimp only
    cases m.windows.get? c.window <;> cases c.supportsSafeArea <;> rfl

theorem run_showIn {index window : UInt8} {w : Window} (h : (windowPart index window).get? t = some w) (shown : Window) :
    (showIn index window shown).run ⟨t, paths⟩ =
      .ok () ⟨(windowPart index window).set t (w.showing shown), paths ++ [Place.window index window]⟩ := by
  have hfind : (return : Changing Unit).run ⟨t, paths⟩ = .ok () ⟨t, paths⟩ := rfl
  exact run_overwrite hfind h _ _ _

/-- the second window is the same whether the first has been written or not -/
theorem run_exchangeWindows {index : UInt8} {m : Multiviewer} (h : (viewerPart index).get? t = some m) {first second : Window}
    (hfirst : m.windows.get? 0 = some first) (hsecond : m.windows.get? 1 = some second) :
    (exchangeWindows index true).run ⟨t, paths⟩ =
      .ok () ⟨(viewerPart index).set t m.exchanged, paths ++ [Place.window index 0] ++ [Place.window index 1]⟩ := by
  have hzero : (windowPart index 0).get? t = some first := (get?_windowPart h 0).trans hfirst
  have hone : (windowPart index 1).get? t = some second := (get?_windowPart h 1).trans hsecond
  have hviewer := (viewerPart index).get?_set (b := { m with windows := m.windows.insert 0 (first.showing second) }) h
  have hset := set_windowPart h 0 (first.showing second)
  have hthere : (windowPart index 1).get? ((windowPart index 0).set t (first.showing second)) = some second := by
    rw [hset, get?_windowPart hviewer, IdMap.get?_insert_of_ne (by decide)]
    exact hsecond
  have hprogram : (exchangeWindows index true).run ⟨t, paths⟩ =
      (showIn index 0 second >>= fun _ => showIn index 1 first).run ⟨t, paths⟩ := by
    show EStateM.run (match true, (windowPart index 0).get? t, (windowPart index 1).get? t with
      | true, some first, some second => showIn index 0 second >>= fun _ => showIn index 1 first
      | _, _, _ => pure ()) ⟨t, paths⟩ = _
    rw [hzero, hone]
  rw [hprogram, run_then (run_showIn hzero second), run_showIn hthere first, hset, set_windowPart hviewer,
    (viewerPart index).set_set h, Multiviewer.exchanged, hfirst, hsecond]

/-- nothing is exchanged -/
theorem run_exchangeWindows_still {index : UInt8} {m : Multiviewer} (h : (viewerPart index).get? t = some m) {swaps : Bool}
    (hstill : ¬(swaps = true ∧ m.windows.contains 0 = true ∧ m.windows.contains 1 = true)) :
    (exchangeWindows index swaps).run ⟨t, paths⟩ = .ok () ⟨t, paths⟩ := by
  show EStateM.run (match swaps, (windowPart index 0).get? t, (windowPart index 1).get? t with
    | true, some first, some second => showIn index 0 second >>= fun _ => showIn index 1 first
    | _, _, _ => pure ()) ⟨t, paths⟩ = _
  rw [get?_windowPart h, get?_windowPart h]
  unfold IdMap.contains at hstill
  split
  · rename_i hfirst hsecond
    exact absurd ⟨rfl, by rw [hfirst]; rfl, by rw [hsecond]; rfl⟩ hstill
  · rfl

theorem run_applyMultiviewerProperties (c : MultiviewerProperties) :
    (performMultiviewerProperties c).run ⟨t, []⟩ = outcome t (t.applyMultiviewerProperties c) := by
  unfold applyMultiviewerProperties
  cases h : t.multiviewers.get? c.multiviewer with
  | none => exact run_then_missing (run_overwrite_missing (run_seek_missing h) _ _)
  | some m =>
    have hviewer : (viewerPart c.multiviewer).get? t = some m := h
    -- the layout and the swap are written
    set written : Multiviewer := { m with layout := c.layout, programPreviewSwapped := c.programPreviewSwapped }
      with hwritten
    have hafter := (viewerPart c.multiviewer).get?_set (b := written) hviewer
    have hprogram : (performMultiviewerProperties c).run ⟨t, []⟩ =
        (exchangeWindows c.multiviewer (m.programPreviewSwapped ≠ c.programPreviewSwapped)).run
          ⟨(viewerPart c.multiviewer).set t written,
            (Place.multiviewer c.multiviewer).keys ["layout", "programPreviewSwapped"]⟩ := by
      refine (run_then (run_overwrite (run_seek hviewer) hviewer _ _ _)).trans ?_
      dsimp only
      rw [hviewer]
      rfl
    rw [hprogram]
    dsimp only
    by_cases hswap : m.programPreviewSwapped ≠ c.programPreviewSwapped ∧ m.windows.contains 0 ∧ m.windows.contains 1
    · obtain ⟨hne, hzero, hone⟩ := hswap
      obtain ⟨first, hfirst⟩ := Option.isSome_iff_exists.1 hzero
      obtain ⟨second, hsecond⟩ := Option.isSome_iff_exists.1 hone
      rw [if_pos ⟨hne, hzero, hone⟩, decide_eq_true hne, run_exchangeWindows hafter hfirst hsecond,
        (viewerPart c.multiviewer).set_set hviewer]
      simp only [Multiviewer.exchanged, hwritten, hfirst, hsecond]
      rfl
    · rw [if_neg hswap, run_exchangeWindows_still hafter fun hh => hswap ⟨of_decide_eq_true hh.1, hh.2⟩]
      rfl

/-- **In place.** The program of a command comes out as its update says. -/
theorem perform_eq (t : DeviceTree) (c : Command) : (perform c).run ⟨t, []⟩ = outcome t (t.update c) := by
  cases c with
  | programInput c => exact run_onMixEffect _ _ _
  | previewInput c =>
    refine (run_onMixEffect _ _ _).trans ?_
    show _ = outcome t (t.onMixEffect _ _ _)
    congr 3
    funext b
    cases c.previewLive <;> rfl
  | transitionProperties c => exact run_onMixEffect _ _ _
  | transitionPosition c => exact run_onMixEffect _ _ _
  | transitionMix c => exact run_onMixEffect _ _ _
  | transitionDip c => exact run_onMixEffect _ _ _
  | transitionWipe c => exact run_onMixEffect _ _ _
  | fadeToBlackRate c => exact run_onMixEffect _ _ _
  | fadeToBlackState c => exact run_onMixEffect _ _ _
  | keyerOnAir c => exact run_onUpstreamKeyer _ _ _ _
  | keyerBase c => exact run_onUpstreamKeyer _ _ _ _
  | keyerLuma c => exact run_onUpstreamKeyer _ _ _ _
  | keyerChroma c => exact run_onUpstreamKeyer _ _ _ _
  | dskSources c => exact run_onDownstreamKeyer _ _ _
  | dskProperties c => exact run_onDownstreamKeyer _ _ _
  | dskState c => exact run_onDownstreamKeyer _ _ _
  | mediaPlayerSource c => exact run_setPlayer _ _ _ fun _ => rfl
  | superSourceArt c => exact run_onSuperSource _ _ _
  | superSourceBox c => exact run_setBox _ _ _
  | multiviewerProperties c => exact run_applyMultiviewerProperties c
  | multiviewerWindow c => exact run_applyWindow c
  | _ => rfl

/-! ### What is told -/

/-- the kinds of entries that have to be there before a report on them -/
def EntryId.isSought : EntryId → Bool
  | .mixEffect _ | .upstreamKeyer _ _ | .downstreamKeyer _ | .superSource _ | .box _ _ | .mediaPlayer _
  | .multiviewer _ => true
  | _ => false

theorem isSought_of_needs {c : Command} {e : EntryId} (h : c.needs? = some e) : e.isSought = true := by
  cases c <;> cases h <;> rfl

theorem update_of_isIdle {c : Command} (h : c.isIdle = true) : t.update c = .ok ⟨t, []⟩ := by
  cases c <;> first | rfl | cases h

theorem keys_ne_nil (place : StatePath) (key : String) (keys : List String) : place.keys (key :: keys) ≠ [] :=
  List.cons_ne_nil _ _

/-- an accepted report lists what it wrote -/
theorem paths_ne_nil {c : Command} {u : Update} (hu : t.update c = .ok u) (hc : c.isIdle = false) : u.paths ≠ [] := by
  have honBlock {block : UInt8} {paths : List StatePath} {f : MixEffect → MixEffect}
      (h : t.onMixEffect block paths f = .ok u) (hne : paths ≠ []) : u.paths ≠ [] := by
    obtain ⟨b, -, rfl⟩ := eq_of_onMixEffect h
    exact hne
  have honKeyer {block keyer : UInt8} {key : String} {keys : List String} {f : UpstreamKeyer → UpstreamKeyer}
      (h : t.onUpstreamKeyer block keyer (key :: keys) f = .ok u) : u.paths ≠ [] := by
    obtain ⟨b, k, -, -, rfl⟩ := eq_of_onUpstreamKeyer h
    exact keys_ne_nil _ _ _
  have honDsk {keyer : UInt8} {key : String} {keys : List String} {f : DownstreamKeyer → DownstreamKeyer}
      (h : t.onDownstreamKeyer keyer (key :: keys) f = .ok u) : u.paths ≠ [] := by
    obtain ⟨k, -, rfl⟩ := eq_of_onDownstreamKeyer h
    exact keys_ne_nil _ _ _
  cases c with
  | programInput c => exact honBlock hu (List.cons_ne_nil _ _)
  | previewInput c => exact honBlock hu (keys_ne_nil _ _ _)
  | transitionProperties c => exact honBlock hu (keys_ne_nil _ _ _)
  | transitionPosition c => exact honBlock hu (keys_ne_nil _ _ _)
  | transitionMix c => exact honBlock hu (keys_ne_nil _ _ _)
  | transitionDip c => exact honBlock hu (keys_ne_nil _ _ _)
  | transitionWipe c => exact honBlock hu (keys_ne_nil _ _ _)
  | fadeToBlackRate c => exact honBlock hu (keys_ne_nil _ _ _)
  | fadeToBlackState c => exact honBlock hu (keys_ne_nil _ _ _)
  | keyerOnAir c => exact honKeyer hu
  | keyerBase c => exact honKeyer hu
  | keyerLuma c => exact honKeyer hu
  | keyerChroma c => exact honKeyer hu
  | dskSources c => exact honDsk hu
  | dskProperties c => exact honDsk hu
  | dskState c => exact honDsk hu
  | mediaPlayerSource c =>
    obtain ⟨old, -, rfl⟩ := eq_of_setPlayer hu
    exact List.cons_ne_nil _ _
  | superSourceArt c =>
    obtain ⟨s, -, rfl⟩ := eq_of_onSuperSource hu
    exact keys_ne_nil _ _ _
  | superSourceBox c =>
    obtain ⟨s, old, -, -, rfl⟩ := eq_of_setBox hu
    exact List.cons_ne_nil _ _
  | multiviewerProperties c =>
    obtain ⟨m, m', windows, -, -, rfl⟩ := eq_of_applyMultiviewerProperties hu
    exact List.append_ne_nil_of_left_ne_nil (keys_ne_nil _ _ _) _
  | multiviewerWindow c =>
    obtain ⟨m, w, -, rfl⟩ := eq_of_applyWindow hu
    exact List.cons_ne_nil _ _
  | videoMode mode =>
    cases hu
    unfold applyVideoMode
    split
    · exact List.cons_ne_nil _ _
    · exact List.append_ne_nil_of_left_ne_nil (List.cons_ne_nil _ _) _
  | topology c =>
    cases hu
    simp [applyTopology]
  | version _ | product _ | mixEffectConfig _ | mediaPool _ | multiviewerConfig _ | superSourceConfig _
  | audioMixerConfig _ | macroPool _ | warning _ | inputProperties _ | audioMixerInput _ | audioMaster _
  | macroProperties _ | macroRunStatus _ | tallyByIndex _ | tallyBySource _ =>
    cases hu
    exact List.cons_ne_nil _ _
  | _ => cases hc

/-- nothing is told of a command that is idle or stale, and of no other -/
theorem paths_eq_nil_iff (t : DeviceTree) (c : Command) :
    (t.apply c).2.paths = [] ↔ c.isIdle = true ∨ ¬t.Accepts c := by
  unfold apply
  cases hu : t.update c with
  | error missing => exact iff_of_true rfl (.inr fun ⟨u, h⟩ => nomatch hu.symm.trans h)
  | ok u =>
    rw [ChangedPaths.ofList_eq_nil_iff]
    cases hc : c.isIdle with
    | true =>
      rw [update_of_isIdle hc] at hu
      cases hu
      exact iff_of_true rfl (.inl rfl)
    | false => exact iff_of_false (paths_ne_nil hu hc) fun h => h.elim (fun h => nomatch h) fun h => h ⟨u, hu⟩

theorem not_accepts_iff (t : DeviceTree) (c : Command) :
    ¬t.Accepts c ↔ ∃ e, c.needs? = some e ∧ e.isSought = true ∧ t.has e = false := by
  rw [accepts_iff]
  simp only [not_forall, Bool.not_eq_true]
  constructor
  · rintro ⟨e, hneeds, hnone⟩
    exact ⟨e, hneeds, isSought_of_needs hneeds, hnone⟩
  · rintro ⟨e, hneeds, -, hnone⟩
    exact ⟨e, hneeds, hnone⟩

/-- what is seen of a program: the tree as it leaves it, and the paths it has listed unless it failed -/
def seen : EStateM.Result StaleReference Update Unit → DeviceTree × ChangedPaths
  | .ok _ s => (s.tree, .ofList s.paths)
  | .error _ s => (s.tree, .empty)

theorem seen_perform (t : DeviceTree) (c : Command) : seen ((perform c).run ⟨t, []⟩) = t.apply c := by
  rw [perform_eq, apply]
  cases t.update c <;> rfl

/-- **Nothing is told just when nothing happens.** No path is listed for a command that asks nothing of the tree, or one
on a block, a keyer, a super source, a box, a media player or a multiviewer that is not there; any other lists some. A
command without a path leaves the tree as it is. What is seen of the program that changes the tree in place is the same,
and one that fails has changed nothing, whichever of its lookups it was. -/
theorem tells_what_it_does (t : DeviceTree) (c : Command) :
    ((t.apply c).2.paths = [] ↔
        c.isIdle = true ∨ ∃ e, c.needs? = some e ∧ e.isSought = true ∧ t.has e = false) ∧
      ((t.apply c).2.paths = [] → (t.apply c).1 = t) ∧
      seen ((perform c).run ⟨t, []⟩) = t.apply c ∧
      ∀ missing s, (perform c).run ⟨t, []⟩ = .error missing s → s = ⟨t, []⟩ := by
  refine ⟨(paths_eq_nil_iff t c).trans (or_congr_right (not_accepts_iff t c)), fun hnil => ?_, seen_perform t c,
    fun missing s hs => ?_⟩
  · rcases (paths_eq_nil_iff t c).1 hnil with hidle | hstale
    · rw [apply, update_of_isIdle hidle]
    · rw [apply_of_not_accepts hstale]
  · rw [perform_eq] at hs
    cases hu : t.update c with
    | ok u =>
      rw [hu] at hs
      cases hs
    | error missing' =>
      rw [hu] at hs
      cases hs
      rfl

/-- the block of the keyer is there, and the keyer is not -/
theorem tells_what_it_does_keyer :
    let t := DeviceTree.empty.applyAll [.mixEffectConfig ⟨0, 1⟩]
    let c := Command.keyerOnAir ⟨0, 3, true⟩
    t.has (.mixEffect 0) = true ∧ t.has (.upstreamKeyer 0 3) = false ∧ t.apply c = (t, .empty) ∧
      ∃ missing s, (perform c).run ⟨t, []⟩ = .error missing s ∧ s = ⟨t, []⟩ := by
  intro t c
  have hnone : t.has (.upstreamKeyer 0 3) = false := by decide
  obtain ⟨hempty, hsame, -, hfails⟩ := tells_what_it_does t c
  have hpaths := hempty.2 (.inr ⟨.upstreamKeyer 0 3, rfl, rfl, hnone⟩)
  have hrun : (perform c).run ⟨t, []⟩ = .error (.upstreamKeyer 3 0) _ := rfl
  exact ⟨by decide, hnone, Prod.ext (hsame hpaths) (congrArg ChangedPaths.mk hpaths), _, _, hrun, hfails _ _ hrun⟩

end DeviceTree

end VisionMixer
