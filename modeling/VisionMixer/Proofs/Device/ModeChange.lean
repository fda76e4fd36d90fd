/-
A new video mode.

The mode resets values all over the tree: the rates of every transition and fade to black, the mask of every keyer before
and after the mix-effect blocks, and the rates of the keyers after them. `ModeField` names the places of these values and
`modeSetting?` looks one up; `modeless` is the tree with all of them left blank, so that two trees that are equal there
differ in nothing else, their ids included.

`mode_change_resets`: the mode that is set already changes nothing. Another one is set, every one of the values becomes
that of the new mode, all else is as it was, and the paths are those of the mode and of the values, one for each.
-/
import VisionMixer.Device.Apply
import VisionMixer.Proofs.Device.Agreement
import VisionMixer.Proofs.IdMap

namespace VisionMixer

/-! ### Values that follow the mode -/

/-- the place of a value that follows the video mode -/
inductive ModeField where
  | mixRate (block : UInt8)
  | dipRate (block : UInt8)
  | wipeRate (block : UInt8)
  | fadeRate (block : UInt8)
  | upstreamMask (block keyer : UInt8)
  | downstreamMask (keyer : UInt8)
  | downstreamRate (keyer : UInt8)
  deriving DecidableEq

/-- a value that follows the video mode -/
inductive ModeSetting where
  | rate (frames : UInt8)
  | mask (edges : MaskRect)
  deriving DecidableEq

/-- the value of a new mode: a full frame for masks, one second for rates -/
def VideoMode.setting (m : VideoMode) : ModeField → ModeSetting
  | .upstreamMask _ _ | .downstreamMask _ => .mask (.fullFrame m)
  | .mixRate _ | .dipRate _ | .wipeRate _ | .fadeRate _ | .downstreamRate _ => .rate m.framesPerSecond

/-- the path under which a reset lists the value; the settings of a transition are listed as a whole -/
def ModeField.place : ModeField → StatePath
  | .mixRate block => (Place.transition block).key "mix"
  | .dipRate block => (Place.transition block).key "dip"
  | .wipeRate block => (Place.transition block).key "wipe"
  | .fadeRate block => (Place.fadeToBlack block).key "rate"
  | .upstreamMask block keyer => (Place.upstreamKeyer block keyer).key "mask"
  | .downstreamMask keyer => (Place.downstreamKeyer keyer).key "mask"
  | .downstreamRate keyer => (Place.downstreamKeyer keyer).key "rate"

/-- the value at a place, if its block or keyer is there -/
def DeviceTree.modeSetting? (t : DeviceTree) : ModeField → Option ModeSetting
  | .mixRate block => (t.video.mixEffects.get? block).map fun b => .rate b.transition.mixRate
  | .dipRate block => (t.video.mixEffects.get? block).map fun b => .rate b.transition.dip.rate
  | .wipeRate block => (t.video.mixEffects.get? block).map fun b => .rate b.transition.wipe.rate
  | .fadeRate block => (t.video.mixEffects.get? block).map fun b => .rate b.fadeToBlack.rate
  | .upstreamMask block keyer =>
    ((t.video.mixEffects.get? block).bind (·.keyers.get? keyer)).map fun k => .mask k.mask
  | .downstreamMask keyer => (t.video.downstreamKeyers.get? keyer).map fun k => .mask k.mask
  | .downstreamRate keyer => (t.video.downstreamKeyers.get? keyer).map fun k => .rate k.rate

/-- the block with all that follows the mode left blank -/
def MixEffect.modeless (b : MixEffect) : MixEffect :=
  { b with
    transition.mixRate := 0
    transition.dip.rate := 0
    transition.wipe.rate := 0
    fadeToBlack.rate := 0
    keyers := b.keyers.mapEntries fun _ k => { k with mask := default } }

/-- the tree with the mode and all that follows it left blank -/
def DeviceTree.modeless (t : DeviceTree) : DeviceTree :=
  { t with
    video.mode := none
    video.mixEffects := t.video.mixEffects.mapEntries fun _ b => b.modeless
    video.downstreamKeyers := t.video.downstreamKeyers.mapEntries fun _ k => { k with mask := default, rate := 0 } }

/-! ### Paths of these values -/

theorem ModeField.place_inj {f g : ModeField} (h : f.place = g.place) : f = g := by
  cases f <;> cases g <;>
    simp_all [place, Place.transition, Place.fadeToBlack, Place.upstreamKeyer, Place.downstreamKeyer, Place.mixEffect,
      StatePath.key_inj, StatePath.index_inj, StatePath.key_ne_index, StatePath.key_ne_index.symm]

theorem ModeField.place_ne_videoMode (f : ModeField) : f.place ≠ Place.videoMode := by
  cases f <;> simp [place, Place.videoMode, StatePath.key_inj]

namespace DeviceTree

variable {t : DeviceTree} {mode : VideoMode}

/-- the tree after a mode that was not set -/
theorem applyVideoMode_of_ne (h : t.video.mode ≠ some mode) : t.applyVideoMode mode =
    { tree := { t with
        video.mode := some mode
        video.mixEffects := t.video.mixEffects.mapEntries fun _ b => b.reset mode
        video.downstreamKeyers := t.video.downstreamKeyers.mapEntries fun _ k =>
          { k with mask := .fullFrame mode, rate := mode.framesPerSecond } }
      paths := Place.videoMode
        :: t.video.mixEffects.entries.flatMap (fun e => e.2.resetPaths e.1)
        ++ t.video.downstreamKeyers.keys.flatMap fun keyer => (Place.downstreamKeyer keyer).keys ["mask", "rate"] } :=
  if_neg h

theorem modeSetting?_applyVideoMode (h : t.video.mode ≠ some mode) (f : ModeField) :
    (t.applyVideoMode mode).tree.modeSetting? f = (t.modeSetting? f).map fun _ => mode.setting f := by
  rw [applyVideoMode_of_ne h]
  cases f with
  | upstreamMask block keyer =>
    simp only [modeSetting?, IdMap.get?_mapEntries]
    cases hb : t.video.mixEffects.get? block with
    | none => rfl
    | some b =>
      simp only [Option.map_some, Option.bind_some, MixEffect.reset, IdMap.get?_mapEntries, Option.map_map]
      rfl
  | mixRate block | dipRate block | wipeRate block | fadeRate block =>
    simp only [modeSetting?, IdMap.get?_mapEntries, Option.map_map]
    rfl
  | downstreamMask keyer | downstreamRate keyer =>
    simp only [modeSetting?, IdMap.get?_mapEntries, Option.map_map]
    rfl

theorem modeless_reset (b : MixEffect) : (b.reset mode).modeless = b.modeless := by
  simp only [MixEffect.modeless, MixEffect.reset, IdMap.mapEntries_mapEntries]

theorem modeless_applyVideoMode (h : t.video.mode ≠ some mode) :
    (t.applyVideoMode mode).tree.modeless = t.modeless := by
  rw [applyVideoMode_of_ne h]
  simp only [modeless, IdMap.mapEntries_mapEntries, modeless_reset]

/-! ### What is listed -/

/-- the places in a block -/
def modeFieldsOf (block : UInt8) (b : MixEffect) : List ModeField :=
  [.mixRate block, .dipRate block, .wipeRate block, .fadeRate block] ++ b.keyers.keys.map (.upstreamMask block)

/-- the places in the tree, in the order in which they are reset -/
def modeFields (t : DeviceTree) : List ModeField :=
  t.video.mixEffects.entries.flatMap (fun e => modeFieldsOf e.1 e.2) ++
    t.video.downstreamKeyers.keys.flatMap fun keyer => [.downstreamMask keyer, .downstreamRate keyer]

theorem mem_modeFields {f : ModeField} : f ∈ t.modeFields ↔ (t.modeSetting? f).isSome := by
  cases f with
  | upstreamMask block keyer =>
    simp [modeFields, modeFieldsOf, modeSetting?, IdMap.mem_keys, IdMap.mem_entries_iff, Option.isSome_iff_exists,
      Option.bind_eq_some_iff]
  | mixRate block | dipRate block | wipeRate block | fadeRate block =>
    simp [modeFields, modeFieldsOf, modeSetting?, IdMap.mem_entries_iff, Option.isSome_iff_exists]
  | downstreamMask keyer | downstreamRate keyer =>
    simp [modeFields, modeFieldsOf, modeSetting?, IdMap.mem_keys, Option.isSome_iff_exists]

/-- no two blocks or keyers have a place in common -/
theorem nodup_modeFields (t : DeviceTree) : t.modeFields.Nodup := by
  have hblock (e : UInt8 × MixEffect) : (modeFieldsOf e.1 e.2).Nodup := by
    have hkeyers : (e.2.keyers.keys.map (ModeField.upstreamMask e.1)).Nodup :=
      e.2.keyers.nodup_keys.map fun _ _ h => by cases h; rfl
    simp [modeFieldsOf, hkeyers]
  have hblocks : (t.video.mixEffects.entries.flatMap fun e => modeFieldsOf e.1 e.2).Nodup := by
    refine List.nodup_flatMap.2 ⟨fun e _ => hblock e, ?_⟩
    refine t.video.mixEffects.entries_pairwise_ne.imp fun hne f ha hb => hne ?_
    cases f <;> simp_all [modeFieldsOf]
  have hdownstream : (t.video.downstreamKeyers.keys.flatMap fun keyer =>
      [ModeField.downstreamMask keyer, .downstreamRate keyer]).Nodup := by
    refine List.nodup_flatMap.2 ⟨fun keyer _ => by simp, ?_⟩
    refine t.video.downstreamKeyers.nodup_keys.imp fun hne f ha hb => hne ?_
    cases f <;> simp_all
  refine List.Nodup.append hblocks hdownstream fun f hb hd => ?_
  obtain ⟨e, -, he⟩ := List.mem_flatMap.1 hb
  obtain ⟨keyer, -, hk⟩ := List.mem_flatMap.1 hd
  cases f <;> simp_all [modeFieldsOf]

theorem paths_applyVideoMode (h : t.video.mode ≠ some mode) :
    (t.applyVideoMode mode).paths = Place.videoMode :: t.modeFields.map ModeField.place := by
  rw [applyVideoMode_of_ne h]
  simp [modeFields, modeFieldsOf, MixEffect.resetPaths, List.map_flatMap, StatePath.keys, ModeField.place,
    Function.comp_def]

/-- no path is listed twice, so none is left out when they are gathered -/
theorem nodup_modePaths (t : DeviceTree) : (Place.videoMode :: t.modeFields.map ModeField.place).Nodup := by
  refine List.nodup_cons.2 ⟨fun hmode => ?_, t.nodup_modeFields.map fun _ _ => ModeField.place_inj⟩
  obtain ⟨f, -, hf⟩ := List.mem_map.1 hmode
  exact f.place_ne_videoMode hf

/-- **What a new video mode resets.** The mode that is set already changes nothing, and only its own path is listed.
Another mode is set; every mask that is there becomes its full frame and every rate its frames in a second; all else is
as it was, the ids too; and listed are the path of the mode and those of the masks and rates that are there, one for
each. -/
theorem mode_change_resets (t : DeviceTree) (mode : VideoMode) :
    let after := t.apply (.videoMode mode)
    (t.video.mode = some mode → after = (t, ⟨[Place.videoMode]⟩)) ∧
      (t.video.mode ≠ some mode →
        after.1.video.mode = some mode ∧
        (∀ f, after.1.modeSetting? f = (t.modeSetting? f).map fun _ => mode.setting f) ∧
        after.1.modeless = t.modeless ∧
        ∃ fields : List ModeField, fields.Nodup ∧ (∀ f, f ∈ fields ↔ (t.modeSetting? f).isSome) ∧
          after.2.paths = Place.videoMode :: fields.map ModeField.place) := by
  intro after
  have hafter : after = ((t.applyVideoMode mode).tree, .ofList (t.applyVideoMode mode).paths) := rfl
  constructor
  · intro hset
    rw [hafter, applyVideoMode, if_pos hset]
    rfl
  · intro hne
    refine ⟨?_, modeSetting?_applyVideoMode hne, modeless_applyVideoMode hne, t.modeFields, t.nodup_modeFields,
      fun f => mem_modeFields, ?_⟩
    · rw [hafter, applyVideoMode_of_ne hne]
    · rw [hafter, paths_applyVideoMode hne, ChangedPaths.ofList_of_nodup t.nodup_modePaths]

/-- from 1080i50 to 525i59.94, with a keyer before the block's output, one after it, and a dip of 12 frames -/
theorem mode_change_resets_standard_definition :
    let t := DeviceTree.empty.applyAll [.mixEffectConfig ⟨0, 1⟩,
      .topology ⟨1, 0, 1, 0, 0, 0, 0, 0, 0, 0, 0, none, none, none, none⟩, .videoMode ⟨6⟩, .transitionDip ⟨0, ⟨12, 2001⟩⟩]
    let after := t.apply (.videoMode ⟨0⟩)
    t.video.mode = some ⟨6⟩ ∧ t.apply (.videoMode ⟨6⟩) = (t, ⟨[Place.videoMode]⟩) ∧
      t.video.mode ≠ some ⟨0⟩ ∧ after.1.video.mode = some ⟨0⟩ ∧
      t.modeSetting? (.dipRate 0) = some (.rate 12) ∧ after.1.modeSetting? (.dipRate 0) = some (.rate 30) ∧
      after.1.modeSetting? (.upstreamMask 0 0) = some (.mask ⟨3, -3, 4, -4⟩) ∧
      after.1.modeSetting? (.downstreamMask 0) = some (.mask ⟨3, -3, 4, -4⟩) ∧
      after.1.modeSetting? (.downstreamMask 1) = none ∧ after.1.modeless = t.modeless ∧
      (ModeField.dipRate 0).place ∈ after.2.paths := by
  intro t after
  have hne : t.video.mode ≠ some ⟨0⟩ := by decide
  obtain ⟨hmode, hsettings, hrest, fields, -, hfields, hpaths⟩ := (mode_change_resets t ⟨0⟩).2 hne
  refine ⟨rfl, (mode_change_resets t ⟨6⟩).1 rfl, hne, hmode, by decide, (hsettings _).trans (by decide),
    (hsettings _).trans (by decide), (hsettings _).trans (by decide), (hsettings _).trans (by decide), hrest, ?_⟩
  rw [hpaths]
  exact List.mem_cons_of_mem _ (List.mem_map_of_mem ((hfields _).2 (by decide)))

end DeviceTree

end VisionMixer
