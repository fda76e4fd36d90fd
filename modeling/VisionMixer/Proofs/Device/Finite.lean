/-
The numbers of the tree are finite.

Clips, gains, positions and edges come from reports, and a report that was read has finite numbers. `IsFinite` says of each
part of the tree that its numbers are finite: a new entry has zeros, a new mode writes edges of its own, and all else is
kept or taken from the report (`isFinite_update`). So every tree is that has come from commands that were read
(`isFinite_run`).
-/
import VisionMixer.Proofs.Command.Finite
import VisionMixer.Proofs.Device.Promises

namespace VisionMixer

/-! ### Parts with finite numbers -/

/-- the edges of a mask are finite -/
structure MaskRect.IsFinite (m : MaskRect) : Prop where
  top : m.top.isFinite
  bottom : m.bottom.isFinite
  left : m.left.isFinite
  right : m.right.isFinite

/-- the numbers of a luma key are finite -/
structure LumaSettings.IsFinite (l : LumaSettings) : Prop where
  clip : l.clip.isFinite
  gain : l.gain.isFinite

/-- the numbers of a chroma key are finite -/
structure ChromaSettings.IsFinite (c : ChromaSettings) : Prop where
  hue : c.hue.isFinite
  gain : c.gain.isFinite
  ySuppress : c.ySuppress.isFinite
  lift : c.lift.isFinite

/-- the numbers of a border are finite -/
structure BorderSettings.IsFinite (b : BorderSettings) : Prop where
  hue : b.hue.isFinite
  saturation : b.saturation.isFinite
  luma : b.luma.isFinite

/-- the numbers of a box are finite -/
structure BoxSettings.IsFinite (b : BoxSettings) : Prop where
  x : b.x.isFinite
  y : b.y.isFinite
  size : b.size.isFinite
  crop : b.crop.IsFinite

/-- the numbers of a wipe are finite -/
structure WipeSettings.IsFinite (w : WipeSettings) : Prop where
  borderWidth : w.borderWidth.isFinite
  symmetry : w.symmetry.isFinite
  borderSoftness : w.borderSoftness.isFinite
  xPosition : w.xPosition.isFinite
  yPosition : w.yPosition.isFinite

/-- the numbers of a transition are finite -/
structure Transition.IsFinite (r : Transition) : Prop where
  position : r.progress.position.isFinite
  wipe : r.wipe.IsFinite

/-- the numbers of an upstream keyer are finite -/
structure UpstreamKeyer.IsFinite (k : UpstreamKeyer) : Prop where
  mask : k.mask.IsFinite
  luma : k.luma.IsFinite
  chroma : k.chroma.IsFinite

/-- the numbers of a block are finite -/
structure MixEffect.IsFinite (b : MixEffect) : Prop where
  transition : b.transition.IsFinite
  keyers : b.keyers.Forall UpstreamKeyer.IsFinite

/-- the numbers of a downstream keyer are finite -/
structure DownstreamKeyer.IsFinite (k : DownstreamKeyer) : Prop where
  luma : k.luma.IsFinite
  mask : k.mask.IsFinite

/-- the numbers of a super source are finite -/
structure SuperSource.IsFinite (s : SuperSource) : Prop where
  luma : s.luma.IsFinite
  border : s.border.IsFinite
  boxes : s.boxes.Forall BoxSettings.IsFinite

/-- the numbers of the video part are finite -/
structure VideoTree.IsFinite (v : VideoTree) : Prop where
  mixEffects : v.mixEffects.Forall MixEffect.IsFinite
  downstreamKeyers : v.downstreamKeyers.Forall DownstreamKeyer.IsFinite
  superSources : v.superSources.Forall SuperSource.IsFinite

/-- the numbers of the master output are finite -/
structure AudioMaster.IsFinite (m : AudioMaster) : Prop where
  gain : m.gain.isFinite
  balance : m.balance.isFinite

/-- the numbers of an audio strip are finite -/
structure AudioStrip.IsFinite (s : AudioStrip) : Prop where
  gain : s.gain.isFinite
  balance : s.balance.isFinite

/-- the numbers of the audio part are finite -/
structure AudioTree.IsFinite (a : AudioTree) : Prop where
  master : ∀ m ∈ a.master, m.IsFinite
  inputs : a.inputs.Forall AudioStrip.IsFinite

/-- the numbers of the tree are finite; no other part has any -/
structure DeviceTree.IsFinite (t : DeviceTree) : Prop where
  video : t.video.IsFinite
  audio : t.audio.IsFinite

/-! ### Parts of their own -/

theorem MaskRect.isFinite_default : (default : MaskRect).IsFinite := ⟨rfl, rfl, rfl, rfl⟩

theorem MaskRect.isFinite_fullFrame (mode : VideoMode) : (fullFrame mode).IsFinite := by
  unfold fullFrame
  split <;> exact ⟨rfl, rfl, rfl, rfl⟩

theorem LumaSettings.isFinite_default : (default : LumaSettings).IsFinite := ⟨rfl, rfl⟩

theorem BoxSettings.isFinite_default : (default : BoxSettings).IsFinite := ⟨rfl, rfl, rfl, MaskRect.isFinite_default⟩

theorem UpstreamKeyer.isFinite_default : (default : UpstreamKeyer).IsFinite :=
  ⟨MaskRect.isFinite_default, LumaSettings.isFinite_default, ⟨rfl, rfl, rfl, rfl⟩⟩

theorem DownstreamKeyer.isFinite_default : (default : DownstreamKeyer).IsFinite :=
  ⟨LumaSettings.isFinite_default, MaskRect.isFinite_default⟩

theorem MixEffect.isFinite_default : (default : MixEffect).IsFinite :=
  ⟨⟨rfl, ⟨rfl, rfl, rfl, rfl, rfl⟩⟩, IdMap.forall_empty⟩

/-- a new super source, with some boxes or none -/
theorem SuperSource.isFinite_new (boxes : Nat) :
    { (default : SuperSource) with boxes := IdMap.fill ∅ boxes default }.IsFinite :=
  ⟨LumaSettings.isFinite_default, ⟨rfl, rfl, rfl⟩, IdMap.forall_empty.fill BoxSettings.isFinite_default boxes⟩

/-- a new mode writes rates and masks -/
theorem MixEffect.IsFinite.reset {b : MixEffect} (h : b.IsFinite) (mode : VideoMode) : (b.reset mode).IsFinite where
  transition := ⟨h.transition.position, ⟨h.transition.wipe.borderWidth, h.transition.wipe.symmetry,
    h.transition.wipe.borderSoftness, h.transition.wipe.xPosition, h.transition.wipe.yPosition⟩⟩
  keyers := h.keyers.mapEntries fun _ _ hk => ⟨MaskRect.isFinite_fullFrame mode, hk.luma, hk.chroma⟩

/-! ### Parts from reports -/

namespace Command

theorem isFinite_transitionPosition {c : TransitionPosition} (h : (transitionPosition c).IsFinite) :
    c.progress.position.isFinite := by
  simp only [IsFinite, numbers_transitionPosition, List.forall_mem_cons] at h
  exact h.1

theorem isFinite_transitionWipe {c : TransitionWipe} (h : (transitionWipe c).IsFinite) : c.settings.IsFinite := by
  simp only [IsFinite, numbers_transitionWipe, List.forall_mem_cons] at h
  obtain ⟨hwidth, hsymmetry, hsoftness, hx, hy, -⟩ := h
  exact ⟨hwidth, hsymmetry, hsoftness, hx, hy⟩

theorem isFinite_keyerBase {c : KeyerBase} (h : (keyerBase c).IsFinite) : c.mask.IsFinite := by
  simp only [IsFinite, numbers_keyerBase, List.forall_mem_cons] at h
  obtain ⟨htop, hbottom, hleft, hright, -⟩ := h
  exact ⟨htop, hbottom, hleft, hright⟩

theorem isFinite_keyerLuma {c : KeyerLuma} (h : (keyerLuma c).IsFinite) : c.settings.IsFinite := by
  simp only [IsFinite, numbers_keyerLuma, List.forall_mem_cons] at h
  exact ⟨h.1, h.2.1⟩

theorem isFinite_keyerChroma {c : KeyerChroma} (h : (keyerChroma c).IsFinite) : c.settings.IsFinite := by
  simp only [IsFinite, numbers_keyerChroma, List.forall_mem_cons] at h
  obtain ⟨hhue, hgain, hsuppress, hlift, -⟩ := h
  exact ⟨hhue, hgain, hsuppress, hlift⟩

theorem isFinite_dskProperties {c : DskProperties} (h : (dskProperties c).IsFinite) :
    c.luma.IsFinite ∧ c.mask.IsFinite := by
  simp only [IsFinite, numbers_dskProperties, List.forall_mem_cons] at h
  obtain ⟨hclip, hgain, htop, hbottom, hleft, hright, -⟩ := h
  exact ⟨⟨hclip, hgain⟩, ⟨htop, hbottom, hleft, hright⟩⟩

theorem isFinite_superSourceArt {c : SuperSourceArt} (h : (superSourceArt c).IsFinite) :
    c.luma.IsFinite ∧ c.border.IsFinite := by
  simp only [IsFinite, numbers_superSourceArt, List.forall_mem_cons] at h
  obtain ⟨hclip, hgain, hhue, hsaturation, hluma, -⟩ := h
  exact ⟨⟨hclip, hgain⟩, ⟨hhue, hsaturation, hluma⟩⟩

theorem isFinite_superSourceBox {c : SuperSourceBox} (h : (superSourceBox c).IsFinite) : c.settings.IsFinite := by
  simp only [IsFinite, numbers_superSourceBox, List.forall_mem_cons] at h
  obtain ⟨hx, hy, hsize, htop, hbottom, hleft, hright, -⟩ := h
  exact ⟨hx, hy, hsize, ⟨htop, hbottom, hleft, hright⟩⟩

theorem isFinite_audioMixerInput {c : AudioMixerInput} (h : (audioMixerInput c).IsFinite) : c.strip.IsFinite := by
  simp only [IsFinite, numbers_audioMixerInput, List.forall_mem_cons] at h
  exact ⟨h.1, h.2.1⟩

theorem isFinite_audioMaster {c : AudioMaster} (h : (audioMaster c).IsFinite) : AudioMaster.IsFinite c := by
  simp only [IsFinite, numbers_audioMaster, List.forall_mem_cons] at h
  exact ⟨h.1, h.2.1⟩

end Command

namespace DeviceTree

variable {t : DeviceTree} {u : Update} {paths : List StatePath} {keys : List String}

/-! ### One entry -/

theorem isFinite_onMixEffect {block : UInt8} {f : MixEffect → MixEffect} (ht : t.IsFinite)
    (h : t.onMixEffect block paths f = .ok u) (hf : ∀ b, b.IsFinite → (f b).IsFinite) : u.tree.IsFinite := by
  obtain ⟨b, hb, rfl⟩ := eq_of_onMixEffect h
  have hmixEffects := ht.video.mixEffects
  exact ⟨⟨hmixEffects.insert (hf b (hmixEffects block b hb)), ht.video.downstreamKeyers, ht.video.superSources⟩, ht.audio⟩

theorem isFinite_onUpstreamKeyer {block keyer : UInt8} {f : UpstreamKeyer → UpstreamKeyer} (ht : t.IsFinite)
    (h : t.onUpstreamKeyer block keyer keys f = .ok u) (hf : ∀ k, k.IsFinite → (f k).IsFinite) : u.tree.IsFinite := by
  obtain ⟨b, k, hb, hk, rfl⟩ := eq_of_onUpstreamKeyer h
  have hblock := ht.video.mixEffects block b hb
  have hnew := hf k (hblock.keyers keyer k hk)
  exact ⟨⟨ht.video.mixEffects.insert ⟨hblock.transition, hblock.keyers.insert hnew⟩, ht.video.downstreamKeyers,
    ht.video.superSources⟩, ht.audio⟩

theorem isFinite_onDownstreamKeyer {keyer : UInt8} {f : DownstreamKeyer → DownstreamKeyer} (ht : t.IsFinite)
    (h : t.onDownstreamKeyer keyer keys f = .ok u) (hf : ∀ k, k.IsFinite → (f k).IsFinite) : u.tree.IsFinite := by
  obtain ⟨k, hk, rfl⟩ := eq_of_onDownstreamKeyer h
  have hkeyers := ht.video.downstreamKeyers
  exact ⟨⟨ht.video.mixEffects, hkeyers.insert (hf k (hkeyers keyer k hk)), ht.video.superSources⟩, ht.audio⟩

theorem isFinite_onSuperSource {index : UInt8} {f : SuperSource → SuperSource} (ht : t.IsFinite)
    (h : t.onSuperSource index keys f = .ok u) (hf : ∀ s, s.IsFinite → (f s).IsFinite) : u.tree.IsFinite := by
  obtain ⟨s, hs, rfl⟩ := eq_of_onSuperSource h
  have hsources := ht.video.superSources
  exact ⟨⟨ht.video.mixEffects, ht.video.downstreamKeyers, hsources.insert (hf s (hsources index s hs))⟩, ht.audio⟩

theorem isFinite_setBox {index box : UInt8} {settings : BoxSettings} (ht : t.IsFinite) (hsettings : settings.IsFinite)
    (h : t.setBox index box settings = .ok u) : u.tree.IsFinite := by
  obtain ⟨s, old, hs, -, rfl⟩ := eq_of_setBox h
  have hsource := ht.video.superSources index s hs
  have hnew : { s with boxes := s.boxes.insert box settings }.IsFinite :=
    ⟨hsource.luma, hsource.border, hsource.boxes.insert hsettings⟩
  exact ⟨⟨ht.video.mixEffects, ht.video.downstreamKeyers, ht.video.superSources.insert hnew⟩, ht.audio⟩

/-! ### Many entries -/

theorem isFinite_applyTopology (ht : t.IsFinite) (c : Topology) : (t.applyTopology c).tree.IsFinite :=
  ⟨⟨ht.video.mixEffects.fill MixEffect.isFinite_default _,
    ht.video.downstreamKeyers.fill DownstreamKeyer.isFinite_default _,
    ht.video.superSources.fill (SuperSource.isFinite_new _) _⟩, ht.audio⟩

theorem isFinite_applyMixEffectConfig (ht : t.IsFinite) (c : MixEffectConfig) :
    (t.applyMixEffectConfig c).tree.IsFinite := by
  have hblock := ht.video.mixEffects.getD MixEffect.isFinite_default c.mixEffect
  have hkeyers := hblock.keyers.fill UpstreamKeyer.isFinite_default c.keyers.toNat
  exact ⟨⟨ht.video.mixEffects.insert ⟨hblock.transition, hkeyers⟩, ht.video.downstreamKeyers, ht.video.superSources⟩,
    ht.audio⟩

theorem isFinite_applySuperSourceConfig (ht : t.IsFinite) (boxes : UInt8) :
    (t.applySuperSourceConfig boxes).tree.IsFinite :=
  ⟨⟨ht.video.mixEffects, ht.video.downstreamKeyers, ht.video.superSources.mapEntries fun _ _ hs =>
    ⟨hs.luma, hs.border, hs.boxes.fill BoxSettings.isFinite_default _⟩⟩, ht.audio⟩

theorem isFinite_applyVideoMode (ht : t.IsFinite) (mode : VideoMode) : (t.applyVideoMode mode).tree.IsFinite := by
  unfold applyVideoMode
  split
  · exact ht
  · exact ⟨⟨ht.video.mixEffects.mapEntries fun _ _ hb => hb.reset mode,
      ht.video.downstreamKeyers.mapEntries fun _ _ hk => ⟨hk.luma, MaskRect.isFinite_fullFrame mode⟩,
      ht.video.superSources⟩, ht.audio⟩

/-! ### Every command -/

/-- **A command with finite numbers leaves the numbers of the tree finite.** -/
theorem isFinite_update {c : Command} (ht : t.IsFinite) (hc : c.IsFinite) (h : t.update c = .ok u) : u.tree.IsFinite := by
  cases c with
  | topology c =>
    cases h
    exact isFinite_applyTopology ht c
  | mixEffectConfig c =>
    cases h
    exact isFinite_applyMixEffectConfig ht c
  | superSourceConfig boxes =>
    cases h
    exact isFinite_applySuperSourceConfig ht boxes
  | videoMode mode =>
    cases h
    exact isFinite_applyVideoMode ht mode
  | programInput c => exact isFinite_onMixEffect ht h fun _ hb => ⟨hb.transition, hb.keyers⟩
  | previewInput c => exact isFinite_onMixEffect ht h fun _ hb => ⟨hb.transition, hb.keyers⟩
  | transitionProperties c =>
    exact isFinite_onMixEffect ht h fun _ hb => ⟨⟨hb.transition.position, hb.transition.wipe⟩, hb.keyers⟩
  | transitionPosition c =>
    exact isFinite_onMixEffect ht h fun _ hb => ⟨⟨Command.isFinite_transitionPosition hc, hb.transition.wipe⟩, hb.keyers⟩
  | transitionMix c =>
    exact isFinite_onMixEffect ht h fun _ hb => ⟨⟨hb.transition.position, hb.transition.wipe⟩, hb.keyers⟩
  | transitionDip c =>
    exact isFinite_onMixEffect ht h fun _ hb => ⟨⟨hb.transition.position, hb.transition.wipe⟩, hb.keyers⟩
  | transitionWipe c =>
    exact isFinite_onMixEffect ht h fun _ hb => ⟨⟨hb.transition.position, Command.isFinite_transitionWipe hc⟩, hb.keyers⟩
  | fadeToBlackRate c => exact isFinite_onMixEffect ht h fun _ hb => ⟨hb.transition, hb.keyers⟩
  | fadeToBlackState c => exact isFinite_onMixEffect ht h fun _ hb => ⟨hb.transition, hb.keyers⟩
  | keyerOnAir c => exact isFinite_onUpstreamKeyer ht h fun _ hk => ⟨hk.mask, hk.luma, hk.chroma⟩
  | keyerBase c =>
    exact isFinite_onUpstreamKeyer ht h fun _ hk => ⟨Command.isFinite_keyerBase hc, hk.luma, hk.chroma⟩
  | keyerLuma c =>
    exact isFinite_onUpstreamKeyer ht h fun _ hk => ⟨hk.mask, Command.isFinite_keyerLuma hc, hk.chroma⟩
  | keyerChroma c =>
    exact isFinite_onUpstreamKeyer ht h fun _ hk => ⟨hk.mask, hk.luma, Command.isFinite_keyerChroma hc⟩
  | dskSources c => exact isFinite_onDownstreamKeyer ht h fun _ hk => ⟨hk.luma, hk.mask⟩
  | dskProperties c =>
    obtain ⟨hluma, hmask⟩ := Command.isFinite_dskProperties hc
    exact isFinite_onDownstreamKeyer ht h fun _ _ => ⟨hluma, hmask⟩
  | dskState c => exact isFinite_onDownstreamKeyer ht h fun _ hk => ⟨hk.luma, hk.mask⟩
  | superSourceArt c =>
    obtain ⟨hluma, hborder⟩ := Command.isFinite_superSourceArt hc
    exact isFinite_onSuperSource ht h fun _ hs => ⟨hluma, hborder, hs.boxes⟩
  | superSourceBox c => exact isFinite_setBox ht (Command.isFinite_superSourceBox hc) h
  | audioMixerInput c =>
    cases h
    exact ⟨ht.video, ⟨ht.audio.master, ht.audio.inputs.insert (Command.isFinite_audioMixerInput hc)⟩⟩
  | audioMaster c =>
    cases h
    refine ⟨ht.video, ⟨fun m hm => ?_, ht.audio.inputs⟩⟩
    cases hm
    exact Command.isFinite_audioMaster hc
  | mediaPlayerSource c =>
    obtain ⟨old, -, rfl⟩ := eq_of_setPlayer h
    exact ⟨ht.video, ht.audio⟩
  | multiviewerProperties c =>
    obtain ⟨m, m', windows, -, -, rfl⟩ := eq_of_applyMultiviewerProperties h
    exact ⟨ht.video, ht.audio⟩
  | multiviewerWindow c =>
    obtain ⟨m, w, -, rfl⟩ := eq_of_applyWindow h
    exact ⟨ht.video, ht.audio⟩
  | _ =>
    cases h
    exact ⟨ht.video, ht.audio⟩

theorem isFinite_empty : empty.IsFinite :=
  ⟨⟨IdMap.forall_empty, IdMap.forall_empty, IdMap.forall_empty⟩, ⟨nofun, IdMap.forall_empty⟩⟩

/-- **Trees made of commands that were read have finite numbers.** -/
theorem isFinite_run (acts : List Act) (hread : ∀ c, .apply c ∈ acts → ∃ a v r, Command.decode a v r = .ok c) :
    (run acts).IsFinite := by
  refine run_induction_of isFinite_empty isFinite_update acts fun c hc => ?_
  obtain ⟨a, v, r, hdecode⟩ := hread c hc
  exact Command.isFinite_of_decode hdecode

end DeviceTree

end VisionMixer
