/-
Commands that come again.

A command says how a part of the device is, not what to change about it. Where it finds the tree as it says, it leaves
it so: a report writes what is there already (`onMixEffect_again`, `setBox_again`, …), a count finds its entries created,
and the three rules that look at what was there before have nothing left to do, for the mode is the one that is set, the
windows are exchanged, and what a report does not carry is what it left there the first time.

`update_again` collects this for every command: the second time it is accepted too, makes the same tree, and lists
nothing that it has not listed the first time. `apply_again` says so of whole steps, stale commands included.
-/
import VisionMixer.Proofs.Device.Agreement
import VisionMixer.Proofs.Device.Entries

namespace VisionMixer.DeviceTree

variable {t : DeviceTree} {u : Update} {paths : List StatePath} {keys : List String}

/-! ### Reports on one entry -/

theorem onMixEffect_again {block : UInt8} {f : MixEffect → MixEffect} (h : t.onMixEffect block paths f = .ok u)
    (hf : ∀ b, f (f b) = f b) : u.tree.onMixEffect block paths f = .ok u := by
  obtain ⟨b, -, rfl⟩ := eq_of_onMixEffect h
  simp only [onMixEffect, IdMap.get?_insert_self, IdMap.insert_insert, hf]

theorem onUpstreamKeyer_again {block keyer : UInt8} {f : UpstreamKeyer → UpstreamKeyer}
    (h : t.onUpstreamKeyer block keyer keys f = .ok u) (hf : ∀ k, f (f k) = f k) :
    u.tree.onUpstreamKeyer block keyer keys f = .ok u := by
  obtain ⟨b, k, -, -, rfl⟩ := eq_of_onUpstreamKeyer h
  simp only [onUpstreamKeyer, IdMap.get?_insert_self, IdMap.insert_insert, hf]

theorem onDownstreamKeyer_again {keyer : UInt8} {f : DownstreamKeyer → DownstreamKeyer}
    (h : t.onDownstreamKeyer keyer keys f = .ok u) (hf : ∀ k, f (f k) = f k) :
    u.tree.onDownstreamKeyer keyer keys f = .ok u := by
  obtain ⟨k, -, rfl⟩ := eq_of_onDownstreamKeyer h
  simp only [onDownstreamKeyer, IdMap.get?_insert_self, IdMap.insert_insert, hf]

theorem onSuperSource_again {index : UInt8} {f : SuperSource → SuperSource} (h : t.onSuperSource index keys f = .ok u)
    (hf : ∀ s, f (f s) = f s) : u.tree.onSuperSource index keys f = .ok u := by
  obtain ⟨s, -, rfl⟩ := eq_of_onSuperSource h
  simp only [onSuperSource, IdMap.get?_insert_self, IdMap.insert_insert, hf]

theorem setBox_again {index box : UInt8} {settings : BoxSettings} (h : t.setBox index box settings = .ok u) :
    u.tree.setBox index box settings = .ok u := by
  obtain ⟨s, old, -, -, rfl⟩ := eq_of_setBox h
  simp [setBox, IdMap.contains, IdMap.get?_insert_self, IdMap.insert_insert]

theorem setPlayer_again {player : UInt8} {source : MediaSource} (h : t.setPlayer player source = .ok u) :
    u.tree.setPlayer player source = .ok u := by
  obtain ⟨old, -, rfl⟩ := eq_of_setPlayer h
  simp [setPlayer, IdMap.contains, IdMap.get?_insert_self, IdMap.insert_insert]

/-- a safe area that is not reported is the known one, both times -/
theorem applyWindow_again {c : MultiviewerWindow} (h : t.applyWindow c = .ok u) : u.tree.applyWindow c = .ok u := by
  unfold applyWindow at h
  cases hm : t.multiviewers.get? c.multiviewer with
  | none => simp [hm] at h
  | some m =>
    rw [hm] at h
    cases h
    simp only [applyWindow, IdMap.get?_insert_self, IdMap.insert_insert, Option.bind_some]
    cases c.supportsSafeArea <;> rfl

/-- the swap is the one that was reported, so the windows stay as they are -/
theorem applyMultiviewerProperties_again {c : MultiviewerProperties} (h : t.applyMultiviewerProperties c = .ok u) :
    ∃ paths, u.tree.applyMultiviewerProperties c = .ok ⟨u.tree, paths⟩ ∧ paths ⊆ u.paths := by
  obtain ⟨m, m', windows, -, -, rfl⟩ := eq_of_applyMultiviewerProperties h
  refine ⟨(Place.multiviewer c.multiviewer).keys ["layout", "programPreviewSwapped"], ?_, List.subset_append_left _ _⟩
  simp [applyMultiviewerProperties, IdMap.get?_insert_self, IdMap.insert_insert]

/-! ### The description -/

theorem applyTopology_again (c : Topology) :
    (t.applyTopology c).tree.applyTopology c = ⟨(t.applyTopology c).tree, [Place.info "topology"]⟩ := by
  simp [applyTopology, IdMap.fill_fill, IdMap.missing_fill]

theorem applyMixEffectConfig_again (c : MixEffectConfig) :
    (t.applyMixEffectConfig c).tree.applyMixEffectConfig c =
      ⟨(t.applyMixEffectConfig c).tree, [(Place.info "mixEffectKeyers").index c.mixEffect]⟩ := by
  simp [applyMixEffectConfig, IdMap.get?_insert_self, IdMap.insert_insert, IdMap.fill_fill, IdMap.missing_fill]

theorem multiviewers_again (c : MultiviewerConfig) :
    ((t.applyMultiviewerConfig c).tree.applyMultiviewerConfig c).tree.multiviewers =
      (t.applyMultiviewerConfig c).tree.multiviewers := by
  refine IdMap.ext fun index => ?_
  simp only [get?_applyMultiviewerConfig]
  split
  · rw [Option.getD_some, Multiviewer.openWindows, Multiviewer.openWindows, IdMap.fill_fill]
  · rfl

theorem applyMultiviewerConfig_again (c : MultiviewerConfig) :
    (t.applyMultiviewerConfig c).tree.applyMultiviewerConfig c =
      ⟨(t.applyMultiviewerConfig c).tree, [Place.info "multiViewer"]⟩ := by
  refine (Update.mk.injEq ..).mpr ⟨?_, congrArg _ (List.flatMap_eq_nil_iff.2 fun v hv => ?_)⟩
  · exact congrArg (fun m => { (t.applyMultiviewerConfig c).tree with multiviewers := m }) (multiviewers_again c)
  · obtain ⟨index, hindex, rfl⟩ := List.mem_map.1 hv
    have hlt : index.toNat < c.count.toNat := IdMap.mem_below.1 hindex
    dsimp only
    rw [get?_applyMultiviewerConfig, if_pos hlt, Option.getD_some, Multiviewer.openWindows, IdMap.missing_fill,
      List.map_nil]

theorem applySuperSourceConfig_again (boxes : UInt8) :
    (t.applySuperSourceConfig boxes).tree.applySuperSourceConfig boxes =
      ⟨(t.applySuperSourceConfig boxes).tree, [Place.info "superSourceBoxes"]⟩ := by
  refine (Update.mk.injEq ..).mpr ⟨?_, congrArg _ (List.flatMap_eq_nil_iff.2 fun e he => ?_)⟩
  · simp [applySuperSourceConfig, IdMap.mapEntries_mapEntries, IdMap.fill_fill]
  · obtain ⟨e, -, rfl⟩ := List.mem_map.1 he
    rw [IdMap.missing_fill, List.map_nil]

theorem applyMacroPool_again (slots : UInt8) :
    (t.applyMacroPool slots).tree.applyMacroPool slots = ⟨(t.applyMacroPool slots).tree, [Place.info "macroPool"]⟩ := by
  simp [applyMacroPool, IdMap.fill_fill, IdMap.missing_fill]

theorem applyVideoMode_again (mode : VideoMode) :
    (t.applyVideoMode mode).tree.applyVideoMode mode = ⟨(t.applyVideoMode mode).tree, [Place.videoMode]⟩ := by
  have hmode : (t.applyVideoMode mode).tree.video.mode = some mode := by
    unfold applyVideoMode
    split
    · next h => exact h
    · rfl
  rw [applyVideoMode, if_pos hmode]

/-! ### Every command -/

variable {c : Command}

/-- **What was applied once is so the second time.** -/
theorem update_again (h : t.update c = .ok u) :
    ∃ paths, u.tree.update c = .ok ⟨u.tree, paths⟩ ∧ paths ⊆ u.paths := by
  have hsame (h' : u.tree.update c = .ok u) : ∃ paths, u.tree.update c = .ok ⟨u.tree, paths⟩ ∧ paths ⊆ u.paths :=
    ⟨u.paths, h', List.Subset.refl _⟩
  -- a count lists itself each time, and its entries the first time only
  have hcount {v : Update} {p : StatePath} (hv : u.tree.update c = .ok v) (hagain : v = ⟨u.tree, [p]⟩)
      (hp : p ∈ u.paths) : ∃ paths, u.tree.update c = .ok ⟨u.tree, paths⟩ ∧ paths ⊆ u.paths :=
    ⟨[p], hagain ▸ hv, by simpa using hp⟩
  cases c with
  | topology c =>
    cases h
    exact hcount rfl (applyTopology_again c) (by simp [applyTopology])
  | mixEffectConfig c =>
    cases h
    exact hcount rfl (applyMixEffectConfig_again c) List.mem_cons_self
  | multiviewerConfig c =>
    cases h
    exact hcount rfl (applyMultiviewerConfig_again c) List.mem_cons_self
  | superSourceConfig boxes =>
    cases h
    exact hcount rfl (applySuperSourceConfig_again boxes) List.mem_cons_self
  | macroPool slots =>
    cases h
    exact hcount rfl (applyMacroPool_again slots) List.mem_cons_self
  | videoMode mode =>
    cases h
    refine hcount rfl (applyVideoMode_again mode) ?_
    unfold applyVideoMode
    split
    · exact List.mem_cons_self
    · exact List.mem_append_left _ List.mem_cons_self
  | multiviewerProperties c => exact applyMultiviewerProperties_again h
  | product c =>
    cases h
    refine hsame ?_
    cases hmodel : c.model <;> simp [update, describe, hmodel]
  | inputProperties c =>
    cases h
    refine hsame ?_
    simp only [update, IdMap.insert_insert]
  | audioMixerInput c =>
    cases h
    refine hsame ?_
    simp only [update, IdMap.insert_insert]
  | macroProperties c =>
    cases h
    refine hsame ?_
    simp only [update, IdMap.insert_insert]
  | programInput c => exact hsame (onMixEffect_again h fun _ => rfl)
  | previewInput c =>
    refine hsame (onMixEffect_again h fun b => ?_)
    cases c.previewLive <;> rfl
  | transitionProperties c => exact hsame (onMixEffect_again h fun _ => rfl)
  | transitionPosition c => exact hsame (onMixEffect_again h fun _ => rfl)
  | transitionMix c => exact hsame (onMixEffect_again h fun _ => rfl)
  | transitionDip c => exact hsame (onMixEffect_again h fun _ => rfl)
  | transitionWipe c => exact hsame (onMixEffect_again h fun _ => rfl)
  | fadeToBlackRate c => exact hsame (onMixEffect_again h fun _ => rfl)
  | fadeToBlackState c => exact hsame (onMixEffect_again h fun _ => rfl)
  | keyerOnAir c => exact hsame (onUpstreamKeyer_again h fun _ => rfl)
  | keyerBase c => exact hsame (onUpstreamKeyer_again h fun _ => rfl)
  | keyerLuma c => exact hsame (onUpstreamKeyer_again h fun _ => rfl)
  | keyerChroma c => exact hsame (onUpstreamKeyer_again h fun _ => rfl)
  | dskSources c => exact hsame (onDownstreamKeyer_again h fun _ => rfl)
  | dskProperties c => exact hsame (onDownstreamKeyer_again h fun _ => rfl)
  | dskState c => exact hsame (onDownstreamKeyer_again h fun _ => rfl)
  | mediaPlayerSource c => exact hsame (setPlayer_again h)
  | superSourceArt c => exact hsame (onSuperSource_again h fun _ => rfl)
  | superSourceBox c => exact hsame (setBox_again h)
  | multiviewerWindow c => exact hsame (applyWindow_again h)
  | version _ | mediaPool _ | audioMixerConfig _ | warning _ | audioMaster _ | macroRunStatus _ | tallyByIndex _
  | tallyBySource _ | initComplete | setProgramInput _ | setPreviewInput _ | cut _ | auto _ | setKeyerOnAir _
  | setDskOnAir _ | setDskFill _ | setVideoMode _ | setAudioMixerInput _ | setMultiviewerProperties _ | macroAction _
  | unrecognized _ =>
    cases h
    exact hsame rfl

/-- **Once is enough.** The same command again leaves the tree as it is, whether it was stale or not, and lists only
what it has listed the first time; a third time it lists what it has listed the second time. -/
theorem apply_again (t : DeviceTree) (c : Command) :
    let once := t.apply c
    let twice := once.1.apply c
    twice.1 = once.1 ∧ twice.2.paths ⊆ once.2.paths ∧ (twice.1.apply c).2 = twice.2 := by
  intro once twice
  have hstep : twice.1 = once.1 ∧ twice.2.paths ⊆ once.2.paths := by
    cases hu : t.update c with
    | error missing =>
      have honce : once = (t, .empty) := by simp only [once, apply, hu]
      have htwice : twice = (t, .empty) := by simp only [twice, honce, apply, hu]
      rw [htwice, honce]
      exact ⟨rfl, List.Subset.refl _⟩
    | ok u =>
      obtain ⟨paths, hagain, hsub⟩ := update_again hu
      have honce : once = (u.tree, .ofList u.paths) := by simp only [once, apply, hu]
      have htwice : twice = (u.tree, .ofList paths) := by simp only [twice, honce, apply, hagain]
      rw [htwice, honce]
      exact ⟨rfl, fun p hp => ChangedPaths.mem_ofList.2 (hsub (ChangedPaths.mem_ofList.1 hp))⟩
  exact ⟨hstep.1, hstep.2, congrArg (fun t : DeviceTree => (t.apply c).2) hstep.1⟩

end VisionMixer.DeviceTree
