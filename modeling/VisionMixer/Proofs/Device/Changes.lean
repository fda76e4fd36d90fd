/-
What a command changes, and what it says it changed.

A client that refetches the paths a command lists relies on them to be complete: the documents of the tree before and
after agree outside the paths. Each handler has one lemma that carries the agreement of the part it writes up to the
whole tree (`agree_onMixEffect`, `agree_onUpstreamKeyer`, …); a new video mode and the counts of the handshake have
their own. Two commands create entries that they do not list, the blocks and multiviewers of `unlisted`.

`changes_complete_iff`: with these places added nothing is missed, and without them nothing is missed exactly if there
are none.
-/
import VisionMixer.Device.Stored
import VisionMixer.Proofs.Device.Agreement
import VisionMixer.Proofs.Device.Handlers
import VisionMixer.Proofs.IdMap

namespace VisionMixer

open StatePath (top)

variable {paths : List StatePath}

namespace DeviceTree

variable {t : DeviceTree} {u : Update}

/-- the places of the entries that a command creates without listing them -/
def unlisted (t : DeviceTree) : Command → List StatePath
  | .mixEffectConfig c => if t.video.mixEffects.contains c.mixEffect then [] else [Place.mixEffect c.mixEffect]
  | .multiviewerConfig c => (t.multiviewers.missing c.count.toNat).map Place.multiviewer
  | _ => []

/-! ### From the parts to the tree -/

theorem agree_info {info : DeviceInfo} (h : Agree paths (.root "info") (some (store t.info)) (some (store info))) :
    Agree paths top (some (store t)) (some (store { t with info })) := agree_member 0 rfl rfl h

theorem agree_mixEffects {m : IdMap UInt8 MixEffect}
    (h : Agree paths ((StatePath.root "video").key "mixEffects") (some (store t.video.mixEffects)) (some (store m))) :
    Agree paths top (some (store t)) (some (store { t with video.mixEffects := m })) :=
  agree_member 1 rfl rfl (agree_member 1 rfl rfl h)

theorem agree_downstreamKeyers {m : IdMap UInt8 DownstreamKeyer}
    (h : Agree paths ((StatePath.root "video").key "downstreamKeyers") (some (store t.video.downstreamKeyers))
      (some (store m))) :
    Agree paths top (some (store t)) (some (store { t with video.downstreamKeyers := m })) :=
  agree_member 1 rfl rfl (agree_member 2 rfl rfl h)

theorem agree_superSources {m : IdMap UInt8 SuperSource}
    (h : Agree paths ((StatePath.root "video").key "superSources") (some (store t.video.superSources)) (some (store m))) :
    Agree paths top (some (store t)) (some (store { t with video.superSources := m })) :=
  agree_member 1 rfl rfl (agree_member 3 rfl rfl h)

theorem agree_inputs {m : IdMap UInt16 Input}
    (h : Agree paths (.root "inputs") (some (store t.inputs)) (some (store m))) :
    Agree paths top (some (store t)) (some (store { t with inputs := m })) := agree_member 2 rfl rfl h

theorem agree_players {m : IdMap UInt8 MediaSource}
    (h : Agree paths ((StatePath.root "media").key "players") (some (store t.players)) (some (store m))) :
    Agree paths top (some (store t)) (some (store { t with players := m })) :=
  agree_member 3 rfl rfl (agree_member 0 rfl rfl h)

theorem agree_audioInputs {m : IdMap UInt16 AudioStrip}
    (h : Agree paths ((StatePath.root "audio").key "inputs") (some (store t.audio.inputs)) (some (store m))) :
    Agree paths top (some (store t)) (some (store { t with audio.inputs := m })) :=
  agree_member 4 rfl rfl (agree_member 1 rfl rfl h)

theorem agree_multiviewers {m : IdMap UInt8 Multiviewer}
    (h : Agree paths ((StatePath.root "settings").key "multiViewers") (some (store t.multiviewers)) (some (store m))) :
    Agree paths top (some (store t)) (some (store { t with multiviewers := m })) :=
  agree_member 5 rfl rfl (agree_member 0 rfl rfl h)

theorem agree_slots {m : IdMap UInt16 MacroSlot}
    (h : Agree paths ((StatePath.root "macros").key "slots") (some (store t.macros.slots)) (some (store m))) :
    Agree paths top (some (store t)) (some (store { t with macros.slots := m })) :=
  agree_member 6 rfl rfl (agree_member 0 rfl rfl h)

/-! ### One entry -/

theorem agree_onMixEffect {block : UInt8} {f : MixEffect → MixEffect} (h : t.onMixEffect block paths f = .ok u)
    (hf : ∀ b : MixEffect, Agree paths (Place.mixEffect block) (some (store b)) (some (store (f b)))) :
    Agree u.paths top (some (store t)) (some (store u.tree)) := by
  obtain ⟨b, hb, rfl⟩ := eq_of_onMixEffect h
  exact agree_mixEffects (agree_insert_of_get? hb (hf b))

theorem agree_onTransition {block : UInt8} {keys : List String} {f : Transition → Transition}
    (h : t.onTransition block keys f = .ok u)
    (hf : ∀ r : Transition, Agree ((Place.transition block).keys keys) (Place.transition block) (some (store r))
      (some (store (f r)))) :
    Agree u.paths top (some (store t)) (some (store u.tree)) :=
  agree_onMixEffect h fun b => agree_member 3 rfl rfl (hf b.transition)

theorem agree_onFadeToBlack {block : UInt8} {keys : List String} {f : FadeToBlack → FadeToBlack}
    (h : t.onFadeToBlack block keys f = .ok u)
    (hf : ∀ r : FadeToBlack, Agree ((Place.fadeToBlack block).keys keys) (Place.fadeToBlack block) (some (store r))
      (some (store (f r)))) :
    Agree u.paths top (some (store t)) (some (store u.tree)) :=
  agree_onMixEffect h fun b => agree_member 4 rfl rfl (hf b.fadeToBlack)

theorem agree_onUpstreamKeyer {block keyer : UInt8} {keys : List String} {f : UpstreamKeyer → UpstreamKeyer}
    (h : t.onUpstreamKeyer block keyer keys f = .ok u)
    (hf : ∀ k : UpstreamKeyer, Agree ((Place.upstreamKeyer block keyer).keys keys) (Place.upstreamKeyer block keyer)
      (some (store k)) (some (store (f k)))) :
    Agree u.paths top (some (store t)) (some (store u.tree)) := by
  obtain ⟨b, k, hb, hk, rfl⟩ := eq_of_onUpstreamKeyer h
  exact agree_mixEffects (agree_insert_of_get? hb (agree_member 5 rfl rfl (agree_insert_of_get? hk (hf k))))

theorem agree_onDownstreamKeyer {keyer : UInt8} {keys : List String} {f : DownstreamKeyer → DownstreamKeyer}
    (h : t.onDownstreamKeyer keyer keys f = .ok u)
    (hf : ∀ k : DownstreamKeyer, Agree ((Place.downstreamKeyer keyer).keys keys) (Place.downstreamKeyer keyer)
      (some (store k)) (some (store (f k)))) :
    Agree u.paths top (some (store t)) (some (store u.tree)) := by
  obtain ⟨k, hk, rfl⟩ := eq_of_onDownstreamKeyer h
  exact agree_downstreamKeyers (agree_insert_of_get? hk (hf k))

theorem agree_onSuperSource {index : UInt8} {keys : List String} {f : SuperSource → SuperSource}
    (h : t.onSuperSource index keys f = .ok u)
    (hf : ∀ s : SuperSource, Agree ((Place.superSource index).keys keys) (Place.superSource index) (some (store s))
      (some (store (f s)))) :
    Agree u.paths top (some (store t)) (some (store u.tree)) := by
  obtain ⟨s, hs, rfl⟩ := eq_of_onSuperSource h
  exact agree_superSources (agree_insert_of_get? hs (hf s))

theorem agree_setBox {index box : UInt8} {settings : BoxSettings} (h : t.setBox index box settings = .ok u) :
    Agree u.paths top (some (store t)) (some (store u.tree)) := by
  obtain ⟨s, old, hs, -, rfl⟩ := eq_of_setBox h
  refine agree_superSources (agree_insert_of_get? hs (agree_member 5 rfl rfl (agree_insert (.listed ?_))))
  exact List.mem_singleton.2 rfl

theorem agree_setPlayer {player : UInt8} {source : MediaSource} (h : t.setPlayer player source = .ok u) :
    Agree u.paths top (some (store t)) (some (store u.tree)) := by
  obtain ⟨old, -, rfl⟩ := eq_of_setPlayer h
  exact agree_players (agree_insert (.listed (List.mem_singleton.2 rfl)))

/-! ### Many entries -/

theorem agree_tree {t t' : DeviceTree}
    (info : Agree paths (.root "info") (some (store t.info)) (some (store t'.info)))
    (video : Agree paths (.root "video") (some (store t.video)) (some (store t'.video)))
    (inputs : t.inputs = t'.inputs)
    (players : Agree paths ((StatePath.root "media").key "players") (some (store t.players)) (some (store t'.players)))
    (audio : t.audio = t'.audio)
    (multiviewers : Agree paths ((StatePath.root "settings").key "multiViewers") (some (store t.multiviewers))
      (some (store t'.multiviewers)))
    (macros : Agree paths (.root "macros") (some (store t.macros)) (some (store t'.macros)))
    (tally : t.tally = t'.tally) : Agree paths top (some (store t)) (some (store t')) := by
  refine agree_record rfl ?_
  simp only [members, List.zip_cons_cons, List.zip_nil_right, List.forall_mem_cons]
  refine ⟨info, video, .of_eq (by rw [inputs]), agree_member 0 rfl rfl players, .of_eq (by rw [audio]),
    agree_member 0 rfl rfl multiviewers, macros, .of_eq (by rw [tally]), by simp⟩

theorem agree_video {v v' : VideoTree} (mode : v.mode = v'.mode ∨ Place.videoMode ∈ paths)
    (mixEffects : Agree paths ((StatePath.root "video").key "mixEffects") (some (store v.mixEffects))
      (some (store v'.mixEffects)))
    (downstreamKeyers : Agree paths ((StatePath.root "video").key "downstreamKeyers") (some (store v.downstreamKeyers))
      (some (store v'.downstreamKeyers)))
    (superSources : Agree paths ((StatePath.root "video").key "superSources") (some (store v.superSources))
      (some (store v'.superSources))) : Agree paths (.root "video") (some (store v)) (some (store v')) := by
  refine agree_record rfl ?_
  simp only [VideoTree.members, List.zip_cons_cons, List.zip_nil_right, List.forall_mem_cons]
  refine ⟨?_, mixEffects, downstreamKeyers, superSources, by simp⟩
  rcases mode with h | h
  · exact .of_eq (by rw [h])
  · exact .listed h

theorem agree_applyTopology (c : Topology) :
    Agree (t.applyTopology c).paths top (some (store t)) (some (store (t.applyTopology c).tree)) := by
  refine agree_tree ?_ (agree_video (.inl rfl) (agree_fill ?_) (agree_fill ?_) (agree_fill ?_)) rfl (agree_fill ?_) rfl
    (agree_fill ?_) (.refl _) rfl
  · exact agree_member 3 rfl rfl (.listed (List.mem_cons_self ..))
  all_goals
    intro k hk
    simp only [applyTopology, List.mem_cons, List.mem_append, List.mem_map]
  · exact .inl (.inl (.inl (.inl (.inr ⟨k, hk, rfl⟩))))
  · exact .inl (.inl (.inl (.inr ⟨k, hk, rfl⟩)))
  · exact .inl (.inl (.inr ⟨k, hk, rfl⟩))
  · exact .inl (.inr ⟨k, hk, rfl⟩)
  · exact .inr ⟨k, hk, rfl⟩

/-- the block may be new, and then it is not listed itself -/
theorem agree_applyMixEffectConfig (c : MixEffectConfig) :
    Agree ((t.applyMixEffectConfig c).paths ++ t.unlisted (.mixEffectConfig c)) top (some (store t))
      (some (store (t.applyMixEffectConfig c).tree)) := by
  refine agree_tree ?_ (agree_video (.inl rfl) (agree_insert ?_) (.refl _) (.refl _)) rfl (.refl _) rfl (.refl _) (.refl _)
    rfl
  · exact agree_member 4 rfl rfl (agree_insert (.listed (List.mem_cons_self ..)))
  · cases hb : t.video.mixEffects.get? c.mixEffect with
    | none =>
      refine .listed (List.mem_append_right _ ?_)
      simp [unlisted, IdMap.contains, hb, Place.mixEffect]
    | some b =>
      refine agree_member 5 rfl rfl (agree_fill fun k hk => List.mem_append_left _ (.tail _ ?_))
      simp only [hb, Option.getD_some]
      exact List.mem_map_of_mem hk

/-- multiviewers may be new, and then they are not listed themselves -/
theorem agree_applyMultiviewerConfig (c : MultiviewerConfig) :
    Agree ((t.applyMultiviewerConfig c).paths ++ t.unlisted (.multiviewerConfig c)) top (some (store t))
      (some (store (t.applyMultiviewerConfig c).tree)) := by
  refine agree_tree ?_ (.refl _) rfl (.refl _) rfl (agree_map fun k => ?_) (.refl _) rfl
  · exact agree_member 6 rfl rfl (.listed (List.mem_cons_self ..))
  · simp only [applyMultiviewerConfig, List.foldl_map]
    rw [IdMap.get?_foldl_insert fun i => ((t.multiviewers.get? i).getD default).openWindows c.windows.toNat]
    split
    · rename_i hk
      cases hm : t.multiviewers.get? k with
      | none => exact .listed (List.mem_append_right _ (List.mem_map_of_mem (IdMap.mem_missing.2 ⟨hk, hm⟩)))
      | some m =>
        refine agree_member 2 rfl rfl (agree_fill fun w hw => List.mem_append_left _ (.tail _ ?_))
        refine List.mem_flatMap.2 ⟨(k, m), List.mem_map.2 ⟨k, IdMap.mem_below.2 hk, ?_⟩, List.mem_map_of_mem hw⟩
        rw [hm]
        rfl
    · exact .refl _

theorem agree_applySuperSourceConfig (boxes : UInt8) :
    Agree (t.applySuperSourceConfig boxes).paths top (some (store t))
      (some (store (t.applySuperSourceConfig boxes).tree)) := by
  refine agree_tree ?_ (agree_video (.inl rfl) (.refl _) (.refl _) (agree_mapEntries fun k s hs => ?_)) rfl (.refl _) rfl
    (.refl _) (.refl _) rfl
  · exact agree_member 7 rfl rfl (.listed (List.mem_cons_self ..))
  · refine agree_member 5 rfl rfl (agree_fill fun b hb => .tail _ ?_)
    exact List.mem_flatMap.2 ⟨(k, s), (IdMap.mem_entries_iff ..).2 hs, List.mem_map_of_mem hb⟩

theorem agree_applyMacroPool (slots : UInt8) :
    Agree (t.applyMacroPool slots).paths top (some (store t)) (some (store (t.applyMacroPool slots).tree)) := by
  refine agree_tree ?_ (.refl _) rfl (.refl _) rfl (.refl _) (agree_member 0 rfl rfl (agree_fill fun k hk => ?_)) rfl
  · exact agree_member 9 rfl rfl (.listed (List.mem_cons_self ..))
  · exact .tail _ (List.mem_map_of_mem hk)

/-! ### The cascades -/

theorem agree_reset {b : MixEffect} {block : UInt8} (mode : VideoMode) (h : ∀ p ∈ b.resetPaths block, p ∈ paths) :
    Agree paths (Place.mixEffect block) (some (store b)) (some (store (b.reset mode))) := by
  have htransition : Agree paths ((Place.mixEffect block).key "transition") (some (store b.transition))
      (some (store (b.reset mode).transition)) := by
    have hkeys : Agree ((Place.transition block).keys ["mix", "dip", "wipe"]) (Place.transition block)
        (some (store b.transition)) (some (store (b.reset mode).transition)) :=
      agree_keys _ rfl (by simp [Transition.members, MixEffect.reset])
    exact hkeys.mono fun p hp => h p (List.mem_append_left _ (List.mem_append_left _ hp))
  have hfade : Agree paths ((Place.mixEffect block).key "fadeToBlack") (some (store b.fadeToBlack))
      (some (store (b.reset mode).fadeToBlack)) := by
    have hkeys : Agree ((Place.fadeToBlack block).keys ["rate"]) (Place.fadeToBlack block)
        (some (store b.fadeToBlack)) (some (store (b.reset mode).fadeToBlack)) :=
      agree_keys _ rfl (by simp [FadeToBlack.members, MixEffect.reset])
    exact hkeys.mono fun p hp => h p (List.mem_append_left _ (List.mem_append_right _ hp))
  have hkeyers : Agree paths ((Place.mixEffect block).key "upstreamKeyers") (some (store b.keyers))
      (some (store (b.reset mode).keyers)) := by
    refine agree_mapEntries fun k v hv => agree_member 7 rfl rfl (.listed (h _ (List.mem_append_right _ ?_)))
    exact List.mem_map.2 ⟨k, IdMap.mem_keys.2 ⟨v, hv⟩, rfl⟩
  refine agree_record rfl ?_
  simp only [MixEffect.members, List.zip_cons_cons, List.zip_nil_right, List.forall_mem_cons]
  exact ⟨.refl _, .refl _, .refl _, htransition, hfade, hkeyers, by simp⟩

theorem agree_applyVideoMode (mode : VideoMode) :
    Agree (t.applyVideoMode mode).paths top (some (store t)) (some (store (t.applyVideoMode mode).tree)) := by
  unfold applyVideoMode
  split
  · exact .refl _
  · refine agree_tree (.refl _) (agree_video (.inr ?_) (agree_mapEntries fun k b hb => ?_)
      (agree_mapEntries fun k d hd => ?_) (.refl _)) rfl (.refl _) rfl (.refl _) (.refl _) rfl
    · exact List.mem_append_left _ (List.mem_cons_self ..)
    · refine agree_reset mode fun p hp => List.mem_append_left _ (.tail _ ?_)
      exact List.mem_flatMap.2 ⟨(k, b), (IdMap.mem_entries_iff ..).2 hb, hp⟩
    · have hkeys : Agree ((Place.downstreamKeyer k).keys ["mask", "rate"]) (Place.downstreamKeyer k) (some (store d))
          (some (store { d with mask := .fullFrame mode, rate := mode.framesPerSecond })) :=
        agree_keys _ rfl (by simp [DownstreamKeyer.members])
      refine hkeys.mono fun p hp => List.mem_append_right _ ?_
      exact List.mem_flatMap.2 ⟨k, IdMap.mem_keys.2 ⟨d, hd⟩, hp⟩

theorem agree_applyMultiviewerProperties {c : MultiviewerProperties} (h : t.applyMultiviewerProperties c = .ok u) :
    Agree u.paths top (some (store t)) (some (store u.tree)) := by
  obtain ⟨m, m', windows, hm, hm', rfl⟩ := eq_of_applyMultiviewerProperties h
  have hwindows : Agree ((Place.multiviewer c.multiviewer).keys ["layout", "programPreviewSwapped"] ++
      windows.map (Place.window c.multiviewer)) ((Place.multiviewer c.multiviewer).key "windows")
      (some (store m.windows)) (some (store m'.windows)) := by
    rcases hm' with ⟨rfl, -⟩ | ⟨rfl, rfl, -⟩
    · exact .refl _
    · unfold Multiviewer.exchanged
      split
      · refine (agree_insert (k := 0) (.listed ?_)).trans (agree_insert (.listed ?_))
        · exact List.mem_append_right _ (List.mem_map_of_mem (by simp))
        · exact List.mem_append_right _ (List.mem_map_of_mem (by simp))
      · exact .refl _
  refine agree_multiviewers (agree_insert_of_get? hm (agree_record rfl ?_))
  simp only [Multiviewer.members, List.zip_cons_cons, List.zip_nil_right, List.forall_mem_cons]
  exact ⟨.listed (by simp [StatePath.keys, Place.multiviewer]), .listed (by simp [StatePath.keys, Place.multiviewer]),
    hwindows, by simp⟩

theorem agree_applyWindow {c : MultiviewerWindow} (h : t.applyWindow c = .ok u) :
    Agree u.paths top (some (store t)) (some (store u.tree)) := by
  obtain ⟨m, w, hm, rfl⟩ := eq_of_applyWindow h
  exact agree_multiviewers (agree_insert_of_get? hm (agree_member 2 rfl rfl
    (agree_insert (.listed (List.mem_singleton.2 rfl)))))

/-! ### Every command -/

theorem agree_describe {keys : List String} {info : DeviceInfo}
    (h : Agree ((StatePath.root "info").keys keys) (.root "info") (some (store t.info)) (some (store info))) :
    Agree (t.describe keys info).paths top (some (store t)) (some (store (t.describe keys info).tree)) := agree_info h

theorem agree_product (c : Product) :
    Agree ((StatePath.root "info").keys ("productName" :: if c.model.isSome then ["model"] else [])) (.root "info")
      (some (store t.info))
      (some (store { t.info with productName := some c.name, model := c.model.orElse fun _ => t.info.model })) := by
  refine agree_keys _ rfl ?_
  cases c.model <;> simp [DeviceInfo.members]

theorem agree_update {c : Command} (h : t.update c = .ok u) :
    Agree (u.paths ++ t.unlisted c) top (some (store t)) (some (store u.tree)) := by
  have hmore : Agree u.paths top (some (store t)) (some (store u.tree)) →
      Agree (u.paths ++ t.unlisted c) top (some (store t)) (some (store u.tree)) :=
    fun hu => hu.mono fun p hp => List.mem_append_left _ hp
  unfold update at h
  cases c with
  | mixEffectConfig c =>
    cases h
    exact agree_applyMixEffectConfig c
  | multiviewerConfig c =>
    cases h
    exact agree_applyMultiviewerConfig c
  | version v =>
    cases h
    exact hmore (agree_describe (agree_keys _ rfl (by simp [DeviceInfo.members])))
  | product c =>
    cases h
    exact hmore (agree_describe (agree_product c))
  | topology c =>
    cases h
    exact hmore (agree_applyTopology c)
  | mediaPool c =>
    cases h
    exact hmore (agree_describe (agree_keys _ rfl (by simp [DeviceInfo.members])))
  | superSourceConfig boxes =>
    cases h
    exact hmore (agree_applySuperSourceConfig boxes)
  | audioMixerConfig c =>
    cases h
    exact hmore (agree_describe (agree_keys _ rfl (by simp [DeviceInfo.members])))
  | macroPool slots =>
    cases h
    exact hmore (agree_applyMacroPool slots)
  | warning text =>
    cases h
    exact hmore (agree_describe (agree_keys _ rfl (by simp [DeviceInfo.members])))
  | inputProperties c =>
    cases h
    exact hmore (agree_inputs (agree_insert (.listed (List.mem_singleton.2 rfl))))
  | videoMode m =>
    cases h
    exact hmore (agree_applyVideoMode m)
  | programInput c =>
    exact hmore (agree_onMixEffect h fun b => agree_keys ["programInput"] rfl (by simp [MixEffect.members]))
  | previewInput c =>
    refine hmore (agree_onMixEffect h fun b => agree_keys _ rfl ?_)
    cases c.previewLive <;> simp [MixEffect.members]
  | transitionProperties c =>
    exact hmore (agree_onTransition h fun r => agree_keys _ rfl (by simp [Transition.members]))
  | transitionPosition c =>
    exact hmore (agree_onTransition h fun r => agree_keys _ rfl (by simp [Transition.members]))
  | transitionMix c => exact hmore (agree_onTransition h fun r => agree_keys _ rfl (by simp [Transition.members]))
  | transitionDip c => exact hmore (agree_onTransition h fun r => agree_keys _ rfl (by simp [Transition.members]))
  | transitionWipe c => exact hmore (agree_onTransition h fun r => agree_keys _ rfl (by simp [Transition.members]))
  | fadeToBlackRate c => exact hmore (agree_onFadeToBlack h fun f => agree_keys _ rfl (by simp [FadeToBlack.members]))
  | fadeToBlackState c => exact hmore (agree_onFadeToBlack h fun f => agree_keys _ rfl (by simp [FadeToBlack.members]))
  | keyerOnAir c => exact hmore (agree_onUpstreamKeyer h fun k => agree_keys _ rfl (by simp [UpstreamKeyer.members]))
  | keyerBase c => exact hmore (agree_onUpstreamKeyer h fun k => agree_keys _ rfl (by simp [UpstreamKeyer.members]))
  | keyerLuma c => exact hmore (agree_onUpstreamKeyer h fun k => agree_keys _ rfl (by simp [UpstreamKeyer.members]))
  | keyerChroma c => exact hmore (agree_onUpstreamKeyer h fun k => agree_keys _ rfl (by simp [UpstreamKeyer.members]))
  | dskSources c => exact hmore (agree_onDownstreamKeyer h fun k => agree_keys _ rfl (by simp [DownstreamKeyer.members]))
  | dskProperties c =>
    exact hmore (agree_onDownstreamKeyer h fun k => agree_keys _ rfl (by simp [DownstreamKeyer.members]))
  | dskState c => exact hmore (agree_onDownstreamKeyer h fun k => agree_keys _ rfl (by simp [DownstreamKeyer.members]))
  | audioMixerInput c =>
    cases h
    exact hmore (agree_audioInputs (agree_insert (.listed (List.mem_singleton.2 rfl))))
  | audioMaster c =>
    cases h
    exact hmore (agree_member 4 rfl rfl (agree_member 0 rfl rfl (.listed (List.mem_singleton.2 rfl))))
  | mediaPlayerSource c => exact hmore (agree_setPlayer h)
  | superSourceArt c => exact hmore (agree_onSuperSource h fun s => agree_keys _ rfl (by simp [SuperSource.members]))
  | superSourceBox c => exact hmore (agree_setBox h)
  | multiviewerProperties c => exact hmore (agree_applyMultiviewerProperties h)
  | multiviewerWindow c => exact hmore (agree_applyWindow h)
  | macroProperties c =>
    cases h
    exact hmore (agree_slots (agree_insert (.listed (List.mem_singleton.2 rfl))))
  | macroRunStatus c =>
    cases h
    exact hmore (agree_member 6 rfl rfl (agree_member 1 rfl rfl (.listed (List.mem_singleton.2 rfl))))
  | tallyByIndex c =>
    cases h
    exact hmore (agree_member 7 rfl rfl (agree_member 0 rfl rfl (.listed (List.mem_singleton.2 rfl))))
  | tallyBySource c =>
    cases h
    exact hmore (agree_member 7 rfl rfl (agree_member 1 rfl rfl (.listed (List.mem_singleton.2 rfl))))
  | initComplete | setProgramInput _ | setPreviewInput _ | cut _ | auto _ | setKeyerOnAir _ | setDskOnAir _
  | setDskFill _ | setVideoMode _ | setAudioMixerInput _ | setMultiviewerProperties _ | macroAction _
  | unrecognized _ =>
    cases h
    exact .refl _

/-! ### What is missed -/

theorem node?_programInput (t : DeviceTree) (block : UInt8) :
    (store t : Document).node? ["video", "mixEffects", Stored.nameOfId block, "programInput"] =
      (t.video.mixEffects.get? block).map fun b => store b.program := by
  have h : (store t : Document).node? ["video", "mixEffects", Stored.nameOfId block, "programInput"] =
      (((store t.video.mixEffects : Document).part? (Stored.nameOfId block)).bind (·.node? ["programInput"])) := rfl
  rw [h, part?_store]
  cases t.video.mixEffects.get? block <;> rfl

theorem node?_layout (t : DeviceTree) (index : UInt8) :
    (store t : Document).node? ["settings", "multiViewers", Stored.nameOfId index, "layout"] =
      (t.multiviewers.get? index).map fun m => store m.layout := by
  have h : (store t : Document).node? ["settings", "multiViewers", Stored.nameOfId index, "layout"] =
      (((store t.multiviewers : Document).part? (Stored.nameOfId index)).bind (·.node? ["layout"])) := rfl
  rw [h, part?_store]
  cases t.multiviewers.get? index <;> rfl

/-- the paths of new keyers do not lead to the other members of their block -/
theorem not_covered_programInput (t : DeviceTree) (c : MixEffectConfig) :
    ¬Covered (t.applyMixEffectConfig c).paths ["video", "mixEffects", Stored.nameOfId c.mixEffect, "programInput"] := by
  rintro ⟨p, hp, h⟩
  simp only [applyMixEffectConfig, List.mem_cons, List.mem_map] at hp
  rcases hp with rfl | ⟨keyer, -, rfl⟩
  · simp [Place.info, StatePath.address_root, StatePath.address_key, StatePath.address_index] at h
  · simp [Place.upstreamKeyer, Place.mixEffect, StatePath.address_root, StatePath.address_key,
      StatePath.address_index] at h

/-- the paths of new windows do not lead to the other members of their multiviewer -/
theorem not_covered_layout (t : DeviceTree) (c : MultiviewerConfig) (index : UInt8) :
    ¬Covered (t.applyMultiviewerConfig c).paths ["settings", "multiViewers", Stored.nameOfId index, "layout"] := by
  rintro ⟨p, hp, h⟩
  simp only [applyMultiviewerConfig, List.mem_cons, List.mem_flatMap, List.mem_map] at hp
  rcases hp with rfl | ⟨v, -, window, -, rfl⟩
  · simp [Place.info, StatePath.address_root, StatePath.address_key] at h
  · simp [Place.window, Place.multiviewer, StatePath.address_root, StatePath.address_key, StatePath.address_index] at h

/-- a created entry that is not listed is missed -/
theorem missed_of_unlisted {c : Command} (h : t.unlisted c ≠ []) :
    ∃ address, (store t : Document).node? address ≠ (store (t.apply c).1 : Document).node? address ∧
      ¬Covered (t.apply c).2.paths address := by
  cases c with
  | mixEffectConfig c =>
    have hb : t.video.mixEffects.get? c.mixEffect = none := by
      by_contra hb
      exact h (if_pos (Option.isSome_iff_ne_none.2 hb))
    refine ⟨_, ?_, fun hc => not_covered_programInput t c (covered_ofList.1 hc)⟩
    rw [node?_programInput, node?_programInput, hb]
    simp [apply, update, applyMixEffectConfig, IdMap.get?_insert]
  | multiviewerConfig c =>
    obtain ⟨index, hi⟩ := List.exists_mem_of_ne_nil _ fun he : t.multiviewers.missing c.count.toNat = [] =>
      h (by rw [unlisted, he]; rfl)
    obtain ⟨hlt, hm⟩ := IdMap.mem_missing.1 hi
    refine ⟨_, ?_, fun hc => not_covered_layout t c index (covered_ofList.1 hc)⟩
    have hafter : (t.apply (.multiviewerConfig c)).1.multiviewers.get? index =
        some ((default : Multiviewer).openWindows c.windows.toNat) := by
      simp only [apply, update, applyMultiviewerConfig, List.foldl_map]
      rw [IdMap.get?_foldl_insert fun i => ((t.multiviewers.get? i).getD default).openWindows c.windows.toNat,
        if_pos hlt, hm]
      rfl
    rw [node?_layout, node?_layout, hm, hafter]
    simp
  | _ => exact absurd rfl h

/-- **What a command misses.** Documents of the tree before and after differ only where the listed paths lead, or to a
created entry of `unlisted`; the listed paths alone cover all differences if and only if there is no such entry. -/
theorem changes_complete_iff (t : DeviceTree) (c : Command) :
    (∀ address, (store t : Document).node? address ≠ (store (t.apply c).1 : Document).node? address →
      Covered ((t.apply c).2.paths ++ t.unlisted c) address) ∧
    ((∀ address, (store t : Document).node? address ≠ (store (t.apply c).1 : Document).node? address →
      Covered (t.apply c).2.paths address) ↔ t.unlisted c = []) := by
  have hcovered : ∀ address, (store t : Document).node? address ≠ (store (t.apply c).1 : Document).node? address →
      Covered ((t.apply c).2.paths ++ t.unlisted c) address := by
    intro address hne
    unfold apply at hne ⊢
    cases hu : t.update c with
    | error e =>
      rw [hu] at hne
      exact absurd rfl hne
    | ok u =>
      rw [hu] at hne
      refine (agree_update hu address hne).mono fun p hp => ?_
      rcases List.mem_append.1 hp with hp | hp
      · exact List.mem_append_left _ (ChangedPaths.mem_ofList.2 hp)
      · exact List.mem_append_right _ hp
  refine ⟨hcovered, fun hall => ?_, fun hnone address hne => ?_⟩
  · by_contra hsome
    obtain ⟨address, hne, hmiss⟩ := missed_of_unlisted hsome
    exact hmiss (hall address hne)
  · have hc := hcovered address hne
    rwa [hnone, List.append_nil] at hc

/-- the block of a first count of keyers is created in silence, even if it counts none -/
example : DeviceTree.empty.unlisted (.mixEffectConfig ⟨0, 0⟩) = [Place.mixEffect 0] := by decide

end DeviceTree

end VisionMixer
