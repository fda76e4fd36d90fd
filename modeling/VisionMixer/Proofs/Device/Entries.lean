/-
The entries of the tree, the commands that create them and the description that promises them.

`EntryId` names an entry of any map of the tree by its id, under the ids it lies in, and `has` looks it up. `creates` is
the table of what each command creates, `promises` what the device says of itself. Most commands leave both as they are
(`Alike`); the nine that do not (`Command.opens`) have one lemma each. `has_update` and `promises_update` collect them:
after a command there are the entries that were there and those it creates, and nothing new is promised but what it
creates. So nothing is ever removed (`has_applyAll`).
-/
import VisionMixer.Proofs.Device.Handlers
import VisionMixer.Proofs.Fallible
import VisionMixer.Proofs.IdMap

namespace VisionMixer

/-- the command can create entries -/
def Command.opens : Command → Bool
  | .topology _ | .mixEffectConfig _ | .multiviewerConfig _ | .superSourceConfig _ | .macroPool _ | .inputProperties _
  | .audioMixerInput _ | .multiviewerWindow _ | .macroProperties _ => true
  | _ => false

namespace DeviceTree

/-- an entry of a map of the tree -/
inductive EntryId where
  /-- the number of keyers of a block, as the device described it -/
  | keyerCount (block : UInt8)
  | mixEffect (block : UInt8)
  | upstreamKeyer (block keyer : UInt8)
  | downstreamKeyer (keyer : UInt8)
  | superSource (index : UInt8)
  | box (index box : UInt8)
  | input (id : UInt16)
  | mediaPlayer (player : UInt8)
  | audioInput (index : UInt16)
  | multiviewer (index : UInt8)
  | window (index window : UInt8)
  | macroSlot (index : UInt16)
  deriving DecidableEq

/-- the tree has the entry -/
def has (t : DeviceTree) : EntryId → Bool
  | .keyerCount block => t.info.mixEffectKeyers.contains block
  | .mixEffect block => t.video.mixEffects.contains block
  | .upstreamKeyer block keyer => (t.video.mixEffects.get? block).any (·.keyers.contains keyer)
  | .downstreamKeyer keyer => t.video.downstreamKeyers.contains keyer
  | .superSource index => t.video.superSources.contains index
  | .box index box => (t.video.superSources.get? index).any (·.boxes.contains box)
  | .input id => t.inputs.contains id
  | .mediaPlayer player => t.players.contains player
  | .audioInput index => t.audio.inputs.contains index
  | .multiviewer index => t.multiviewers.contains index
  | .window index window => (t.multiviewers.get? index).any (·.windows.contains window)
  | .macroSlot index => t.macros.slots.contains index

/-- the entries that are there after a command, whether they were there before or not -/
def creates (t : DeviceTree) : Command → EntryId → Bool
  | .topology c, .mixEffect block => block.toNat < c.mixEffects.toNat
  | .topology c, .downstreamKeyer keyer => keyer.toNat < c.downstreamKeyers.toNat
  | .topology c, .superSource index => index.toNat < c.superSources.toNat
  -- only a new super source gets its boxes from the topology
  | .topology c, .box index box =>
    !t.has (.superSource index) && index.toNat < c.superSources.toNat && box.toNat < (t.info.superSourceBoxes.getD 0).toNat
  | .topology c, .mediaPlayer player => player.toNat < c.mediaPlayers.toNat
  | .topology c, .multiviewer index => index.toNat < (c.multiviewers.getD 0).toNat
  | .mixEffectConfig c, .keyerCount block => block = c.mixEffect
  | .mixEffectConfig c, .mixEffect block => block = c.mixEffect
  | .mixEffectConfig c, .upstreamKeyer block keyer => block = c.mixEffect && keyer.toNat < c.keyers.toNat
  | .multiviewerConfig c, .multiviewer index => index.toNat < c.count.toNat
  | .multiviewerConfig c, .window index window => index.toNat < c.count.toNat && window.toNat < c.windows.toNat
  | .superSourceConfig boxes, .box index box => t.has (.superSource index) && box.toNat < boxes.toNat
  | .macroPool slots, .macroSlot index => index.toNat < slots.toNat
  | .inputProperties c, .input id => id = c.id
  | .audioMixerInput c, .audioInput index => index = c.index
  | .multiviewerWindow c, .window index window => index = c.multiviewer && window = c.window
  | .macroProperties c, .macroSlot index => index = c.index
  | _, _ => false

/-- the entries that the description of the device promises -/
def promises (t : DeviceTree) : EntryId → Bool
  | .mixEffect block =>
    (t.info.topology.any fun c => block.toNat < c.mixEffects.toNat) || t.info.mixEffectKeyers.contains block
  | .upstreamKeyer block keyer => (t.info.mixEffectKeyers.get? block).any fun count => keyer.toNat < count.toNat
  | .downstreamKeyer keyer => t.info.topology.any fun c => keyer.toNat < c.downstreamKeyers.toNat
  | .superSource index => t.info.topology.any fun c => index.toNat < c.superSources.toNat
  | .box index box =>
    t.has (.superSource index) && t.info.superSourceBoxes.any fun count => box.toNat < count.toNat
  | .mediaPlayer player => t.info.topology.any fun c => player.toNat < c.mediaPlayers.toNat
  | .multiviewer index =>
    (t.info.topology.any fun c => index.toNat < (c.multiviewers.getD 0).toNat)
      || t.info.multiviewers.any fun c => index.toNat < c.count.toNat
  | .window index window =>
    t.info.multiviewers.any fun c => index.toNat < c.count.toNat && window.toNat < c.windows.toNat
  | .macroSlot index => t.info.macroPool.any fun count => index.toNat < count.toNat
  | .keyerCount _ | .input _ | .audioInput _ => false

/-- two trees with the same entries and the same promises -/
structure Alike (t t' : DeviceTree) : Prop where
  has : ∀ e, t'.has e = t.has e
  promises : ∀ e, t'.promises e = t.promises e

/-- apart from the description it is the super sources that are promised something -/
theorem promises_congr {t t' : DeviceTree} (hinfo : t'.info = t.info)
    (hsuper : ∀ index, t'.has (.superSource index) = t.has (.superSource index)) (e : EntryId) :
    t'.promises e = t.promises e := by
  cases e <;> simp only [promises, hinfo, hsuper]

theorem Alike.of_info {t t' : DeviceTree} (hinfo : t'.info = t.info) (hhas : ∀ e, t'.has e = t.has e) : Alike t t' :=
  ⟨hhas, promises_congr hinfo fun _ => hhas _⟩

variable {t : DeviceTree} {u : Update} {paths : List StatePath} {keys : List String}

/-! ### Reports on one entry -/

theorem alike_onMixEffect {block : UInt8} {f : MixEffect → MixEffect} (h : t.onMixEffect block paths f = .ok u)
    (hf : ∀ b, (f b).keyers = b.keyers) : Alike t u.tree := by
  obtain ⟨b, hb, rfl⟩ := eq_of_onMixEffect h
  refine .of_info rfl fun e => ?_
  cases e with
  | mixEffect j => exact IdMap.contains_replace hb
  | upstreamKeyer j keyer => exact IdMap.any_get?_replace hb (by rw [hf])
  | _ => rfl

theorem alike_onUpstreamKeyer {block keyer : UInt8} {f : UpstreamKeyer → UpstreamKeyer}
    (h : t.onUpstreamKeyer block keyer keys f = .ok u) : Alike t u.tree := by
  obtain ⟨b, k, hb, hk, rfl⟩ := eq_of_onUpstreamKeyer h
  refine .of_info rfl fun e => ?_
  cases e with
  | mixEffect j => exact IdMap.contains_replace hb
  | upstreamKeyer j keyer => exact IdMap.any_get?_replace hb (IdMap.contains_replace hk)
  | _ => rfl

theorem alike_onDownstreamKeyer {keyer : UInt8} {f : DownstreamKeyer → DownstreamKeyer}
    (h : t.onDownstreamKeyer keyer keys f = .ok u) : Alike t u.tree := by
  obtain ⟨k, hk, rfl⟩ := eq_of_onDownstreamKeyer h
  refine .of_info rfl fun e => ?_
  cases e with
  | downstreamKeyer j => exact IdMap.contains_replace hk
  | _ => rfl

theorem alike_onSuperSource {index : UInt8} {f : SuperSource → SuperSource} (h : t.onSuperSource index keys f = .ok u)
    (hf : ∀ s, (f s).boxes = s.boxes) : Alike t u.tree := by
  obtain ⟨s, hs, rfl⟩ := eq_of_onSuperSource h
  refine .of_info rfl fun e => ?_
  cases e with
  | superSource j => exact IdMap.contains_replace hs
  | box j b => exact IdMap.any_get?_replace hs (by rw [hf])
  | _ => rfl

theorem alike_setBox {index box : UInt8} {settings : BoxSettings} (h : t.setBox index box settings = .ok u) :
    Alike t u.tree := by
  obtain ⟨s, old, hs, hold, rfl⟩ := eq_of_setBox h
  refine .of_info rfl fun e => ?_
  cases e with
  | superSource j => exact IdMap.contains_replace hs
  | box j b => exact IdMap.any_get?_replace hs (IdMap.contains_replace hold)
  | _ => rfl

theorem alike_setPlayer {player : UInt8} {source : MediaSource} (h : t.setPlayer player source = .ok u) :
    Alike t u.tree := by
  obtain ⟨old, hold, rfl⟩ := eq_of_setPlayer h
  refine .of_info rfl fun e => ?_
  cases e with
  | mediaPlayer j => exact IdMap.contains_replace hold
  | _ => rfl

/-- exchanged windows are windows that were there -/
theorem contains_exchanged (m : Multiviewer) (window : UInt8) :
    m.exchanged.windows.contains window = m.windows.contains window := by
  unfold Multiviewer.exchanged
  split
  · next first second hfirst hsecond =>
    have hsecond' : (m.windows.insert 0 (first.showing second)).get? 1 = some second := by
      rw [IdMap.get?_insert_of_ne (by decide)]
      exact hsecond
    exact (IdMap.contains_replace hsecond').trans (IdMap.contains_replace hfirst)
  · rfl

theorem alike_applyMultiviewerProperties {c : MultiviewerProperties} (h : t.applyMultiviewerProperties c = .ok u) :
    Alike t u.tree := by
  obtain ⟨m, m', windows, hm, hm', rfl⟩ := eq_of_applyMultiviewerProperties h
  have hwindows : ∀ window, m'.windows.contains window = m.windows.contains window := by
    rcases hm' with ⟨rfl, -⟩ | ⟨rfl, -⟩
    · exact fun _ => rfl
    · exact contains_exchanged m
  refine .of_info rfl fun e => ?_
  cases e with
  | multiviewer j => exact IdMap.contains_replace hm
  | window j window => exact IdMap.any_get?_replace hm (hwindows window)
  | _ => rfl

theorem alike_applyVideoMode (mode : VideoMode) : Alike t (t.applyVideoMode mode).tree := by
  unfold applyVideoMode
  split
  · exact .of_info rfl fun _ => rfl
  · refine .of_info rfl fun e => ?_
    cases e with
    | mixEffect block => exact IdMap.contains_mapEntries _
    | upstreamKeyer block keyer =>
      refine (IdMap.any_get?_mapEntries _ _).trans ?_
      simp only [MixEffect.reset, IdMap.contains_mapEntries]
      rfl
    | downstreamKeyer keyer => exact IdMap.contains_mapEntries _
    | _ => rfl

/-! ### Commands that create nothing -/

/-- **Most commands create nothing and promise nothing.** -/
theorem alike_update {c : Command} (hc : c.opens = false) (h : t.update c = .ok u) : Alike t u.tree := by
  unfold update at h
  cases c with
  | topology | mixEffectConfig | multiviewerConfig | superSourceConfig | macroPool | inputProperties | audioMixerInput
  | multiviewerWindow | macroProperties => cases hc
  | version _ | product _ | mediaPool _ | audioMixerConfig _ | warning _ =>
    cases h
    exact ⟨fun e => by cases e <;> rfl, fun e => by cases e <;> rfl⟩
  | videoMode m =>
    cases h
    exact alike_applyVideoMode m
  | programInput c => exact alike_onMixEffect h fun _ => rfl
  | previewInput c => exact alike_onMixEffect h fun _ => rfl
  | transitionProperties c => exact alike_onMixEffect h fun _ => rfl
  | transitionPosition c => exact alike_onMixEffect h fun _ => rfl
  | transitionMix c => exact alike_onMixEffect h fun _ => rfl
  | transitionDip c => exact alike_onMixEffect h fun _ => rfl
  | transitionWipe c => exact alike_onMixEffect h fun _ => rfl
  | fadeToBlackRate c => exact alike_onMixEffect h fun _ => rfl
  | fadeToBlackState c => exact alike_onMixEffect h fun _ => rfl
  | keyerOnAir c => exact alike_onUpstreamKeyer h
  | keyerBase c => exact alike_onUpstreamKeyer h
  | keyerLuma c => exact alike_onUpstreamKeyer h
  | keyerChroma c => exact alike_onUpstreamKeyer h
  | dskSources c => exact alike_onDownstreamKeyer h
  | dskProperties c => exact alike_onDownstreamKeyer h
  | dskState c => exact alike_onDownstreamKeyer h
  | mediaPlayerSource c => exact alike_setPlayer h
  | superSourceArt c => exact alike_onSuperSource h fun _ => rfl
  | superSourceBox c => exact alike_setBox h
  | multiviewerProperties c => exact alike_applyMultiviewerProperties h
  | audioMaster _ | macroRunStatus _ | tallyByIndex _ | tallyBySource _ =>
    cases h
    exact .of_info rfl fun e => by cases e <;> rfl
  | initComplete | setProgramInput _ | setPreviewInput _ | cut _ | auto _ | setKeyerOnAir _ | setDskOnAir _
  | setDskFill _ | setVideoMode _ | setAudioMixerInput _ | setMultiviewerProperties _ | macroAction _
  | unrecognized _ =>
    cases h
    exact .of_info rfl fun _ => rfl

/-! ### Commands that create entries -/

theorem has_applyWindow {c : MultiviewerWindow} (h : t.applyWindow c = .ok u) (e : EntryId) :
    u.tree.has e = (t.has e || t.creates (.multiviewerWindow c) e) := by
  obtain ⟨m, w, hm, rfl⟩ := eq_of_applyWindow h
  cases e with
  | multiviewer j => exact (IdMap.contains_replace hm).trans (Bool.or_false _).symm
  | window j window =>
    simp only [has, creates, IdMap.any_get?_insert, IdMap.contains_insert]
    by_cases hj : j = c.multiviewer
    · subst hj
      rw [if_pos rfl, hm]
      simp
    · simp [hj]
  | _ => exact (Bool.or_false _).symm

theorem info_applyWindow {c : MultiviewerWindow} (h : t.applyWindow c = .ok u) : u.tree.info = t.info := by
  obtain ⟨m, w, -, rfl⟩ := eq_of_applyWindow h
  rfl

theorem has_applyTopology (c : Topology) (e : EntryId) :
    (t.applyTopology c).tree.has e = (t.has e || t.creates (.topology c) e) := by
  cases e with
  | mixEffect block => exact IdMap.contains_fill _
  | upstreamKeyer block keyer =>
    exact (IdMap.any_get?_fill_bare MixEffect.keyers rfl _).trans (Bool.or_false _).symm
  | downstreamKeyer keyer => exact IdMap.contains_fill _
  | superSource index => exact IdMap.contains_fill _
  | box index box =>
    refine (IdMap.any_get?_fill _ _).trans ?_
    rw [IdMap.contains_fill]
    rfl
  | mediaPlayer player => exact IdMap.contains_fill _
  | multiviewer index => exact IdMap.contains_fill _
  | window index window =>
    exact (IdMap.any_get?_fill_bare Multiviewer.windows rfl _).trans (Bool.or_false _).symm
  | _ => exact (Bool.or_false _).symm

theorem has_applyMixEffectConfig (c : MixEffectConfig) (e : EntryId) :
    (t.applyMixEffectConfig c).tree.has e = (t.has e || t.creates (.mixEffectConfig c) e) := by
  cases e with
  | keyerCount block => exact IdMap.contains_insert
  | mixEffect block => exact IdMap.contains_insert
  | upstreamKeyer block keyer =>
    refine (IdMap.any_get?_insert _).trans ?_
    simp only [has, creates]
    by_cases hb : block = c.mixEffect
    · subst hb
      rw [if_pos rfl, IdMap.contains_fill, IdMap.any_getD (p := fun b : MixEffect => b.keyers.contains keyer) rfl]
      simp [IdMap.toNat_byte]
    · simp [hb]
  | _ => exact (Bool.or_false _).symm

theorem get?_applyMultiviewerConfig (c : MultiviewerConfig) (index : UInt8) :
    (t.applyMultiviewerConfig c).tree.multiviewers.get? index =
      if index.toNat < c.count.toNat then some (((t.multiviewers.get? index).getD default).openWindows c.windows.toNat)
      else t.multiviewers.get? index := by
  simp only [applyMultiviewerConfig, List.foldl_map]
  exact IdMap.get?_foldl_insert (fun i => ((t.multiviewers.get? i).getD default).openWindows c.windows.toNat) _ _ _

theorem has_applyMultiviewerConfig (c : MultiviewerConfig) (e : EntryId) :
    (t.applyMultiviewerConfig c).tree.has e = (t.has e || t.creates (.multiviewerConfig c) e) := by
  cases e with
  | multiviewer index =>
    simp only [has, creates, IdMap.contains, get?_applyMultiviewerConfig]
    split <;> simp [*]
  | window index window =>
    simp only [has, creates, get?_applyMultiviewerConfig]
    split
    · next hlt =>
      rw [Option.any_some, Multiviewer.openWindows, IdMap.contains_fill,
        IdMap.any_getD (p := fun m : Multiviewer => m.windows.contains window) rfl]
      simp [hlt, IdMap.toNat_byte]
    · next hlt => simp [hlt]
  | _ => exact (Bool.or_false _).symm

theorem has_applySuperSourceConfig (boxes : UInt8) (e : EntryId) :
    (t.applySuperSourceConfig boxes).tree.has e = (t.has e || t.creates (.superSourceConfig boxes) e) := by
  cases e with
  | superSource index => exact (IdMap.contains_mapEntries _).trans (Bool.or_false _).symm
  | box index box =>
    refine (IdMap.any_get?_mapEntries _ _).trans ?_
    simp only [has, creates, IdMap.contains_fill]
    rw [IdMap.contains]
    cases t.video.superSources.get? index with
    | none => rfl
    | some s => simp [IdMap.toNat_byte]
  | _ => exact (Bool.or_false _).symm

theorem has_applyMacroPool (slots : UInt8) (e : EntryId) :
    (t.applyMacroPool slots).tree.has e = (t.has e || t.creates (.macroPool slots) e) := by
  cases e with
  | macroSlot index => exact IdMap.contains_fill _
  | _ => exact (Bool.or_false _).symm

/-! ### Every command -/

variable {c : Command} {e : EntryId}

/-- **What a command does to the entries.** -/
theorem has_update (h : t.update c = .ok u) (e : EntryId) : u.tree.has e = (t.has e || t.creates c e) := by
  cases c with
  | topology c =>
    cases h
    exact has_applyTopology c e
  | mixEffectConfig c =>
    cases h
    exact has_applyMixEffectConfig c e
  | multiviewerConfig c =>
    cases h
    exact has_applyMultiviewerConfig c e
  | superSourceConfig boxes =>
    cases h
    exact has_applySuperSourceConfig boxes e
  | macroPool slots =>
    cases h
    exact has_applyMacroPool slots e
  | inputProperties c =>
    cases h
    cases e with
    | input id => exact IdMap.contains_insert
    | _ => exact (Bool.or_false _).symm
  | audioMixerInput c =>
    cases h
    cases e with
    | audioInput index => exact IdMap.contains_insert
    | _ => exact (Bool.or_false _).symm
  | macroProperties c =>
    cases h
    cases e with
    | macroSlot index => exact IdMap.contains_insert
    | _ => exact (Bool.or_false _).symm
  | multiviewerWindow c => exact has_applyWindow h e
  | _ => exact ((alike_update rfl h).has e).trans (Bool.or_false _).symm

/-- **What a command does to the promises.** What is promised after it was promised before, or is created by it. -/
theorem promises_update (h : t.update c = .ok u) (he : u.tree.promises e) : t.promises e ∨ t.creates c e := by
  have hhas := has_update h
  cases c with
  | topology c =>
    cases h
    cases e with
    | mixEffect block => exact (Bool.or_eq_true_iff.1 he).elim .inr fun hk => .inl (Bool.or_eq_true_iff.2 (.inr hk))
    | box index box =>
      obtain ⟨hsuper, hbox⟩ := Bool.and_eq_true_iff.1 he
      -- a new super source is promised the boxes that were described before it
      cases hold : t.has (.superSource index) with
      | true => exact .inl (Bool.and_eq_true_iff.2 ⟨hold, hbox⟩)
      | false =>
        rw [hhas, hold, Bool.false_or] at hsuper
        obtain ⟨count, hcount, hlt⟩ := (Option.any_eq_true _ _).1 hbox
        have hcount' : t.info.superSourceBoxes = some count := hcount
        refine .inr ?_
        simp only [creates, hold, hcount'] at hsuper ⊢
        simp [hsuper, hlt]
    | multiviewer index => exact (Bool.or_eq_true_iff.1 he).elim .inr fun hk => .inl (Bool.or_eq_true_iff.2 (.inr hk))
    | downstreamKeyer _ | superSource _ | mediaPlayer _ => exact .inr he
    | _ => exact .inl he
  | mixEffectConfig c =>
    cases h
    cases e with
    | mixEffect block =>
      rcases Bool.or_eq_true_iff.1 he with ht | hk
      · exact .inl (Bool.or_eq_true_iff.2 (.inl ht))
      · rcases Bool.or_eq_true_iff.1 (IdMap.contains_insert.symm.trans hk) with hk | hk
        · exact .inl (Bool.or_eq_true_iff.2 (.inr hk))
        · exact .inr hk
    | upstreamKeyer block keyer =>
      have hany := (IdMap.any_get?_insert _).symm.trans he
      split at hany
      · next hb => exact .inr (Bool.and_eq_true_iff.2 ⟨decide_eq_true hb, hany⟩)
      · exact .inl hany
    | _ => exact .inl he
  | multiviewerConfig c =>
    cases h
    cases e with
    | multiviewer index => exact (Bool.or_eq_true_iff.1 he).elim (fun ht => .inl (Bool.or_eq_true_iff.2 (.inl ht))) .inr
    | window _ _ => exact .inr he
    | _ => exact .inl he
  | superSourceConfig boxes =>
    cases h
    cases e with
    | box index box =>
      obtain ⟨hsuper, hbox⟩ := Bool.and_eq_true_iff.1 he
      rw [hhas] at hsuper
      exact .inr (Bool.and_eq_true_iff.2 ⟨(Bool.or_false _).symm.trans hsuper, hbox⟩)
    | _ => exact .inl he
  | macroPool slots =>
    cases h
    cases e with
    | macroSlot index => exact .inr he
    | _ => exact .inl he
  | inputProperties c =>
    cases h
    exact .inl ((promises_congr rfl (fun _ => rfl) e).symm.trans he)
  | audioMixerInput c =>
    cases h
    exact .inl ((promises_congr rfl (fun _ => rfl) e).symm.trans he)
  | macroProperties c =>
    cases h
    exact .inl ((promises_congr rfl (fun _ => rfl) e).symm.trans he)
  | multiviewerWindow c =>
    have hsame := promises_congr (info_applyWindow h) fun index => (hhas (.superSource index)).trans (Bool.or_false _)
    exact .inl ((hsame e).symm.trans he)
  | _ => exact .inl (((alike_update rfl h).promises e).symm.trans he)

/-- **Nothing is removed.** -/
theorem has_apply (c : Command) (he : t.has e) : (t.apply c).1.has e := by
  unfold apply
  cases hu : t.update c with
  | error _ => exact he
  | ok u => exact (has_update hu e).trans (by rw [he, Bool.true_or])

theorem has_applyAll (commands : List Command) (he : t.has e) : (t.applyAll commands).has e := by
  induction commands generalizing t with
  | nil => exact he
  | cons c commands ih => exact ih (has_apply c he)

end DeviceTree

end VisionMixer
