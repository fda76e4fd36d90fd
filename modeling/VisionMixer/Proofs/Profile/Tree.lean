/-
The profile and the tree of the same commands.

The tree drops what is stale and the profile drops nothing, but no part of the description is ever stale. `Agrees` says
what a builder and a tree that have seen the same commands have in common: what the device states is the same in both,
every block with a count has been mentioned, the inputs are those that were mentioned, and the tree has a part of a
classic audio mixer if such a mixer has shown. Every command keeps it (`Agrees.observe`), for what is no part of the
description leaves all this as it is in the tree (`description_apply`) and mentions more ids at most in the builder.
-/
import VisionMixer.Proofs.Device.Handlers
import VisionMixer.Proofs.Profile.Counts

namespace VisionMixer

/-! ### The description in the tree -/

namespace Command

/-- the command describes the device, an input or the classic audio mixer -/
def isDescription : Command → Bool
  | .version _ | .product _ | .topology _ | .mixEffectConfig _ | .mediaPool _ | .multiviewerConfig _
  | .superSourceConfig _ | .audioMixerConfig _ | .macroPool _ | .warning _ | .inputProperties _ | .audioMixerInput _
  | .audioMaster _ => true
  | _ => false

end Command

namespace DeviceTree

variable {t : DeviceTree} {u : Update} {c : Command}

/-- what the device says of itself, its inputs and its classic audio mixer -/
def description (t : DeviceTree) : DeviceInfo × IdMap UInt16 Input × AudioTree := (t.info, t.inputs, t.audio)

/-- the tree has a part of a classic audio mixer -/
def HasClassicAudio (t : DeviceTree) : Prop :=
  t.info.audioMixer ≠ none ∨ t.audio.master ≠ none ∨ t.audio.inputs ≠ ∅

theorem description_applyVideoMode (mode : VideoMode) : (t.applyVideoMode mode).tree.description = t.description := by
  unfold applyVideoMode
  split <;> rfl

theorem description_update (hc : c.isDescription = false) (h : t.update c = .ok u) :
    u.tree.description = t.description := by
  cases c with
  | version _ | product _ | topology _ | mixEffectConfig _ | mediaPool _ | multiviewerConfig _ | superSourceConfig _
  | audioMixerConfig _ | macroPool _ | warning _ | inputProperties _ | audioMixerInput _ | audioMaster _ => cases hc
  | videoMode mode =>
    cases h
    exact description_applyVideoMode mode
  | programInput _ | previewInput _ | transitionProperties _ | transitionPosition _ | transitionMix _ | transitionDip _
  | transitionWipe _ | fadeToBlackRate _ | fadeToBlackState _ =>
    obtain ⟨_, -, rfl⟩ := eq_of_onMixEffect h
    rfl
  | keyerOnAir _ | keyerBase _ | keyerLuma _ | keyerChroma _ =>
    obtain ⟨_, _, -, -, rfl⟩ := eq_of_onUpstreamKeyer h
    rfl
  | dskSources _ | dskProperties _ | dskState _ =>
    obtain ⟨_, -, rfl⟩ := eq_of_onDownstreamKeyer h
    rfl
  | mediaPlayerSource _ =>
    obtain ⟨_, -, rfl⟩ := eq_of_setPlayer h
    rfl
  | superSourceArt _ =>
    obtain ⟨_, -, rfl⟩ := eq_of_onSuperSource h
    rfl
  | superSourceBox _ =>
    obtain ⟨_, _, -, -, rfl⟩ := eq_of_setBox h
    rfl
  | multiviewerProperties _ =>
    obtain ⟨_, _, _, -, -, rfl⟩ := eq_of_applyMultiviewerProperties h
    rfl
  | multiviewerWindow _ =>
    obtain ⟨_, _, -, rfl⟩ := eq_of_applyWindow h
    rfl
  | _ =>
    cases h
    rfl

/-- **What is no part of the description leaves it as it is**, stale or not. -/
theorem description_apply (hc : c.isDescription = false) : (t.apply c).1.description = t.description := by
  unfold apply
  cases hu : t.update c with
  | error _ => rfl
  | ok u => exact description_update hc hu

theorem applyAll_concat (t : DeviceTree) (commands : List Command) (c : Command) :
    t.applyAll (commands ++ [c]) = ((t.applyAll commands).apply c).1 := by
  rw [applyAll, List.foldl_concat, applyAll]

end DeviceTree

namespace Profile

/-! ### The builder and the tree -/

/-- what a builder and a tree of the same commands have in common -/
structure Agrees (b : Builder) (t : DeviceTree) : Prop where
  productName : b.productName = t.info.productName
  model : b.model = t.info.model
  protocolVersion : b.protocolVersion = t.info.apiVersion
  topology : b.topology = t.info.topology
  keyers : b.configuredKeyers = t.info.mixEffectKeyers
  blocks : ∀ block, t.info.mixEffectKeyers.contains block → b.mixEffects.contains block
  stills : b.stills = t.info.mediaPool.elim 0 (·.stills)
  clips : b.clips = t.info.mediaPool.elim 0 (·.clips)
  multiviewers : b.multiviewerCount = t.info.multiviewers.map (·.count)
  superSourceBoxes : b.configuredBoxes = t.info.superSourceBoxes
  macros : b.macroCount = t.info.macroPool
  inputs : b.inputs = t.inputs.mapEntries fun _ _ => ()
  classicAudio : b.classicAudio ↔ t.HasClassicAudio

theorem agrees_empty : Agrees {} DeviceTree.empty where
  productName := rfl
  model := rfl
  protocolVersion := rfl
  topology := rfl
  keyers := rfl
  blocks _ h := h
  stills := rfl
  clips := rfl
  multiviewers := rfl
  superSourceBoxes := rfl
  macros := rfl
  inputs := rfl
  classicAudio := iff_of_false Bool.false_ne_true (by rintro (h | h | h) <;> exact h rfl)

namespace Agrees

variable {b : Builder} {t t' : DeviceTree} {c : Command}

/-- the tree has changed elsewhere -/
theorem of_description (h : Agrees b t) (hdescription : t'.description = t.description) : Agrees b t' := by
  cases t
  cases t'
  cases hdescription
  exact { h with }

theorem apply (h : Agrees b t) (hc : c.isDescription = false) : Agrees b (t.apply c).1 :=
  h.of_description (DeviceTree.description_apply hc)

/-- a block that is mentioned -/
theorem mixEffect (h : Agrees b t) (block : UInt8) : Agrees (b.mixEffect block) t :=
  { h with
    blocks := fun j hj => by
      show (b.mixEffects.insert block ()).contains j
      rw [IdMap.contains_insert, h.blocks j hj, Bool.true_or] }

theorem keyer (h : Agrees b t) (block keyer : UInt8) : Agrees (b.keyer block keyer) t := { h.mixEffect block with }

theorem mixEffectConfig (h : Agrees b t) (c : MixEffectConfig) :
    Agrees (b.observe (.mixEffectConfig c)) (t.apply (.mixEffectConfig c)).1 :=
  { h with
    keyers := congrArg (·.insert c.mixEffect c.keyers) h.keyers
    blocks := fun j hj => by
      change (t.info.mixEffectKeyers.insert c.mixEffect c.keyers).contains j = true at hj
      show (b.mixEffects.insert c.mixEffect ()).contains j
      rw [IdMap.contains_insert, Bool.or_eq_true] at hj ⊢
      exact hj.imp_left (h.blocks j) }

theorem inputProperties (h : Agrees b t) (c : InputProperties) :
    Agrees (b.observe (.inputProperties c)) (t.apply (.inputProperties c)).1 :=
  { h with
    inputs := by
      show b.inputs.insert c.id () = (t.inputs.insert c.id c.input).mapEntries fun _ _ => ()
      rw [IdMap.mapEntries_insert, h.inputs] }

/-- a product that names no model leaves the one that was named -/
theorem product (h : Agrees b t) (c : Product) : Agrees (b.observe (.product c)) (t.apply (.product c)).1 :=
  { h with
    productName := rfl
    model := by
      show c.model.or b.model = c.model.orElse fun _ => t.info.model
      rw [h.model]
      cases c.model <;> rfl }

/-- **Every command keeps it.** -/
theorem observe (h : Agrees b t) (c : Command) : Agrees (b.observe c) (t.apply c).1 := by
  cases c with
  | version v => exact { h with protocolVersion := rfl }
  | product c => exact h.product c
  | topology c => exact { h with topology := rfl }
  | mixEffectConfig c => exact h.mixEffectConfig c
  | mediaPool c => exact { h with stills := rfl, clips := rfl }
  | multiviewerConfig c => exact { h with multiviewers := rfl }
  | superSourceConfig boxes => exact { h with superSourceBoxes := rfl }
  | macroPool slots => exact { h with macros := rfl }
  | warning text => exact { h with }
  | inputProperties c => exact h.inputProperties c
  | audioMixerConfig c => exact { h with classicAudio := iff_of_true rfl (.inl nofun) }
  | audioMaster c => exact { h with classicAudio := iff_of_true rfl (.inr (.inl nofun)) }
  | audioMixerInput c => exact { h with classicAudio := iff_of_true rfl (.inr (.inr IdMap.insert_ne_empty)) }
  | programInput c | previewInput c | transitionProperties c | transitionPosition c | transitionMix c | transitionDip c
  | transitionWipe c | fadeToBlackRate c | fadeToBlackState c => exact (h.mixEffect c.mixEffect).apply rfl
  | keyerOnAir c | keyerBase c | keyerLuma c | keyerChroma c => exact (h.keyer c.mixEffect c.keyer).apply rfl
  -- the others mention ids that the tree has no count of, or none
  | _ => exact { h.apply rfl with }

end Agrees

theorem agrees_ofBurst (commands : List Command) :
    Agrees (Builder.ofBurst commands) (DeviceTree.empty.applyAll commands) := by
  induction commands using List.reverseRecOn with
  | nil => exact agrees_empty
  | append_singleton commands c ih =>
    rw [Builder.ofBurst_concat, DeviceTree.applyAll_concat]
    exact ih.observe c

/-! ### The profile and the tree -/

/-- a profile says of the device what the tree says -/
structure Matches (p : Profile) (t : DeviceTree) : Prop where
  productName : p.productName = t.info.productName
  model : p.model = t.info.model
  protocolVersion : p.protocolVersion = t.info.apiVersion
  topology : p.topology = t.info.topology
  keyers : ∀ block count, t.info.mixEffectKeyers.get? block = some count → p.keyers.get? block = some count
  stills : p.stills = t.info.mediaPool.elim 0 (·.stills)
  clips : p.clips = t.info.mediaPool.elim 0 (·.clips)
  superSourceBoxes : ∀ boxes, t.info.superSourceBoxes = some boxes → p.superSourceBoxes = boxes
  macros : ∀ slots, t.info.macroPool = some slots → p.macros = slots.toUInt16
  multiviewers : ∀ c, t.info.multiviewers = some c → c.count ≤ p.multiviewers
  inputs : p.inputs.toNat = t.inputs.size % 65536
  noAudio : p.audioMixer = .none → ¬ t.HasClassicAudio
  classicAudio : p.audioMixer = .classic → t.HasClassicAudio

theorem matches_finish {b : Builder} {t : DeviceTree} (h : Agrees b t) : b.finish.Matches t where
  productName := h.productName
  model := h.model
  protocolVersion := h.protocolVersion
  topology := h.topology
  keyers block count hcount := by
    have hcontains : t.info.mixEffectKeyers.contains block := Option.isSome_of_eq_some hcount
    obtain ⟨_, hblock⟩ := Option.isSome_iff_exists.1 (h.blocks block hcontains)
    show (b.mixEffects.mapEntries fun block _ => b.keyersOn block).get? block = some count
    rw [IdMap.get?_mapEntries, hblock, Option.map_some, Builder.keyersOn, h.keyers, hcount, Option.getD_some]
  stills := h.stills
  clips := h.clips
  superSourceBoxes boxes hboxes := by
    show b.configuredBoxes.getD _ = boxes
    rw [h.superSourceBoxes, hboxes, Option.getD_some]
  macros slots hslots := by
    show (b.macroCount.map UInt8.toUInt16).getD _ = slots.toUInt16
    rw [h.macros, hslots, Option.map_some, Option.getD_some]
  multiviewers c hc := by
    show c.count ≤ max (UInt8.ofNat b.multiviewers.size) (b.multiviewerCount.getD 0)
    rw [h.multiviewers, hc, Option.map_some, Option.getD_some, UInt8.le_iff_toNat_le, toNat_max]
    exact le_max_right _ _
  inputs := by
    show (UInt16.ofNat b.inputs.size).toNat = _
    rw [UInt16.toNat_ofNat', h.inputs, IdMap.size_mapEntries]
  noAudio hmixer hclassic := by
    change (if b.fairlightAudio then _ else if b.classicAudio then _ else _) = AudioMixerKind.none at hmixer
    rw [h.classicAudio.2 hclassic, if_pos rfl] at hmixer
    split at hmixer <;> cases hmixer
  classicAudio hmixer := by
    change (if b.fairlightAudio then _ else if b.classicAudio then _ else _) = AudioMixerKind.classic at hmixer
    refine h.classicAudio.1 ?_
    split at hmixer
    · cases hmixer
    · split at hmixer
      · assumption
      · cases hmixer

/-- **The profile and the tree agree about the device**, whatever commands they have seen. -/
theorem matches_tree (commands : List Command) :
    (Builder.ofBurst commands).finish.Matches (DeviceTree.empty.applyAll commands) :=
  matches_finish (agrees_ofBurst commands)

end Profile

end VisionMixer
