/-
The description in any order.

Every part of the description has a topic (`Command.topic?`), and a device that describes itself speaks of each topic
once. Two commands on different topics come to the same in either order (`swaps_of_topics`). Most of them write different
parts of the tree; where they meet, an entry that one of them creates and the other one fills or changes is the same
whichever was first.

One command reads what another one stored: a new super source gets the boxes that were described before it, and boxes
that are described later are added to the super sources there are. They swap as long as no number of boxes was
described, which holds until the one description of the boxes has come (`applyAll_eq_of_perm`), and from the empty tree
nothing else is needed (`description_in_any_order`).
-/
import VisionMixer.Proofs.Device.Stale

namespace VisionMixer

/-- what a part of the description is about -/
inductive Topic where
  | version
  | product
  | topology
  | mediaPool
  | multiviewers
  | boxes
  | audioMixer
  | macroPool
  | keyers (block : UInt8)
  | input (id : UInt16)
  | strip (index : UInt16)
  | slot (index : UInt16)
  deriving DecidableEq

/-- the topic of a part of the description -/
def Command.topic? : Command → Option Topic
  | .version _ => some .version
  | .product _ => some .product
  | .topology _ => some .topology
  | .mediaPool _ => some .mediaPool
  | .multiviewerConfig _ => some .multiviewers
  | .superSourceConfig _ => some .boxes
  | .audioMixerConfig _ => some .audioMixer
  | .macroPool _ => some .macroPool
  | .mixEffectConfig c => some (.keyers c.mixEffect)
  | .inputProperties c => some (.input c.id)
  | .audioMixerInput c => some (.strip c.index)
  | .macroProperties c => some (.slot c.index)
  | _ => none

namespace DeviceTree

/-- two commands come to the same in either order -/
def Swaps (t : DeviceTree) (c d : Command) : Prop := ((t.apply c).1.apply d).1 = ((t.apply d).1.apply c).1

variable {t : DeviceTree} {c d : Command}

theorem Swaps.symm (h : t.Swaps c d) : t.Swaps d c := Eq.symm h

/-! ### Commands that meet in a part of the tree -/

theorem swaps_topology_mixEffectConfig (c : Topology) (d : MixEffectConfig) :
    t.Swaps (.topology c) (.mixEffectConfig d) := by
  simp only [Swaps, apply, update, applyTopology, applyMixEffectConfig, IdMap.getD_get?_fill, IdMap.insert_fill]

theorem multiviewers_swap (c : Topology) (d : MultiviewerConfig) :
    ((t.applyTopology c).tree.applyMultiviewerConfig d).tree.multiviewers =
      ((t.applyMultiviewerConfig d).tree.applyTopology c).tree.multiviewers := by
  refine IdMap.ext fun index => ?_
  rw [get?_applyMultiviewerConfig]
  simp only [applyTopology, IdMap.getD_get?_fill]
  simp only [IdMap.get?_fill, get?_applyMultiviewerConfig]
  split <;> rfl

theorem swaps_topology_multiviewerConfig (c : Topology) (d : MultiviewerConfig) :
    t.Swaps (.topology c) (.multiviewerConfig d) :=
  (DeviceTree.mk.injEq ..).mpr ⟨rfl, rfl, rfl, rfl, rfl, multiviewers_swap c d, rfl, rfl⟩

/-- super sources get the same boxes when they are created as they get later -/
theorem swaps_topology_superSourceConfig (c : Topology) (boxes : UInt8) (h : t.info.superSourceBoxes = none) :
    t.Swaps (.topology c) (.superSourceConfig boxes) := by
  have hnone (m : IdMap UInt8 BoxSettings) : m.fill 0 default = m := rfl
  simp only [Swaps, apply, update, applyTopology, applySuperSourceConfig, IdMap.mapEntries_fill, h, Option.getD_none,
    Option.getD_some, UInt8.toNat_zero, hnone]

theorem swaps_mixEffectConfig {c d : MixEffectConfig} (h : c.mixEffect ≠ d.mixEffect) :
    t.Swaps (.mixEffectConfig c) (.mixEffectConfig d) := by
  simp only [Swaps, apply, update, applyMixEffectConfig, IdMap.get?_insert_of_ne h, IdMap.get?_insert_of_ne h.symm,
    IdMap.insert_comm h]

theorem swaps_macroPool_macroProperties (slots : UInt8) (d : MacroProperties) :
    t.Swaps (.macroPool slots) (.macroProperties d) := by
  simp only [Swaps, apply, update, applyMacroPool, IdMap.insert_fill]

theorem swaps_inputProperties {c d : InputProperties} (h : c.id ≠ d.id) :
    t.Swaps (.inputProperties c) (.inputProperties d) := by
  simp only [Swaps, apply, update, IdMap.insert_comm h]

theorem swaps_audioMixerInput {c d : AudioMixerInput} (h : c.index ≠ d.index) :
    t.Swaps (.audioMixerInput c) (.audioMixerInput d) := by
  simp only [Swaps, apply, update, IdMap.insert_comm h]

theorem swaps_macroProperties {c d : MacroProperties} (h : c.index ≠ d.index) :
    t.Swaps (.macroProperties c) (.macroProperties d) := by
  simp only [Swaps, apply, update, IdMap.insert_comm h]

/-! ### Any two -/

/-- **Two parts of the description swap** if they have different topics, and no number of boxes is known to which one of
them could add. -/
theorem swaps_of_topics (hc : c.isStructural) (hd : d.isStructural) (hne : c.topic? ≠ d.topic?)
    (hboxes : c.topic? = some .boxes ∨ d.topic? = some .boxes → t.info.superSourceBoxes = none) : t.Swaps c d := by
  cases c with
  | topology c =>
    cases d with
    | topology d => exact absurd rfl hne
    | mixEffectConfig d => exact swaps_topology_mixEffectConfig c d
    | multiviewerConfig d => exact swaps_topology_multiviewerConfig c d
    | superSourceConfig boxes => exact swaps_topology_superSourceConfig c boxes (hboxes (.inr rfl))
    | _ => first | exact absurd hd Bool.false_ne_true | rfl
  | mixEffectConfig c =>
    cases d with
    | topology d => exact (swaps_topology_mixEffectConfig d c).symm
    | mixEffectConfig d =>
      exact swaps_mixEffectConfig fun h => hne (congrArg (fun block => some (Topic.keyers block)) h)
    | _ => first | exact absurd hd Bool.false_ne_true | rfl
  | multiviewerConfig c =>
    cases d with
    | topology d => exact (swaps_topology_multiviewerConfig d c).symm
    | multiviewerConfig d => exact absurd rfl hne
    | _ => first | exact absurd hd Bool.false_ne_true | rfl
  | superSourceConfig boxes =>
    cases d with
    | topology d => exact (swaps_topology_superSourceConfig d boxes (hboxes (.inl rfl))).symm
    | superSourceConfig d => exact absurd rfl hne
    | _ => first | exact absurd hd Bool.false_ne_true | rfl
  | macroPool slots =>
    cases d with
    | macroPool d => exact absurd rfl hne
    | macroProperties d => exact swaps_macroPool_macroProperties slots d
    | _ => first | exact absurd hd Bool.false_ne_true | rfl
  | macroProperties c =>
    cases d with
    | macroPool slots => exact (swaps_macroPool_macroProperties slots c).symm
    | macroProperties d => exact swaps_macroProperties fun h => hne (congrArg (fun index => some (Topic.slot index)) h)
    | _ => first | exact absurd hd Bool.false_ne_true | rfl
  | inputProperties c =>
    cases d with
    | inputProperties d => exact swaps_inputProperties fun h => hne (congrArg (fun id => some (Topic.input id)) h)
    | _ => first | exact absurd hd Bool.false_ne_true | rfl
  | audioMixerInput c =>
    cases d with
    | audioMixerInput d => exact swaps_audioMixerInput fun h => hne (congrArg (fun index => some (Topic.strip index)) h)
    | _ => first | exact absurd hd Bool.false_ne_true | rfl
  -- these write one part of the description, and no other command reads it
  | version _ | product _ | mediaPool _ | audioMixerConfig _ =>
    cases d <;> first | exact absurd hd Bool.false_ne_true | exact absurd rfl hne | rfl
  | _ => exact absurd hc Bool.false_ne_true

/-! ### All of them -/

theorem superSourceBoxes_apply (hc : c.isStructural) (hne : c.topic? ≠ some .boxes) :
    (t.apply c).1.info.superSourceBoxes = t.info.superSourceBoxes := by
  cases c <;> first | exact absurd hc Bool.false_ne_true | exact absurd rfl hne | rfl

/-- **Descriptions that are permutations of each other come to the same**, on any tree to which they may add boxes -/
theorem applyAll_eq_of_perm {cs cs' : List Command} (hperm : cs.Perm cs') :
    ∀ t : DeviceTree, (∀ c ∈ cs, c.isStructural) → (cs.map Command.topic?).Nodup →
      (some .boxes ∈ cs.map Command.topic? → t.info.superSourceBoxes = none) → t.applyAll cs = t.applyAll cs' := by
  induction hperm with
  | nil => exact fun t _ _ _ => rfl
  | @cons c cs cs' _ ih =>
    intro t hstructural honce hboxes
    obtain ⟨hfirst, hrest⟩ := List.nodup_cons.1 honce
    refine ih (t.apply c).1 (fun d hd => hstructural d (List.mem_cons_of_mem c hd)) hrest fun hlater => ?_
    -- the boxes are described later, so not by this command
    have hne : c.topic? ≠ some .boxes := fun he => hfirst (he ▸ hlater)
    rw [superSourceBoxes_apply (hstructural c List.mem_cons_self) hne]
    exact hboxes (List.mem_cons_of_mem _ hlater)
  | swap c d cs =>
    intro t hstructural honce hboxes
    obtain ⟨hfirst, -⟩ := List.nodup_cons.1 honce
    have hd := hstructural d List.mem_cons_self
    have hc := hstructural c (List.mem_cons_of_mem d List.mem_cons_self)
    have hne : d.topic? ≠ c.topic? := fun he => hfirst (he ▸ List.mem_cons_self)
    refine congrArg (fun t : DeviceTree => t.applyAll cs) (swaps_of_topics hd hc hne fun h => hboxes ?_)
    rcases h with h | h
    · exact h ▸ List.mem_cons_self
    · exact h ▸ List.mem_cons_of_mem _ List.mem_cons_self
  | trans hperm _ ih ih' =>
    intro t hstructural honce hboxes
    have htopics := hperm.map Command.topic?
    refine (ih t hstructural honce hboxes).trans (ih' t ?_ (htopics.nodup_iff.1 honce) ?_)
    · exact fun c hc => hstructural c (hperm.mem_iff.2 hc)
    · exact fun hmem => hboxes (htopics.mem_iff.2 hmem)

/-- **The order of the description does not matter.** If no topic is described twice, any order of the commands makes the
same tree of the empty one. -/
theorem description_in_any_order {cs cs' : List Command} (hperm : cs.Perm cs')
    (hstructural : ∀ c ∈ cs, c.isStructural) (honce : (cs.map Command.topic?).Nodup) :
    empty.applyAll cs = empty.applyAll cs' :=
  applyAll_eq_of_perm hperm empty hstructural honce fun _ => rfl

/-- two super sources get their boxes whether the number of boxes comes before them or after them -/
theorem description_in_any_order_reversed :
    let cs := [Command.superSourceConfig 3, .mixEffectConfig ⟨1, 2⟩, .multiviewerConfig ⟨1, 4, none, none, none⟩,
      .topology ⟨1, 0, 1, 0, 0, 2, 0, 0, 0, 0, 2, some 2, none, none, none⟩, .mixEffectConfig ⟨0, 1⟩, .macroPool 4]
    cs.Perm cs.reverse ∧ (∀ c ∈ cs, c.isStructural) ∧ (cs.map Command.topic?).Nodup ∧
      empty.applyAll cs = empty.applyAll cs.reverse ∧ (empty.applyAll cs).has (.box 1 2) ∧
      (empty.applyAll cs.reverse).has (.box 1 2) ∧ (empty.applyAll cs.reverse).has (.upstreamKeyer 1 1) := by
  intro cs
  have hperm : cs.Perm cs.reverse := (List.reverse_perm cs).symm
  have hstructural : ∀ c ∈ cs, c.isStructural := by simp [cs, Command.isStructural]
  have honce : (cs.map Command.topic?).Nodup := by decide
  exact ⟨hperm, hstructural, honce, description_in_any_order hperm hstructural honce, by decide, by decide, by decide⟩

end DeviceTree

end VisionMixer
