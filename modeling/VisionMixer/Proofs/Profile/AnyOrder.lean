/-
Bursts that say the same.

A profile takes the ids that a burst mentions as sets, and so the signs of an audio mixer and of a super source; neither
their order matters nor how often they come. Of some topics it takes the last word: the version, the product, the
topology, the counts that the device states (`Topic.isStated`). A burst that says one thing on each of these topics has
one word to take, wherever it stands (`last?_congr`). Only the unknown tags show the order of a burst; each is listed
once (`nodup_firsts`).
-/
import VisionMixer.Proofs.Device.AnyOrder
import VisionMixer.Proofs.Profile.Builder

namespace VisionMixer

/-- a profile takes the last word on the topic -/
def Topic.isStated : Topic → Bool
  | .version | .product | .topology | .mediaPool | .multiviewers | .boxes | .macroPool | .keyers _ => true
  | .audioMixer | .input _ | .strip _ | .slot _ => false

namespace Profile

variable {burst burst' : List Command}

/-- no two different commands of the burst state something on the same topic -/
def OnePerTopic (burst : List Command) : Prop :=
  ∀ c ∈ burst, ∀ d ∈ burst, ∀ topic : Topic, topic.isStated → c.topic? = some topic → d.topic? = some topic → c = d

/-! ### Ids and signs -/

section

variable (hsame : ∀ c, c ∈ burst ↔ c ∈ burst')
include hsame

theorem mem_filterMap_congr {α : Type} (said : Command → Option α) (a : α) :
    a ∈ burst.filterMap said ↔ a ∈ burst'.filterMap said := by
  simp only [List.mem_filterMap, hsame]

theorem any_congr (p : Command → Bool) : burst.any p = burst'.any p := by
  rw [Bool.eq_iff_iff, List.any_eq_true, List.any_eq_true]
  simp only [hsame]

theorem mentioned_congr {κ : Type} [DecidableEq κ] [Id κ] (id : Command → Option κ) :
    mentioned burst id = mentioned burst' id := IdMap.distinct_congr (mem_filterMap_congr hsame id)

theorem count_congr {κ : Type} [DecidableEq κ] [Id κ] (id : Command → Option κ) : count burst id = count burst' id := by
  rw [count, count, mentioned_congr hsame]

theorem audioMixer_congr : AudioMixerKind.ofBurst burst = AudioMixerKind.ofBurst burst' := by
  simp only [AudioMixerKind.ofBurst, mem_filterMap_congr hsame]

theorem OnePerTopic.of_same (hone : OnePerTopic burst) : OnePerTopic burst' :=
  fun c hc d hd => hone c ((hsame c).2 hc) d ((hsame d).2 hd)

end

/-! ### The last word -/

section

variable {α : Type} {said : Command → Option α}

/-- on a topic with one word, the last word is any -/
theorem last?_eq_some (hone : OnePerTopic burst) (topic : Topic) (hstated : topic.isStated)
    (hsaid : ∀ c a, said c = some a → c.topic? = some topic) {a : α} :
    last? burst said = some a ↔ ∃ c ∈ burst, said c = some a := by
  refine ⟨fun h => List.mem_filterMap.1 (List.mem_of_getLast? h), fun ⟨c, hc, ha⟩ => ?_⟩
  cases hlast : last? burst said with
  | none =>
    have hmem : a ∈ burst.filterMap said := List.mem_filterMap.2 ⟨c, hc, ha⟩
    rw [List.getLast?_eq_none_iff.1 hlast] at hmem
    cases hmem
  | some b =>
    obtain ⟨d, hd, hb⟩ := List.mem_filterMap.1 (List.mem_of_getLast? hlast)
    obtain rfl := hone c hc d hd topic hstated (hsaid c a ha) (hsaid d b hb)
    rw [← hb, ha]

theorem last?_congr (hsame : ∀ c, c ∈ burst ↔ c ∈ burst') (hone : OnePerTopic burst) (topic : Topic)
    (hstated : topic.isStated) (hsaid : ∀ c a, said c = some a → c.topic? = some topic) :
    last? burst said = last? burst' said := by
  refine Option.ext fun a => ?_
  rw [last?_eq_some hone topic hstated hsaid, last?_eq_some (hone.of_same hsame) topic hstated hsaid]
  simp only [hsame]

end

section

variable {c : Command}

theorem topic?_of_keyers {block keyers : UInt8} (h : configuredOn? block c = some keyers) :
    c.topic? = some (.keyers block) := by
  cases c with
  | mixEffectConfig c =>
    rw [configuredOn?] at h
    split at h
    · next hblock => rw [Command.topic?, hblock]
    · cases h
  | _ => cases h

theorem keyersOn_congr (hsame : ∀ c, c ∈ burst ↔ c ∈ burst') (hone : OnePerTopic burst) (block : UInt8) :
    keyersOn burst block = keyersOn burst' block := by
  rw [keyersOn, keyersOn, count_congr hsame,
    last?_congr hsame hone (.keyers block) rfl fun _ _ => topic?_of_keyers]

end

/-! ### Unknown tags -/

theorem mem_firsts {items : List String} {s : String} : s ∈ firsts items ↔ s ∈ items := by
  induction items using List.reverseRecOn with
  | nil => exact Iff.rfl
  | append_singleton items t ih =>
    rw [Builder.firsts_concat]
    split
    · next ht =>
      rw [ih, List.mem_append, List.mem_singleton]
      refine ⟨.inl, ?_⟩
      rintro (hs | rfl)
      · exact hs
      · exact ih.1 ht
    · rw [List.mem_append, List.mem_append, ih]

theorem nodup_firsts (items : List String) : (firsts items).Nodup := by
  induction items using List.reverseRecOn with
  | nil => exact List.nodup_nil
  | append_singleton items t ih =>
    rw [Builder.firsts_concat]
    split
    · exact ih
    · next ht => exact List.concat_eq_append ▸ ih.concat ht

theorem firsts_perm {items items' : List String} (h : ∀ s, s ∈ items ↔ s ∈ items') :
    (firsts items).Perm (firsts items') := by
  refine (List.perm_ext_iff_of_nodup (nodup_firsts items) (nodup_firsts items')).2 fun s => ?_
  rw [mem_firsts, mem_firsts, h]

/-! ### The whole profile -/

/-- what a profile takes of a burst -/
theorem ofBurst_eq (burst : List Command) : ofBurst burst =
    { productName := last? burst Command.productName?
      model := last? burst Command.model?
      protocolVersion := last? burst Command.version?
      mixEffects := UInt8.ofNat (count burst Command.mixEffect?)
      keyers := .ofList ((mentioned burst Command.mixEffect?).map fun block => (block, keyersOn burst block))
      downstreamKeyers := UInt8.ofNat (count burst Command.downstreamKeyer?)
      multiviewers := max (UInt8.ofNat (count burst Command.multiviewer?)) ((last? burst Command.multiviewerCount?).getD 0)
      superSource := burst.any Command.isArt
      superSourceBoxes := (last? burst Command.boxCount?).getD (UInt8.ofNat (count burst Command.box?))
      audioMixer := .ofBurst burst
      mediaPlayers := max (UInt8.ofNat (count burst Command.mediaPlayer?))
        (((last? burst Command.topology?).map (·.mediaPlayers)).getD 0)
      stills := ((last? burst Command.mediaPool?).map (·.stills)).getD 0
      clips := ((last? burst Command.mediaPool?).map (·.clips)).getD 0
      macros := ((last? burst Command.slotCount?).map UInt8.toUInt16).getD (UInt16.ofNat (count burst Command.macroSlot?))
      inputs := UInt16.ofNat (count burst Command.input?)
      topology := last? burst Command.topology?
      unrecognized := firsts ((burst.filterMap Command.unrecognized?).map (·.tag.text)) } := rfl

theorem ofBurst_congr (hsame : ∀ c, c ∈ burst ↔ c ∈ burst') (hone : OnePerTopic burst) :
    { ofBurst burst with unrecognized := (ofBurst burst').unrecognized } = ofBurst burst' := by
  -- each of these says something in commands of one kind only
  have hlast {α : Type} (said : Command → Option α) (topic : Topic) (hstated : topic.isStated)
      (hsaid : ∀ c a, said c = some a → c.topic? = some topic := by intro c a h; cases c <;> first | rfl | cases h) :
      last? burst said = last? burst' said := last?_congr hsame hone topic hstated hsaid
  have hname := hlast Command.productName? .product rfl
  have hmodel := hlast Command.model? .product rfl
  have hversion := hlast Command.version? .version rfl
  have htopology := hlast Command.topology? .topology rfl
  have hpool := hlast Command.mediaPool? .mediaPool rfl
  have hviewers := hlast Command.multiviewerCount? .multiviewers rfl
  have hboxes := hlast Command.boxCount? .boxes rfl
  have hslots := hlast Command.slotCount? .macroPool rfl
  simp only [ofBurst_eq, hname, hmodel, hversion, htopology, hpool, hviewers, hboxes, hslots, count_congr hsame,
    mentioned_congr hsame, keyersOn_congr hsame hone, any_congr hsame, audioMixer_congr hsame]

/-- **A profile depends on what was said.** Two bursts of the same commands, in any order and each as often as it likes,
make the same profile but for the order of the unknown tags, if they state one thing on each topic; and no burst makes a
profile that lists an unknown tag twice. -/
theorem profile_of_what_was_said :
    (∀ burst, (Builder.ofBurst burst).finish.unrecognized.Nodup) ∧
      ∀ burst burst', (∀ c, c ∈ burst ↔ c ∈ burst') → OnePerTopic burst →
        let p := (Builder.ofBurst burst).finish
        let p' := (Builder.ofBurst burst').finish
        { p with unrecognized := p'.unrecognized } = p' ∧ p.unrecognized.Perm p'.unrecognized := by
  simp only [Builder.finish_ofBurst]
  refine ⟨fun burst => nodup_firsts _, fun burst burst' hsame hone => ⟨ofBurst_congr hsame hone, firsts_perm fun s => ?_⟩⟩
  simp only [List.mem_map, mem_filterMap_congr hsame]

/-- two blocks, a keyer and two unknown tags, backwards and some of them twice -/
theorem profile_of_what_was_said_backwards :
    let tag (d : Char) : Command := .unrecognized ⟨.ofChars 'X' 'y' 'z' d, []⟩
    let burst := [.mixEffectConfig ⟨0, 4⟩, tag '1', .keyerOnAir ⟨1, 3, true⟩, tag '2', .product ⟨"Mixer", some 4⟩]
    let burst' := burst.reverse ++ [.mixEffectConfig ⟨0, 4⟩, tag '1', .keyerOnAir ⟨1, 3, true⟩]
    let p := (Builder.ofBurst burst).finish
    let p' := (Builder.ofBurst burst').finish
    (∀ c, c ∈ burst ↔ c ∈ burst') ∧ OnePerTopic burst ∧ { p with unrecognized := p'.unrecognized } = p' ∧
      p.unrecognized.Perm p'.unrecognized ∧ p'.unrecognized.Nodup ∧ p.unrecognized = ["Xyz1", "Xyz2"] ∧
      p'.unrecognized = ["Xyz2", "Xyz1"] ∧ p'.keyers.get? 0 = some 4 ∧ p'.keyers.get? 1 = some 1 := by
  intro tag burst burst' p p'
  have hsame : ∀ c, c ∈ burst ↔ c ∈ burst' := fun c => by
    simp only [burst', burst, List.reverse_cons, List.mem_append, List.mem_cons, List.mem_reverse]
    tauto
  have htopics : ∀ c ∈ burst, ∀ d ∈ burst, c.topic? = d.topic? → c.topic? = none ∨ c = d := by decide
  have hone : OnePerTopic burst := by
    intro c hc d hd topic _ htopic htopic'
    rcases htopics c hc d hd (htopic.trans htopic'.symm) with hnone | heq
    · cases hnone.symm.trans htopic
    · exact heq
  obtain ⟨hnodup, hburst⟩ := profile_of_what_was_said
  obtain ⟨hprofile, htags⟩ := hburst burst burst' hsame hone
  exact ⟨hsame, hone, hprofile, htags, hnodup burst', rfl, rfl, rfl, rfl⟩

end Profile

end VisionMixer
