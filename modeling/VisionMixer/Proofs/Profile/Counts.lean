/-
How many ids a profile counts, and which it knows of.

A profile keeps the number of different ids of a kind in the width of the ids, so the number of all of them does not fit.
`Counts` says how far such a number can be trusted: it is right as long as an id is missing, and nothing once none is.
`Counted` goes through the numbers of a profile, those that the device states or advertises included, and `Grown` through
what one more command does to them: a number falls only where the command completes the ids.

For mix-effect blocks the number is all that `hasMixEffect` asks. It knows the blocks below the number, and these are the
reported ones only where the reported ones are a beginning of all blocks (`hasMixEffect_truthful_iff`); the keyers are
listed under the reported blocks themselves.
-/
import VisionMixer.Proofs.Profile.Builder

namespace VisionMixer.Profile

/-! ### Sets of ids -/

section

variable {κ : Type} [DecidableEq κ]

/-- the ids of a kind that a burst mentions -/
def idsOf (burst : List Command) (id : Command → Option κ) : Finset κ := (burst.filterMap id).toFinset

theorem mem_idsOf {burst : List Command} {id : Command → Option κ} {k : κ} :
    k ∈ idsOf burst id ↔ ∃ c ∈ burst, id c = some k := by
  rw [idsOf, List.mem_toFinset, List.mem_filterMap]

theorem idsOf_subset_concat (burst : List Command) (c : Command) (id : Command → Option κ) :
    idsOf burst id ⊆ idsOf (burst ++ [c]) id := by
  intro k hk
  obtain ⟨d, hd, hid⟩ := mem_idsOf.1 hk
  exact mem_idsOf.2 ⟨d, List.mem_append_left _ hd, hid⟩

theorem count_eq_card [Id κ] (burst : List Command) (id : Command → Option κ) : count burst id = (idsOf burst id).card := by
  have hsame : (mentioned burst id).toFinset = idsOf burst id := by
    ext k
    rw [mentioned, List.mem_toFinset, IdMap.mem_distinct, idsOf, List.mem_toFinset]
  rw [← hsame, mentioned, List.toFinset_card_of_nodup (IdMap.nodup_distinct _), count, mentioned]

end

section

variable {κ : Type} [Id κ] {ids : Finset κ} {limit : Nat}

theorem card_image_toNat (ids : Finset κ) : (ids.image Id.toNat).card = ids.card :=
  Finset.card_image_of_injective _ fun _ _ => Id.toNat_inj

/-- where an id is missing there are fewer than there could be -/
theorem card_lt_of_notMem (hlt : ∀ k : κ, Id.toNat k < limit) {k : κ} (hk : k ∉ ids) : ids.card < limit := by
  have hsub : ids.image Id.toNat ⊆ (Finset.range limit).erase (Id.toNat k) := by
    intro n hn
    obtain ⟨j, hj, rfl⟩ := Finset.mem_image.1 hn
    have hne : Id.toNat j ≠ Id.toNat k := fun h => hk (Id.toNat_inj h ▸ hj)
    exact Finset.mem_erase.2 ⟨hne, Finset.mem_range.2 (hlt j)⟩
  have hcard := Finset.card_le_card hsub
  rw [card_image_toNat, Finset.card_erase_of_mem (Finset.mem_range.2 (hlt k)), Finset.card_range] at hcard
  have := hlt k
  omega

/-- where none is missing there are as many as there are numbers -/
theorem card_of_complete (hlt : ∀ k : κ, Id.toNat k < limit) (hids : ∀ n < limit, ∃ k : κ, Id.toNat k = n)
    (hall : ∀ k, k ∈ ids) : ids.card = limit := by
  have hrange : ids.image Id.toNat = Finset.range limit := by
    ext n
    rw [Finset.mem_image, Finset.mem_range]
    constructor
    · rintro ⟨k, _, rfl⟩
      exact hlt k
    · intro hn
      obtain ⟨k, hk⟩ := hids n hn
      exact ⟨k, hall k, hk⟩
  rw [← card_image_toNat, hrange, Finset.card_range]

end

/-! ### Numbers in the width of the ids -/

/-- a number that counts ids in their own width -/
structure Counts {κ : Type} (n : Nat) (ids : Finset κ) : Prop where
  right : n = ids.card ↔ ∃ k, k ∉ ids
  none_left : (∀ k, k ∈ ids) → n = 0

theorem counts_of_mod {κ : Type} [DecidableEq κ] [Id κ] {limit : Nat} (hpos : 0 < limit)
    (hlt : ∀ k : κ, Id.toNat k < limit) (hids : ∀ n < limit, ∃ k : κ, Id.toNat k = n) (ids : Finset κ) :
    Counts (ids.card % limit) ids := by
  by_cases hall : ∀ k, k ∈ ids
  · have hcard := card_of_complete hlt hids hall
    rw [hcard, Nat.mod_self]
    refine ⟨?_, fun _ => rfl⟩
    rw [hcard]
    exact ⟨fun h => absurd h (by omega), fun ⟨k, hk⟩ => absurd (hall k) hk⟩
  · obtain ⟨k, hk⟩ := not_forall.1 hall
    rw [Nat.mod_eq_of_lt (card_lt_of_notMem hlt hk)]
    exact ⟨⟨fun _ => ⟨k, hk⟩, fun _ => rfl⟩, fun h => absurd h hall⟩

theorem counts_byte (burst : List Command) (id : Command → Option UInt8) :
    Counts (UInt8.ofNat (count burst id)).toNat (idsOf burst id) := by
  rw [UInt8.toNat_ofNat', count_eq_card]
  exact counts_of_mod (by omega) UInt8.toNat_lt (fun n hn => ⟨UInt8.ofNat n, UInt8.toNat_ofNat_of_lt' hn⟩) _

theorem counts_word (burst : List Command) (id : Command → Option UInt16) :
    Counts (UInt16.ofNat (count burst id)).toNat (idsOf burst id) := by
  rw [UInt16.toNat_ofNat', count_eq_card]
  exact counts_of_mod (by omega) UInt16.toNat_lt (fun n hn => ⟨UInt16.ofNat n, UInt16.toNat_ofNat_of_lt' hn⟩) _

/-- the number that a device states, or else that of the ids -/
def StatedOr {κ : Type} (n : Nat) (stated : Option Nat) (ids : Finset κ) : Prop :=
  match stated with
  | some m => n = m
  | none => Counts n ids

/-- the larger of the number of the ids and the advertised one -/
def LargerOf {κ : Type} (n advertised : Nat) (ids : Finset κ) : Prop := ∃ m, Counts m ids ∧ n = max m advertised

/-- the numbers of a profile count what a burst shows -/
structure Counted (p : Profile) (burst : List Command) : Prop where
  mixEffects : Counts p.mixEffects.toNat (idsOf burst Command.mixEffect?)
  keyers : p.keyers.size = (idsOf burst Command.mixEffect?).card
  blocks : ∀ block, p.keyers.contains block ↔ block ∈ idsOf burst Command.mixEffect?
  keyersOn : ∀ block n, p.keyers.get? block = some n →
    StatedOr n.toNat ((last? burst (configuredOn? block)).map UInt8.toNat) (idsOf burst (keyerOn? block))
  downstreamKeyers : Counts p.downstreamKeyers.toNat (idsOf burst Command.downstreamKeyer?)
  inputs : Counts p.inputs.toNat (idsOf burst Command.input?)
  superSourceBoxes : StatedOr p.superSourceBoxes.toNat ((last? burst Command.boxCount?).map UInt8.toNat)
    (idsOf burst Command.box?)
  macros : StatedOr p.macros.toNat ((last? burst Command.slotCount?).map UInt8.toNat) (idsOf burst Command.macroSlot?)
  multiviewers : LargerOf p.multiviewers.toNat ((last? burst Command.multiviewerCount?).elim 0 UInt8.toNat)
    (idsOf burst Command.multiviewer?)
  mediaPlayers : LargerOf p.mediaPlayers.toNat ((last? burst Command.topology?).elim 0 (·.mediaPlayers.toNat))
    (idsOf burst Command.mediaPlayer?)

theorem size_ofList_map {κ α : Type} [DecidableEq κ] [Id κ] (burst : List Command) (id : Command → Option κ)
    (f : κ → α) : (IdMap.ofList ((mentioned burst id).map fun k => (k, f k))).size = (idsOf burst id).card := by
  rw [mentioned, IdMap.ofList_map_distinct, ← count_eq_card, count, mentioned, ← IdMap.size_marked, IdMap.size, IdMap.size,
    IdMap.mapEntries, List.length_map]

theorem statedOr_getD {κ : Type} {ids : Finset κ} {seen : UInt8} (stated : Option UInt8) (h : Counts seen.toNat ids) :
    StatedOr (stated.getD seen).toNat (stated.map UInt8.toNat) ids := by
  cases stated with
  | none => exact h
  | some n => rfl

theorem toNat_max (a b : UInt8) : (max a b).toNat = max a.toNat b.toNat := by
  rw [UInt8.max_def]
  split
  · next h => rw [max_eq_right (UInt8.le_iff_toNat_le.1 h)]
  · next h => rw [max_eq_left (by rw [UInt8.le_iff_toNat_le] at h; omega)]

theorem largerOf_max {κ : Type} {ids : Finset κ} {seen : UInt8} (advertised : Option UInt8) (h : Counts seen.toNat ids) :
    LargerOf (max seen (advertised.getD 0)).toNat (advertised.elim 0 UInt8.toNat) ids := by
  refine ⟨_, h, ?_⟩
  rw [toNat_max]
  cases advertised <;> rfl

theorem get?_keyers (burst : List Command) (block : UInt8) : (ofBurst burst).keyers.get? block =
    if block ∈ idsOf burst Command.mixEffect? then some (keyersOn burst block) else none := by
  have hmem : block ∈ mentioned burst Command.mixEffect? ↔ block ∈ idsOf burst Command.mixEffect? := by
    rw [mentioned, IdMap.mem_distinct, idsOf, List.mem_toFinset]
  simp only [← hmem]
  exact IdMap.get?_ofList_map _ _ block

theorem counted_ofBurst (burst : List Command) : (ofBurst burst).Counted burst where
  mixEffects := counts_byte burst _
  keyers := size_ofList_map burst _ _
  blocks block := by
    rw [IdMap.contains, get?_keyers]
    split <;> simp [*]
  keyersOn block n hn := by
    rw [get?_keyers] at hn
    split at hn
    · rw [← Option.some.inj hn]
      exact statedOr_getD _ (counts_byte burst _)
    · cases hn
  downstreamKeyers := counts_byte burst _
  inputs := counts_word burst _
  superSourceBoxes := statedOr_getD _ (counts_byte burst _)
  macros := by
    show StatedOr (((last? burst Command.slotCount?).map UInt8.toUInt16).getD _).toNat _ _
    cases last? burst Command.slotCount? with
    | none => exact counts_word burst _
    | some n => exact UInt8.toNat_toUInt16 n
  multiviewers := largerOf_max _ (counts_byte burst _)
  mediaPlayers := by
    have h := largerOf_max ((last? burst Command.topology?).map (·.mediaPlayers)) (counts_byte burst Command.mediaPlayer?)
    rwa [Option.elim_map] at h

/-! ### One more command -/

section

variable {κ : Type} [DecidableEq κ] {burst : List Command} {c : Command} {id : Command → Option κ} {n n' : Nat}

/-- the command leaves no id of a kind missing, where one was before -/
def Completes (burst : List Command) (c : Command) (id : Command → Option κ) : Prop :=
  (∃ k, k ∉ idsOf burst id) ∧ ∀ k, k ∈ idsOf (burst ++ [c]) id

/-- one command brings in one id, so of two there has been one before -/
theorem Completes.nonempty (h : Completes burst c id) {a b : κ} (hab : a ≠ b) : (idsOf burst id).Nonempty := by
  have hbefore (k : κ) : k ∈ idsOf burst id ∨ id c = some k := by
    obtain ⟨d, hd, hid⟩ := mem_idsOf.1 (h.2 k)
    rcases List.mem_append.1 hd with hd | hd
    · exact .inl (mem_idsOf.2 ⟨d, hd, hid⟩)
    · rw [List.mem_singleton.1 hd] at hid
      exact .inr hid
  rcases hbefore a with ha | ha
  · exact ⟨a, ha⟩
  · rcases hbefore b with hb | hb
    · exact ⟨b, hb⟩
    · rw [ha, Option.some_inj] at hb
      exact absurd hb hab

theorem Counts.le (h : Counts n (idsOf burst id)) (h' : Counts n' (idsOf (burst ++ [c]) id))
    (hc : ¬ Completes burst c id) : n ≤ n' := by
  by_cases hmissing : ∃ k, k ∉ idsOf burst id
  · have hmissing' : ∃ k, k ∉ idsOf (burst ++ [c]) id := not_forall.1 fun hall => hc ⟨hmissing, hall⟩
    rw [h.right.2 hmissing, h'.right.2 hmissing']
    exact Finset.card_le_card (idsOf_subset_concat burst c id)
  · rw [h.none_left (not_exists_not.1 hmissing)]
    exact Nat.zero_le _

theorem Counts.lt_iff (h : Counts n (idsOf burst id)) (h' : Counts n' (idsOf (burst ++ [c]) id)) {a b : κ} (hab : a ≠ b) :
    n' < n ↔ Completes burst c id := by
  constructor
  · intro hlt
    by_contra hc
    exact absurd (h.le h' hc) (by omega)
  · intro hc
    rw [h'.none_left hc.2, h.right.2 hc.1]
    exact Finset.card_pos.2 (hc.nonempty hab)

variable {α : Type} {said : Command → Option α} {f : α → Nat}

/-- what is said last is said by the burst before, if the command says nothing -/
theorem last?_concat_of_none (burst : List Command) (hsaid : said c = none) :
    last? (burst ++ [c]) said = last? burst said := by
  rw [Builder.last?_concat, hsaid, Option.none_or]

theorem StatedOr.le (h : StatedOr n ((last? burst said).map f) (idsOf burst id))
    (h' : StatedOr n' ((last? (burst ++ [c]) said).map f) (idsOf (burst ++ [c]) id)) (hsaid : said c = none)
    (hc : ¬ Completes burst c id) : n ≤ n' := by
  rw [last?_concat_of_none burst hsaid] at h'
  cases hlast : last? burst said with
  | some m =>
    rw [hlast] at h h'
    exact le_of_eq (Eq.trans h (Eq.symm h'))
  | none =>
    rw [hlast] at h h'
    exact Counts.le h h' hc

theorem LargerOf.le (h : LargerOf n ((last? burst said).elim 0 f) (idsOf burst id))
    (h' : LargerOf n' ((last? (burst ++ [c]) said).elim 0 f) (idsOf (burst ++ [c]) id)) (hsaid : said c = none)
    (hc : ¬ Completes burst c id) : n ≤ n' := by
  rw [last?_concat_of_none burst hsaid] at h'
  obtain ⟨m, hm, rfl⟩ := h
  obtain ⟨m', hm', rfl⟩ := h'
  exact max_le_max (hm.le hm' hc) le_rfl

end

/-- what becomes of the numbers of a profile with one more command -/
structure Grown (burst : List Command) (c : Command) (p p' : Profile) : Prop where
  mixEffects : p'.mixEffects < p.mixEffects ↔ Completes burst c Command.mixEffect?
  downstreamKeyers : p'.downstreamKeyers < p.downstreamKeyers ↔ Completes burst c Command.downstreamKeyer?
  inputs : p'.inputs < p.inputs ↔ Completes burst c Command.input?
  keyersOn : ∀ block n, p.keyers.get? block = some n → configuredOn? block c = none →
    ¬ Completes burst c (keyerOn? block) → ∃ n', p'.keyers.get? block = some n' ∧ n ≤ n'
  superSourceBoxes : c.boxCount? = none → ¬ Completes burst c Command.box? → p.superSourceBoxes ≤ p'.superSourceBoxes
  macros : c.slotCount? = none → ¬ Completes burst c Command.macroSlot? → p.macros ≤ p'.macros
  multiviewers : c.multiviewerCount? = none → ¬ Completes burst c Command.multiviewer? → p.multiviewers ≤ p'.multiviewers
  mediaPlayers : c.topology? = none → ¬ Completes burst c Command.mediaPlayer? → p.mediaPlayers ≤ p'.mediaPlayers

theorem Counted.grown {burst : List Command} {c : Command} {p p' : Profile} (h : p.Counted burst)
    (h' : p'.Counted (burst ++ [c])) : Grown burst c p p' where
  mixEffects := UInt8.lt_iff_toNat_lt.trans (h.mixEffects.lt_iff h'.mixEffects (by decide : (0 : UInt8) ≠ 1))
  downstreamKeyers :=
    UInt8.lt_iff_toNat_lt.trans (h.downstreamKeyers.lt_iff h'.downstreamKeyers (by decide : (0 : UInt8) ≠ 1))
  inputs := UInt16.lt_iff_toNat_lt.trans (h.inputs.lt_iff h'.inputs (by decide : (0 : UInt16) ≠ 1))
  keyersOn block n hn hstated hc := by
    have hblock : p'.keyers.contains block :=
      (h'.blocks block).2 (idsOf_subset_concat burst c _ ((h.blocks block).1 (Option.isSome_of_eq_some hn)))
    obtain ⟨n', hn'⟩ := Option.isSome_iff_exists.1 hblock
    exact ⟨n', hn', UInt8.le_iff_toNat_le.2 ((h.keyersOn block n hn).le (h'.keyersOn block n' hn') hstated hc)⟩
  superSourceBoxes hstated hc := UInt8.le_iff_toNat_le.2 (h.superSourceBoxes.le h'.superSourceBoxes hstated hc)
  macros hstated hc := UInt16.le_iff_toNat_le.2 (h.macros.le h'.macros hstated hc)
  multiviewers hstated hc := UInt8.le_iff_toNat_le.2 (h.multiviewers.le h'.multiviewers hstated hc)
  mediaPlayers hstated hc := UInt8.le_iff_toNat_le.2 (h.mediaPlayers.le h'.mediaPlayers hstated hc)

/-- **What a profile counts.** As a builder finishes, its counts are those of the different ids, where an id of the kind is
missing, and one more command makes them smaller only where it completes the ids. -/
theorem counts_until_complete (burst : List Command) :
    (Builder.ofBurst burst).finish.Counted burst ∧
      ∀ c, Grown burst c (Builder.ofBurst burst).finish ((Builder.ofBurst burst).observe c).finish := by
  have hcounted (burst : List Command) : (Builder.ofBurst burst).finish.Counted burst := by
    rw [Builder.finish_ofBurst]
    exact counted_ofBurst burst
  refine ⟨hcounted burst, fun c => (hcounted burst).grown ?_⟩
  have hmore := hcounted (burst ++ [c])
  rwa [Builder.ofBurst_concat] at hmore

/-- every downstream keyer but the last, and then that one as well: the count is back at nothing -/
theorem counts_until_complete_keyers :
    let b := Builder.ofBurst ((List.range 255).map fun n => .dskSources ⟨UInt8.ofNat n, 0, 0⟩)
    let next := b.observe (.dskSources ⟨255, 0, 0⟩)
    next.finish.downstreamKeyers < b.finish.downstreamKeyers ∧ next.finish.downstreamKeyers = 0 := by
  let burst : List Command := (List.range 255).map fun n => .dskSources ⟨UInt8.ofNat n, 0, 0⟩
  have hcompletes : Completes burst (.dskSources ⟨255, 0, 0⟩) Command.downstreamKeyer? := by
    refine ⟨⟨255, fun hk => ?_⟩, fun k => mem_idsOf.2 ⟨.dskSources ⟨k, 0, 0⟩, ?_, rfl⟩⟩
    · obtain ⟨c, hc, hid⟩ := mem_idsOf.1 hk
      obtain ⟨n, hn, rfl⟩ := List.mem_map.1 hc
      have hto : (UInt8.ofNat n).toNat = 255 := congrArg UInt8.toNat (Option.some.inj hid)
      rw [UInt8.toNat_ofNat'] at hto
      have := List.mem_range.1 hn
      omega
    · rw [List.mem_append, List.mem_map, List.mem_singleton]
      rcases Nat.lt_or_ge k.toNat 255 with hlt | hge
      · exact .inl ⟨k.toNat, List.mem_range.2 hlt, by rw [UInt8.ofNat_toNat]⟩
      · have hlast : k = 255 := UInt8.toNat_inj.1 (Nat.le_antisymm (Nat.le_of_lt_succ k.toNat_lt) hge)
        exact .inr (by rw [hlast])
  refine ⟨((counts_until_complete burst).2 _).downstreamKeyers.2 hcompletes, ?_⟩
  have hcounted := (counts_until_complete (burst ++ [.dskSources ⟨255, 0, 0⟩])).1.downstreamKeyers
  rw [Builder.ofBurst_concat] at hcounted
  exact UInt8.toNat_inj.1 (hcounted.none_left hcompletes.2)

/-! ### The blocks it knows of -/

section

variable {blocks : Finset UInt8}

/-- all blocks up to one of them are among them -/
theorem lt_card_of_mem (hbelow : ∀ a b, a < b → b ∈ blocks → a ∈ blocks) {block : UInt8} (hblock : block ∈ blocks) :
    block.toNat < blocks.card := by
  have hsub : Finset.range (block.toNat + 1) ⊆ blocks.image Id.toNat := by
    intro n hn
    have hle : n ≤ block.toNat := Nat.lt_succ_iff.1 (Finset.mem_range.1 hn)
    have hto : (UInt8.ofNat n).toNat = n := UInt8.toNat_ofNat_of_lt' (Nat.lt_of_le_of_lt hle block.toNat_lt)
    refine Finset.mem_image.2 ⟨UInt8.ofNat n, ?_, hto⟩
    rcases Nat.lt_or_eq_of_le hle with hlt | heq
    · exact hbelow _ block (UInt8.lt_iff_toNat_lt.2 (by omega)) hblock
    · rwa [heq, UInt8.ofNat_toNat]
  have hcard := Finset.card_le_card hsub
  rw [Finset.card_range, card_image_toNat] at hcard
  omega

/-- none of them comes after a block that is not among them -/
theorem card_le_of_notMem (hbelow : ∀ a b, a < b → b ∈ blocks → a ∈ blocks) {block : UInt8} (hblock : block ∉ blocks) :
    blocks.card ≤ block.toNat := by
  have hsub : blocks.image Id.toNat ⊆ Finset.range block.toNat := by
    intro n hn
    obtain ⟨b, hb, rfl⟩ := Finset.mem_image.1 hn
    rw [Finset.mem_range]
    by_contra hle
    rcases Nat.lt_or_eq_of_le (Nat.le_of_not_lt hle) with hlt | heq
    · exact hblock (hbelow block b (UInt8.lt_iff_toNat_lt.2 hlt) hb)
    · exact hblock (UInt8.toNat_inj.1 heq ▸ hb)
  have hcard := Finset.card_le_card hsub
  rwa [Finset.card_range, card_image_toNat] at hcard

/-- blocks without a gap below them are those below their number -/
theorem mem_iff_lt_card (hbelow : ∀ a b, a < b → b ∈ blocks → a ∈ blocks) (block : UInt8) :
    block ∈ blocks ↔ block.toNat < blocks.card := by
  refine ⟨lt_card_of_mem hbelow, fun hlt => ?_⟩
  by_contra hblock
  exact absurd (card_le_of_notMem hbelow hblock) (Nat.not_le.2 hlt)

end

theorem hasMixEffect_iff (burst : List Command) (block : UInt8) : (ofBurst burst).hasMixEffect block ↔
    (∃ missing, missing ∉ idsOf burst Command.mixEffect?) ∧ block.toNat < (idsOf burst Command.mixEffect?).card := by
  rw [hasMixEffect, decide_eq_true_iff, UInt8.lt_iff_toNat_lt]
  have hcounts := (counted_ofBurst burst).mixEffects
  by_cases hmissing : ∃ missing, missing ∉ idsOf burst Command.mixEffect?
  · rw [hcounts.right.2 hmissing]
    exact ⟨fun h => ⟨hmissing, h⟩, fun h => h.2⟩
  · rw [hcounts.none_left (not_exists_not.1 hmissing)]
    exact ⟨fun h => absurd h (Nat.not_lt_zero _), fun h => absurd h.1 hmissing⟩

/-- **Which blocks a profile knows of.** The keyers are listed under the blocks that the burst reports, and `hasMixEffect`
tells which these are where they are a beginning of all blocks and not all of them, and nowhere else. -/
theorem hasMixEffect_truthful_iff (burst : List Command) :
    let reported (block : UInt8) := ∃ c ∈ burst, c.mixEffect? = some block
    (∀ block, (ofBurst burst).keyers.contains block ↔ reported block) ∧
      ((∀ block, (ofBurst burst).hasMixEffect block ↔ reported block) ↔
        (∃ block, ¬ reported block) ∧ ∀ a b, a < b → reported b → reported a) := by
  simp only [← mem_idsOf]
  refine ⟨(counted_ofBurst burst).blocks, fun htrue => ?_, fun ⟨hmissing, hbelow⟩ block => ?_⟩
  · have hmissing : ∃ block, block ∉ idsOf burst Command.mixEffect? := by
      by_contra hall
      have hzero := (htrue 0).2 (not_exists_not.1 hall 0)
      exact hall ((hasMixEffect_iff burst 0).1 hzero).1
    refine ⟨hmissing, fun a b hab hb => ?_⟩
    have hlt := ((hasMixEffect_iff burst b).1 ((htrue b).2 hb)).2
    exact (htrue a).1 ((hasMixEffect_iff burst a).2 ⟨hmissing, (UInt8.lt_iff_toNat_lt.1 hab).trans hlt⟩)
  · rw [hasMixEffect_iff, mem_iff_lt_card hbelow]
    exact ⟨fun h => h.2, fun h => ⟨hmissing, h⟩⟩

/-- block 2 alone: it is reported and not known of -/
theorem hasMixEffect_truthful_gap :
    let p := ofBurst [.programInput ⟨2, 1⟩]
    p.keyers.contains 2 ∧ p.hasMixEffect 2 = false ∧
      ¬ ∀ block, p.hasMixEffect block ↔ ∃ c ∈ [Command.programInput ⟨2, 1⟩], c.mixEffect? = some block := by
  obtain ⟨hkeyers, htruthful⟩ := hasMixEffect_truthful_iff [.programInput ⟨2, 1⟩]
  refine ⟨(hkeyers 2).2 (by decide), by decide, fun htrue => ?_⟩
  obtain ⟨_, hbelow⟩ := htruthful.1 htrue
  exact absurd (hbelow 0 2 (by decide) (by decide)) (by decide)

end VisionMixer.Profile
