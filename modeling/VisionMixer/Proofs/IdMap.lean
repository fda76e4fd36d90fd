/-
The algebra of maps keyed by ids.

Each operation is known by what it leaves under an id (`get?_insert`, `get?_fill`, `get?_mapEntries`). One after another
they are compared id by id, for maps that look up alike are equal: what is written last stands, ids that differ can be
written in either order, and a map that was filled is not filled again. The second part counts only whether an id has an
entry, the third carries a property of the entries along.
-/
import Mathlib.Tactic
import VisionMixer.IdMap

namespace VisionMixer.IdMap

variable {κ α β γ : Type} [Id κ]

/-! ### One operation after another -/

section

variable (m : IdMap κ α) (k : κ) (v w : α) (count : Nat)

theorem get?_insert_self : (m.insert k v).get? k = some v := by
  rw [get?_insert, if_pos rfl]

theorem insert_insert : (m.insert k v).insert k w = m.insert k w := by
  refine ext fun j => ?_
  simp only [get?_insert]
  split <;> rfl

theorem insert_ensure : (m.ensure k v).insert k w = m.insert k w := by
  refine ext fun j => ?_
  simp only [get?_insert, get?_ensure]
  split
  · rfl
  · exact Option.or_none

theorem insert_fill : (m.fill count w).insert k v = (m.insert k v).fill count w := by
  refine ext fun j => ?_
  simp only [get?_insert, get?_fill]
  split <;> rfl

theorem fill_fill : (m.fill count v).fill count w = m.fill count v := by
  refine ext fun j => ?_
  simp only [get?_fill, Option.or_assoc]
  split <;> rfl

theorem missing_fill : (m.fill count v).missing count = [] := by
  refine List.eq_nil_iff_forall_not_mem.2 fun j hj => ?_
  obtain ⟨hlt, hnone⟩ := mem_missing.1 hj
  rw [get?_fill, if_pos hlt] at hnone
  simp at hnone

end

variable {m : IdMap κ α} {k j : κ} {v w : α}

theorem get?_insert_of_ne (h : k ≠ j) : (m.insert k v).get? j = m.get? j := by
  rw [get?_insert, if_neg fun he => h (Id.toNat_inj he)]

theorem insert_comm (h : k ≠ j) : (m.insert k v).insert j w = (m.insert j w).insert k v := by
  refine ext fun i => ?_
  simp only [get?_insert]
  split
  · next hj => rw [if_neg fun hk => h (Id.toNat_inj (hk.trans hj.symm))]
  · rfl

/-- filling is not noticed where a missing entry counts as the one it would be filled with -/
theorem getD_get?_fill (count : Nat) : ((m.fill count v).get? k).getD v = (m.get? k).getD v := by
  rw [get?_fill]
  cases m.get? k with
  | some w => rfl
  | none =>
    rw [Option.none_or]
    split <;> rfl

theorem mapEntries_mapEntries (f : κ → α → β) (g : κ → β → γ) :
    (m.mapEntries f).mapEntries g = m.mapEntries fun k v => g k (f k v) := by
  refine ext fun j => ?_
  simp only [get?_mapEntries, Option.map_map]
  rfl

theorem mapEntries_insert (f : κ → α → β) : (m.insert k v).mapEntries f = (m.mapEntries f).insert k (f k v) := by
  refine ext fun j => ?_
  simp only [get?_mapEntries, get?_insert]
  split
  · next hk => rw [Id.toNat_inj hk, Option.map_some]
  · rfl

theorem size_mapEntries (f : κ → α → β) : (m.mapEntries f).size = m.size := List.length_map _

theorem insert_ne_empty : m.insert k v ≠ ∅ := by
  intro h
  have hk := get?_insert_self m k v
  rw [h, get?_empty] at hk
  cases hk

theorem mapEntries_fill (f : α → β) (count : Nat) :
    ((m.fill count v).mapEntries fun _ => f) = (m.mapEntries fun _ => f).fill count (f v) := by
  refine ext fun j => ?_
  simp only [get?_mapEntries, get?_fill]
  cases m.get? j with
  | some w => rfl
  | none =>
    simp only [Option.none_or]
    split <;> rfl

/-! ### Ids with an entry -/

theorem mem_keys : k ∈ m.keys ↔ ∃ v, m.get? k = some v := by
  simp [keys, mem_entries_iff]

/-- no id has two entries -/
theorem entries_pairwise_ne (m : IdMap κ α) : m.entries.Pairwise fun a b => a.1 ≠ b.1 :=
  m.increasing.imp fun hlt he => absurd (he ▸ hlt) (Nat.lt_irrefl _)

theorem nodup_keys (m : IdMap κ α) : m.keys.Nodup := List.pairwise_map.2 m.entries_pairwise_ne

section

theorem toNat_byte (k : UInt8) : Id.toNat k = k.toNat := rfl

theorem any_true (o : Option α) : (o.any fun _ => true) = o.isSome := by
  cases o <;> rfl

theorem any_getD [Inhabited α] {p : α → Bool} (hp : p default = false) (o : Option α) :
    p (o.getD default) = o.any p := by
  cases o with
  | none => exact hp
  | some v => rfl

theorem any_get?_fill (count : Nat) (p : α → Bool) :
    ((m.fill count v).get? k).any p = ((m.get? k).any p || (!m.contains k && decide (Id.toNat k < count) && p v)) := by
  rw [get?_fill, contains]
  cases m.get? k with
  | some w => simp
  | none =>
    rw [Option.none_or]
    split <;> simp [*]

/-- entries that start with none of their own add none -/
theorem any_get?_fill_bare (inner : α → IdMap κ β) (hv : inner v = ∅) (count : Nat) :
    ((m.fill count v).get? k).any (fun w => (inner w).contains j) = (m.get? k).any fun w => (inner w).contains j := by
  have hnone : (inner v).contains j = false := by rw [hv]; rfl
  rw [any_get?_fill, hnone, Bool.and_false, Bool.or_false]

theorem contains_fill (count : Nat) : (m.fill count v).contains k = (m.contains k || decide (Id.toNat k < count)) := by
  rw [contains, ← any_true, any_get?_fill, any_true, ← contains]
  cases m.contains k <;> simp

theorem any_get?_mapEntries (f : κ → α → β) (p : β → Bool) :
    ((m.mapEntries f).get? j).any p = (m.get? j).any fun w => p (f j w) := by
  rw [get?_mapEntries, Option.any_map]

theorem contains_mapEntries (f : κ → α → β) : (m.mapEntries f).contains j = m.contains j := by
  rw [contains, ← any_true, any_get?_mapEntries, any_true, contains]

variable [DecidableEq κ]

theorem any_get?_insert (p : α → Bool) :
    ((m.insert k v).get? j).any p = if j = k then p v else (m.get? j).any p := by
  have hkey : Id.toNat k = Id.toNat j ↔ j = k := ⟨fun h => (Id.toNat_inj h).symm, fun h => congrArg _ h.symm⟩
  rw [get?_insert]
  simp only [hkey]
  split <;> rfl

theorem contains_insert : (m.insert k v).contains j = (m.contains j || decide (j = k)) := by
  rw [contains, ← any_true, any_get?_insert, any_true]
  split <;> simp [*, contains]

/-- over the entry of an id, a value that passes as the old one did is not noticed -/
theorem any_get?_replace {p : α → Bool} {old : α} (hk : m.get? k = some old) (hp : p v = p old) :
    ((m.insert k v).get? j).any p = (m.get? j).any p := by
  rw [any_get?_insert]
  split
  · next h =>
    rw [h, hk]
    exact hp
  · rfl

theorem contains_replace {old : α} (hk : m.get? k = some old) : (m.insert k v).contains j = m.contains j := by
  have hany := any_get?_replace (v := v) (j := j) (p := fun _ => true) hk rfl
  rwa [any_true, any_true] at hany

end

/-! ### Properties of the entries -/

section

variable {p : α → Prop}

/-- every entry has the property -/
def Forall (p : α → Prop) (m : IdMap κ α) : Prop := ∀ k v, m.get? k = some v → p v

theorem forall_empty : (∅ : IdMap κ α).Forall p := fun _ _ h => nomatch h

theorem Forall.insert (h : m.Forall p) (hv : p v) : (m.insert k v).Forall p := by
  intro j w hw
  rw [get?_insert] at hw
  split at hw
  · cases hw
    exact hv
  · exact h j w hw

theorem Forall.fill (h : m.Forall p) (hv : p v) (count : Nat) : (m.fill count v).Forall p := by
  intro j w hw
  rw [get?_fill] at hw
  cases hm : m.get? j with
  | some old =>
    rw [hm] at hw
    cases hw
    exact h j _ hm
  | none =>
    rw [hm, Option.none_or] at hw
    split at hw
    · cases hw
      exact hv
    · cases hw

theorem Forall.mapEntries {q : β → Prop} {f : κ → α → β} (h : m.Forall p) (hf : ∀ k v, p v → q (f k v)) :
    (m.mapEntries f).Forall q := by
  intro j w hw
  rw [get?_mapEntries] at hw
  obtain ⟨v, hv, rfl⟩ := Option.map_eq_some_iff.1 hw
  exact hf j v (h j v hv)

theorem Forall.getD (h : m.Forall p) (hv : p v) (k : κ) : p ((m.get? k).getD v) := by
  cases hm : m.get? k with
  | some w => exact h k w hm
  | none => exact hv

end

/-! ### Maps of a list -/

theorem ofList_concat (l : List (κ × α)) (e : κ × α) : ofList (l ++ [e]) = (ofList l).insert e.1 e.2 := by
  rw [ofList, List.foldl_concat, ofList]

/-- of entries with different ids each is found -/
theorem get?_ofList_eq_some {l : List (κ × α)} (h : l.Pairwise fun a b => a.1 ≠ b.1) :
    (ofList l).get? k = some v ↔ (k, v) ∈ l := by
  induction l using List.reverseRecOn with
  | nil => exact iff_of_false nofun nofun
  | append_singleton l e ih =>
    obtain ⟨hl, -, hne⟩ := List.pairwise_append.1 h
    rw [ofList_concat, get?_insert, List.mem_append, List.mem_singleton]
    by_cases hk : Id.toNat e.1 = Id.toNat k
    · have hek : e.1 = k := Id.toNat_inj hk
      have hnot : (k, v) ∉ l := fun hmem => hne _ hmem e (List.mem_singleton_self e) hek.symm
      rw [if_pos hk, or_iff_right hnot, Option.some_inj, ← hek]
      exact ⟨fun h => by rw [← h], fun h => by rw [← h]⟩
    · have hother : (k, v) ≠ e := fun h => hk (by rw [← h])
      rw [if_neg hk, ih hl, or_iff_left hother]

/-- a map does not depend on the order in which its entries are listed -/
theorem ofList_of_perm {l : List (κ × α)} (h : l.Perm m.entries) : ofList l = m := by
  have hne : l.Pairwise fun a b => a.1 ≠ b.1 :=
    (h.pairwise_iff fun hab => Ne.symm hab).2 m.entries_pairwise_ne
  refine ext fun k => Option.ext fun v => ?_
  rw [get?_ofList_eq_some hne, h.mem_iff, mem_entries_iff]

/-- a map made by a function of its ids -/
theorem get?_ofList_map [DecidableEq κ] (ids : List κ) (f : κ → α) (k : κ) :
    (ofList (ids.map fun j => (j, f j))).get? k = if k ∈ ids then some (f k) else none := by
  induction ids using List.reverseRecOn with
  | nil => rfl
  | append_singleton ids j ih =>
    rw [List.map_append, List.map_singleton, ofList_concat, get?_insert, ih]
    by_cases hk : Id.toNat j = Id.toNat k
    · rw [Id.toNat_inj hk]
      simp
    · have hne : k ≠ j := fun h => hk (by rw [h])
      simp [hk, hne]

/-- the ids of a list, as a map without values -/
def marked (ids : List κ) : IdMap κ Unit := ofList (ids.map fun k => (k, ()))

theorem marked_concat (ids : List κ) (k : κ) : marked (ids ++ [k]) = (marked ids).insert k () := by
  rw [marked, List.map_append, List.map_singleton, ofList_concat, marked]

theorem size_marked (ids : List κ) : (marked ids).size = (distinct ids).length := by
  rw [distinct, keys, List.length_map, ← marked, size]

theorem get?_marked [DecidableEq κ] (ids : List κ) (k : κ) :
    (marked ids).get? k = if k ∈ ids then some () else none := get?_ofList_map ids _ k

theorem mem_distinct [DecidableEq κ] {ids : List κ} : k ∈ distinct ids ↔ k ∈ ids := by
  show k ∈ (marked ids).keys ↔ _
  rw [mem_keys, get?_marked]
  split <;> simp [*]

theorem nodup_distinct (ids : List κ) : (distinct ids).Nodup := nodup_keys _

/-- neither the order of ids nor how often they come is noticed -/
theorem distinct_congr [DecidableEq κ] {ids ids' : List κ} (h : ∀ k, k ∈ ids ↔ k ∈ ids') : distinct ids = distinct ids' := by
  have hmarked : marked ids = marked ids' := by
    refine ext fun k => ?_
    rw [get?_marked, get?_marked]
    simp only [h]
  exact congrArg keys hmarked

theorem ofList_map_distinct [DecidableEq κ] (ids : List κ) (f : κ → α) :
    ofList ((distinct ids).map fun k => (k, f k)) = (marked ids).mapEntries fun k _ => f k := by
  refine ext fun k => ?_
  rw [get?_ofList_map, get?_mapEntries, get?_marked]
  simp only [mem_distinct]
  split <;> rfl

end VisionMixer.IdMap
