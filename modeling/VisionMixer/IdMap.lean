/-
Maps keyed by wire ids.

An `Id` is a small unsigned word, known by its number. An `IdMap` keeps its entries in increasing order of their ids,
each id once, and carries the proof, so two maps that look up alike are equal (`IdMap.ext`) and listing a map gives its
ids in order. `insert` and `erase` are described through `get?`.
-/
namespace VisionMixer

/-- a kind of wire id -/
class Id (κ : Type) where
  toNat : κ → Nat
  ofNat? : Nat → Option κ
  toNat_inj : ∀ {a b : κ}, toNat a = toNat b → a = b
  ofNat?_eq_some : ∀ {n : Nat} {a : κ}, ofNat? n = some a ↔ toNat a = n

instance : Id UInt8 where
  toNat := UInt8.toNat
  ofNat? n := if n < 256 then some (UInt8.ofNat n) else none
  toNat_inj := UInt8.toNat_inj.1
  ofNat?_eq_some {n a} := by
    have := a.toNat_lt
    split
    · rw [Option.some_inj, ← UInt8.toNat_inj, UInt8.toNat_ofNat']
      omega
    · simp
      omega

instance : Id UInt16 where
  toNat := UInt16.toNat
  ofNat? n := if n < 65536 then some (UInt16.ofNat n) else none
  toNat_inj := UInt16.toNat_inj.1
  ofNat?_eq_some {n a} := by
    have := a.toNat_lt
    split
    · rw [Option.some_inj, ← UInt16.toNat_inj, UInt16.toNat_ofNat']
      omega
    · simp
      omega

/-- entries by id, in increasing order -/
structure IdMap (κ α : Type) [Id κ] where
  entries : List (κ × α)
  increasing : entries.Pairwise fun a b => Id.toNat a.1 < Id.toNat b.1

namespace IdMap

variable {κ α β : Type} [Id κ]

instance [DecidableEq κ] [DecidableEq α] : DecidableEq (IdMap κ α)
  | ⟨a, ha⟩, ⟨b, hb⟩ => decidable_of_iff (a = b) (by simp)

/-- no entry -/
def empty : IdMap κ α := ⟨[], .nil⟩

instance : EmptyCollection (IdMap κ α) := ⟨empty⟩
instance : Inhabited (IdMap κ α) := ⟨empty⟩

/-- look an id up in entries -/
def find (k : κ) : List (κ × α) → Option α
  | [] => none
  | e :: rest => if Id.toNat e.1 = Id.toNat k then some e.2 else find k rest

/-- the entry of an id -/
def get? (m : IdMap κ α) (k : κ) : Option α := find k m.entries

/-- the id has an entry -/
def contains (m : IdMap κ α) (k : κ) : Bool := (m.get? k).isSome

/-- the ids with an entry, in order -/
def keys (m : IdMap κ α) : List κ := m.entries.map (·.1)

/-- the number of entries -/
def size (m : IdMap κ α) : Nat := m.entries.length

/-- an entry put in its place, over one of the same id -/
def place (k : κ) (v : α) : List (κ × α) → List (κ × α)
  | [] => [(k, v)]
  | e :: rest =>
    if Id.toNat k < Id.toNat e.1 then (k, v) :: e :: rest
    else if Id.toNat k = Id.toNat e.1 then (k, v) :: rest
    else e :: place k v rest

theorem mem_place {k : κ} {v : α} {e : κ × α} {l : List (κ × α)} (h : e ∈ place k v l) : e = (k, v) ∨ e ∈ l := by
  induction l with
  | nil => simpa [place] using h
  | cons x l ih =>
    unfold place at h
    split at h
    · simpa using h
    · split at h
      · simp only [List.mem_cons] at h ⊢
        exact h.imp_right .inr
      · simp only [List.mem_cons] at h ⊢
        rcases h with h | h
        · exact .inr (.inl h)
        · exact (ih h).imp_right .inr

theorem increasing_place (k : κ) (v : α) {l : List (κ × α)}
    (h : l.Pairwise fun a b => Id.toNat a.1 < Id.toNat b.1) :
    (place k v l).Pairwise fun a b => Id.toNat a.1 < Id.toNat b.1 := by
  induction l with
  | nil => simp [place]
  | cons x l ih =>
    have hx := List.pairwise_cons.1 h
    unfold place
    split
    · rename_i hk
      refine List.pairwise_cons.2 ⟨fun e he => ?_, h⟩
      rcases List.mem_cons.1 he with rfl | he
      · exact hk
      · exact Nat.lt_trans hk (hx.1 e he)
    · split
      · rename_i hk
        exact List.pairwise_cons.2 ⟨fun e he => by have := hx.1 e he; simp only; omega, hx.2⟩
      · refine List.pairwise_cons.2 ⟨fun e he => ?_, ih hx.2⟩
        rcases mem_place he with rfl | he
        · simp only; omega
        · exact hx.1 e he

/-- the map with an entry for an id, over the one it had -/
def insert (m : IdMap κ α) (k : κ) (v : α) : IdMap κ α := ⟨place k v m.entries, increasing_place k v m.increasing⟩

/-- the map with every entry changed by a function of its id -/
def mapEntries (f : κ → α → β) (m : IdMap κ α) : IdMap κ β :=
  ⟨m.entries.map fun e => (e.1, f e.1 e.2), by
    rw [List.pairwise_map]
    exact m.increasing⟩

/-- the map without an id -/
def erase (m : IdMap κ α) (k : κ) : IdMap κ α :=
  ⟨m.entries.filter fun e => Id.toNat e.1 ≠ Id.toNat k, m.increasing.filter _⟩

/-- the map with an entry for an id that had none -/
def ensure (m : IdMap κ α) (k : κ) (v : α) : IdMap κ α := if m.contains k then m else m.insert k v

/-- the ids below a count, in order -/
def below (κ : Type) [Id κ] (count : Nat) : List κ := (List.range count).filterMap Id.ofNat?

/-- the ids below a count that have no entry, in order -/
def missing (m : IdMap κ α) (count : Nat) : List κ := (below κ count).filter fun k => !m.contains k

/-- the map with an entry for every id below a count -/
def fill (m : IdMap κ α) (count : Nat) (v : α) : IdMap κ α := (below κ count).foldl (fun m k => m.ensure k v) m

/-- the map of entries, the last of an id counting -/
def ofList (entries : List (κ × α)) : IdMap κ α := entries.foldl (fun m e => m.insert e.1 e.2) empty

/-- the different ids of a list, in order -/
def distinct (ids : List κ) : List κ := (ofList (ids.map fun k => (k, ()))).keys

theorem find_place (k j : κ) (v : α) (l : List (κ × α)) :
    find j (place k v l) = if Id.toNat k = Id.toNat j then some v else find j l := by
  induction l with
  | nil => simp [place, find]
  | cons x l ih =>
    unfold place
    split
    · simp [find]
    · split
      · rename_i hk
        simp only [find]
        rw [← hk]
        split <;> rfl
      · simp only [find, ih]
        split <;> split <;> first | rfl | omega

theorem get?_insert (m : IdMap κ α) (k j : κ) (v : α) :
    (m.insert k v).get? j = if Id.toNat k = Id.toNat j then some v else m.get? j := find_place k j v m.entries

theorem get?_mapEntries (f : κ → α → β) (m : IdMap κ α) (j : κ) :
    (m.mapEntries f).get? j = (m.get? j).map (f j) := by
  unfold get? mapEntries
  simp only
  induction m.entries with
  | nil => rfl
  | cons x l ih =>
    simp only [List.map_cons, find]
    split
    · rename_i h
      rw [Id.toNat_inj h]
      rfl
    · exact ih

@[simp] theorem get?_empty (k : κ) : (∅ : IdMap κ α).get? k = none := rfl

theorem find_filter_ne (k j : κ) (l : List (κ × α)) :
    find j (l.filter fun e => Id.toNat e.1 ≠ Id.toNat k) = if Id.toNat j = Id.toNat k then none else find j l := by
  induction l with
  | nil => simp [find]
  | cons x l ih =>
    rw [List.filter_cons]
    split
    · rename_i hx
      simp only [find, ih]
      split
      · rename_i hj
        rw [if_neg (by simpa [hj] using hx)]
      · rfl
    · rename_i hx
      rw [ih, find]
      split
      · rfl
      · rw [if_neg]
        simp at hx
        omega

theorem get?_erase (m : IdMap κ α) (k j : κ) :
    (m.erase k).get? j = if Id.toNat j = Id.toNat k then none else m.get? j := find_filter_ne k j m.entries

theorem get?_ensure (m : IdMap κ α) (k j : κ) (v : α) :
    (m.ensure k v).get? j = (m.get? j).or (if Id.toNat k = Id.toNat j then some v else none) := by
  unfold ensure contains
  split
  · rename_i h
    split
    · rename_i hk
      rw [Id.toNat_inj hk] at h
      obtain ⟨w, hw⟩ := Option.isSome_iff_exists.1 h
      rw [hw]
      rfl
    · rw [Option.or_none]
  · rename_i h
    rw [get?_insert]
    split
    · rename_i hk
      rw [Id.toNat_inj hk] at h
      rw [Option.not_isSome_iff_eq_none.1 h]
      rfl
    · rw [Option.or_none]

theorem mem_below {count : Nat} {k : κ} : k ∈ below κ count ↔ Id.toNat k < count := by
  simp only [below, List.mem_filterMap, List.mem_range]
  constructor
  · rintro ⟨n, hn, hk⟩
    rw [Id.ofNat?_eq_some.1 hk]
    exact hn
  · intro hk
    exact ⟨_, hk, Id.ofNat?_eq_some.2 rfl⟩

theorem mem_missing {m : IdMap κ α} {count : Nat} {k : κ} :
    k ∈ m.missing count ↔ Id.toNat k < count ∧ m.get? k = none := by
  simp [missing, mem_below, contains]

theorem below_succ (count : Nat) : below κ (count + 1) = below κ count ++ (Id.ofNat? count : Option κ).toList := by
  rw [below, List.range_succ, List.filterMap_append]
  cases h : (Id.ofNat? count : Option κ) <;> simp [below, h]

theorem get?_fill (m : IdMap κ α) (count : Nat) (v : α) (k : κ) :
    (m.fill count v).get? k = (m.get? k).or (if Id.toNat k < count then some v else none) := by
  unfold fill
  induction count with
  | zero => simp [below]
  | succ count ih =>
    rw [below_succ, List.foldl_append]
    cases hj : (Id.ofNat? count : Option κ) with
    | none =>
      have hk : Id.toNat k ≠ count := fun h => by simp [Id.ofNat?_eq_some.2 h] at hj
      rw [Option.toList_none, List.foldl_nil, ih]
      congr 1
      split <;> split <;> first | rfl | omega
    | some j =>
      have hj := Id.ofNat?_eq_some.1 hj
      rw [Option.toList_some, List.foldl_cons, List.foldl_nil, get?_ensure, ih, Option.or_assoc]
      congr 1
      split <;> split <;> (try split) <;> first | rfl | omega

/-- every id below a count put in its place -/
theorem get?_foldl_insert (f : κ → α) (m : IdMap κ α) (count : Nat) (k : κ) :
    ((below κ count).foldl (fun m k => m.insert k (f k)) m).get? k =
      if Id.toNat k < count then some (f k) else m.get? k := by
  induction count with
  | zero => simp [below]
  | succ count ih =>
    rw [below_succ, List.foldl_append]
    cases hj : (Id.ofNat? count : Option κ) with
    | none =>
      have hk : Id.toNat k ≠ count := fun h => by simp [Id.ofNat?_eq_some.2 h] at hj
      rw [Option.toList_none, List.foldl_nil, ih]
      split <;> split <;> first | rfl | omega
    | some j =>
      have hj := Id.ofNat?_eq_some.1 hj
      rw [Option.toList_some, List.foldl_cons, List.foldl_nil, get?_insert, ih]
      split
      · rename_i hk
        rw [Id.toNat_inj hk, if_pos (by omega)]
      · split <;> split <;> first | rfl | omega

theorem find_eq_some_iff {k : κ} {v : α} {l : List (κ × α)} (h : l.Pairwise fun a b => Id.toNat a.1 < Id.toNat b.1) :
    find k l = some v ↔ (k, v) ∈ l := by
  induction l with
  | nil => simp [find]
  | cons x l ih =>
    have hx := List.pairwise_cons.1 h
    simp only [find, List.mem_cons]
    split
    · rename_i hk
      constructor
      · intro hv
        left
        rw [Prod.ext_iff]
        exact ⟨(Id.toNat_inj hk).symm, (Option.some.inj hv).symm⟩
      · rintro (hv | hv)
        · rw [← hv]
        · have := hx.1 _ hv
          simp only at this
          omega
    · rename_i hk
      rw [ih hx.2]
      constructor
      · exact .inr
      · rintro (hv | hv)
        · exact absurd (by rw [← hv]) hk
        · exact hv

theorem mem_entries_iff (m : IdMap κ α) (k : κ) (v : α) : (k, v) ∈ m.entries ↔ m.get? k = some v :=
  (find_eq_some_iff m.increasing).symm

/-- taking an entry out leaves fewer -/
theorem size_erase_lt {m : IdMap κ α} {k : κ} {v : α} (h : m.get? k = some v) : (m.erase k).size < m.size :=
  List.length_filter_lt_length_iff_exists.2 ⟨_, (m.mem_entries_iff k v).2 h, by simp⟩

/-- a map without entries looks nothing up -/
theorem get?_of_size_eq_zero {m : IdMap κ α} (h : m.size = 0) (k : κ) : m.get? k = none := by
  rw [get?, List.length_eq_zero_iff.1 h]
  rfl

theorem entries_ext {l r : List (κ × α)} (hl : l.Pairwise fun a b => Id.toNat a.1 < Id.toNat b.1)
    (hr : r.Pairwise fun a b => Id.toNat a.1 < Id.toNat b.1) (h : ∀ e, e ∈ l ↔ e ∈ r) : l = r := by
  induction l generalizing r with
  | nil =>
    cases r with
    | nil => rfl
    | cons y r => exact absurd ((h y).2 (.head _)) (by simp)
  | cons x l ih =>
    cases r with
    | nil => exact absurd ((h x).1 (.head _)) (by simp)
    | cons y r =>
      have hx := List.pairwise_cons.1 hl
      have hy := List.pairwise_cons.1 hr
      have hxy : x = y := by
        rcases List.mem_cons.1 ((h x).1 (.head _)) with e | e
        · exact e
        · rcases List.mem_cons.1 ((h y).2 (.head _)) with f | f
          · exact f.symm
          · have := hx.1 y f
            have := hy.1 x e
            omega
      subst hxy
      congr 1
      refine ih hx.2 hy.2 fun e => ⟨fun he => ?_, fun he => ?_⟩
      · rcases List.mem_cons.1 ((h e).1 (.tail _ he)) with f | f
        · have := hx.1 e he
          rw [f] at this
          omega
        · exact f
      · rcases List.mem_cons.1 ((h e).2 (.tail _ he)) with f | f
        · have := hy.1 e he
          rw [f] at this
          omega
        · exact f

theorem ext {m n : IdMap κ α} (h : ∀ k, m.get? k = n.get? k) : m = n := by
  have : m.entries = n.entries :=
    entries_ext m.increasing n.increasing fun e => by
      rw [show e = (e.1, e.2) from rfl, mem_entries_iff, mem_entries_iff, h]
  cases m
  cases n
  simp_all

end IdMap

end VisionMixer
