/-
Where two documents differ.

A part of a document is known by its address, the names of the members on the way to it. Paths tell keys and ids
apart (`StatePath.key_inj`, `StatePath.index_inj`), and gathered in a list each of them is kept once (`mem_ofList`,
`nodup_ofList`).

`Agree paths place d e` says that two documents at one place differ only where some of the paths lead: at or below a
path, or above one. Records agree if their members do (`agree_record`) and maps if their entries do (`agree_map`); the
operations on maps follow.
-/
import Mathlib.Tactic
import VisionMixer.StatePath

namespace VisionMixer

namespace Document

/-- the member of a name, or the item of a decimal number -/
def part? : Document → String → Option Document
  | .object members, name => member? members name
  | .list items, name => (Text.ofCanonical? name.toList).bind (items[·]?)
  | _, _ => none

/-- the part of a document at an address -/
def node? (d : Document) (address : List String) : Option Document := address.foldlM part? d

theorem node?_cons (d : Document) (name : String) (rest : List String) :
    d.node? (name :: rest) = (d.part? name).bind (·.node? rest) := rfl

end Document

/-- ids that fit into a path -/
class NarrowId (κ : Type) [Id κ] : Prop where
  toNat_lt : ∀ k : κ, Id.toNat k < UInt32.size

instance : NarrowId UInt8 := ⟨fun k => Nat.lt_trans k.toNat_lt (by decide)⟩
instance : NarrowId UInt16 := ⟨fun k => Nat.lt_trans k.toNat_lt (by decide)⟩

theorem NarrowId.toNat_ofNat {κ : Type} [Id κ] [NarrowId κ] (k : κ) :
    (UInt32.ofNat (Id.toNat k)).toNat = Id.toNat k := Nat.mod_eq_of_lt (toNat_lt k)

/-- the segment of an id is spelled as a map spells the id -/
theorem Segment.text_index {κ : Type} [Id κ] [NarrowId κ] (k : κ) :
    (Segment.index (UInt32.ofNat (Id.toNat k))).text = Text.digits (Id.toNat k) := by
  rw [text, NarrowId.toNat_ofNat]

namespace StatePath

/-- the path to the whole tree -/
def top : StatePath := ⟨[]⟩

/-- the names of the members on the way to a place -/
def address (p : StatePath) : List String := p.segments.map fun s => String.ofList s.text

theorem address_root (name : String) : (root name).address = [name] := by
  simp [root, address, Segment.text]

theorem address_key (p : StatePath) (name : String) : (p.key name).address = p.address ++ [name] := by
  simp [key, address, Segment.text]

theorem address_index {κ : Type} [Id κ] [NarrowId κ] (p : StatePath) (k : κ) :
    (p.index k).address = p.address ++ [Stored.nameOfId k] := by
  simp [index, address, Segment.text_index, Stored.nameOfId]

section

variable {κ : Type} [Id κ] {p q : StatePath}

theorem key_inj {a b : String} : p.key a = q.key b ↔ p = q ∧ a = b := by
  cases p
  cases q
  simp [key]

theorem key_ne_index {name : String} {k : κ} : p.key name ≠ q.index k := by
  cases p
  cases q
  simp [key, index]

theorem index_inj [NarrowId κ] {k j : κ} : p.index k = q.index j ↔ p = q ∧ k = j := by
  have hid : UInt32.ofNat (Id.toNat k) = UInt32.ofNat (Id.toNat j) ↔ k = j := by
    refine ⟨fun h => Id.toNat_inj ?_, fun h => by rw [h]⟩
    have hnat := congrArg UInt32.toNat h
    rwa [NarrowId.toNat_ofNat, NarrowId.toNat_ofNat] at hnat
  cases p
  cases q
  simp [index, hid]

end

end StatePath

/-! ### Paths gathered one by one -/

namespace ChangedPaths

variable {c : ChangedPaths} {p q : StatePath} {paths : List StatePath}

theorem mem_insert : p ∈ (c.insert q).paths ↔ p ∈ c.paths ∨ p = q := by
  unfold insert
  split
  · next hq =>
    refine ⟨.inl, ?_⟩
    rintro (h | rfl)
    · exact h
    · exact hq
  · simp

theorem nodup_insert (h : c.paths.Nodup) (p : StatePath) : (c.insert p).paths.Nodup := by
  unfold insert
  split
  · exact h
  · next hp => exact List.concat_eq_append ▸ List.Nodup.concat hp h

theorem ofList_concat (paths : List StatePath) (p : StatePath) : ofList (paths ++ [p]) = (ofList paths).insert p := by
  rw [ofList, List.foldl_concat, ofList]

theorem mem_ofList : p ∈ (ofList paths).paths ↔ p ∈ paths := by
  induction paths using List.reverseRecOn with
  | nil => exact Iff.rfl
  | append_singleton paths q ih => rw [ofList_concat, mem_insert, ih, List.mem_append, List.mem_singleton]

/-- **No path is listed twice.** -/
theorem nodup_ofList (paths : List StatePath) : (ofList paths).paths.Nodup := by
  induction paths using List.reverseRecOn with
  | nil => exact List.nodup_nil
  | append_singleton paths q ih =>
    rw [ofList_concat]
    exact nodup_insert ih q

/-- paths that are different are all kept, in their order -/
theorem ofList_of_nodup (h : paths.Nodup) : (ofList paths).paths = paths := by
  induction paths using List.reverseRecOn with
  | nil => rfl
  | append_singleton paths q ih =>
    obtain ⟨hpaths, -, hne⟩ := List.nodup_append.1 h
    have hq : q ∉ (ofList paths).paths := fun hq => hne q (mem_ofList.1 hq) q List.mem_cons_self rfl
    rw [ofList_concat, insert, if_neg hq, ih hpaths]

theorem ofList_eq_nil_iff : (ofList paths).paths = [] ↔ paths = [] := by
  simp only [List.eq_nil_iff_forall_not_mem, mem_ofList]

end ChangedPaths

/-! ### Documents that agree but for some paths -/

/-- an address at or below one of the paths, or above one -/
def Covered (paths : List StatePath) (address : List String) : Prop :=
  ∃ p ∈ paths, p.address <+: address ∨ address <+: p.address

theorem Covered.mono {paths paths' : List StatePath} {address : List String} (h : Covered paths address)
    (hsub : ∀ p ∈ paths, p ∈ paths') : Covered paths' address := by
  obtain ⟨p, hp, ha⟩ := h
  exact ⟨p, hsub p hp, ha⟩

theorem covered_ofList {paths : List StatePath} {address : List String} :
    Covered (ChangedPaths.ofList paths).paths address ↔ Covered paths address := by
  simp only [Covered, ChangedPaths.mem_ofList]

/-- what lies above a covered address is covered too -/
theorem Covered.above {paths : List StatePath} {address rest : List String} (h : Covered paths (address ++ rest)) :
    Covered paths address := by
  obtain ⟨p, hp, ha | ha⟩ := h
  · exact ⟨p, hp, List.prefix_or_prefix_of_prefix ha (List.prefix_append address rest)⟩
  · exact ⟨p, hp, .inr ((List.prefix_append address rest).trans ha)⟩

/-- two documents at a place, either of which may be missing, differ only where the paths lead -/
def Agree (paths : List StatePath) (place : StatePath) (d e : Option Document) : Prop :=
  ∀ address, d.bind (·.node? address) ≠ e.bind (·.node? address) → Covered paths (place.address ++ address)

variable {paths : List StatePath} {place : StatePath}

theorem Agree.refl (d : Option Document) : Agree paths place d d := fun _ h => absurd rfl h

theorem Agree.of_eq {d e : Option Document} (h : d = e) : Agree paths place d e := h ▸ .refl d

/-- at a path, anything may have changed -/
theorem Agree.listed {d e : Option Document} (h : place ∈ paths) : Agree paths place d e :=
  fun address _ => ⟨place, h, .inl (List.prefix_append _ address)⟩

theorem Agree.mono {paths' : List StatePath} {d e : Option Document} (h : Agree paths place d e)
    (hsub : ∀ p ∈ paths, p ∈ paths') : Agree paths' place d e :=
  fun address hne => (h address hne).mono hsub

theorem Agree.trans {d e f : Option Document} (h : Agree paths place d e) (h' : Agree paths place e f) :
    Agree paths place d f := by
  intro address hne
  by_cases hd : d.bind (·.node? address) = e.bind (·.node? address)
  · exact h' address (hd ▸ hne)
  · exact h address hd

/-- documents that differ at a place are covered there -/
theorem Agree.covered {d e : Option Document} (h : Agree paths place d e) (hne : d ≠ e) : Covered paths place.address := by
  have hc := h [] (by
    intro he
    apply hne
    cases d <;> cases e <;> simp_all [Document.node?])
  rwa [List.append_nil] at hc

/-- documents agree if they do part by part, provided that a difference is covered where they stand -/
theorem agree_of_parts {d e : Document} (hroot : d ≠ e → Covered paths place.address)
    (h : ∀ name, Agree paths (place.key name) (d.part? name) (e.part? name)) : Agree paths place (some d) (some e) := by
  intro address hne
  cases address with
  | nil =>
    rw [List.append_nil]
    exact hroot fun he => hne (by rw [he])
  | cons name rest =>
    have hc := h name rest (by simpa [Document.node?_cons] using hne)
    rw [StatePath.address_key, List.append_assoc] at hc
    exact hc

theorem Agree.covered_above {name : String} {d e : Option Document} (h : Agree paths (place.key name) d e) (hne : d ≠ e) :
    Covered paths place.address := by
  have hc := h.covered hne
  rw [StatePath.address_key] at hc
  exact hc.above

/-! ### Records -/

/-- a name finds members at the same position of two records, or none in either -/
theorem member?_zip (names : List String) {ds es : List Document} (hlen : ds.length = es.length) (name : String) :
    (Document.member? (names.zip ds) name = none ∧ Document.member? (names.zip es) name = none) ∨
      ∃ p ∈ names.zip (ds.zip es), p.1 = name ∧ Document.member? (names.zip ds) name = some p.2.1 ∧
        Document.member? (names.zip es) name = some p.2.2 := by
  induction names generalizing ds es with
  | nil => exact .inl ⟨rfl, rfl⟩
  | cons n names ih =>
    cases ds with
    | nil =>
      cases es with
      | nil => exact .inl ⟨rfl, rfl⟩
      | cons e es => cases hlen
    | cons d ds =>
      cases es with
      | nil => cases hlen
      | cons e es =>
        by_cases hn : n = name
        · right
          refine ⟨(n, d, e), by simp, hn, ?_, ?_⟩
          · simp [Document.member?, hn]
          · simp [Document.member?, hn]
        · have hskip : ∀ (x : Document) (xs : List Document),
              Document.member? ((n :: names).zip (x :: xs)) name = Document.member? (names.zip xs) name := by
            intro x xs
            simp [Document.member?, hn]
          rw [hskip, hskip]
          rcases ih (Nat.succ.inj hlen) with h | ⟨p, hp, h⟩
          · exact .inl h
          · exact .inr ⟨p, .tail _ hp, h⟩

/-- records that differ do so in some member -/
theorem exists_member_ne (names : List String) {ds es : List Document} (hlen : ds.length = es.length)
    (h : Document.ofRecord names ds ≠ Document.ofRecord names es) : ∃ p ∈ names.zip (ds.zip es), p.2.1 ≠ p.2.2 := by
  by_contra hall
  push Not at hall
  apply h
  unfold Document.ofRecord
  congr 1
  clear h
  induction names generalizing ds es with
  | nil => rfl
  | cons n names ih =>
    cases ds with
    | nil =>
      cases es with
      | nil => rfl
      | cons e es => cases hlen
    | cons d ds =>
      cases es with
      | nil => cases hlen
      | cons e es =>
        have hd : d = e := hall (n, d, e) (by simp)
        have hrest := ih (Nat.succ.inj hlen) fun p hp => hall p (.tail _ hp)
        rw [List.zip_cons_cons, List.zip_cons_cons, hd, hrest]

/-- records agree if they do member by member -/
theorem agree_record {names : List String} {ds es : List Document} (hlen : ds.length = es.length)
    (h : ∀ p ∈ names.zip (ds.zip es), Agree paths (place.key p.1) (some p.2.1) (some p.2.2)) :
    Agree paths place (some (.ofRecord names ds)) (some (.ofRecord names es)) := by
  refine agree_of_parts (fun hne => ?_) fun name => ?_
  · obtain ⟨p, hp, hne⟩ := exists_member_ne names hlen hne
    exact (h p hp).covered_above fun he => hne (Option.some.inj he)
  · show Agree paths (place.key name) (Document.member? _ name) (Document.member? _ name)
    rcases member?_zip names hlen name with ⟨hd, he⟩ | ⟨p, hp, rfl, hd, he⟩
    · rw [hd, he]
      exact .refl none
    · rw [hd, he]
      exact h p hp

/-- members that are among some keys may change, others stay -/
theorem agree_keys {names : List String} {ds es : List Document} (keys : List String) (hlen : ds.length = es.length)
    (h : ∀ p ∈ names.zip (ds.zip es), p.1 ∈ keys ∨ p.2.1 = p.2.2) :
    Agree (place.keys keys) place (some (.ofRecord names ds)) (some (.ofRecord names es)) := by
  refine agree_record hlen fun p hp => ?_
  rcases h p hp with hk | he
  · exact .listed (List.mem_map_of_mem hk)
  · exact .of_eq (congrArg some he)

theorem mem_zip_set {names : List String} {ds : List Document} {i : Nat} {name : String} {d e : Document}
    (hn : names[i]? = some name) (hd : ds[i]? = some d) {p : String × Document × Document}
    (hp : p ∈ names.zip (ds.zip (ds.set i e))) : p = (name, d, e) ∨ p.2.1 = p.2.2 := by
  obtain ⟨j, hj, rfl⟩ := List.getElem_of_mem hp
  simp only [List.getElem_zip, List.getElem_set]
  split
  · rename_i hij
    subst hij
    obtain ⟨_, rfl⟩ := List.getElem?_eq_some_iff.1 hn
    obtain ⟨_, rfl⟩ := List.getElem?_eq_some_iff.1 hd
    exact .inl rfl
  · exact .inr rfl

/-- one member may change as a whole -/
theorem agree_member {names : List String} {ds : List Document} {name : String} {d e : Document} (i : Nat)
    (hn : names[i]? = some name) (hd : ds[i]? = some d) (h : Agree paths (place.key name) (some d) (some e)) :
    Agree paths place (some (.ofRecord names ds)) (some (.ofRecord names (ds.set i e))) := by
  refine agree_record (List.length_set).symm fun p hp => ?_
  rcases mem_zip_set hn hd hp with rfl | he
  · exact h
  · exact .of_eq (congrArg some he)

/-! ### Maps -/

variable {κ α : Type} [Id κ] [Stored α]

theorem nameOfId_inj {k j : κ} (h : Stored.nameOfId k = Stored.nameOfId j) : k = j := by
  have hd : Text.digits (Id.toNat k) = Text.digits (Id.toNat j) := String.ofList_injective h
  have hn := congrArg (Nat.ofDigitChars 10 · 0) hd
  simp only [Text.digits, Nat.ofDigitChars_toDigits (by decide : 1 < 10) (by decide)] at hn
  exact Id.toNat_inj hn

theorem member?_entries (l : List (κ × α)) (k : κ) :
    Document.member? (l.map fun e => (Stored.nameOfId e.1, store e.2)) (Stored.nameOfId k) =
      (IdMap.find k l).map store := by
  induction l with
  | nil => rfl
  | cons e l ih =>
    by_cases hk : Id.toNat e.1 = Id.toNat k
    · simp [Document.member?, IdMap.find, Id.toNat_inj hk]
    · have hne : Stored.nameOfId e.1 ≠ Stored.nameOfId k := fun h => hk (by rw [nameOfId_inj h])
      simpa [Document.member?, IdMap.find, hk, hne] using ih

/-- the document of a map has the entry of an id under its decimal name -/
theorem part?_store (m : IdMap κ α) (k : κ) :
    (store m : Document).part? (Stored.nameOfId k) = (m.get? k).map store := member?_entries m.entries k

theorem part?_store_of_ne (m : IdMap κ α) {name : String} (h : ∀ k : κ, Stored.nameOfId k ≠ name) :
    (store m : Document).part? name = none := by
  show Document.member? _ name = none
  rw [Document.member?, List.find?_eq_none.2]
  · rfl
  · intro p hp
    obtain ⟨e, -, rfl⟩ := List.mem_map.1 hp
    simpa using h e.1

/-- maps whose entries are stored alike are stored alike -/
theorem store_congr {m m' : IdMap κ α} (h : ∀ k, (m.get? k).map store = (m'.get? k).map store) :
    (store m : Document) = store m' := by
  have hstored : ∀ m : IdMap κ α,
      (store m : Document) = .object ((m.mapEntries fun _ v => store v).entries.map fun e => (Stored.nameOfId e.1, e.2)) := by
    intro m
    show Document.object _ = _
    simp [IdMap.mapEntries]
  have heq : (m.mapEntries fun _ v => (store v : Document)) = m'.mapEntries fun _ v => store v := by
    refine IdMap.ext fun k => ?_
    rw [IdMap.get?_mapEntries, IdMap.get?_mapEntries]
    exact h k
  rw [hstored, hstored, heq]

variable [NarrowId κ]

/-- maps agree if they do entry by entry -/
theorem agree_map {m m' : IdMap κ α}
    (h : ∀ k, Agree paths (place.index k) ((m.get? k).map store) ((m'.get? k).map store)) :
    Agree paths place (some (store m)) (some (store m')) := by
  have hname : ∀ k : κ, Agree paths (place.key (Stored.nameOfId k)) ((m.get? k).map store) ((m'.get? k).map store) := by
    intro k address hne
    have hc := h k address hne
    rwa [StatePath.address_index, ← StatePath.address_key] at hc
  refine agree_of_parts (fun hne => ?_) fun name => ?_
  · by_contra hc
    apply hne
    refine store_congr fun k => ?_
    by_contra hk
    exact hc ((hname k).covered_above hk)
  · by_cases hk : ∃ k : κ, Stored.nameOfId k = name
    · obtain ⟨k, rfl⟩ := hk
      rw [part?_store, part?_store]
      exact hname k
    · rw [part?_store_of_ne m fun k he => hk ⟨k, he⟩, part?_store_of_ne m' fun k he => hk ⟨k, he⟩]
      exact .refl none

/-- one entry may change as a whole -/
theorem agree_insert {m : IdMap κ α} {k : κ} {v : α}
    (h : Agree paths (place.index k) ((m.get? k).map store) (some (store v))) :
    Agree paths place (some (store m)) (some (store (m.insert k v))) := by
  refine agree_map fun j => ?_
  rw [IdMap.get?_insert]
  split
  · rename_i hk
    rw [← Id.toNat_inj hk]
    exact h
  · exact .refl _

/-- an entry that was there, changed -/
theorem agree_insert_of_get? {m : IdMap κ α} {k : κ} {v w : α} (hv : m.get? k = some v)
    (h : Agree paths (place.index k) (some (store v)) (some (store w))) :
    Agree paths place (some (store m)) (some (store (m.insert k w))) := agree_insert (by rw [hv]; exact h)

theorem agree_mapEntries {m : IdMap κ α} {f : κ → α → α}
    (h : ∀ k v, m.get? k = some v → Agree paths (place.index k) (some (store v)) (some (store (f k v)))) :
    Agree paths place (some (store m)) (some (store (m.mapEntries f))) := by
  refine agree_map fun k => ?_
  rw [IdMap.get?_mapEntries]
  cases hv : m.get? k with
  | none => exact .refl none
  | some v => exact h k v hv

/-- filling a map creates what was missing -/
theorem agree_fill {m : IdMap κ α} {count : Nat} {v : α}
    (h : ∀ k ∈ m.missing count, place.index k ∈ paths) :
    Agree paths place (some (store m)) (some (store (m.fill count v))) := by
  refine agree_map fun k => ?_
  rw [IdMap.get?_fill]
  cases hk : m.get? k with
  | some w => exact .refl _
  | none =>
    split
    · rename_i hlt
      exact .listed (h k (IdMap.mem_missing.2 ⟨hlt, hk⟩))
    · exact .refl none

end VisionMixer
