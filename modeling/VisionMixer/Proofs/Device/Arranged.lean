/-
Documents that are read back, however their members are arranged.

The members of an object have no order of their own, and what keeps a document may list them as it likes. An
`Arrangement` is such a way to list members, and `arranged` does it to every object of a document. A value is `Restored` if
it comes back from every arrangement of its document. Records are restored from what their members come back as
(`Restored.record`), and maps, lists and optional members if what they hold is.

A map has the decimal names of its ids, no two of them alike, so its entries come back in some order, and a map does not
depend on the order of its entries (`IdMap.ofList_of_perm`).
-/
import VisionMixer.Proofs.Device.PathText
import VisionMixer.Proofs.IdMap

namespace VisionMixer

/-- a way to list the members of an object -/
structure Arrangement where
  order : List (String × Document) → List (String × Document)
  perm : ∀ members, (order members).Perm members

namespace Document

variable {members : List (String × Document)} {names : List String} {ds : List Document}

mutual

/-- the document with the members of every object listed so -/
def arranged (ρ : Arrangement) : Document → Document
  | .null => .null
  | .bool b => .bool b
  | .integer n => .integer n
  | .number x => .number x
  | .text s => .text s
  | .list items => .list (arrangedItems ρ items)
  | .object members => .object (ρ.order (arrangedMembers ρ members))

/-- the items of a list, each of them arranged -/
def arrangedItems (ρ : Arrangement) : List Document → List Document
  | [] => []
  | d :: rest => d.arranged ρ :: arrangedItems ρ rest

/-- the members of an object in their order, each of them arranged -/
def arrangedMembers (ρ : Arrangement) : List (String × Document) → List (String × Document)
  | [] => []
  | (name, d) :: rest => (name, d.arranged ρ) :: arrangedMembers ρ rest

end

theorem arranged_list (ρ : Arrangement) (items : List Document) :
    (list items).arranged ρ = .list (items.map (arranged ρ)) := by
  rw [arranged]
  congr 1
  induction items with
  | nil => rfl
  | cons d rest ih => rw [arrangedItems, ih, List.map_cons]

theorem arranged_object (ρ : Arrangement) (members : List (String × Document)) :
    (object members).arranged ρ = .object (ρ.order (members.map fun m => (m.1, m.2.arranged ρ))) := by
  rw [arranged]
  congr 2
  induction members with
  | nil => rfl
  | cons m rest ih => rw [arrangedMembers, ih, List.map_cons]

theorem arranged_ne_null (ρ : Arrangement) {d : Document} (h : d ≠ .null) : d.arranged ρ ≠ .null := by
  cases d with
  | null => exact absurd rfl h
  | _ =>
    rw [arranged]
    exact nofun

/-! ### Records -/

/-- names that are all different find every member -/
theorem member?_eq_some (hnodup : (members.map (·.1)).Nodup) {name : String} {d : Document} :
    member? members name = some d ↔ (name, d) ∈ members := by
  induction members with
  | nil => simp [member?]
  | cons m rest ih =>
    obtain ⟨hm, hrest⟩ := List.nodup_cons.1 hnodup
    rw [List.mem_cons]
    by_cases hname : m.1 = name
    · have hnot : (name, d) ∉ rest := fun h => hm (List.mem_map.2 ⟨_, h, hname.symm⟩)
      have hfound : member? (m :: rest) name = some m.2 := by simp [member?, hname]
      rw [hfound, Option.some_inj, or_iff_left hnot, ← hname]
      exact ⟨fun h => by rw [← h], fun h => by rw [← h]⟩
    · have hskip : member? (m :: rest) name = member? rest name := by simp [member?, hname]
      have hne : (name, d) ≠ m := fun h => hname (by rw [← h])
      rw [hskip, ih hrest, or_iff_right hne]

theorem member?_of_perm {others : List (String × Document)} (h : others.Perm members)
    (hnodup : (members.map (·.1)).Nodup) (name : String) : member? others name = member? members name := by
  have hothers : (others.map (·.1)).Nodup := (h.map (·.1)).nodup_iff.2 hnodup
  ext d
  rw [member?_eq_some hothers, member?_eq_some hnodup, h.mem_iff]

/-- **A record is read** as its members, whatever order they stand in. -/
theorem record?_arranged (ρ : Arrangement) (hnodup : names.Nodup) (hlen : ds.length = names.length) :
    record? names ((ofRecord names ds).arranged ρ) = some (ds.map fun d => some (d.arranged ρ)) := by
  have hmembers : (names.zip ds).map (fun m => (m.1, m.2.arranged ρ)) = names.zip (ds.map (arranged ρ)) := by
    rw [List.zip_map_right]
    rfl
  have hnames : ((names.zip (ds.map (arranged ρ))).map (·.1)).Nodup := by
    rwa [List.map_fst_zip (by rw [List.length_map, hlen])]
  rw [ofRecord, arranged_object, hmembers, record?, Option.some_inj]
  refine List.ext_getElem (by rw [List.length_map, List.length_map, hlen]) fun i hi hi' => ?_
  rw [List.getElem_map, List.getElem_map, member?_of_perm (ρ.perm _) hnames, member?_eq_some hnames]
  rw [List.length_map] at hi hi'
  refine List.mem_iff_getElem.2 ⟨i, ?_, ?_⟩
  · rw [List.length_zip, List.length_map]
    omega
  · rw [List.getElem_zip, List.getElem_map]

end Document

open Document (ofRecord record?)

/-- the value comes back from its document, however that is arranged -/
structure Restored {α : Type} [Stored α] (a : α) : Prop where
  solid : store a ≠ Document.null
  load : ∀ ρ, load? ((store a).arranged ρ) = some a

section

variable {α : Type} [Stored α] {a : α}

/-- a record is restored if its members come back as what it is built from -/
theorem Restored.record {names : List String} {ds : List Document} {build : List (Option Document) → Option α}
    (hstore : store a = ofRecord names ds) (hload : ∀ d : Document, load? d = record? names d >>= build)
    (hnodup : names.Nodup) (hlen : ds.length = names.length)
    (hbuild : ∀ ρ, build (ds.map fun d => some (d.arranged ρ)) = some a) : Restored a where
  solid := by
    rw [hstore]
    exact nofun
  load ρ := by
    rw [hload, hstore, Document.record?_arranged ρ hnodup hlen]
    exact hbuild ρ

variable {ρ : Arrangement}

@[simp] theorem required_arranged (h : Restored a) : Stored.required (some ((store a).arranged ρ)) = some a := h.load ρ

/-- an optional member that is not there is null, and comes back as none -/
@[simp] theorem ifPresent_arranged {o : Option α} (h : ∀ a ∈ o, Restored a) :
    Stored.ifPresent (some ((store o).arranged ρ)) = some o := by
  cases o with
  | none => rfl
  | some a =>
    have ha := h a rfl
    have hsolid := Document.arranged_ne_null ρ ha.solid
    have hload := ha.load ρ
    show load? ((store a : Document).arranged ρ) = some (some a)
    generalize (store a : Document).arranged ρ = d at hsolid hload
    cases d with
    | null => exact absurd rfl hsolid
    | _ => exact congrArg (some <$> ·) hload

/-! ### Lists and maps -/

section

variable {β γ : Type} {f : β → Option γ} {g : γ → β} {items : List γ}

/-- where every element has an image, the images are all of them -/
theorem mapM_eq_filterMap {l : List β} (h : ∀ b ∈ l, (f b).isSome) : l.mapM f = some (l.filterMap f) := by
  induction l with
  | nil => rfl
  | cons b l ih =>
    obtain ⟨c, hc⟩ := Option.isSome_iff_exists.1 (h b List.mem_cons_self)
    rw [List.mapM_cons, hc, ih fun b hb => h b (List.mem_cons_of_mem _ hb), List.filterMap_cons_some hc]
    rfl

/-- what each came from comes back, in the order in which it is found -/
theorem mapM_of_perm {l : List β} (hperm : l.Perm (items.map g)) (hback : ∀ c ∈ items, f (g c) = some c) :
    ∃ items', l.mapM f = some items' ∧ items'.Perm items := by
  have hall : ∀ b ∈ l, (f b).isSome := by
    intro b hb
    obtain ⟨c, hc, rfl⟩ := List.mem_map.1 (hperm.mem_iff.1 hb)
    rw [hback c hc, Option.isSome_some]
  have hitems : (items.map g).filterMap f = items := by
    calc (items.map g).filterMap f = items.filterMap (f ∘ g) := List.filterMap_map
      _ = items.filterMap some := List.filterMap_congr hback
      _ = items := List.filterMap_some
  refine ⟨l.filterMap f, mapM_eq_filterMap hall, ?_⟩
  have himages := hperm.filterMap f
  rwa [hitems] at himages

theorem mapM_map_back (hback : ∀ c ∈ items, f (g c) = some c) : (items.map g).mapM f = some items := by
  induction items with
  | nil => rfl
  | cons c items ih =>
    rw [List.map_cons, List.mapM_cons, hback c List.mem_cons_self, ih fun c hc => hback c (List.mem_cons_of_mem _ hc)]
    rfl

end

theorem Restored.list {items : List α} (h : ∀ a ∈ items, Restored a) : Restored items where
  solid := nofun
  load ρ := by
    show load? ((Document.list (items.map store)).arranged ρ) = some items
    rw [Document.arranged_list, List.map_map]
    exact mapM_map_back fun a ha => (h a ha).load ρ

variable {κ : Type} [Id κ]

/-- the decimal name of an id is read as the id -/
theorem idOfName?_nameOfId (k : κ) : Stored.idOfName? (Stored.nameOfId k) = some k := by
  rw [Stored.idOfName?, Stored.nameOfId, String.toList_ofList, Text.ofCanonical?_digits, Option.bind_some]
  exact Id.ofNat?_eq_some.2 rfl

theorem Restored.map {m : IdMap κ α} (h : m.Forall Restored) : Restored m where
  solid := nofun
  load ρ := by
    let named (e : κ × α) : String × Document := (Stored.nameOfId e.1, (store e.2).arranged ρ)
    have hmembers : (store m : Document).arranged ρ = .object (ρ.order (m.entries.map named)) := by
      show (Document.object (m.entries.map _)).arranged ρ = _
      rw [Document.arranged_object, List.map_map]
      rfl
    have hback : ∀ e ∈ m.entries, Stored.loadEntry? (named e) = some e := by
      intro e he
      have hv := (h e.1 e.2 ((m.mem_entries_iff e.1 e.2).1 he)).load ρ
      rw [Stored.loadEntry?, idOfName?_nameOfId, hv]
      rfl
    obtain ⟨entries, hload, hperm⟩ := mapM_of_perm (ρ.perm (m.entries.map named)) hback
    rw [hmembers]
    show (List.mapM Stored.loadEntry? _).map IdMap.ofList = some m
    rw [hload, Option.map_some, IdMap.ofList_of_perm hperm]

/-- **The members of a stored map** are its entries, under the decimal names of their ids, and no two names are alike. -/
theorem exists_members_store (m : IdMap κ α) : ∃ members, (store m : Document) = .object members ∧
    members.map (·.1) = m.keys.map (fun k => toString (Id.toNat k)) ∧ (members.map (·.1)).Nodup := by
  refine ⟨_, rfl, ?_, ?_⟩
  · rw [List.map_map, IdMap.keys, List.map_map]
    refine List.map_congr_left fun e _ => ?_
    exact Nat.repr_eq_ofList_toDigits.symm
  · rw [List.map_map]
    exact List.pairwise_map.2 (m.entries_pairwise_ne.imp fun hne hname => hne (nameOfId_inj hname))

end

end VisionMixer
