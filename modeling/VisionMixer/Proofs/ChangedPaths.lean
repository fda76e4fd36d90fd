/-
Lists of changed paths, and what may be listed twice.

An `Origin` is a way in which a list comes about: it starts empty, with what a command has written or with what a
document lists, and paths are inserted and lists extended from there. Whatever is inserted is inserted once, so that a
list is its `base`, the paths of the document at its start, and behind them what came later and was not yet there
(`paths_of_result?`). A document is taken as it stands, and different texts, or the same text of different paths, may
stand for one path; so a list has no path twice, and counts what it has, exactly if the document at its start names none
twice (`lists_once_iff`).
-/
import Mathlib.Tactic
import VisionMixer.Device.Apply
import VisionMixer.Proofs.Device.Agreement

namespace VisionMixer.ChangedPaths

variable {c d : ChangedPaths} {p : StatePath} {paths : List StatePath}

/-! ### One list behind another -/

theorem removeAll_concat (seen : List StatePath) :
    (paths ++ [p]).removeAll seen = paths.removeAll seen ++ if p ∈ seen then [] else [p] := by
  rw [List.removeAll, List.filter_append, List.removeAll]
  by_cases hp : p ∈ seen <;> simp [hp]

theorem mem_removeAll {seen : List StatePath} : p ∈ paths.removeAll seen ↔ p ∈ paths ∧ p ∉ seen := by
  simp [List.removeAll]

/-- the first places of paths with one more at the end -/
theorem eraseDups_concat : (paths ++ [p]).eraseDups = if p ∈ paths then paths.eraseDups else paths.eraseDups ++ [p] := by
  have hlast : ([] ++ [p]).removeAll paths = [] ++ if p ∈ paths then [] else [p] := removeAll_concat paths
  rw [List.nil_append, List.nil_append] at hlast
  rw [List.eraseDups_append, hlast]
  split
  · exact List.append_nil _
  · rfl

/-- **Gathering.** Paths inserted one by one are put behind those that are there, each where it comes first. -/
theorem paths_foldl_insert :
    (paths.foldl insert c).paths = c.paths ++ (paths.removeAll c.paths).eraseDups := by
  induction paths using List.reverseRecOn with
  | nil => exact (List.append_nil _).symm
  | append_singleton paths p ih =>
    have hmem : p ∈ (paths.foldl insert c).paths ↔ p ∈ c.paths ∨ p ∈ paths.removeAll c.paths := by
      rw [ih, List.mem_append, List.mem_eraseDups]
    rw [List.foldl_concat, insert, removeAll_concat]
    by_cases hc : p ∈ c.paths
    · rw [if_pos (hmem.2 (.inl hc)), if_pos hc, List.append_nil, ih]
    · rw [if_neg hc, eraseDups_concat]
      by_cases hlater : p ∈ paths.removeAll c.paths
      · rw [if_pos (hmem.2 (.inr hlater)), if_pos hlater, ih]
      · rw [if_neg fun h => (hmem.1 h).elim hc hlater, if_neg hlater]
        dsimp only
        rw [ih, List.append_assoc]

theorem paths_extend : (c.extend d).paths = c.paths ++ (d.paths.removeAll c.paths).eraseDups := paths_foldl_insert

theorem mem_extend : p ∈ (c.extend d).paths ↔ p ∈ c.paths ∨ p ∈ d.paths := by
  rw [paths_extend, List.mem_append, List.mem_eraseDups, mem_removeAll]
  tauto

theorem paths_ofList : (ofList paths).paths = paths.eraseDups := by
  rw [ofList, paths_foldl_insert]
  simp [empty, List.removeAll]

theorem nodup_eraseDups : paths.eraseDups.Nodup := paths_ofList ▸ nodup_ofList paths

theorem eraseDups_eq_self_iff : paths.eraseDups = paths ↔ paths.Nodup := by
  refine ⟨fun h => h ▸ nodup_eraseDups, fun h => ?_⟩
  rw [← paths_ofList, ofList_of_nodup h]

theorem extend_insert : c.extend (d.insert p) = (c.extend d).insert p := by
  by_cases hp : p ∈ d.paths
  · have hmem : p ∈ (c.extend d).paths := mem_extend.2 (.inr hp)
    rw [insert, if_pos hp, insert, if_pos hmem]
  · rw [insert, if_neg hp, extend, List.foldl_concat, extend]

theorem extend_foldl_insert : c.extend (paths.foldl insert d) = paths.foldl insert (c.extend d) := by
  induction paths using List.reverseRecOn with
  | nil => rfl
  | append_singleton paths p ih => rw [List.foldl_concat, List.foldl_concat, extend_insert, ih]

/-- the number of paths is that of the different ones if no path is listed twice -/
theorem size_eq_card_iff : c.size = c.paths.toFinset.card ↔ c.paths.Nodup := by
  rw [size, eq_comm, ← Multiset.coe_nodup, ← Multiset.toFinset_card_eq_card_iff_nodup]
  rfl

/-! ### How lists come about -/

/-- a way in which a list of changed paths comes about -/
inductive Origin where
  | nothing
  /-- what a command has written -/
  | applied (t : DeviceTree) (command : Command)
  /-- what a document lists -/
  | read (d : Document)
  | inserted (o : Origin) (p : StatePath)
  /-- the first list extended by the second -/
  | extended (o other : Origin)

namespace Origin

/-- the list that comes about, unless a document in it is none -/
def result? : Origin → Option ChangedPaths
  | nothing => some empty
  | applied t command => some (t.apply command).2
  | read d => load? d
  | inserted o p => o.result?.map (·.insert p)
  | extended o other => o.result?.bind fun c => other.result?.map c.extend

/-- the paths that a document lists at the start -/
def base : Origin → List StatePath
  | nothing | applied .. => []
  | read d => (load? d).getD []
  | inserted o _ | extended o _ => o.base

/-- the paths that came later, as often as they came -/
def added : Origin → List StatePath
  | nothing | read _ => []
  | applied t command => match t.update command with
    | .ok u => u.paths
    | .error _ => []
  | inserted o p => o.added ++ [p]
  | extended o other => o.added ++ (other.base ++ other.added)

/-- all paths that ever came, in order -/
def said (o : Origin) : List StatePath := o.base ++ o.added

variable {o : Origin} {c : ChangedPaths}

/-- **A list is what the document at its start lists, with the later paths inserted one by one.** -/
theorem eq_of_result? (h : o.result? = some c) : c = o.added.foldl insert ⟨o.base⟩ := by
  induction o generalizing c with
  | nothing =>
    cases h
    rfl
  | applied t command =>
    cases h
    rw [base, added, DeviceTree.apply]
    cases t.update command <;> rfl
  | read d =>
    obtain ⟨paths, hpaths, rfl⟩ := Option.map_eq_some_iff.1 h
    rw [base, added, hpaths]
    rfl
  | inserted o p ih =>
    obtain ⟨before, hbefore, rfl⟩ := Option.map_eq_some_iff.1 h
    rw [base, added, List.foldl_concat, ih hbefore]
  | extended o other iho ihother =>
    obtain ⟨before, hbefore, h⟩ := Option.bind_eq_some_iff.1 h
    obtain ⟨more, hmore, rfl⟩ := Option.map_eq_some_iff.1 h
    rw [base, added, List.foldl_append, ← iho hbefore, ihother hmore, extend_foldl_insert, List.foldl_append]
    rfl

/-- **Everything later is listed once**, behind the document at the start. -/
theorem paths_of_result? (h : o.result? = some c) : c.paths = o.base ++ (o.added.removeAll o.base).eraseDups := by
  rw [eq_of_result? h, paths_foldl_insert]

/-- a list has a path twice only if the document at its start has -/
theorem nodup_iff_of_result? (h : o.result? = some c) : c.paths.Nodup ↔ o.base.Nodup := by
  rw [paths_of_result? h, List.nodup_append]
  constructor
  · exact And.left
  · refine fun hbase => ⟨hbase, nodup_eraseDups, fun p hp q hq => ?_⟩
    rintro rfl
    exact (mem_removeAll.1 (List.mem_eraseDups.1 hq)).2 hp

/-- **Paths are listed once exactly if no document at the start repeats one.** However a list comes about, it is what the
document at its start lists, as it stands, and behind that the first occurrence of whatever else came. So it is the list
of the first occurrences, has no path twice, and has as many entries as different paths, exactly if that document has no
path twice. A list that extends it adds its first occurrences of missing paths; these are all its missing paths exactly
if none of them is in it twice. -/
theorem lists_once_iff (h : o.result? = some c) :
    c.paths = o.base ++ (o.added.removeAll o.base).eraseDups ∧
    (c.paths.Nodup ↔ o.base.Nodup) ∧
    (c.paths = o.said.eraseDups ↔ o.base.Nodup) ∧
    (c.size = c.paths.toFinset.card ↔ o.base.Nodup) ∧
    ∀ d : ChangedPaths,
      (c.extend d).paths = c.paths ++ (d.paths.removeAll c.paths).eraseDups ∧
      ((c.extend d).paths = c.paths ++ d.paths.removeAll c.paths ↔ (d.paths.removeAll c.paths).Nodup) := by
  have hpaths := paths_of_result? h
  have hnodup := nodup_iff_of_result? h
  refine ⟨hpaths, hnodup, ?_, size_eq_card_iff.trans hnodup, fun d => ⟨paths_extend, ?_⟩⟩
  · rw [hpaths, said, List.eraseDups_append, List.append_cancel_right_eq, eq_comm, eraseDups_eq_self_iff]
  · rw [paths_extend, List.append_cancel_left_eq, eraseDups_eq_self_iff]

/-- a key that spells a number and the number itself have one text, which is read as the number both times -/
theorem lists_once_iff_same_text :
    let twice : ChangedPaths := (empty.insert ⟨[.key "a", .key "1"]⟩).insert ⟨[.key "a", .index 1]⟩
    let o : Origin := .read (Stored.store twice)
    let c : ChangedPaths := ⟨[⟨[.key "a", .index 1]⟩, ⟨[.key "a", .index 1]⟩]⟩
    o.result? = some c ∧ twice.paths.Nodup ∧ ¬c.paths.Nodup ∧ ¬c.paths = o.said.eraseDups := by
  intro twice o c
  have hread : o.result? = some c := by rfl
  have hrepeated : ¬o.base.Nodup := by decide
  obtain ⟨-, hnodup, hfirst, -⟩ := lists_once_iff hread
  exact ⟨hread, by decide, mt hnodup.1 hrepeated, mt hfirst.1 hrepeated⟩

end Origin

end VisionMixer.ChangedPaths
