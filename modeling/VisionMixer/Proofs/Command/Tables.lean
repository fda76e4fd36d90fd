/-
The tables of the catalogue.

Every table keeps its fields apart and has regular fields only, and no table has two optional fields, so the theorems on
tables hold of all of them. Their reach is a fraction of a word of 32 bits, so that coding them with every access checked
is coding them without (`coding_checked`). A command whose body is a table finds its own entry by its tag, and is read by
looking up the table of the version and taking the values along it.
-/
import VisionMixer.Proofs.Command.Rounded
import VisionMixer.Proofs.Field.Buffers

namespace VisionMixer

/-! ### Editions -/

namespace Editions

variable {editions : Editions} {l old new : Layout} {v : Version}

theorem mem_of_resolve (h : editions.resolve v = .ok l) : ∃ edition ∈ editions, edition.layout = l := by
  unfold resolve at h
  split at h
  · exact nomatch h
  · next oldest rest =>
    rw [Except.ok.injEq] at h
    refine ⟨_, ?_, h⟩
    cases hfind : (oldest :: rest).reverse.find? (·.since ≤ v) with
    | none => exact List.mem_cons_self
    | some edition => exact List.mem_reverse.mp (List.mem_of_find?_eq_some hfind)

/-- a body that never changed has one table -/
theorem resolve_only : (only l).resolve v = .ok l := by
  by_cases hold : Version.v7_2 ≤ v <;> simp [only, resolve, hold]

/-- a body that changed has its new table from 8.0 -/
theorem resolve_changed : (changed old new).resolve v = .ok (if .v8_0 ≤ v then new else old) := by
  by_cases hnew : Version.v8_0 ≤ v
  · rw [if_pos hnew]
    simp [changed, resolve, hnew]
  · rw [if_neg hnew]
    by_cases hold : Version.v7_2 ≤ v <;> simp [changed, resolve, hnew, hold]

end Editions

/-! ### Optional fields -/

/-- the only optional value of a table is there or not -/
theorem Layout.together_of_one {l : Layout} {values : FieldValues}
    (h : (l.fields.filter (·.optional)).length ≤ 1) : l.Together values := by
  match hfilter : l.fields.filter (·.optional) with
  | [] =>
    refine .inl fun f hf hoptional => ?_
    have hmem := List.mem_filter.mpr ⟨hf, hoptional⟩
    rw [hfilter] at hmem
    exact nomatch hmem
  | [f] =>
    have honly : ∀ g ∈ l.fields, g.optional → g = f := by
      intro g hg hoptional
      have hmem := List.mem_filter.mpr ⟨hg, hoptional⟩
      rw [hfilter] at hmem
      exact List.mem_singleton.mp hmem
    cases hvalue : values.get? f.name with
    | none => exact .inl fun g hg hoptional => by rw [honly g hg hoptional, hvalue]
    | some v => exact .inr fun g hg hoptional => by rw [honly g hg hoptional, hvalue]; rfl
  | _ :: _ :: _ =>
    rw [hfilter] at h
    exact absurd h (by simp)

/-! ### Staying inside -/

/-- a table that can be written and read back stays inside itself, if what may be left out stands last -/
theorem Layout.WellFormed.consistent {l : Layout} (h : l.WellFormed)
    (hlast : l.fields.Pairwise fun f g => f.optional → g.optional) : l.Consistent where
  optional_last := hlast
  within := h.fits.within
  records_last := h.last
  records_end := h.tail
  bounded f hf := by
    have hfit := h.records f hf
    cases hwire : f.wire with
    | records stride fields =>
      rw [hwire] at hfit
      obtain ⟨hpositive, hplain, hfits⟩ := hfit
      exact .records hpositive hfits.within fun g hg => .plain (hplain g hg)
    | _ => exact .plain rfl

namespace Command

/-! ### The catalogue -/

/-- **Tables keep their fields apart.** -/
theorem wellFormed_of_mem : ∀ e ∈ catalogue, ∀ edition ∈ e.editions, edition.layout.WellFormed := by
  decide +kernel

theorem isRegular_of_mem : ∀ e ∈ catalogue, ∀ edition ∈ e.editions, edition.layout.isRegular := by
  decide +kernel

theorem one_optional_of_mem : ∀ e ∈ catalogue, ∀ edition ∈ e.editions,
    (edition.layout.fields.filter (·.optional)).length ≤ 1 := by
  decide +kernel

theorem optional_last_of_mem : ∀ e ∈ catalogue, ∀ edition ∈ e.editions,
    edition.layout.fields.Pairwise fun f g => f.optional → g.optional := by
  decide +kernel

theorem reach_of_mem : ∀ e ∈ catalogue, ∀ edition ∈ e.editions, edition.layout.reach < 2 ^ 32 := by
  decide +kernel

/-- the body is a table -/
def isTabular : Command → Bool
  | .macroProperties _ | .unrecognized _ => false
  | _ => true

/-- the table of a command at a version -/
def table (v : Version) (c : Command) : Except Error Layout :=
  Editions.resolve ((entryOf? c.tag).elim [] Entry.editions) v

variable {a : Arithmetic} {v : Version} {c : Command} {l : Layout} {values : FieldValues} {r : Record}

theorem exists_edition_of_table (h : c.table v = .ok l) :
    ∃ e ∈ catalogue, ∃ edition ∈ e.editions, edition.layout = l := by
  rw [table] at h
  cases he : entryOf? c.tag with
  | none =>
    rw [he] at h
    exact nomatch h
  | some e =>
    rw [he] at h
    obtain ⟨edition, hmem, hlayout⟩ := Editions.mem_of_resolve h
    exact ⟨e, List.mem_of_find?_eq_some he, edition, hmem, hlayout⟩

theorem wellFormed_of_table (h : c.table v = .ok l) : l.WellFormed := by
  obtain ⟨e, he, edition, hedition, rfl⟩ := exists_edition_of_table h
  exact wellFormed_of_mem e he edition hedition

theorem isRegular_of_table (h : c.table v = .ok l) : l.isRegular := by
  obtain ⟨e, he, edition, hedition, rfl⟩ := exists_edition_of_table h
  exact isRegular_of_mem e he edition hedition

/-- **Commands stay inside.** With any limit from 32 bits up, coding a command by its table is the same with every access
checked. -/
theorem coding_checked (h : c.table v = .ok l) {limit : Nat} (hlimit : 2 ^ 32 ≤ limit) :
    (∀ body, l.decodeChecked limit a body = l.decode a body) ∧
      ∀ values, l.encodeChecked limit a values = l.encode a values := by
  obtain ⟨e, he, edition, hedition, rfl⟩ := exists_edition_of_table h
  have hinside : edition.layout.Consistent :=
    (wellFormed_of_mem e he edition hedition).consistent (optional_last_of_mem e he edition hedition)
  have hreach := (reach_of_mem e he edition hedition).trans_le hlimit
  exact ⟨fun body => (Layout.decodeChecked_agrees hinside).eq_of_lt hreach,
    fun values => (Layout.encodeChecked_agrees hinside).eq_of_lt hreach⟩

theorem together_of_table (h : c.table v = .ok l) : l.Together values := by
  obtain ⟨e, he, edition, hedition, rfl⟩ := exists_edition_of_table h
  exact Layout.together_of_one (one_optional_of_mem e he edition hedition)

/-- a command with a table is written by it -/
theorem encode_eq_ok (hc : c.isTabular) :
    c.encode a v = .ok r ↔ ∃ values l body, c.valuesAt v = .ok values ∧ c.table v = .ok l
      ∧ l.encode a values = .ok body ∧ r = ⟨c.tag, body⟩ := by
  have hbody : c.encodeBody a v = (do
      let values ← c.valuesAt v
      (← c.table v).encode a values) := by
    cases c with
    | macroProperties | unrecognized => exact nomatch hc
    | _ => rfl
  rw [encode, hbody]
  simp only [bind_eq_ok, pure_eq_ok]
  constructor
  · rintro ⟨body, ⟨values, hvalues, l, hl, hencode⟩, rfl⟩
    exact ⟨values, l, body, hvalues, hl, hencode, rfl⟩
  · rintro ⟨values, l, body, hvalues, hl, hencode, rfl⟩
    exact ⟨body, ⟨values, hvalues, l, hl, hencode⟩, rfl⟩

/-- a record is kept as it is, or read by the entry of its tag -/
theorem decode_eq_ok : decode a v r = .ok c ↔
    (entryOf? r.tag = none ∧ unrecognized r = c) ∨ ∃ e, entryOf? r.tag = some e ∧ e.decode a v r.body = .ok c := by
  rw [decode]
  cases entryOf? r.tag with
  | none => simp
  | some e => cases hbody : e.decode a v r.body <;> simp [hbody, Except.mapError]

/-- a command from the named values of the table of a tag -/
def ofValues (tag : Tag) (values : FieldValues) : Except Error Command :=
  (entryOf? tag).elim (.error (.framing (.notTabular tag.text))) fun e => e.ofValues values

/-- a record of a command with a table is read by it -/
theorem decode_of_table (hc : c.isTabular) {body : Bytes} (hl : c.table v = .ok l)
    (hvalues : l.decode a body = .ok values) {c' : Command} (hread : ofValues c.tag values = .ok c') :
    decode a v ⟨c.tag, body⟩ = .ok c' := by
  have hentry : ∃ e, entryOf? c.tag = some e ∧ ∀ body, e.decode a v body = (do
      e.ofValues (← (← e.editions.resolve v).decode a body)) := by
    cases c with
    | macroProperties | unrecognized => exact nomatch hc
    | _ => exact ⟨_, rfl, fun _ => rfl⟩
  obtain ⟨e, he, hdecode⟩ := hentry
  rw [table, he] at hl
  rw [ofValues, he] at hread
  have hresolve : e.editions.resolve v = .ok l := hl
  refine decode_eq_ok.mpr (.inr ⟨e, he, ?_⟩)
  rw [hdecode, hresolve, ok_bind, hvalues, ok_bind]
  exact hread

end Command

end VisionMixer
