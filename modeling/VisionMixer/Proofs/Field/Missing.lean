/-
Bodies of values some of which are missing.

An optional field may be left out, but a body can only end before a field, not skip it, and the body of a short draft
ends where the required fields do. So all values are read back if no optional one is missing, or if those are that lie
behind the required fields and no others (`supplied_kept_iff`). Otherwise one missing value takes with it every optional
value behind the required fields (`decode_encode_missing`), or records end up where it was left out.
-/
import Mathlib.Tactic
import VisionMixer.Proofs.Field.Scaled

namespace VisionMixer.Layout

variable {a : Arithmetic} {l : Layout} {values read : FieldValues} {fields : List Field} {f : Field} {body : Bytes}

/-- a value is read for a field exactly if the body does not end before it -/
theorem isSome_get?_of_decode (hnames : (fields.map FieldOf.name).Nodup)
    (h : Wire.decodeFields a body fields = .ok read) (hf : f ∈ fields) :
    (read.get? f.name).isSome ↔ f.stop ≤ body.length := by
  induction fields generalizing read with
  | nil => exact absurd hf List.not_mem_nil
  | cons g fields ih =>
    obtain ⟨hg, hnames⟩ := List.nodup_cons.mp hnames
    rw [Wire.decodeFields] at h
    obtain ⟨part, hpart, hrest⟩ := bind_eq_ok.mp h
    obtain ⟨rest, hdecode, hread⟩ := bind_eq_ok.mp hrest
    cases hread
    rw [FieldValues.get?_append]
    rcases List.mem_cons.mp hf with rfl | hf
    · have hlater : rest.get? f.name = none := by
        refine Option.eq_none_iff_forall_ne_some.mpr fun v hv => hg ?_
        obtain ⟨k, hk, hname, -⟩ := decode_of_get? hdecode hv
        exact hname ▸ List.mem_map_of_mem hk
      rw [hlater, Option.or_none]
      rcases decodeField_eq_ok hpart with ⟨rfl, hshort⟩ | ⟨v, rfl, hstop, -⟩
      · exact iff_of_false Bool.false_ne_true (not_le.mpr hshort)
      · exact iff_of_true (by rw [FieldValues.get?_cons_self]; rfl) hstop
    · have hne : g.name ≠ f.name := fun heq => hg (heq ▸ List.mem_map_of_mem hf)
      have hfirst : part.get? f.name = none := by
        rcases decodeField_eq_ok hpart with ⟨rfl, -⟩ | ⟨v, rfl, -⟩
        · rfl
        · rw [FieldValues.get?_cons_of_ne _ hne]
          rfl
      rw [hfirst, Option.none_or]
      exact ih hnames hdecode hf

theorem along_filter {change : Wire → Value → Value} {p : Field → Bool} :
    values.along change (fields.filter p) =
      fields.flatMap fun f =>
        if p f then FieldValues.maybe f.name ((values.get? f.name).map (change f.wire)) else [] := by
  induction fields with
  | nil => rfl
  | cons f fields ih =>
    rw [List.flatMap_cons, List.filter_cons, ← ih]
    split <;> rfl

/-- **One missing value takes the others with it.** Without records, the body of a table whose optional fields lie behind
the others is read as the required values alone, whichever optional ones were there. -/
theorem decode_encode_missing (hwf : l.WellFormed)
    (hplain : ∀ f ∈ l.fields, f.wire.isCounted → values.get? f.name = none) (hf : f ∈ l.fields)
    (habsent : values.get? f.name = none) (h : l.encode a values = .ok body) :
    l.decode a body = .ok (values.along (Wire.mapNumbers a.settle) (l.fields.filter (!·.optional))) := by
  obtain ⟨-, d, hd, rfl⟩ := encode_eq_ok.mp h
  have hshort := short_of_missing hd hf habsent
  have htail : d.tail = [] := by
    rcases tail_of_foldlM hd with htail | ⟨g, hg, hcounted, hpresent⟩
    · exact htail
    · rw [hplain g hg hcounted] at hpresent
      exact nomatch hpresent
  have hlength : (d.finish l).length = l.minSize := by
    rw [length_finish hd hwf.fits.within, if_pos hshort, htail, List.length_nil, Nat.add_zero]
  rw [along_filter]
  refine Wire.decodeFields_flatMap fun g hg => ?_
  cases hoptional : g.optional with
  | true =>
    have hlate : (d.finish l).length < g.stop := hlength ▸ hwf.late g hg hoptional
    exact Wire.decodeField_missing hlate hoptional
  | false =>
    have hrequired : ¬g.optional := Bool.eq_false_iff.mp hoptional
    obtain ⟨v, hv⟩ := Option.isSome_iff_exists.mp (present_of_required hwf.separate hd hg hrequired)
    rw [hv]
    exact decodeField_of_present hwf.separate hd hg hv fun _ => stop_le_minSize hg hrequired

/-- a body is read back with a value for each field that had one, and for no other -/
def Keeps (l : Layout) (values : FieldValues) (body : Bytes) : Prop :=
  ∃ read, l.decode .exact body = .ok read ∧
    ∀ f ∈ l.fields, read.get? f.name = (values.get? f.name).map (f.wire.mapNumbers Wire.nearest)

/-- what is kept says where the body ends -/
theorem ends_of_keeps (hsep : l.Separate) (hkeeps : l.Keeps values body) (hf : f ∈ l.fields) :
    (values.get? f.name).isSome ↔ f.stop ≤ body.length := by
  obtain ⟨read, hdecode, hread⟩ := hkeeps
  rw [← isSome_get?_of_decode hsep.fits.names hdecode hf, hread f hf, Option.isSome_map]

/-- a body that keeps its values has no records behind a missing one -/
theorem length_of_keeps {d : Draft} (hsep : l.Separate)
    (hd : l.fields.foldlM (encodeField .exact values) ⟨Bytes.zeros l.size, [], false⟩ = .ok d)
    (hkeeps : l.Keeps values (d.finish l)) (hf : f ∈ l.fields) (habsent : values.get? f.name = none) :
    (d.finish l).length = l.minSize := by
  have htail := tail_of_ends hsep hd (fun g hg => ends_of_keeps hsep hkeeps hg) hf habsent
  rw [length_finish hd hsep.fits.within, if_pos (short_of_missing hd hf habsent), htail, List.length_nil, Nat.add_zero]

/-- **Supplied values are kept** in a table that keeps its fields apart exactly if no optional value is missing, or those
are that lie behind the required fields and no others. Scaled values are kept as the nearest multiples of their units. -/
theorem supplied_kept_iff (hsep : l.Separate) (hexact : l.isExact) (h : l.encode .exact values = .ok body) :
    l.Keeps values body ↔ l.Unbroken values := by
  constructor
  · intro hkeeps
    obtain ⟨-, d, hd, rfl⟩ := encode_eq_ok.mp h
    refine or_iff_not_imp_left.mpr fun hmissing f hf hoptional => ?_
    push Not at hmissing
    obtain ⟨g, hg, -, habsent⟩ := hmissing
    have hlength := length_of_keeps hsep hd hkeeps hg (Option.not_isSome_iff_eq_none.mp habsent)
    rw [ends_of_keeps hsep hkeeps hf, hlength]
  · intro hunbroken
    have hread := decode_of_unbroken hsep hunbroken h
    obtain ⟨-, d, hd, -⟩ := encode_eq_ok.mp h
    rw [along_settle hexact (held_of_foldlM hsep hd)] at hread
    exact ⟨_, hread, fun f hf => FieldValues.get?_along hsep.fits.names hf⟩

/-- of two optional values one is lost without the other, and both are kept -/
theorem supplied_kept_iff_two :
    let l : Layout :=
      ⟨3, [⟨"a", 0, .int .u8, false⟩, ⟨"b", 1, .int .u8, true⟩, ⟨"c", 2, .int .u8, true⟩]⟩
    (l.encode .exact [("a", .int 1), ("b", .int 7)] = .ok [1] ∧ ¬l.Keeps [("a", .int 1), ("b", .int 7)] [1]) ∧
      l.encode .exact [("a", .int 1), ("b", .int 7), ("c", .int 9)] = .ok [1, 7, 9] ∧
      l.Keeps [("a", .int 1), ("b", .int 7), ("c", .int 9)] [1, 7, 9] := by
  intro l
  have hsep : l.Separate := by decide
  have hone : l.encode .exact [("a", .int 1), ("b", .int 7)] = .ok [1] := by rfl
  have hboth : l.encode .exact [("a", .int 1), ("b", .int 7), ("c", .int 9)] = .ok [1, 7, 9] := by rfl
  refine ⟨⟨hone, fun hkept => ?_⟩, hboth, (supplied_kept_iff hsep rfl hboth).mpr (.inl (by decide))⟩
  exact absurd ((supplied_kept_iff hsep rfl hone).mp hkept) (by decide)

/-- a record may stand where a value was left out -/
example :
    let l : Layout :=
      ⟨4, [⟨"a", 0, .int .u8, false⟩, ⟨"b", 1, .int .u8, true⟩,
        ⟨"list", 2, .records 1 [⟨"x", 0, .int .u8, false⟩], true⟩]⟩
    l.encode .exact [("a", .int 1), ("list", .records [[("x", .int 9)]])] = .ok [1, 9] := by rfl

end VisionMixer.Layout
