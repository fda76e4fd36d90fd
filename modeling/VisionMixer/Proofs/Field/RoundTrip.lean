/-
A body is read back as the values it was written from.

`FieldValues.along` arranges values in the order of a table. `Layout.Held` says what a finished draft holds of a field:
nothing, its bytes with zeros behind them, or the count of its records with the records in the tail. A value that is not
cut off the end is read back (`decodeField_of_present`). If none is cut off (`Layout.Unbroken`), decoding finds the values
along the table, with numbers as the wire holds them (`decode_of_unbroken`, `decode_encode`).
-/
import Mathlib.Tactic
import VisionMixer.Proofs.Field.Values
import VisionMixer.Proofs.Field.WellFormed

namespace VisionMixer

/-- a value with a function on numbers applied to it, inside records too -/
def Wire.mapNumbers (f : Wire → Number → Number) : Wire → Value → Value
  | .records _ fields, .records items => .records (items.map (FieldValues.along (Value.mapNumber f) fields))
  | wire, v => v.mapNumber f wire

theorem Wire.mapNumbers_of_not_isCounted {f : Wire → Number → Number} {wire : Wire} {v : Value}
    (h : wire.isCounted = false) : wire.mapNumbers f v = v.mapNumber f wire := by
  cases wire with
  | records => exact nomatch h
  | _ => rfl

variable {a : Arithmetic} {f : Field} {v : Value} {fields : List Field} {body : Bytes}

/-! ### Reading fields -/

theorem Wire.decodeField_of_decode (hlen : f.stop ≤ body.length)
    (h : Wire.decode a f.name f.offset body f.wire = .ok v) : Wire.decodeField a body f = .ok [(f.name, v)] := by
  cases f with
  | mk name offset wire optional =>
    rw [FieldOf.stop] at hlen
    rw [Wire.decodeField, if_neg (not_lt.mpr hlen), h]
    rfl

theorem Wire.decodeField_missing (hshort : body.length < f.stop) (hoptional : f.optional = true) :
    Wire.decodeField a body f = .ok [] := by
  cases f with
  | mk name offset wire optional =>
    rw [FieldOf.stop] at hshort
    rw [Wire.decodeField, if_pos hshort, if_pos hoptional]

theorem Wire.decodeFields_flatMap {r : Field → FieldValues}
    (h : ∀ f ∈ fields, Wire.decodeField a body f = .ok (r f)) :
    Wire.decodeFields a body fields = .ok (fields.flatMap r) := by
  induction fields with
  | nil => rfl
  | cons f fields ih =>
    rw [Wire.decodeFields, h f List.mem_cons_self, ih fun g hg => h g (List.mem_cons_of_mem f hg)]
    rfl

/-- a field whose region holds the bytes of a value -/
theorem Wire.decodeField_of_writes {patch : Bytes} (hlen : f.stop ≤ body.length) (hwrites : Writes a f.wire v patch)
    (hslice : Bytes.slice body f.offset f.wire.size = patch ++ Bytes.zeros (f.wire.size - patch.length)) :
    Wire.decodeField a body f = .ok [(f.name, f.wire.mapNumbers a.settle v)] := by
  rw [mapNumbers_of_not_isCounted hwrites.not_isCounted]
  exact decodeField_of_decode hlen (decode_of_slice hwrites hslice)

/-! ### Records -/

/-- the region of a field over zeros, once its value is written -/
theorem slice_of_write {b c patch : Bytes} {size : Nat} (hstop : f.stop ≤ size)
    (hzeros : Bytes.slice b f.offset f.wire.size = Bytes.slice (Bytes.zeros size) f.offset f.wire.size)
    (hpatch : b.patch? f.offset patch = some c) (hle : patch.length ≤ f.wire.size) :
    Bytes.slice c f.offset f.wire.size = patch ++ Bytes.zeros (f.wire.size - patch.length) := by
  rw [Bytes.slice_patch hpatch hle, hzeros, Bytes.slice_zeros hstop, Bytes.drop_zeros]

theorem encodeInRecord_eq_ok {item : FieldValues} {b c : Bytes} :
    Layout.encodeInRecord a item b f = .ok c ↔
      ∃ v patch, item.get? f.name = some v ∧ Wire.Writes a f.wire v patch ∧ b.patch? f.offset patch = some c := by
  rw [Layout.encodeInRecord]
  cases item.get? f.name with
  | none => simp
  | some v => simp [FieldOf.write_eq_ok]

/-- one field of a record changes nothing outside its own region -/
theorem encodeInRecord_changes {item : FieldValues} (f : Field) (b c : Bytes)
    (h : Layout.encodeInRecord a item b f = .ok c) : f.Changes b c := by
  obtain ⟨v, patch, -, hwrites, hpatch⟩ := encodeInRecord_eq_ok.mp h
  exact .of_patch hpatch hwrites.length_le

theorem length_encodeRecord {stride : Nat} {item : FieldValues} {chunk : Bytes}
    (h : Layout.encodeRecord a stride fields item = .ok chunk) : chunk.length = stride := by
  rw [Layout.encodeRecord] at h
  obtain ⟨-, -, hfold⟩ := bind_eq_ok.mp h
  exact (changes_of_foldlM id encodeInRecord_changes hfold).1.trans List.length_replicate

theorem decode_encodeRecord {stride : Nat} {item : FieldValues} {chunk : Bytes} (hfits : Fits stride fields)
    (h : Layout.encodeRecord a stride fields item = .ok chunk) :
    Wire.decodeFields a chunk fields = .ok (item.along (Value.mapNumber a.settle) fields) := by
  have hlength := length_encodeRecord h
  rw [Layout.encodeRecord] at h
  obtain ⟨-, -, hfold⟩ := bind_eq_ok.mp h
  refine Wire.decodeFields_flatMap fun f hf => ?_
  obtain ⟨pre, post, rfl⟩ := List.append_of_mem hf
  obtain ⟨t, u, -, hf', -, hbefore, hafter⟩ := region_of_foldlM id encodeInRecord_changes hfits.apart hfold
  obtain ⟨v, patch, hv, hwrites, hpatch⟩ := encodeInRecord_eq_ok.mp hf'
  have hstop := hfits.within f hf
  have hslice := slice_of_write hstop hbefore hpatch hwrites.length_le
  have hread : Wire.decode a f.name f.offset chunk f.wire = .ok (v.mapNumber a.settle f.wire) :=
    Wire.decode_of_slice hwrites (hafter.trans hslice)
  rw [hv]
  exact Wire.decodeField_of_decode (hlength.symm ▸ hstop) hread

theorem chunks_flatten {size : Nat} {records : List Bytes} (h : ∀ r ∈ records, r.length = size) :
    Bytes.chunks size records.length records.flatten = records := by
  induction records with
  | nil => rfl
  | cons r records ih =>
    have hr : r.length = size := h r List.mem_cons_self
    rw [List.length_cons, Bytes.chunks, List.flatten_cons, List.take_left' hr, List.drop_left' hr,
      ih fun x hx => h x (List.mem_cons_of_mem r hx)]

theorem length_flatten {size : Nat} {records : List Bytes} (h : ∀ r ∈ records, r.length = size) :
    records.flatten.length = records.length * size := by
  rw [List.length_flatten, List.map_eq_replicate_iff.mpr h, List.sum_replicate_nat]

theorem length_of_mapM_encodeRecord {stride : Nat} {items : List FieldValues} {records : List Bytes}
    (h : items.mapM (Layout.encodeRecord a stride fields) = .ok records) :
    records.length = items.length ∧ ∀ r ∈ records, r.length = stride := by
  refine ⟨(mapM_eq_ok.mp h).length_eq.symm, fun r hr => ?_⟩
  obtain ⟨item, -, hitem⟩ := mem_of_mapM h hr
  exact length_encodeRecord hitem

/-- a counted list of records at the end of a body -/
theorem Wire.decode_records {name : String} {offset stride : Nat} {items : List FieldValues} {records : List Bytes}
    (hfit : (Wire.records stride fields).RecordsFit) (hcount : items.length ≤ 65535)
    (hencoded : items.mapM (Layout.encodeRecord a stride fields) = .ok records)
    (hslice : Bytes.slice body offset 2 = Width.u16.write items.length) (htail : body.drop (offset + 2) = records.flatten) :
    Wire.decode a name offset body (.records stride fields) =
      .ok ((Wire.records stride fields).mapNumbers a.settle (.records items)) := by
  obtain ⟨hpositive, -, hfits⟩ := hfit
  obtain ⟨hsame, hstride⟩ := length_of_mapM_encodeRecord hencoded
  have hread : (Width.u16.read (body.drop offset)).toNat = items.length := by
    have hu16 : Width.u16.read (body.drop offset) = items.length := by
      rw [read_drop, show Width.u16.size = 2 from rfl, hslice]
      exact Width.read_write (by simp [Width.low]) (by simp only [Width.high]; omega)
    rw [hu16, Int.toNat_natCast]
  have hroom : offset + 2 + items.length * stride ≤ body.length := by
    have hrest := congrArg List.length htail
    rw [List.length_drop, length_flatten hstride, hsame] at hrest
    have hmin : 2 = (Bytes.slice body offset 2).length := by rw [hslice]; rfl
    rw [Bytes.slice, List.length_take, List.length_drop] at hmin
    omega
  have hitems : records.mapM (fun chunk => Wire.decodeFields a chunk fields) =
      .ok (items.map (FieldValues.along (Value.mapNumber a.settle) fields)) :=
    mapM_back (fun item chunk h => decode_encodeRecord hfits h) hencoded
  rw [Wire.decode, hread, if_neg (not_lt.mpr hroom), if_neg hpositive.ne', htail, ← hsame, chunks_flatten hstride, hitems]
  rfl

/-! ### The least size of a body -/

namespace Layout

theorem le_foldl_max {ns : List Nat} {m n : Nat} (h : n = m ∨ n ∈ ns) : n ≤ ns.foldl max m := by
  induction ns generalizing m n with
  | nil =>
    rcases h with rfl | h
    · exact le_rfl
    · exact nomatch h
  | cons k ns ih =>
    rw [List.foldl_cons]
    rcases h with rfl | h
    · exact le_trans (le_max_left n k) (ih (.inl rfl))
    rcases List.mem_cons.mp h with rfl | h
    · exact le_trans (le_max_right m n) (ih (.inl rfl))
    · exact ih (.inr h)

theorem foldl_max_le {ns : List Nat} {m bound : Nat} (hm : m ≤ bound) (h : ∀ n ∈ ns, n ≤ bound) :
    ns.foldl max m ≤ bound := by
  induction ns generalizing m with
  | nil => exact hm
  | cons k ns ih =>
    exact ih (max_le hm (h k List.mem_cons_self)) fun n hn => h n (List.mem_cons_of_mem k hn)

variable {l : Layout} {values : FieldValues} {d d' : Draft}

theorem stop_le_minSize (hf : f ∈ l.fields) (hrequired : ¬ f.optional) : f.stop ≤ l.minSize := by
  refine le_foldl_max (.inr ?_)
  refine List.mem_map.mpr ⟨f, List.mem_filter.mpr ⟨hf, ?_⟩, rfl⟩
  simpa using hrequired

theorem minSize_le (h : ∀ f ∈ l.fields, f.stop ≤ l.size) : l.minSize ≤ l.size := by
  refine foldl_max_le (Nat.zero_le _) fun n hn => ?_
  obtain ⟨f, hf, rfl⟩ := List.mem_map.mp hn
  exact h f (List.mem_filter.mp hf).1

/-! ### What a finished draft holds -/

/-- what a finished draft holds of a field -/
inductive Held (a : Arithmetic) (values : FieldValues) (d : Draft) (f : Field) : Prop where
  | missing (absent : values.get? f.name = none) (optional : f.optional) (short : d.short)
  | plain {v : Value} {patch : Bytes} (present : values.get? f.name = some v) (writes : Wire.Writes a f.wire v patch)
      (region : Bytes.slice d.body f.offset f.wire.size = patch ++ Bytes.zeros (f.wire.size - patch.length))
  | counted {stride : Nat} {fields : List Field} {items : List FieldValues} {records : List Bytes}
      (wire : f.wire = .records stride fields) (present : values.get? f.name = some (.records items))
      (few : items.length ≤ 65535) (region : Bytes.slice d.body f.offset 2 = Width.u16.write items.length)
      (encoded : items.mapM (encodeRecord a stride fields) = .ok records) (tail : d.tail = records.flatten)

theorem encodeField_changes (f : Field) (d d' : Draft) (h : encodeField a values d f = .ok d') :
    f.Changes d.body d'.body := (encodeField_eq_ok.mp h).changes

/-- a draft stays short -/
theorem short_of_foldlM (h : fields.foldlM (encodeField a values) d = .ok d') (hshort : d.short) : d'.short := by
  induction fields generalizing d with
  | nil =>
    cases h
    exact hshort
  | cons f fields ih =>
    obtain ⟨t, ht, hrest⟩ := foldlM_cons_eq_ok.mp h
    refine ih hrest ?_
    cases encodeField_eq_ok.mp ht with
    | missing => rfl
    | plain | counted => exact hshort

/-- a missing value makes a draft short -/
theorem short_of_missing (h : fields.foldlM (encodeField a values) d = .ok d') (hf : f ∈ fields)
    (habsent : values.get? f.name = none) : d'.short := by
  obtain ⟨pre, post, rfl⟩ := List.append_of_mem hf
  obtain ⟨t, u, -, hstep, hpost⟩ := foldlM_split h
  cases encodeField_eq_ok.mp hstep with
  | missing => exact short_of_foldlM hpost rfl
  | plain hpresent | counted _ hpresent => exact nomatch habsent.symm.trans hpresent

/-- a draft becomes short by a missing value only -/
theorem missing_of_short (h : fields.foldlM (encodeField a values) d = .ok d') (hshort : d'.short) :
    d.short ∨ ∃ f ∈ fields, f.optional ∧ values.get? f.name = none := by
  induction fields generalizing d with
  | nil =>
    cases h
    exact .inl hshort
  | cons f fields ih =>
    obtain ⟨t, ht, hrest⟩ := foldlM_cons_eq_ok.mp h
    rcases ih hrest with ht' | ⟨g, hg, hmissing⟩
    · cases encodeField_eq_ok.mp ht with
      | missing habsent hoptional => exact .inr ⟨f, List.mem_cons_self, hoptional, habsent⟩
      | plain | counted => exact .inl ht'
    · exact .inr ⟨g, List.mem_cons_of_mem f hg, hmissing⟩

/-- a draft gets a tail from records only -/
theorem tail_of_foldlM (h : fields.foldlM (encodeField a values) d = .ok d') :
    d'.tail = d.tail ∨ ∃ f ∈ fields, f.wire.isCounted ∧ (values.get? f.name).isSome := by
  induction fields generalizing d with
  | nil =>
    cases h
    exact .inl rfl
  | cons f fields ih =>
    obtain ⟨t, ht, hrest⟩ := foldlM_cons_eq_ok.mp h
    rcases ih hrest with htail | ⟨g, hg, hcounted⟩
    · cases encodeField_eq_ok.mp ht with
      | missing | plain => exact .inl htail
      | counted hwire hpresent => exact .inr ⟨f, List.mem_cons_self, by rw [hwire]; rfl, by rw [hpresent]; rfl⟩
    · exact .inr ⟨g, List.mem_cons_of_mem f hg, hcounted⟩

/-- the fields before records are none, and none come after -/
theorem around_counted {pre post : List Field} (hlast : ∀ g ∈ (pre ++ f :: post).dropLast, g.wire.isCounted = false)
    (hcounted : f.wire.isCounted) : post = [] ∧ ∀ g ∈ pre, g.wire.isCounted = false := by
  have hpost : post = [] := by
    rcases post.eq_nil_or_concat with rfl | ⟨post, g, rfl⟩
    · rfl
    · rw [List.concat_eq_append, ← List.cons_append, ← List.append_assoc, List.dropLast_concat] at hlast
      have hplain := hlast f (List.mem_append_right pre List.mem_cons_self)
      rw [hcounted] at hplain
      exact nomatch hplain
  subst hpost
  rw [List.dropLast_concat] at hlast
  exact ⟨rfl, hlast⟩

theorem held_of_foldlM (hsep : l.Separate)
    (h : l.fields.foldlM (encodeField a values) ⟨Bytes.zeros l.size, [], false⟩ = .ok d) :
    ∀ f ∈ l.fields, Held a values d f := by
  intro f hf
  have hstop := hsep.fits.within f hf
  obtain ⟨pre, post, hfields⟩ := List.append_of_mem hf
  rw [hfields] at h
  obtain ⟨t, u, hpre, hstep, hpost, hbefore, hafter⟩ :=
    region_of_foldlM Draft.body encodeField_changes (hfields ▸ hsep.fits.apart) h
  cases encodeField_eq_ok.mp hstep with
  | missing habsent hoptional => exact .missing habsent hoptional (short_of_foldlM hpost rfl)
  | plain hpresent hwrites hpatched =>
    exact .plain hpresent hwrites (hafter.trans (slice_of_write hstop hbefore hpatched hwrites.length_le))
  | @counted stride fields items records body hwire hpresent hfew hpatched hencoded =>
    have hcounted : f.wire.isCounted := by rw [hwire]; rfl
    have hsize : f.wire.size = 2 := by rw [hwire]; rfl
    have hwritten : (Width.u16.write items.length).length = 2 := Width.length_write
    obtain ⟨rfl, hplain⟩ := around_counted (hfields ▸ hsep.last) hcounted
    have hstart : t.tail = [] := by
      rcases tail_of_foldlM hpre with htail | ⟨g, hg, hg', -⟩
      · exact htail
      · rw [hplain g hg] at hg'
        exact nomatch hg'
    cases hpost
    have hslice := slice_of_write hstop hbefore hpatched (by rw [hwritten, hsize])
    rw [hsize, hwritten] at hslice
    refine .counted hwire hpresent hfew (hslice.trans (List.append_nil _)) hencoded ?_
    rw [hstart]
    rfl

/-! ### The round trip -/

/-- the optional values are all missing or all there -/
def Together (l : Layout) (values : FieldValues) : Prop :=
  (∀ f ∈ l.fields, f.optional → values.get? f.name = none) ∨
    ∀ f ∈ l.fields, f.optional → (values.get? f.name).isSome

/-- no optional value is missing, or those are that lie behind the required fields and no others -/
def Unbroken (l : Layout) (values : FieldValues) : Prop :=
  (∀ f ∈ l.fields, f.optional → (values.get? f.name).isSome) ∨
    ∀ f ∈ l.fields, f.optional → ((values.get? f.name).isSome ↔ f.stop ≤ l.minSize)

instance (l : Layout) (values : FieldValues) : Decidable (l.Unbroken values) :=
  inferInstanceAs (Decidable ((∀ f ∈ l.fields, f.optional → (values.get? f.name).isSome) ∨
    ∀ f ∈ l.fields, f.optional → ((values.get? f.name).isSome ↔ f.stop ≤ l.minSize)))

/-- where optional fields lie behind the others, they are missing together or not at all -/
theorem unbroken_iff_together (hwf : l.WellFormed) : l.Unbroken values ↔ l.Together values := by
  rw [Together, or_comm]
  refine or_congr_right (forall₂_congr fun f hf => forall_congr' fun hoptional => ?_)
  rw [iff_false_right (not_le.mpr (hwf.late f hf hoptional)), Option.not_isSome_iff_eq_none]

/-- the body of a finished draft -/
def Draft.finish (d : Draft) (l : Layout) : Bytes := (if d.short then d.body.take l.minSize else d.body) ++ d.tail

theorem encode_eq_ok : l.encode a values = .ok body ↔
    values.checkCarried l.fields = .ok () ∧
      ∃ d, l.fields.foldlM (encodeField a values) ⟨Bytes.zeros l.size, [], false⟩ = .ok d ∧ d.finish l = body := by
  rw [encode, bind_eq_ok]
  constructor
  · rintro ⟨u, hcarried, h⟩
    obtain ⟨d, hd, hbody⟩ := bind_eq_ok.mp h
    exact ⟨hcarried, d, hd, Except.ok.inj hbody⟩
  · rintro ⟨hcarried, d, hd, rfl⟩
    refine ⟨(), hcarried, ?_⟩
    rw [hd]
    rfl

section Finished

variable (hsep : l.Separate) (h : l.fields.foldlM (encodeField a values) ⟨Bytes.zeros l.size, [], false⟩ = .ok d)

include h in
theorem length_body : d.body.length = l.size :=
  (changes_of_foldlM Draft.body encodeField_changes h).1.trans List.length_replicate

include h in
theorem length_finish (hwithin : ∀ f ∈ l.fields, f.stop ≤ l.size) :
    (d.finish l).length = (if d.short then l.minSize else l.size) + d.tail.length := by
  rw [Draft.finish, List.length_append]
  split
  · rw [List.length_take, length_body h, Nat.min_eq_left (minSize_le hwithin)]
  · rw [length_body h]

include hsep h in
/-- a required field has a value -/
theorem present_of_required (hf : f ∈ l.fields) (hrequired : ¬f.optional) : (values.get? f.name).isSome := by
  cases held_of_foldlM hsep h f hf with
  | missing _ hoptional => exact absurd hoptional hrequired
  | plain hpresent | counted _ hpresent => exact hpresent ▸ rfl

include h in
/-- a field with a value keeps its region in the finished body, if it is not cut off -/
theorem slice_finish (hwithin : f.stop ≤ l.size) (hcut : d.short → f.stop ≤ l.minSize) :
    Bytes.slice (d.finish l) f.offset f.wire.size = Bytes.slice d.body f.offset f.wire.size := by
  have hlength := length_body h
  unfold Draft.finish
  split
  · next hshort =>
    have htake : f.stop ≤ (d.body.take l.minSize).length := by
      rw [List.length_take, hlength]
      exact Nat.le_min.mpr ⟨hcut hshort, hwithin⟩
    exact (Bytes.slice_append htake).trans (Bytes.slice_take (hcut hshort))
  · exact Bytes.slice_append (hlength.symm ▸ hwithin)

include hsep h in
/-- a value that is not cut off is read back -/
theorem decodeField_of_present (hf : f ∈ l.fields) (hv : values.get? f.name = some v)
    (hcut : d.short → f.stop ≤ l.minSize) :
    Wire.decodeField a (d.finish l) f = .ok [(f.name, f.wire.mapNumbers a.settle v)] := by
  have hwithin := hsep.fits.within f hf
  have hslice := slice_finish h hwithin hcut
  have hstop : f.stop ≤ (d.finish l).length := by
    rw [length_finish h hsep.fits.within]
    split
    · next hshort => exact le_add_right (hcut hshort)
    · exact le_add_right hwithin
  cases held_of_foldlM hsep h f hf with
  | missing habsent => exact nomatch habsent.symm.trans hv
  | plain hpresent hwrites hregion =>
    rw [hv, Option.some.injEq] at hpresent
    subst hpresent
    exact Wire.decodeField_of_writes hstop hwrites (hslice.trans hregion)
  | @counted stride fields items records hwire hpresent hfew hregion hencoded htail =>
    rw [hv, Option.some.injEq] at hpresent
    subst hpresent
    have hsize : f.offset + 2 = l.size := by
      have hend := hsep.tail f hf (hwire ▸ rfl)
      rwa [FieldOf.stop, hwire] at hend
    -- the count ends the fixed part, so where it is not cut off nothing is
    have hwhole : d.finish l = d.body ++ d.tail := by
      unfold Draft.finish
      split
      · next hshort =>
        have hend := hcut hshort
        rw [FieldOf.stop, hwire, show (Wire.records stride fields).size = 2 from rfl, hsize] at hend
        rw [List.take_of_length_le ((length_body h).trans_le hend)]
      · rfl
    have hrest : (d.finish l).drop (f.offset + 2) = records.flatten := by
      rw [hwhole, List.drop_left' (by rw [length_body h, hsize]), htail]
    have hfit := hsep.records f hf
    refine Wire.decodeField_of_decode hstop ?_
    rw [hwire] at hfit hslice ⊢
    exact Wire.decode_records hfit hfew hencoded (hslice.trans hregion) hrest

include h in
/-- a draft with all its optional values is not short -/
theorem not_short_of_present (hall : ∀ f ∈ l.fields, f.optional → (values.get? f.name).isSome) : ¬d.short := by
  intro hshort
  rcases missing_of_short h hshort with hfalse | ⟨f, hf, hoptional, habsent⟩
  · exact nomatch hfalse
  · have hsome := hall f hf hoptional
    rw [habsent] at hsome
    exact nomatch hsome

include hsep h in
/-- the values that are there are those before the end of a short body -/
theorem ends_of_unbroken (hunbroken : l.Unbroken values) (hshort : d.short) (hf : f ∈ l.fields) :
    (values.get? f.name).isSome ↔ f.stop ≤ l.minSize := by
  by_cases hoptional : f.optional
  · rcases hunbroken with hall | hends
    · exact absurd hshort (not_short_of_present h hall)
    · exact hends f hf hoptional
  · exact iff_of_true (present_of_required hsep h hf hoptional) (stop_le_minSize hf hoptional)

include hsep h in
/-- records end the fixed part, so they are missing where the values before some byte are all that is there -/
theorem tail_of_ends {n : Nat} (hends : ∀ g ∈ l.fields, (values.get? g.name).isSome ↔ g.stop ≤ n) (hf : f ∈ l.fields)
    (habsent : values.get? f.name = none) : d.tail = [] := by
  rcases tail_of_foldlM h with htail | ⟨g, hg, hcounted, hpresent⟩
  · exact htail
  · have hend := (hends g hg).mp hpresent
    rw [hsep.tail g hg hcounted] at hend
    have hsome := (hends f hf).mpr ((hsep.fits.within f hf).trans hend)
    rw [habsent] at hsome
    exact nomatch hsome

include hsep h in
theorem decodeField_finish (hunbroken : l.Unbroken values) (hf : f ∈ l.fields) :
    Wire.decodeField a (d.finish l) f =
      .ok (FieldValues.maybe f.name ((values.get? f.name).map (f.wire.mapNumbers a.settle))) := by
  have hends (hshort : d.short) (g : Field) (hg : g ∈ l.fields) := ends_of_unbroken hsep h hunbroken hshort hg
  cases hv : values.get? f.name with
  | some v => exact decodeField_of_present hsep h hf hv fun hshort => (hends hshort f hf).mp (hv ▸ rfl)
  | none =>
    cases held_of_foldlM hsep h f hf with
    | plain hpresent | counted _ hpresent => exact nomatch hv.symm.trans hpresent
    | missing _ hoptional hshort =>
      refine Wire.decodeField_missing ?_ hoptional
      rw [length_finish h hsep.fits.within, if_pos hshort, tail_of_ends hsep h (hends hshort) hf hv]
      refine not_le.mp fun hstop => ?_
      have hsome := (hends hshort f hf).mpr hstop
      rw [hv] at hsome
      exact nomatch hsome

end Finished

/-- a table without optional fields and without records is written in full -/
theorem length_of_encode (hrequired : ∀ f ∈ l.fields, f.optional = false)
    (hplain : ∀ f ∈ l.fields, f.wire.isCounted = false) (h : l.encode a values = .ok body) : body.length = l.size := by
  obtain ⟨-, d, hd, rfl⟩ := encode_eq_ok.mp h
  have hwhole : ¬d.short :=
    not_short_of_present hd fun f hf hoptional => nomatch (hrequired f hf).symm.trans hoptional
  have htail : d.tail = [] := by
    rcases tail_of_foldlM hd with htail | ⟨f, hf, hcounted, -⟩
    · exact htail
    · exact nomatch (hplain f hf).symm.trans hcounted
  rw [Draft.finish, if_neg hwhole, htail, List.append_nil]
  exact length_body hd

/-- a body is read back as the values it was written from, if it ends before the missing ones only -/
theorem decode_of_unbroken (hsep : l.Separate) (hunbroken : l.Unbroken values) (h : l.encode a values = .ok body) :
    l.decode a body = .ok (values.along (Wire.mapNumbers a.settle) l.fields) := by
  obtain ⟨-, d, hd, rfl⟩ := encode_eq_ok.mp h
  exact Wire.decodeFields_flatMap fun f hf => decodeField_finish hsep hd hunbroken hf

/-- **Round trip of a table.** A body is read back as the values it was written from, in the order of the table and with
numbers as the wire holds them. -/
theorem decode_encode (hwf : l.WellFormed) (htogether : l.Together values) (h : l.encode a values = .ok body) :
    l.decode a body = .ok (values.along (Wire.mapNumbers a.settle) l.fields) :=
  decode_of_unbroken hwf.separate ((unbroken_iff_together hwf).mpr htogether) h

end Layout

end VisionMixer
