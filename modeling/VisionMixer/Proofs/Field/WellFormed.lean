/-
Field tables that keep their fields apart, and what one step of writing a body does.

`Fits` is what a table needs inside a body of a given size: distinct names, every field inside, no two fields over one
byte. `Layout.Separate` asks it of the fixed part and of every record, and puts records last; `Layout.WellFormed` puts
optional fields behind the others besides. `Layout.Step` lists what one field does to a draft; it leaves everything outside its own region as it
was, so after a whole fold each region is as its own field left it (`region_of_foldlM`).
-/
import Mathlib.Tactic
import VisionMixer.Proofs.Fallible
import VisionMixer.Proofs.Field.Written

namespace VisionMixer

/-- two fields share no byte -/
def FieldOf.Apart (f g : Field) : Prop := f.stop ≤ g.offset ∨ g.stop ≤ f.offset

instance : DecidableRel FieldOf.Apart := fun f g => inferInstanceAs (Decidable (f.stop ≤ g.offset ∨ g.stop ≤ f.offset))

/-- fields of distinct names, inside a body of a size and apart from each other -/
structure Fits (size : Nat) (fields : List Field) : Prop where
  names : (fields.map FieldOf.name).Nodup
  within : ∀ f ∈ fields, f.stop ≤ size
  apart : fields.Pairwise FieldOf.Apart

instance (size : Nat) (fields : List Field) : Decidable (Fits size fields) :=
  decidable_of_iff ((fields.map FieldOf.name).Nodup ∧ (∀ f ∈ fields, f.stop ≤ size) ∧ fields.Pairwise FieldOf.Apart)
    ⟨fun h => ⟨h.1, h.2.1, h.2.2⟩, fun h => ⟨h.names, h.within, h.apart⟩⟩

/-- records take some bytes each, hold no records themselves, and their fields fit -/
def Wire.RecordsFit : Wire → Prop
  | .records stride fields => 0 < stride ∧ (∀ f ∈ fields, f.wire.isCounted = false) ∧ Fits stride fields
  | _ => True

instance : DecidablePred Wire.RecordsFit := fun wire =>
  match wire with
  | .records stride fields =>
    inferInstanceAs (Decidable (0 < stride ∧ (∀ f ∈ fields, f.wire.isCounted = false) ∧ Fits stride fields))
  | .int _ | .bool | .single | .scaled .. | .ascii _ | .flags _ => isTrue trivial

namespace Layout

/-- a table that writes every value to a place of its own -/
structure Separate (l : Layout) : Prop where
  fits : Fits l.size l.fields
  records : ∀ f ∈ l.fields, f.wire.RecordsFit
  /-- records stand last in the table -/
  last : ∀ f ∈ l.fields.dropLast, f.wire.isCounted = false
  /-- and their count ends the fixed part -/
  tail : ∀ f ∈ l.fields, f.wire.isCounted → f.stop = l.size

instance (l : Layout) : Decidable l.Separate :=
  decidable_of_iff (Fits l.size l.fields ∧ (∀ f ∈ l.fields, f.wire.RecordsFit)
      ∧ (∀ f ∈ l.fields.dropLast, f.wire.isCounted = false) ∧ ∀ f ∈ l.fields, f.wire.isCounted → f.stop = l.size)
    ⟨fun h => ⟨h.1, h.2.1, h.2.2.1, h.2.2.2⟩, fun h => ⟨h.fits, h.records, h.last, h.tail⟩⟩

/-- a table that can be written and read back -/
structure WellFormed (l : Layout) : Prop where
  fits : Fits l.size l.fields
  records : ∀ f ∈ l.fields, f.wire.RecordsFit
  /-- records stand last in the table -/
  last : ∀ f ∈ l.fields.dropLast, f.wire.isCounted = false
  /-- and their count ends the fixed part -/
  tail : ∀ f ∈ l.fields, f.wire.isCounted → f.stop = l.size
  /-- a body that leaves out its optional fields is too short for them -/
  late : ∀ f ∈ l.fields, f.optional → l.minSize < f.stop

instance (l : Layout) : Decidable l.WellFormed :=
  decidable_of_iff (Fits l.size l.fields ∧ (∀ f ∈ l.fields, f.wire.RecordsFit)
      ∧ (∀ f ∈ l.fields.dropLast, f.wire.isCounted = false) ∧ (∀ f ∈ l.fields, f.wire.isCounted → f.stop = l.size)
      ∧ ∀ f ∈ l.fields, f.optional → l.minSize < f.stop)
    ⟨fun h => ⟨h.1, h.2.1, h.2.2.1, h.2.2.2.1, h.2.2.2.2⟩, fun h => ⟨h.fits, h.records, h.last, h.tail, h.late⟩⟩

theorem WellFormed.separate {l : Layout} (h : l.WellFormed) : l.Separate := ⟨h.fits, h.records, h.last, h.tail⟩

end Layout

/-! ### One field written over a body -/

/-- a body changed inside the region of a field only -/
structure FieldOf.Changes (f : Field) (b c : Bytes) : Prop where
  length : c.length = b.length
  outside : ∀ o n, o + n ≤ f.offset ∨ f.stop ≤ o → Bytes.slice c o n = Bytes.slice b o n

variable {a : Arithmetic} {f : Field} {v : Value} {b c patch : Bytes}

theorem FieldOf.Changes.refl : f.Changes b b := ⟨rfl, fun _ _ _ => rfl⟩

theorem FieldOf.Changes.of_patch (h : b.patch? f.offset patch = some c) (hsize : patch.length ≤ f.wire.size) :
    f.Changes b c where
  length := Bytes.length_patch h
  outside o n hout := by
    refine Bytes.slice_patch_apart h ?_
    rw [FieldOf.stop] at hout
    omega

theorem FieldOf.write_eq_ok :
    f.write a v b = .ok c ↔ ∃ patch, Wire.Writes a f.wire v patch ∧ b.patch? f.offset patch = some c := by
  constructor
  · intro h
    rw [FieldOf.write] at h
    split at h
    · exact nomatch h
    · obtain ⟨patch, hpatch, hrest⟩ := bind_eq_ok.mp h
      split at hrest
      · next hsome =>
        cases hrest
        exact ⟨patch, Wire.encode_eq_ok.mp hpatch, hsome⟩
      · exact nomatch hrest
  · rintro ⟨patch, hpatch, hsome⟩
    obtain ⟨hfits, -⟩ := Bytes.patch?_eq_some.mp hsome
    rw [FieldOf.write, if_neg (by omega), Wire.encode_eq_ok.mpr hpatch, ok_bind, hsome]

/-! ### One field of a body on its way -/

/-- what one field does to a draft -/
inductive Layout.Step (a : Arithmetic) (values : FieldValues) (d : Layout.Draft) (f : Field) : Layout.Draft → Prop where
  | missing (absent : values.get? f.name = none) (optional : f.optional) : Step a values d f { d with short := true }
  | plain {v : Value} {patch body : Bytes} (present : values.get? f.name = some v) (writes : Wire.Writes a f.wire v patch)
      (patched : d.body.patch? f.offset patch = some body) : Step a values d f { d with body }
  | counted {stride : Nat} {fields : List Field} {items : List FieldValues} {records : List Bytes} {body : Bytes}
      (wire : f.wire = .records stride fields) (present : values.get? f.name = some (.records items))
      (few : items.length ≤ 65535)
      (patched : d.body.patch? f.offset (Width.u16.write items.length) = some body)
      (encoded : items.mapM (Layout.encodeRecord a stride fields) = .ok records) :
      Step a values d f { d with body, tail := d.tail ++ records.flatten }

namespace Layout

variable {values : FieldValues} {d d' : Draft}

theorem encodeField_eq_ok : encodeField a values d f = .ok d' ↔ Step a values d f d' := by
  constructor
  · intro h
    unfold encodeField at h
    split at h
    · next habsent =>
      split at h
      · next hoptional =>
        cases h
        exact .missing habsent hoptional
      · exact nomatch h
    · next v hpresent =>
      split at h
      · next stride fields hwire =>
        split at h
        · next items =>
          split at h
          · exact nomatch h
          · next hfew =>
            split at h
            · exact nomatch h
            · next body hpatched =>
              obtain ⟨records, hrecords, hrest⟩ := bind_eq_ok.mp h
              cases hrest
              exact .counted hwire hpresent (not_lt.mp hfew) hpatched hrecords
        · exact nomatch h
      · obtain ⟨body, hbody, hrest⟩ := bind_eq_ok.mp h
        obtain ⟨patch, hwrites, hpatched⟩ := FieldOf.write_eq_ok.mp hbody
        cases hrest
        exact .plain hpresent hwrites hpatched
  · intro h
    cases h with
    | missing habsent hoptional => rw [encodeField, habsent, if_pos hoptional]
    | @plain v patch body hpresent hwrites hpatched =>
      have hwrite : f.write a v d.body = .ok body := FieldOf.write_eq_ok.mpr ⟨patch, hwrites, hpatched⟩
      have hplain := hwrites.not_isCounted
      rw [encodeField, hpresent]
      dsimp only
      split
      · next hwire =>
        rw [hwire] at hplain
        exact nomatch hplain
      · rw [hwrite]
        rfl
    | @counted stride fields items records body hwire hpresent hfew hpatched hrecords =>
      rw [encodeField, hpresent]
      dsimp only
      rw [hwire]
      dsimp only
      rw [if_neg (not_lt.mpr hfew), hpatched, hrecords]
      rfl

theorem Step.changes (h : Step a values d f d') : f.Changes d.body d'.body := by
  cases h with
  | missing => exact .refl
  | plain present writes patched => exact .of_patch patched writes.length_le
  | counted wire present few patched encoded =>
    refine .of_patch patched ?_
    rw [Width.length_write, wire]
    rfl

end Layout

/-! ### Folds over the fields of a table -/

section Folds

variable {σ : Type} (body : σ → Bytes) {step : σ → Field → Except Error σ} {s s' : σ} {fields : List Field}

/-- a fold changes nothing outside the regions of its fields -/
theorem changes_of_foldlM (hstep : ∀ f s s', step s f = .ok s' → f.Changes (body s) (body s'))
    (h : fields.foldlM step s = .ok s') :
    (body s').length = (body s).length ∧
      ∀ o n, (∀ f ∈ fields, o + n ≤ f.offset ∨ f.stop ≤ o) → Bytes.slice (body s') o n = Bytes.slice (body s) o n := by
  induction fields generalizing s with
  | nil =>
    cases h
    exact ⟨rfl, fun _ _ _ => rfl⟩
  | cons f fields ih =>
    obtain ⟨t, ht, hrest⟩ := foldlM_cons_eq_ok.mp h
    have hfirst := hstep f s t ht
    obtain ⟨hlength, houtside⟩ := ih hrest
    refine ⟨hlength.trans hfirst.length, fun o n hout => ?_⟩
    rw [houtside o n fun g hg => hout g (List.mem_cons_of_mem f hg)]
    exact hfirst.outside o n (hout f List.mem_cons_self)

/-- the fields around one element of a table are apart from it -/
theorem apart_around {pre post : List Field} {f : Field} (h : (pre ++ f :: post).Pairwise FieldOf.Apart) :
    (∀ g ∈ pre, f.stop ≤ g.offset ∨ g.stop ≤ f.offset) ∧ ∀ g ∈ post, f.stop ≤ g.offset ∨ g.stop ≤ f.offset := by
  obtain ⟨-, hrest, hcross⟩ := List.pairwise_append.mp h
  exact ⟨fun g hg => (hcross g hg f List.mem_cons_self).symm, fun g hg => (List.pairwise_cons.mp hrest).1 g hg⟩

/-- **Regions keep.** After a fold over fields apart from each other, the region of each is as its own step left it, and
before that step it was as at the start. -/
theorem region_of_foldlM {pre post : List Field} {f : Field}
    (hstep : ∀ f s s', step s f = .ok s' → f.Changes (body s) (body s'))
    (hapart : (pre ++ f :: post).Pairwise FieldOf.Apart) (h : (pre ++ f :: post).foldlM step s = .ok s') :
    ∃ t u, pre.foldlM step s = .ok t ∧ step t f = .ok u ∧ post.foldlM step u = .ok s'
      ∧ Bytes.slice (body t) f.offset f.wire.size = Bytes.slice (body s) f.offset f.wire.size
      ∧ Bytes.slice (body s') f.offset f.wire.size = Bytes.slice (body u) f.offset f.wire.size := by
  obtain ⟨t, u, hpre, hf, hpost⟩ := foldlM_split h
  obtain ⟨hbefore, hafter⟩ := apart_around hapart
  exact ⟨t, u, hpre, hf, hpost, (changes_of_foldlM body hstep hpre).2 _ _ hbefore,
    (changes_of_foldlM body hstep hpost).2 _ _ hafter⟩

end Folds

end VisionMixer
