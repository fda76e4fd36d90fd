/-
Which values a table writes.

Values are written if they are of the kinds of their fields, none missing that must be there and none without a field
(`FieldValues.Typed`), and if their fields take them: numbers within the bounds of a scaled field, plain texts that are
not too long, lists that can be counted (`Wire.Takes`). Everything else is an encoding error (`guarded_encode`). The
integers of a scaled field fit its width wherever its numbers are within bounds (`fits_of_inRange`).
-/
import VisionMixer.Proofs.Field.Grammar

namespace VisionMixer

/-- an error of the kind that values cause which cannot be written -/
def Error.IsEncoding (e : Error) : Prop := ∃ fault, e = .encoding fault

theorem Width.guarded_encode {w : Width} {name : String} {n : Int} :
    Guarded Error.IsEncoding (w.low ≤ n ∧ n ≤ w.high) (w.encode name n) := by
  rw [Width.encode]
  refine (Guarded.check ⟨_, rfl⟩ fun _ => .ok _).congr ?_
  rw [and_true, not_or, not_lt, not_lt]

namespace Wire

/-- a number between the bounds of a scaled field, or no more than the tolerance past them -/
def Spans : Wire → Number → Prop
  | .scaled _ _ least greatest, x => ∃ q lo hi : Rat, x.toRat? = some q ∧ least.toRat? = some lo ∧
      greatest.toRat? = some hi ∧ lo - 1 / 1000000000 ≤ q ∧ q ≤ hi + 1 / 1000000000
  | _, _ => True

/-- what an encoding asks of a value of its kind -/
def Takes : Wire → Value → Prop
  | .ascii size, .text s => isPlain s ∧ s.utf8ByteSize ≤ size
  | .records .., .records items => items.length ≤ 65535
  | wire, .float x => wire.Spans x
  | _, _ => True

/-- the encoding of an integer -/
def isIntegral : Wire → Bool
  | .int _ | .flags _ => true
  | _ => false

/-- the integers between the bounds of a scaled field fit its width, and records are of integers that must be there -/
def isSound : Wire → Bool
  | .scaled w (.rational s) (.rational least) (.rational greatest) => (w.low : Rat) ≤ least * s && greatest * s ≤ w.high
  | .records _ fields => fields.all fun g => g.wire.isIntegral && !g.optional
  | _ => true

variable {wire : Wire} {v : Value} {name : String} {w : Width} {scale least greatest x : Number} {n : Int}

/-! ### Scaled numbers -/

theorem inRange_iff_spans (hregular : isRegular (.scaled w scale least greatest)) :
    inRange .exact least greatest x ↔ Spans (.scaled w scale least greatest) x := by
  obtain ⟨s, lo, hi, rfl, rfl, rfl, -⟩ := isRegular_scaled hregular
  constructor
  · intro h
    obtain ⟨q, hq⟩ := toRat?_of_inRange h
    obtain ⟨hlow, hhigh⟩ := (inRange_iff hq).mp h
    exact ⟨q, lo, hi, hq, rfl, rfl, hlow, hhigh⟩
  · rintro ⟨q, lo, hi, hq, hlo, hhi, hlow, hhigh⟩
    cases hlo
    cases hhi
    exact (inRange_iff hq).mpr ⟨hlow, hhigh⟩

/-- **Widths suffice.** A number that a scaled field lets through is written as an integer of its width. -/
theorem fits_of_inRange (hregular : isRegular (.scaled w scale least greatest))
    (hsound : isSound (.scaled w scale least greatest)) (h : inRange .exact least greatest x) :
    w.low ≤ (Arithmetic.exact.mul x scale).toInt64 ∧ (Arithmetic.exact.mul x scale).toInt64 ≤ w.high := by
  obtain ⟨s, lo, hi, rfl, rfl, rfl, hs, hunit, hlo, hhi⟩ := isRegular_scaled hregular
  obtain ⟨q, hq⟩ := toRat?_of_inRange h
  obtain ⟨hlow, hhigh⟩ := (inRange_iff hq).mp h
  obtain ⟨hleast, hgreatest⟩ := nearest_inRange hs hunit hlo hhi hlow hhigh
  rw [le_div_iff₀ hs] at hleast
  rw [div_le_iff₀ hs] at hgreatest
  simp only [isSound, Bool.and_eq_true, decide_eq_true_eq] at hsound
  have hbelow : w.low ≤ Number.roundAway (q * s) := by exact_mod_cast hsound.1.trans hleast
  have habove : Number.roundAway (q * s) ≤ w.high := by exact_mod_cast hgreatest.trans hsound.2
  have hbounds := w.bounds
  have hproduct : (Arithmetic.exact.mul x (.rational s)).toRat? = some (q * s) := Number.toRat?_mul hq rfl
  have hclamp := Number.toInt64_of_toRat? hproduct
  omega

/-! ### One value -/

/-- **A value** is written if it is of the kind of its field and the field takes it. -/
theorem guarded_encode (hplain : wire.isCounted = false) (hregular : wire.isRegular) (hsound : wire.isSound) :
    Guarded Error.IsEncoding (wire.Holds v ∧ wire.Takes v) (wire.encode .exact name v) := by
  unfold encode
  split
  · next w n =>
    refine Width.guarded_encode.congr ⟨fun h => ⟨.int h.1 h.2, trivial⟩, fun h => ?_⟩
    cases h.1 with
    | int low high => exact ⟨low, high⟩
  · next w n =>
    refine Width.guarded_encode.congr ⟨fun h => ⟨.flags h.1 h.2, trivial⟩, fun h => ?_⟩
    cases h.1 with
    | flags low high => exact ⟨low, high⟩
  · next b => exact (Guarded.ok _).congr ⟨fun _ => ⟨.bool b, trivial⟩, fun _ => trivial⟩
  · exact absurd hregular Bool.false_ne_true
  · next w scale least greatest x =>
    have hspans : Takes (.scaled w scale least greatest) (.float x) ↔ inRange .exact least greatest x :=
      (inRange_iff_spans hregular).symm
    split
    · next h =>
      have hfits := fits_of_inRange hregular hsound h
      exact Width.guarded_encode.congr ⟨fun _ => ⟨.scaled x, hspans.mpr h⟩, fun _ => hfits⟩
    · next h => exact (Guarded.error ⟨_, rfl⟩).congr ⟨False.elim, fun hv => h (hspans.mp hv.2)⟩
  · next size s =>
    refine (Guarded.check ⟨_, rfl⟩ fun _ => Guarded.check ⟨_, rfl⟩ fun _ => .ok _).congr ?_
    rw [Bool.not_eq_true', Bool.not_eq_false, not_lt, and_true]
    exact ⟨fun h => ⟨.ascii s, h⟩, And.right⟩
  · next hint hflags hbool hsingle hscaled hascii =>
    refine (Guarded.error ⟨_, rfl⟩).congr ⟨False.elim, fun h => ?_⟩
    cases h.1 with
    | int => exact hint _ _ rfl rfl
    | flags => exact hflags _ _ rfl rfl
    | bool => exact hbool _ rfl rfl
    | single => exact hsingle _ rfl rfl
    | scaled => exact hscaled _ _ _ _ _ rfl rfl
    | ascii => exact hascii _ _ rfl rfl
    | records => exact absurd hplain.symm Bool.false_ne_true

end Wire

variable {f : Field} {v : Value} {fields : List Field} {values item : FieldValues} {body : Bytes} {stride : Nat}

/-- the value of a field is written over a body that reaches its end -/
theorem FieldOf.guarded_write (hplain : f.wire.isCounted = false) (hregular : f.wire.isRegular) (hsound : f.wire.isSound)
    (hstop : f.stop ≤ body.length) :
    Guarded Error.IsEncoding (f.wire.Holds v ∧ f.wire.Takes v) (f.write .exact v body) := by
  have hroom : f.offset + f.wire.size ≤ body.length := hstop
  rw [FieldOf.write, if_neg (by omega)]
  refine ((Wire.guarded_encode hplain hregular hsound).bind fun patch hpatch => Succeeds.guarded ?_).congr
    (by rw [and_true])
  have hsize := (Wire.encode_eq_ok.mp hpatch).length_le
  have hpatched : body.patch? f.offset patch = some (body.take f.offset ++ patch ++ body.drop (f.offset + patch.length)) :=
    Bytes.patch?_eq_some.mpr ⟨by omega, rfl⟩
  rw [hpatched]
  exact .ok _

theorem FieldValues.guarded_checkCarried :
    Guarded Error.IsEncoding (∀ p ∈ values, ∃ f ∈ fields, f.name = p.1) (values.checkCarried fields) where
  ok_iff := ⟨fun ⟨_, h⟩ => checkCarried_eq_ok.mp h, fun h => ⟨(), checkCarried_eq_ok.mpr h⟩⟩
  kind_of_error := by
    intro e h
    rw [checkCarried] at h
    split at h
    · cases h
      exact ⟨_, rfl⟩
    · cases h

/-! ### Records -/

theorem Wire.takes_of_isIntegral {wire : Wire} (h : wire.isIntegral) : wire.Takes v := by
  cases wire with
  | int | flags => cases v <;> trivial
  | _ => exact absurd h Bool.false_ne_true

theorem Wire.sound_of_isIntegral {wire : Wire} (h : wire.isIntegral) :
    wire.isCounted = false ∧ wire.isRegular ∧ wire.isSound := by
  cases wire with
  | int | flags => exact ⟨rfl, rfl, rfl⟩
  | _ => exact absurd h Bool.false_ne_true

/-- **A record** of integers is written if it has one for each field, and nothing else. -/
theorem Layout.guarded_encodeRecord (hwithin : ∀ f ∈ fields, f.stop ≤ stride)
    (hinner : ∀ f ∈ fields, f.wire.isIntegral ∧ f.optional = false) :
    Guarded Error.IsEncoding (item.Typed fields) (Layout.encodeRecord .exact stride fields item) := by
  have hlength : (Bytes.zeros stride).length = stride := List.length_replicate
  rw [encodeRecord]
  -- every field is written over a record of its full size
  refine (FieldValues.guarded_checkCarried.bind fun _ _ => Guarded.foldlM (fun record : Bytes => record.length = stride)
    (fun f : Field => ∃ v, item.get? f.name = some v ∧ f.wire.Holds v)
    (fun f hf record hrecord => ⟨?_, fun record' h => ?_⟩) hlength).congr ?_
  · obtain ⟨hplain, hregular, hsound⟩ := Wire.sound_of_isIntegral (hinner f hf).1
    rw [encodeInRecord]
    cases hv : item.get? f.name with
    | none => exact (Guarded.error ⟨_, rfl⟩).congr (by simp)
    | some v =>
      refine (FieldOf.guarded_write hplain hregular hsound (hrecord ▸ hwithin f hf)).congr ?_
      simp [Wire.takes_of_isIntegral (hinner f hf).1]
  · obtain ⟨v, patch, -, -, hpatch⟩ := encodeInRecord_eq_ok.mp h
    exact (Bytes.length_patch hpatch).trans hrecord
  constructor
  · rintro ⟨hcarried, hholds⟩
    refine ⟨fun f hf _ => ?_, hcarried, fun f hf v hv => ?_⟩
    · obtain ⟨v, hv, -⟩ := hholds f hf
      rw [hv]
      rfl
    · obtain ⟨v', hv', hholds'⟩ := hholds f hf
      cases hv.symm.trans hv'
      exact hholds'
  · intro h
    refine ⟨h.carried, fun f hf => ?_⟩
    obtain ⟨v, hv⟩ := Option.isSome_iff_exists.mp (h.named f hf (by rw [(hinner f hf).2]; decide))
    exact ⟨v, hv, h.held f hf v hv⟩

/-! ### Tables -/

namespace Layout

variable {l : Layout} {d : Draft}

/-- a table whose fields are all regular and sound -/
def isSound (l : Layout) : Bool := l.fields.all (·.wire.isSound)

/-- every value is one that its field takes -/
def Takes (l : Layout) (values : FieldValues) : Prop :=
  ∀ f ∈ l.fields, ∀ v, values.get? f.name = some v → f.wire.Takes v

/-- one field of a body on its way -/
theorem guarded_encodeField (hfit : f.wire.RecordsFit) (hregular : f.wire.isRegular) (hsound : f.wire.isSound)
    (hstop : f.stop ≤ d.body.length) :
    Guarded Error.IsEncoding ((¬f.optional → (values.get? f.name).isSome) ∧
      ∀ v, values.get? f.name = some v → f.wire.Holds v ∧ f.wire.Takes v) (encodeField .exact values d f) := by
  unfold encodeField
  cases values.get? f.name with
  | none =>
    dsimp only
    split
    · next hoptional => exact (Guarded.ok _).congr (by simp [hoptional])
    · next hoptional => exact (Guarded.error ⟨_, rfl⟩).congr (by simp [hoptional])
  | some v =>
    suffices h : Guarded Error.IsEncoding (f.wire.Holds v ∧ f.wire.Takes v) _ from h.congr (by simp)
    dsimp only
    split
    · next stride fields hwire =>
      rw [hwire] at hfit hsound ⊢
      have hinner : ∀ g ∈ fields, g.wire.isIntegral ∧ g.optional = false := by
        simpa [Wire.isSound] using hsound
      split
      · next items =>
        have hroom : f.offset + 2 ≤ d.body.length := by rwa [FieldOf.stop, hwire] at hstop
        have hpatched : d.body.patch? f.offset (Width.u16.write items.length) = some
            (d.body.take f.offset ++ Width.u16.write items.length ++ d.body.drop (f.offset + 2)) :=
          Bytes.patch?_eq_some.mpr ⟨by rwa [Width.length_write], rfl⟩
        rw [hpatched]
        refine (Guarded.check ⟨_, rfl⟩ fun _ => (Guarded.mapM fun item _ =>
          guarded_encodeRecord hfit.2.2.within hinner).bind fun _ _ => .ok _).congr ?_
        rw [not_lt, and_true]
        constructor
        · rintro ⟨hfew, htyped⟩
          exact ⟨.records (fun item hitem => (htyped item hitem).named) (fun item hitem => (htyped item hitem).carried)
            fun item hitem => (htyped item hitem).held, hfew⟩
        · rintro ⟨hholds, hfew⟩
          cases hholds with
          | records named carried held =>
            exact ⟨hfew, fun item hitem => ⟨named item hitem, carried item hitem, held item hitem⟩⟩
      · next hnone =>
        refine (Guarded.error ⟨_, rfl⟩).congr ⟨False.elim, fun h => ?_⟩
        cases h.1 with
        | records => exact hnone _ rfl
    · next hplain =>
      have hcounted : f.wire.isCounted = false := by
        cases hwire : f.wire with
        | records stride fields => exact (hplain stride fields hwire).elim
        | _ => rfl
      exact ((FieldOf.guarded_write hcounted hregular hsound hstop).bind fun _ _ => .ok _).congr (by rw [and_true])

/-- **A table** writes values that are of its kinds and that its fields take. -/
theorem guarded_encode (hwf : l.WellFormed) (hregular : l.isRegular) (hsound : l.isSound) :
    Guarded Error.IsEncoding (values.Typed l.fields ∧ l.Takes values) (l.encode .exact values) := by
  have hlength : (Bytes.zeros l.size).length = l.size := List.length_replicate
  have hfields : Guarded Error.IsEncoding (∀ f ∈ l.fields, (¬f.optional → (values.get? f.name).isSome) ∧
      ∀ v, values.get? f.name = some v → f.wire.Holds v ∧ f.wire.Takes v)
      (l.fields.foldlM (encodeField .exact values) ⟨Bytes.zeros l.size, [], false⟩) := by
    refine Guarded.foldlM (fun d : Draft => d.body.length = l.size) _ (fun f hf d hd => ⟨?_, fun d' h => ?_⟩) hlength
    · exact guarded_encodeField (hwf.records f hf) (isRegular_of_mem hregular hf).1 (List.all_eq_true.mp hsound f hf)
        (hd ▸ hwf.fits.within f hf)
    · exact (encodeField_changes f d d' h).length.trans hd
  rw [encode]
  refine (FieldValues.guarded_checkCarried.bind fun _ _ => hfields.bind fun _ _ => .ok _).congr ?_
  rw [and_true]
  constructor
  · rintro ⟨hcarried, h⟩
    exact ⟨⟨fun f hf => (h f hf).1, hcarried, fun f hf v hv => ((h f hf).2 v hv).1⟩, fun f hf v hv => ((h f hf).2 v hv).2⟩
  · rintro ⟨htyped, htakes⟩
    exact ⟨htyped.carried, fun f hf => ⟨htyped.named f hf, fun v hv => ⟨htyped.held f hf v hv, htakes f hf v hv⟩⟩⟩

end Layout

/-! ### Values one after another -/

/-- a value is of the kind of all fields of its name -/
structure Suits (fields : List Field) (p : String × Value) : Prop where
  held : ∀ f ∈ fields, f.name = p.1 → f.wire.Holds p.2

/-- values have the names of a table: none is missing that must be there, and none has no field -/
def FieldValues.isNamedBy (fields : List Field) (values : FieldValues) : Bool :=
  (fields.all fun f => f.optional || values.any (·.1 = f.name)) && values.all fun p => fields.any (·.name = p.1)

theorem FieldValues.get?_isSome_iff {name : String} : (values.get? name).isSome ↔ values.any (·.1 = name) := by
  rw [get?, Option.isSome_map, List.find?_isSome, List.any_eq_true]

/-- values that suit a table one by one are of its kinds if they have its names -/
theorem FieldValues.typed_iff (hsuits : ∀ p ∈ values, Suits fields p) :
    values.Typed fields ↔ isNamedBy fields values := by
  rw [isNamedBy, Bool.and_eq_true, List.all_eq_true, List.all_eq_true]
  constructor
  · intro h
    refine ⟨fun f hf => ?_, fun p hp => ?_⟩
    · by_cases hoptional : f.optional = true
      · rw [hoptional, Bool.true_or]
      · rw [Bool.eq_false_iff.mpr hoptional, Bool.false_or]
        exact get?_isSome_iff.mp (h.named f hf hoptional)
    · obtain ⟨f, hf, hname⟩ := h.carried p hp
      exact List.any_eq_true.mpr ⟨f, hf, decide_eq_true hname⟩
  · rintro ⟨hall, hcarried⟩
    refine ⟨fun f hf hrequired => ?_, fun p hp => ?_, fun f hf v hv => ?_⟩
    · have hany := hall f hf
      rw [Bool.eq_false_iff.mpr hrequired, Bool.false_or] at hany
      exact get?_isSome_iff.mpr hany
    · obtain ⟨f, hf, hname⟩ := List.any_eq_true.mp (hcarried p hp)
      exact ⟨f, hf, of_decide_eq_true hname⟩
    · obtain ⟨p, hp, rfl⟩ := Option.map_eq_some_iff.mp hv
      have hname : p.1 = f.name := by simpa using List.find?_some hp
      exact (hsuits p (List.mem_of_find?_eq_some hp)).held f hf hname.symm

namespace Suits

variable {name : String} {kind : Wire → Bool}

theorem of_allows (h : Allows fields name kind) (hholds : ∀ wire, kind wire = true → wire.Holds v) :
    Suits fields (name, v) := by
  refine ⟨fun f hf hname => ?_⟩
  have hkind := List.all_eq_true.mp h f hf
  rw [Bool.or_eq_true, decide_eq_true_eq] at hkind
  exact hholds f.wire (hkind.resolve_left fun hne => hne hname)

theorem width {w : Width} {n : Int} (low : w.low ≤ n) (high : n ≤ w.high) (h : Allows fields name (Wire.isInteger w)) :
    Suits fields (name, .int n) := by
  refine of_allows h fun wire hkind => ?_
  cases wire with
  | int w' =>
    obtain rfl : w' = w := by simpa [Wire.isInteger] using hkind
    exact .int low high
  | flags w' =>
    obtain rfl : w' = w := by simpa [Wire.isInteger] using hkind
    exact .flags low high
  | _ => exact absurd hkind Bool.false_ne_true

theorem byte (x : UInt8) (h : Allows fields name (Wire.isInteger .u8)) : Suits fields (name, .byte x) := by
  have hx := x.toNat_lt
  refine width ?_ ?_ h
  · exact Int.natCast_nonneg _
  · show (x.toNat : Int) ≤ 0xFF
    omega

theorem word (x : UInt16) (h : Allows fields name (Wire.isInteger .u16)) : Suits fields (name, .word x) := by
  have hx := x.toNat_lt
  refine width ?_ ?_ h
  · exact Int.natCast_nonneg _
  · show (x.toNat : Int) ≤ 0xFFFF
    omega

theorem bool (b : Bool) (h : Allows fields name Wire.isTruth) : Suits fields (name, .bool b) := by
  refine of_allows h fun wire hkind => ?_
  cases wire with
  | bool => exact .bool b
  | _ => exact absurd hkind Bool.false_ne_true

theorem float (x : Number) (h : Allows fields name Wire.isNumber) : Suits fields (name, .float x) := by
  refine of_allows h fun wire hkind => ?_
  cases wire with
  | single => exact .single x
  | scaled => exact .scaled x
  | _ => exact absurd hkind Bool.false_ne_true

theorem text (s : String) (h : Allows fields name Wire.isText) : Suits fields (name, .text s) := by
  refine of_allows h fun wire hkind => ?_
  cases wire with
  | ascii => exact .ascii s
  | _ => exact absurd hkind Bool.false_ne_true

/-- a value that may be missing -/
theorem maybe {α : Type} {x : Option α} {value : α → Value} (h : ∀ y, Suits fields (name, value y)) :
    ∀ p ∈ FieldValues.maybe name (x.map value), Suits fields p := by
  cases x with
  | none => exact List.forall_mem_nil _
  | some y => exact List.forall_mem_singleton.mpr (h y)

end Suits

end VisionMixer
