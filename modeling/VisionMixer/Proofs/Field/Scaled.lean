/-
Scaled fields in exact arithmetic.

A scaled field that has accepted a number reads back the nearest multiple of its unit (`Writes.settle_eq_nearest`,
`nearest_isNearest`). Where the bounds of the field are such multiples themselves, that number is accepted again and has
the same bytes (`Writes.nearest`). So a table of such fields reads back the nearest values
(`Layout.decode_encode_exact`) and writes one body for values and for what is read back of them (`Layout.encode_nearest`).
-/
import Mathlib.Tactic
import VisionMixer.Proofs.Field.RoundTrip
import VisionMixer.Proofs.Number.Nearest

namespace VisionMixer

namespace Wire

/-- the multiple of the unit of a field nearest to a number, a half going away from zero -/
def nearest : Wire → Number → Number
  | .scaled _ scale _ _, x =>
    match x.toRat?, scale.toRat? with
    | some q, some s => .rational (Number.roundAway (q * s) / s)
    | _, _ => x
  | _, x => x

/-- the encoding of a scaled number -/
def isScaled : Wire → Bool
  | .scaled .. => true
  | _ => false

/-- a multiple of the unit of a scaled field -/
def IsMultiple : Wire → Number → Prop
  | .scaled _ scale _ _, x => ∃ n : Int, ∃ s, scale.toRat? = some s ∧ x.toRat? = some (n / s)
  | _, _ => False

/-- no single precision, and bounds of scaled values that are multiples of a unit well above the tolerance -/
def isRegular : Wire → Bool
  | .scaled _ (.rational s) (.rational least) (.rational greatest) =>
    0 < s && s < 500000000 && (least * s).isInt && (greatest * s).isInt
  | .scaled .. | .single => false
  | _ => true

/-- no single precision, and a positive rational to scale by -/
def isExact : Wire → Bool
  | .scaled _ (.rational s) _ _ => 0 < s
  | .scaled .. | .single => false
  | _ => true

/-- the fields of the records that an encoding counts -/
def inner : Wire → List Field
  | .records _ fields => fields
  | _ => []

variable {wire : Wire} {v : Value} {patch : Bytes} {x : Number}

/-- a multiple is nearest to itself, up to the sign of a zero -/
theorem nearest_beq (h : wire.IsMultiple x) : (wire.nearest x == x) = true := by
  cases wire with
  | scaled w scale least greatest =>
    obtain ⟨n, s, hs, hx⟩ := h
    have hinteger : ∃ m : Int, (n / s * s : Rat) = m ∧ (m / s : Rat) = n / s := by
      by_cases hzero : s = 0
      · exact ⟨0, by simp [hzero], by simp [hzero]⟩
      · exact ⟨n, div_mul_cancel₀ _ hzero, rfl⟩
    obtain ⟨m, hproduct, hquotient⟩ := hinteger
    rw [nearest, hx, hs]
    refine Number.beq_of_toRat? (p := n / s) ?_ hx
    simp only [hproduct, Number.roundAway_intCast, Number.toRat?, hquotient]
  | _ => exact h.elim

/-! ### What a scaled field reads back -/

section Scaled

variable {w : Width} {least greatest : Number} {q s : Rat}

/-- an integer that fits a width is not held to 64 bits -/
theorem toInt64_eq_roundAway (hx : x.toRat? = some q) (low : w.low ≤ x.toInt64) (high : x.toInt64 ≤ w.high) :
    x.toInt64 = Number.roundAway q := by
  have hbounds := w.bounds
  have hclamp := Number.toInt64_of_toRat? hx
  omega

theorem nearest_scaled (hx : x.toRat? = some q) :
    nearest (.scaled w (.rational s) least greatest) x = .rational (Number.roundAway (q * s) / s) := by
  rw [nearest, hx]
  rfl

/-- **Nearest.** No multiple of the unit is nearer, and one that is as near is no farther from zero. -/
theorem nearest_isNearest (hs : 0 < s) (hx : x.toRat? = some q) :
    ∃ m : Int, nearest (.scaled w (.rational s) least greatest) x = .rational (m / s)
      ∧ ∀ n : Int, |q - m / s| ≤ |q - n / s| ∧ (|q - n / s| = |q - m / s| → |(n / s : Rat)| ≤ |(m / s : Rat)|) := by
  refine ⟨Number.roundAway (q * s), nearest_scaled hx, fun n => ?_⟩
  -- distances from `q` times `s` are distances from `q * s`
  have hscale (k : Int) : |q - k / s| = |q * s - k| / s := by
    rw [← abs_of_pos hs, ← abs_div, abs_of_pos hs, sub_div, mul_div_cancel_right₀ _ hs.ne']
  rw [hscale, hscale, div_left_inj' hs.ne', abs_div, abs_div, div_le_div_iff_of_pos_right hs,
    div_le_div_iff_of_pos_right (abs_pos.mpr hs.ne')]
  exact ⟨Number.abs_sub_roundAway_le_abs_sub _ n, Number.abs_le_abs_roundAway⟩

/-- the rational of a number that a scaled field accepts -/
theorem toRat?_of_inRange {a : Arithmetic} (h : inRange a least greatest x) : ∃ q, x.toRat? = some q := by
  rw [inRange, Bool.and_eq_true, Bool.and_eq_true] at h
  exact Option.isSome_iff_exists.mp h.1.1

theorem settle_scaled (hs : 0 < s) (hx : x.toRat? = some q)
    (low : w.low ≤ (Arithmetic.exact.mul x (.rational s)).toInt64)
    (high : (Arithmetic.exact.mul x (.rational s)).toInt64 ≤ w.high) :
    Arithmetic.exact.settle (.scaled w (.rational s) least greatest) x =
      nearest (.scaled w (.rational s) least greatest) x := by
  have hproduct : (Arithmetic.exact.mul x (.rational s)).toRat? = some (q * s) := Number.toRat?_mul hx rfl
  rw [nearest_scaled hx, ← toInt64_eq_roundAway hproduct low high]
  exact Number.ofInt_div _ hs

/-- in exact arithmetic the range of a scaled field is an interval of rationals -/
theorem inRange_iff {lo hi : Rat} (hx : x.toRat? = some q) :
    inRange .exact (.rational lo) (.rational hi) x ↔ lo - 1 / 1000000000 ≤ q ∧ q ≤ hi + 1 / 1000000000 := by
  have hfinite : x.isFinite := by rw [Number.isFinite, hx]; rfl
  have hlow : (Arithmetic.exact.sub (.rational lo) tolerance).toRat? = some (lo - 1 / 1000000000) :=
    Number.toRat?_sub rfl rfl
  have hhigh : (Arithmetic.exact.add (.rational hi) tolerance).toRat? = some (hi + 1 / 1000000000) :=
    Number.toRat?_add (x := .rational hi) (y := tolerance) rfl rfl
  rw [inRange, hfinite, Bool.true_and, Bool.and_eq_true, Bool.not_eq_true', Bool.not_eq_true', ← Bool.not_eq_true,
    ← Bool.not_eq_true, Number.lt_iff hx hlow, Number.lt_iff hhigh hx, not_lt, not_lt]

/-- between bounds that are multiples of the unit lies the nearest multiple too -/
theorem nearest_inRange {lo hi : Rat} (hs : 0 < s) (hunit : s < 500000000) (hlo : (lo * s).isInt) (hhi : (hi * s).isInt)
    (hlow : lo - 1 / 1000000000 ≤ q) (hhigh : q ≤ hi + 1 / 1000000000) :
    lo ≤ Number.roundAway (q * s) / s ∧ (Number.roundAway (q * s) : Rat) / s ≤ hi := by
  have hL : ((lo * s).num : Rat) = lo * s := (Rat.eq_num_of_isInt hlo).symm
  have hH : ((hi * s).num : Rat) = hi * s := (Rat.eq_num_of_isInt hhi).symm
  have hbelow : (lo * s).num ≤ Number.roundAway (q * s) := by
    refine Number.le_roundAway ?_
    rw [hL]
    nlinarith
  have habove : Number.roundAway (q * s) ≤ (hi * s).num := by
    refine Number.roundAway_le ?_
    rw [hH]
    nlinarith
  constructor
  · rw [le_div_iff₀ hs, ← hL]
    exact_mod_cast hbelow
  · rw [div_le_iff₀ hs, ← hH]
    exact_mod_cast habove

end Scaled

/-- a regular scaled field has rational parameters -/
theorem isRegular_scaled {w : Width} {scale least greatest : Number} (h : isRegular (.scaled w scale least greatest)) :
    ∃ s lo hi : Rat, scale = .rational s ∧ least = .rational lo ∧ greatest = .rational hi ∧ 0 < s ∧ s < 500000000
      ∧ (lo * s).isInt ∧ (hi * s).isInt := by
  unfold isRegular at h
  split at h
  · next s lo hi heq =>
    cases heq
    simp only [Bool.and_eq_true, decide_eq_true_eq] at h
    exact ⟨s, lo, hi, rfl, rfl, rfl, h.1.1.1, h.1.1.2, h.1.2, h.2⟩
  · exact nomatch h
  · exact nomatch h
  · next hscaled _ => exact absurd rfl (hscaled w scale least greatest)

theorem isExact_scaled {w : Width} {scale least greatest : Number} (h : isExact (.scaled w scale least greatest)) :
    ∃ s : Rat, scale = .rational s ∧ 0 < s := by
  cases scale with
  | rational s => exact ⟨s, rfl, of_decide_eq_true h⟩
  | _ => exact nomatch h

theorem isExact_of_isRegular (h : wire.isRegular) : wire.isExact := by
  cases wire with
  | scaled w scale least greatest =>
    obtain ⟨s, lo, hi, rfl, -, -, hs, -⟩ := isRegular_scaled h
    exact decide_eq_true hs
  | single => exact nomatch h
  | _ => rfl

/-- **Reading back is rounding.** -/
theorem Writes.settle_eq_nearest (hexact : wire.isExact) (h : Writes .exact wire v patch) :
    v.mapNumber Arithmetic.exact.settle wire = v.mapNumber nearest wire := by
  cases h with
  | int | flags | bool | ascii => rfl
  | single => exact nomatch hexact
  | scaled inRange low high =>
    obtain ⟨s, rfl, hs⟩ := isExact_scaled hexact
    obtain ⟨q, hq⟩ := toRat?_of_inRange inRange
    exact congrArg Value.float (settle_scaled hs hq low high)

/-- **What was read back has the same bytes.** -/
theorem Writes.nearest (hregular : wire.isRegular) (h : Writes .exact wire v patch) :
    Writes .exact wire (v.mapNumber Wire.nearest wire) patch := by
  cases h with
  | int low high => exact .int low high
  | flags low high => exact .flags low high
  | bool b => exact .bool b
  | single => exact nomatch hregular
  | ascii plain fits => exact .ascii plain fits
  | @scaled w scale least greatest x hrange low high =>
    obtain ⟨s, lo, hi, rfl, rfl, rfl, hs, hunit, hlo, hhi⟩ := isRegular_scaled hregular
    obtain ⟨q, hq⟩ := toRat?_of_inRange hrange
    have hproduct : (Arithmetic.exact.mul x (.rational s)).toRat? = some (q * s) := Number.toRat?_mul hq rfl
    have hn := toInt64_eq_roundAway hproduct low high
    -- the multiple times the scale is the integer again
    have hagain : (Arithmetic.exact.mul (.rational (Number.roundAway (q * s) / s)) (.rational s)).toRat? =
        some ((Number.roundAway (q * s) : Int) : Rat) := by
      have hmul := Number.toRat?_mul (x := .rational (Number.roundAway (q * s) / s)) (y := .rational s) rfl rfl
      rwa [div_mul_cancel₀ _ hs.ne'] at hmul
    have hsame : (Arithmetic.exact.mul (.rational (Number.roundAway (q * s) / s)) (.rational s)).toInt64 =
        (Arithmetic.exact.mul x (.rational s)).toInt64 := by
      rw [Number.toInt64_of_toRat? hagain, Number.toInt64_of_toRat? hproduct, Number.roundAway_intCast]
    obtain ⟨hlow, hhigh⟩ := (inRange_iff hq).mp hrange
    obtain ⟨hlow, hhigh⟩ := nearest_inRange hs hunit hlo hhi hlow hhigh
    have hrange' : inRange .exact (.rational lo) (.rational hi) (.rational (Number.roundAway (q * s) / s)) :=
      (inRange_iff rfl).mpr ⟨by linarith, by linarith⟩
    rw [Value.mapNumber, nearest_scaled hq, ← hsame]
    exact .scaled hrange' (hsame ▸ low) (hsame ▸ high)

end Wire

/-! ### Whole tables -/

namespace Layout

/-- a table of regular fields only, in its records too -/
def isRegular (l : Layout) : Bool := l.fields.all fun f => f.wire.isRegular && f.wire.inner.all (·.wire.isRegular)

/-- a table whose numbers are all written exactly or in a unit, in its records too -/
def isExact (l : Layout) : Bool := l.fields.all fun f => f.wire.isExact && f.wire.inner.all (·.wire.isExact)

variable {l : Layout} {values item : FieldValues} {fields : List Field} {f : Field} {d d' : Draft} {stride : Nat}
  {chunk body : Bytes}

theorem isRegular_of_mem (h : l.isRegular) (hf : f ∈ l.fields) :
    f.wire.isRegular ∧ ∀ g ∈ f.wire.inner, g.wire.isRegular := by
  have hboth := List.all_eq_true.mp h f hf
  rw [Bool.and_eq_true, List.all_eq_true] at hboth
  exact hboth

theorem isExact_of_mem (h : l.isExact) (hf : f ∈ l.fields) : f.wire.isExact ∧ ∀ g ∈ f.wire.inner, g.wire.isExact := by
  have hboth := List.all_eq_true.mp h f hf
  rw [Bool.and_eq_true, List.all_eq_true] at hboth
  exact hboth

theorem isExact_of_isRegular (h : l.isRegular) : l.isExact := by
  refine List.all_eq_true.mpr fun f hf => ?_
  obtain ⟨hwire, hinner⟩ := isRegular_of_mem h hf
  rw [Bool.and_eq_true, List.all_eq_true]
  exact ⟨Wire.isExact_of_isRegular hwire, fun g hg => Wire.isExact_of_isRegular (hinner g hg)⟩

/-- the scaled numbers among the values of a table, each with its encoding -/
def numbers (l : Layout) (values : FieldValues) : List (Wire × Number) :=
  l.fields.filterMap fun f =>
    match f.wire, values.get? f.name with
    | .scaled w scale least greatest, some (.float x) => some (.scaled w scale least greatest, x)
    | _, _ => none

/-! #### Records -/

/-- every field of a written record has a value of its own -/
theorem writes_of_encodeRecord {a : Arithmetic} (h : encodeRecord a stride fields item = .ok chunk) (hf : f ∈ fields) :
    ∃ v patch, item.get? f.name = some v ∧ Wire.Writes a f.wire v patch := by
  rw [encodeRecord] at h
  obtain ⟨-, -, hfold⟩ := bind_eq_ok.mp h
  obtain ⟨pre, post, rfl⟩ := List.append_of_mem hf
  obtain ⟨t, u, -, hstep, -⟩ := foldlM_split hfold
  obtain ⟨v, patch, hv, hwrites, -⟩ := encodeInRecord_eq_ok.mp hstep
  exact ⟨v, patch, hv, hwrites⟩

theorem along_record (hexact : ∀ f ∈ fields, f.wire.isExact) (h : encodeRecord .exact stride fields item = .ok chunk) :
    item.along (Value.mapNumber Arithmetic.exact.settle) fields = item.along (Value.mapNumber Wire.nearest) fields := by
  refine FieldValues.along_congr fun f hf v hv => ?_
  obtain ⟨v', patch, hv', hwrites⟩ := writes_of_encodeRecord h hf
  rw [hv, Option.some.injEq] at hv'
  subst hv'
  exact hwrites.settle_eq_nearest (hexact f hf)

theorem encodeRecord_nearest (hnames : (fields.map FieldOf.name).Nodup) (hregular : ∀ f ∈ fields, f.wire.isRegular)
    (h : encodeRecord .exact stride fields item = .ok chunk) :
    encodeRecord .exact stride fields (item.along (Value.mapNumber Wire.nearest) fields) = .ok chunk := by
  rw [encodeRecord, bind_eq_ok] at h ⊢
  obtain ⟨-, -, hfold⟩ := h
  refine ⟨(), FieldValues.checkCarried_eq_ok.mpr fun p hp => FieldValues.mem_along hp, ?_⟩
  refine foldlM_of_imp (fun f hf b c hstep => ?_) hfold
  obtain ⟨v, patch, hv, hwrites, hpatch⟩ := encodeInRecord_eq_ok.mp hstep
  refine encodeInRecord_eq_ok.mpr ⟨v.mapNumber Wire.nearest f.wire, patch, ?_, hwrites.nearest (hregular f hf), hpatch⟩
  rw [FieldValues.get?_along hnames hf, hv, Option.map_some]

/-! #### Bodies -/

/-- what a draft holds is read back as the nearest values -/
theorem along_settle (hexact : l.isExact) (hheld : ∀ f ∈ l.fields, Held .exact values d f) :
    values.along (Wire.mapNumbers Arithmetic.exact.settle) l.fields =
      values.along (Wire.mapNumbers Wire.nearest) l.fields := by
  refine FieldValues.along_congr fun f hf v hv => ?_
  obtain ⟨hwire, hinner⟩ := isExact_of_mem hexact hf
  cases hheld f hf with
  | missing habsent =>
    rw [hv] at habsent
    exact nomatch habsent
  | plain hpresent hwrites =>
    rw [hv, Option.some.injEq] at hpresent
    subst hpresent
    have hplain := hwrites.not_isCounted
    rw [Wire.mapNumbers_of_not_isCounted hplain, Wire.mapNumbers_of_not_isCounted hplain]
    exact hwrites.settle_eq_nearest hwire
  | counted hcounted hpresent _ _ hencoded =>
    rw [hv, Option.some.injEq] at hpresent
    subst hpresent
    rw [hcounted] at hinner ⊢
    refine congrArg Value.records (List.map_congr_left fun item hitem => ?_)
    obtain ⟨chunk, hchunk⟩ := ok_of_mapM hencoded hitem
    exact along_record hinner hchunk

/-- the nearest values take the same step -/
theorem Step.nearest (hwf : l.WellFormed) (hregular : l.isRegular) (hf : f ∈ l.fields) (h : Step .exact values d f d') :
    Step .exact (values.along (Wire.mapNumbers Wire.nearest) l.fields) d f d' := by
  obtain ⟨hwire, hinner⟩ := isRegular_of_mem hregular hf
  have hget : (values.along (Wire.mapNumbers Wire.nearest) l.fields).get? f.name =
      (values.get? f.name).map (f.wire.mapNumbers Wire.nearest) := FieldValues.get?_along hwf.fits.names hf
  cases h with
  | missing habsent hoptional =>
    rw [habsent] at hget
    exact .missing hget hoptional
  | plain hpresent hwrites hpatched =>
    rw [hpresent, Option.map_some, Wire.mapNumbers_of_not_isCounted hwrites.not_isCounted] at hget
    exact .plain hget (hwrites.nearest hwire) hpatched
  | @counted stride fields items records body hcounted hpresent hfew hpatched hencoded =>
    have hfit := hwf.records f hf
    rw [hcounted] at hfit hinner
    rw [hpresent, hcounted, Option.map_some] at hget
    have hlength : (items.map (FieldValues.along (Value.mapNumber Wire.nearest) fields)).length = items.length :=
      List.length_map _
    refine .counted hcounted hget (hlength.symm ▸ hfew) (hlength.symm ▸ hpatched) ?_
    rw [mapM_eq_ok, List.forall₂_map_left_iff]
    exact (mapM_eq_ok.mp hencoded).imp fun item chunk hitem => encodeRecord_nearest hfit.2.2.names hinner hitem

/-- **Decoding rounds.** In exact arithmetic a body is read back as the values it was written from, every scaled one
replaced by its nearest multiple. -/
theorem decode_encode_exact (hwf : l.WellFormed) (hregular : l.isRegular) (htogether : l.Together values)
    (h : l.encode .exact values = .ok body) :
    l.decode .exact body = .ok (values.along (Wire.mapNumbers Wire.nearest) l.fields) := by
  obtain ⟨-, d, hd, -⟩ := encode_eq_ok.mp h
  rw [decode_encode hwf htogether h, along_settle (isExact_of_isRegular hregular) (held_of_foldlM hwf.separate hd)]

/-- **Rounded values have the same body.** -/
theorem encode_nearest (hwf : l.WellFormed) (hregular : l.isRegular) (h : l.encode .exact values = .ok body) :
    l.encode .exact (values.along (Wire.mapNumbers Wire.nearest) l.fields) = .ok body := by
  obtain ⟨-, d, hd, hbody⟩ := encode_eq_ok.mp h
  refine encode_eq_ok.mpr ⟨FieldValues.checkCarried_eq_ok.mpr fun p hp => FieldValues.mem_along hp, d, ?_, hbody⟩
  exact foldlM_of_imp (fun f hf t u hstep =>
    encodeField_eq_ok.mpr ((encodeField_eq_ok.mp hstep).nearest hwf hregular hf)) hd

/-! #### Numbers that were read -/

/-- a field is read as one value of its name, or left out by a body that ends before it -/
theorem decodeField_eq_ok {a : Arithmetic} {part : FieldValues} (h : Wire.decodeField a body f = .ok part) :
    (part = [] ∧ body.length < f.stop) ∨
      ∃ v, part = [(f.name, v)] ∧ f.stop ≤ body.length ∧ Wire.decode a f.name f.offset body f.wire = .ok v := by
  cases f with
  | mk name offset wire optional =>
    rw [Wire.decodeField] at h
    split at h
    · next hshort =>
      split at h
      · exact .inl ⟨(Except.ok.inj h).symm, hshort⟩
      · cases h
    · next hlong =>
      obtain ⟨v, hv, hpart⟩ := bind_eq_ok.mp h
      exact .inr ⟨v, (Except.ok.inj hpart).symm, not_lt.mp hlong, hv⟩

/-- a value found among those of a table was read by a field of its name -/
theorem decode_of_get? {a : Arithmetic} {name : String} {v : Value} (h : Wire.decodeFields a body fields = .ok values)
    (hv : values.get? name = some v) :
    ∃ f ∈ fields, f.name = name ∧ Wire.decode a f.name f.offset body f.wire = .ok v := by
  induction fields generalizing values with
  | nil =>
    cases h
    exact nomatch hv
  | cons g fields ih =>
    rw [Wire.decodeFields] at h
    obtain ⟨part, hpart, hrest⟩ := bind_eq_ok.mp h
    obtain ⟨rest, hdecode, hvalues⟩ := bind_eq_ok.mp hrest
    cases hvalues
    rw [FieldValues.get?_append] at hv
    rcases Option.or_eq_some_iff.mp hv with hv | ⟨-, hv⟩
    · rcases decodeField_eq_ok hpart with ⟨rfl, -⟩ | ⟨w, rfl, -, hw⟩
      · exact nomatch hv
      · by_cases hname : g.name = name
        · subst hname
          rw [FieldValues.get?_cons_self, Option.some.injEq] at hv
          subst hv
          exact ⟨g, List.mem_cons_self, rfl, hw⟩
        · rw [FieldValues.get?_cons_of_ne _ hname] at hv
          exact nomatch hv
    · obtain ⟨f, hf, hname, hread⟩ := ih hdecode hv
      exact ⟨f, List.mem_cons_of_mem g hf, hname, hread⟩

theorem mem_numbers {name : String} {wire : Wire} {x : Number}
    (hwire : (l.fields.find? (·.name = name)).map FieldOf.wire = some wire) (hscaled : wire.isScaled)
    (hx : values.get? name = some (.float x)) : (wire, x) ∈ l.numbers values := by
  obtain ⟨f, hf, rfl⟩ := Option.map_eq_some_iff.mp hwire
  have hname : f.name = name := by simpa using List.find?_some hf
  refine List.mem_filterMap.mpr ⟨f, List.mem_of_find?_eq_some hf, ?_⟩
  rw [hname, hx]
  cases hw : f.wire with
  | scaled => rfl
  | _ =>
    rw [hw] at hscaled
    exact nomatch hscaled

/-- a number among the values of a table is an integer that was read over the scale of its field -/
theorem quotient_of_decode {a : Arithmetic} {wire : Wire} {x : Number} (hwf : l.WellFormed)
    (h : l.decode a body = .ok values) (hp : (wire, x) ∈ l.numbers values) :
    ∃ f ∈ l.fields, f.wire = wire ∧ ∃ w scale least greatest, wire = .scaled w scale least greatest ∧
      x = a.div (Number.ofInt (w.read (body.drop f.offset))) scale := by
  obtain ⟨f, hf, hnumber⟩ := List.mem_filterMap.mp hp
  split at hnumber
  · next w scale least greatest y hwire hget =>
    cases hnumber
    obtain ⟨g, hg, hname, hread⟩ := decode_of_get? h hget
    have hsame : g = f := List.inj_on_of_nodup_map hwf.fits.names hg hf hname
    subst hsame
    rw [hwire, Wire.decode, Except.ok.injEq, Value.float.injEq] at hread
    exact ⟨g, hg, hwire, w, scale, least, greatest, rfl, hread.symm⟩
  · cases hnumber

/-- **Numbers are read as multiples.** -/
theorem isMultiple_of_decode (hwf : l.WellFormed) (hregular : l.isRegular) (h : l.decode .exact body = .ok values) :
    ∀ p ∈ l.numbers values, p.1.IsMultiple p.2 := by
  rintro ⟨wire, x⟩ hp
  obtain ⟨f, hf, hwire, w, scale, least, greatest, rfl, rfl⟩ := quotient_of_decode hwf h hp
  have hscaled := (isRegular_of_mem hregular hf).1
  rw [hwire] at hscaled
  obtain ⟨s, lo, hi, rfl, -, -, hs, -⟩ := Wire.isRegular_scaled hscaled
  exact ⟨w.read (body.drop f.offset), s, rfl, congrArg Number.toRat? (Number.ofInt_div _ hs)⟩

end Layout

end VisionMixer
