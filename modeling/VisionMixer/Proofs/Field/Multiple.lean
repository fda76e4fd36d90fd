/-
Multiples of a unit come back.

A scaled field that has accepted a multiple of its unit, as the arithmetic at hand keeps it, reads that multiple back
(`Writes.settle_beq`). `binary64` rounds when the multiple is made, when its product with the scale is written and when
the quotient is read. The first two errors together are far below a half for every integer of a width, so the integer
that is written is the one that the multiple was made from (`roundAway_eq`), and reading makes the multiple again.
-/
import VisionMixer.Proofs.Field.Scaled
import VisionMixer.Proofs.Number.Rounding

namespace VisionMixer

/-! ### What an arithmetic keeps -/

namespace Number

variable {x y : Number}

/-- numbers that compare as equal stand for one rational -/
theorem toRat?_eq_of_beq (h : (x == y) = true) : x.toRat? = y.toRat? := by
  change x.eq y = true at h
  cases x <;> cases y <;> simp_all [eq, toRat?]

theorem infinity_mul {s : Rat} (hs : s ≠ 0) (negative : Bool) :
    ∃ negative', (infinity negative).mul (.rational s) = .infinity negative' := by
  refine ⟨negative != (rational s).isNegative, ?_⟩
  simp [mul, toRat?, hs, isNegative]

end Number

namespace Arithmetic

variable {a : Arithmetic} {x : Number} {q s : Rat}

theorem keep_infinity (a : Arithmetic) (negative : Bool) : a.keep (.infinity negative) = .infinity negative := by
  cases a <;> rfl

/-- integers of 53 bits are kept -/
theorem keep_intCast (a : Arithmetic) {n : Int} (hn : n.natAbs < 2 ^ 53) : a.keep (.rational n) = .rational n := by
  cases a with
  | exact => rfl
  | binary64 => exact Format.nearest_intCast (by decide) (by decide) hn

/-- a finite number is kept up to its last bit, or is past the greatest one -/
theorem keep_near (a : Arithmetic) (hx : x.toRat? = some q) :
    (∃ negative, a.keep x = .infinity negative) ∨
      ∃ r, (a.keep x).toRat? = some r ∧ |r - q| ≤ (|q| + 1) / 2 ^ 52 := by
  have hsame : |q - q| ≤ (|q| + 1) / 2 ^ 52 := by
    rw [sub_self, abs_zero]
    positivity
  cases a with
  | exact => exact .inr ⟨q, hx, hsame⟩
  | binary64 =>
    cases x with
    | nan => exact nomatch hx
    | infinity _ => exact nomatch hx
    | negativeZero => exact .inr ⟨q, hx, hsame⟩
    | rational p =>
      cases hx
      have hleast : (2 : Rat) ^ Format.binary64.least ≤ 1 / 2 ^ 52 := by
        rw [one_div, ← zpow_natCast, ← zpow_neg]
        exact zpow_le_zpow_right₀ one_le_two (by decide)
      have hpart : (2 : Rat) ^ (1 - (Format.binary64.precision : Int)) = 1 / 2 ^ 52 := by
        rw [one_div, ← zpow_natCast, ← zpow_neg]
        rfl
      rcases Format.binary64.nearest_error q with hinfinite | ⟨r, hr, hnear⟩
      · exact .inl hinfinite
      · refine .inr ⟨r, hr, le_trans hnear ?_⟩
        rw [hpart, add_div (|q|), div_eq_mul_one_div (|q|) (2 ^ 52)]
        have hpositive : 0 ≤ |q| * (1 / 2 ^ 52) := by positivity
        linarith

end Arithmetic

namespace Wire

/-- a multiple of the unit of a scaled field, as an arithmetic keeps it -/
def Keeps (a : Arithmetic) : Wire → Number → Prop
  | .scaled _ scale _ _, x => ∃ n : Int, ∃ s, scale.toRat? = some s ∧ (x == a.keep (.rational (n / s))) = true
  | _, _ => False

/-- scaled by a whole number -/
def isWhole : Wire → Bool
  | .scaled _ (.rational s) _ _ => s.isInt
  | _ => true

variable {a : Arithmetic} {w : Width} {x : Number} {q s m : Rat} {n : Int}

theorem width_bounds (w : Width) : -2 ^ 31 ≤ w.low ∧ w.high < 2 ^ 32 := by
  cases w <;> decide

theorem keep_whole (hwhole : s.isInt) (hs : 0 < s) (hunit : s < 500000000) : a.keep (.rational s) = .rational s := by
  have hnum : s = (s.num : Rat) := Rat.eq_num_of_isInt hwhole
  have hsmall : s.num.natAbs < 2 ^ 53 := by
    have hpos := Rat.num_pos.2 hs
    have hlt : s.num < 500000000 := by
      rw [hnum] at hunit
      exact_mod_cast hunit
    omega
  rw [hnum]
  exact a.keep_intCast hsmall

/-- an infinite product does not fit a width -/
theorem not_infinity_of_fits {negative : Bool} (low : w.low ≤ (Number.infinity negative).toInt64)
    (high : (Number.infinity negative).toInt64 ≤ w.high) : False := by
  have hbounds := width_bounds w
  cases negative <;> simp only [Number.toInt64, Bool.false_eq_true, if_true, if_false] at low high <;> omega

/-- the product that is written is near the exact one -/
theorem mul_near (hx : x.toRat? = some q) (hs : 0 < s) (hkept : a.keep (.rational s) = .rational s)
    (low : w.low ≤ (a.mul x (.rational s)).toInt64) (high : (a.mul x (.rational s)).toInt64 ≤ w.high) :
    ∃ m, (a.mul x (.rational s)).toRat? = some m ∧ |m - q * s| ≤ (3 * |q * s| + 2 * s + 1) / 2 ^ 52 := by
  have hmul : a.mul x (.rational s) = a.keep ((a.keep x).mul (.rational s)) := by rw [Arithmetic.mul, hkept]
  rw [hmul] at low high ⊢
  rcases a.keep_near hx with ⟨negative, hinfinite⟩ | ⟨q', hq', hnear'⟩
  · obtain ⟨negative', hproduct⟩ := Number.infinity_mul hs.ne' negative
    rw [hinfinite, hproduct, a.keep_infinity] at low high
    exact (not_infinity_of_fits low high).elim
  have hproduct : ((a.keep x).mul (.rational s)).toRat? = some (q' * s) := Number.toRat?_mul hq' rfl
  rcases a.keep_near hproduct with ⟨negative, hinfinite⟩ | ⟨m, hm, hnear⟩
  · rw [hinfinite] at low high
    exact (not_infinity_of_fits low high).elim
  refine ⟨m, hm, ?_⟩
  have hscaled : |q' * s - q * s| ≤ (|q * s| + s) / 2 ^ 52 := by
    rw [← sub_mul, abs_mul, abs_mul, abs_of_pos hs]
    calc |q' - q| * s ≤ (|q| + 1) / 2 ^ 52 * s := by gcongr
      _ = (|q| * s + s) / 2 ^ 52 := by ring
  have htriangle := abs_sub_le m (q' * s) (q * s)
  have hsize := abs_sub_abs_le_abs_sub (q' * s) (q * s)
  have hpos := abs_nonneg (q * s)
  rw [le_div_iff₀ (by norm_num)] at hnear hscaled ⊢
  linarith

/-- the integer of a multiple is found again -/
theorem roundAway_eq (hs : 0 < s) (hunit : s < 500000000) (hx : |q - n / s| ≤ (|(n / s : Rat)| + 1) / 2 ^ 52)
    (hm : |m - q * s| ≤ (3 * |q * s| + 2 * s + 1) / 2 ^ 52) (low : w.low ≤ Number.roundAway m)
    (high : Number.roundAway m ≤ w.high) : Number.roundAway m = n ∧ n.natAbs < 2 ^ 53 := by
  have hmultiple : |q * s - n| ≤ (|(n : Rat)| + s) / 2 ^ 52 := by
    have hexact : q * s - n = (q - n / s) * s := by rw [sub_mul, div_mul_cancel₀ _ hs.ne']
    rw [hexact, abs_mul, abs_of_pos hs]
    calc |q - n / s| * s ≤ (|(n / s : Rat)| + 1) / 2 ^ 52 * s := by gcongr
      _ = (|(n : Rat)| + s) / 2 ^ 52 := by
        rw [abs_div, abs_of_pos hs]
        field_simp
  -- from here on all is linear in the three distances and in the size of `n`
  have hsize := abs_sub_abs_le_abs_sub (q * s) n
  have htriangle := abs_sub_le m (q * s) n
  have hn := abs_nonneg (n : Rat)
  have hround := Number.abs_sub_roundAway_le m
  have hbounds := width_bounds w
  have hlow : (-2 ^ 31 : Rat) ≤ Number.roundAway m := by exact_mod_cast hbounds.1.trans low
  have hhigh : (Number.roundAway m : Rat) < 2 ^ 32 := by exact_mod_cast high.trans_lt hbounds.2
  rw [le_div_iff₀ (by norm_num)] at hmultiple hm
  have hinteger : |(Number.roundAway m : Rat)| ≤ 2 ^ 32 := abs_le.2 ⟨by linarith, hhigh.le⟩
  have hback := abs_sub_abs_le_abs_sub m (Number.roundAway m)
  have hfar := abs_sub_abs_le_abs_sub (n : Rat) m
  rw [abs_sub_comm (n : Rat) m] at hfar
  -- the field bounds what was written, and so what it was written from
  have hsmall : |(n : Rat)| ≤ 2 ^ 34 := by linarith
  have hnear : |m - n| < 1 / 2 := by linarith
  obtain ⟨hbelow, habove⟩ := abs_lt.1 hnear
  refine ⟨le_antisymm (Number.roundAway_le (by linarith)) (Number.le_roundAway (by linarith)), ?_⟩
  have hnat : (n.natAbs : Rat) ≤ 2 ^ 34 := by rwa [Nat.cast_natAbs, Int.cast_abs]
  have hnat' : n.natAbs ≤ 2 ^ 34 := by exact_mod_cast hnat
  exact hnat'.trans_lt (by norm_num)

/-- **Multiples come back.** -/
theorem Writes.settle_beq {wire : Wire} {patch : Bytes} (hregular : wire.isRegular) (hwhole : wire.isWhole)
    (h : Writes a wire (.float x) patch) (hx : wire.Keeps a x) : (a.settle wire x == x) = true := by
  cases h with
  | single => exact hx.elim
  | @scaled w _ _ _ _ inRange low high =>
    obtain ⟨s, lo, hi, rfl, rfl, rfl, hs, hunit, -⟩ := isRegular_scaled hregular
    obtain ⟨n, s, hs', hx⟩ := hx
    cases hs'
    obtain ⟨q, hq⟩ := toRat?_of_inRange inRange
    have hmultiple := (Number.toRat?_eq_of_beq hx).symm.trans hq
    have hkept := keep_whole (a := a) hwhole hs hunit
    have hnear : |q - n / s| ≤ (|(n / s : Rat)| + 1) / 2 ^ 52 := by
      rcases a.keep_near (x := .rational (n / s)) rfl with ⟨negative, hinfinite⟩ | ⟨r, hr, hnear⟩
      · rw [hinfinite] at hmultiple
        cases hmultiple
      · rw [hmultiple] at hr
        cases hr
        exact hnear
    obtain ⟨m, hm, hmnear⟩ := mul_near hq hs hkept low high
    have hinteger := toInt64_eq_roundAway hm low high
    rw [hinteger] at low high
    obtain ⟨hn, hsmall⟩ := roundAway_eq hs hunit hnear hmnear low high
    have hsettle : a.settle (.scaled w (.rational s) (.rational lo) (.rational hi)) x = a.keep (.rational (n / s)) := by
      rw [Arithmetic.settle, Arithmetic.div, hinteger, hn, Number.ofInt, a.keep_intCast hsmall, hkept]
      exact congrArg a.keep (Number.ofInt_div n hs)
    rw [hsettle]
    exact Number.beq_of_toRat? hmultiple hq

end Wire

end VisionMixer
