/-
Rounding to whole numbers, and exact arithmetic seen through the rationals.

`roundAway` is the nearest integer with halves going away from zero: it is between any two integers that bound its
argument up to less than a half (`le_roundAway`, `roundAway_le`), no integer is nearer (`abs_sub_roundAway_le_abs_sub`),
and of two equally near ones it is the farther from zero (`abs_le_abs_roundAway`). The operations on numbers are the
operations on the rationals they stand for, whatever the sign of a zero.
-/
import Mathlib.Tactic
import VisionMixer.Number.Rounding

namespace VisionMixer.Number

/-! ### Nearest integers -/

theorem le_roundAway {q : Rat} {n : Int} (h : (n : Rat) - 1 / 2 < q) : n ≤ roundAway q := by
  unfold roundAway
  split
  · have hfloor : (-q + 1 / 2).floor < -n + 1 := Rat.floor_lt_iff.mpr (by push_cast; linarith)
    omega
  · exact Rat.le_floor_iff.mpr (by linarith)

theorem roundAway_le {q : Rat} {n : Int} (h : q < n + 1 / 2) : roundAway q ≤ n := by
  unfold roundAway
  split
  · have hfloor : -n ≤ (-q + 1 / 2).floor := Rat.le_floor_iff.mpr (by push_cast; linarith)
    omega
  · have hfloor : (q + 1 / 2).floor < n + 1 := Rat.floor_lt_iff.mpr (by push_cast; linarith)
    omega

/-- integers stay as they are -/
@[simp] theorem roundAway_intCast (n : Int) : roundAway n = n :=
  le_antisymm (roundAway_le (by linarith)) (le_roundAway (by linarith))

theorem roundAway_neg (q : Rat) : roundAway (-q) = -roundAway q := by
  rcases lt_trichotomy q 0 with h | h | h
  · rw [roundAway, roundAway, if_pos h, if_neg (by linarith), neg_neg]
  · subst h
    rw [neg_zero, show (0 : Rat) = ((0 : Int) : Rat) from rfl, roundAway_intCast, neg_zero]
  · have hneg : -q < 0 := neg_lt_zero.mpr h
    have hpos : ¬ q < 0 := not_lt.mpr h.le
    rw [roundAway, roundAway, if_pos hneg, if_neg hpos, neg_neg]

theorem roundAway_bounds {q : Rat} (h : 0 ≤ q) : q - 1 / 2 < roundAway q ∧ (roundAway q : Rat) ≤ q + 1 / 2 := by
  rw [roundAway, if_neg (by linarith)]
  have hlow := Rat.lt_floor_add_one (q + 1 / 2)
  have hhigh := Rat.floor_le (q + 1 / 2)
  push_cast at hlow
  constructor <;> linarith

theorem abs_sub_roundAway_le (q : Rat) : |q - roundAway q| ≤ 1 / 2 := by
  rcases le_total 0 q with h | h
  · obtain ⟨hlow, hhigh⟩ := roundAway_bounds h
    rw [abs_le]
    constructor <;> linarith
  · obtain ⟨hlow, hhigh⟩ := roundAway_bounds (neg_nonneg.mpr h)
    rw [roundAway_neg] at hlow hhigh
    push_cast at hlow hhigh
    rw [abs_le]
    constructor <;> linarith

/-- no integer is nearer -/
theorem abs_sub_roundAway_le_abs_sub (q : Rat) (n : Int) : |q - roundAway q| ≤ |q - n| := by
  by_contra hlt
  push Not at hlt
  have hhalf := abs_sub_roundAway_le q
  have hn : |q - n| < 1 / 2 := lt_of_lt_of_le hlt hhalf
  obtain ⟨hlow, hhigh⟩ := abs_lt.mp hn
  have heq : roundAway q = n := le_antisymm (roundAway_le (by linarith)) (le_roundAway (by linarith))
  rw [heq] at hlt
  exact lt_irrefl _ hlt

/-- an exact half goes away from zero -/
theorem abs_roundAway_of_half {q : Rat} (h : |q - roundAway q| = 1 / 2) : |(roundAway q : Rat)| = |q| + 1 / 2 := by
  rcases le_total 0 q with hq | hq
  · obtain ⟨hlow, hhigh⟩ := roundAway_bounds hq
    have hdiff : (roundAway q : Rat) = q + 1 / 2 := by
      rcases abs_eq (by norm_num) |>.mp h with h | h <;> linarith
    rw [hdiff, abs_of_nonneg hq, abs_of_nonneg (by linarith)]
  · obtain ⟨hlow, hhigh⟩ := roundAway_bounds (neg_nonneg.mpr hq)
    rw [roundAway_neg] at hlow hhigh
    push_cast at hlow hhigh
    have hdiff : (roundAway q : Rat) = q - 1 / 2 := by
      rcases abs_eq (by norm_num) |>.mp h with h | h <;> linarith
    rw [hdiff, abs_of_nonpos hq, abs_of_nonpos (by linarith)]
    linarith

/-- an integer that is as near is no farther from zero -/
theorem abs_le_abs_roundAway {q : Rat} {n : Int} (h : |q - n| = |q - roundAway q|) :
    |(n : Rat)| ≤ |(roundAway q : Rat)| := by
  by_cases hn : n = roundAway q
  · rw [hn]
  -- two different integers as near as each other are a half away
  have hapart : (1 : Rat) ≤ |(n : Rat) - roundAway q| := by
    have hint : 1 ≤ |n - roundAway q| := Int.one_le_abs (sub_ne_zero.mpr hn)
    exact_mod_cast hint
  have htriangle := abs_sub_le (n : Rat) q (roundAway q)
  rw [abs_sub_comm (n : Rat) q, h] at htriangle
  have hhalf : |q - roundAway q| = 1 / 2 := le_antisymm (abs_sub_roundAway_le q) (by linarith)
  have hbound := abs_sub_abs_le_abs_sub (n : Rat) q
  rw [abs_sub_comm (n : Rat) q, h, hhalf] at hbound
  rw [abs_roundAway_of_half hhalf]
  linarith

/-! ### Exact arithmetic on rationals -/

variable {x y : Number} {p q : Rat}

theorem toRat?_zero (negative : Bool) : (zero negative).toRat? = some 0 := by
  cases negative <;> rfl

theorem toRat?_signed (negative : Bool) (q : Rat) : (signed negative q).toRat? = some q := by
  rw [signed]
  split
  · next h => rw [h, toRat?_zero]
  · rfl

theorem toRat?_neg (hx : x.toRat? = some p) : (-x).toRat? = some (-p) := by
  cases x with
  | nan => exact nomatch hx
  | infinity _ => exact nomatch hx
  | negativeZero =>
    cases hx
    rfl
  | rational r =>
    cases hx
    change (if p = 0 then negativeZero else rational (-p)).toRat? = some (-p)
    split
    · next h => rw [h]; rfl
    · rfl

theorem toRat?_add (hx : x.toRat? = some p) (hy : y.toRat? = some q) : (x.add y).toRat? = some (p + q) := by
  cases x with
  | nan => exact nomatch hx
  | infinity _ => exact nomatch hx
  | negativeZero =>
    cases hx
    cases y <;> simp_all [add, toRat?]
  | rational r =>
    cases hx
    cases y <;> simp_all [add, toRat?]

theorem toRat?_sub (hx : x.toRat? = some p) (hy : y.toRat? = some q) : (x.sub y).toRat? = some (p - q) := by
  rw [sub_eq_add_neg]
  exact toRat?_add hx (toRat?_neg hy)

theorem toRat?_mul (hx : x.toRat? = some p) (hy : y.toRat? = some q) : (x.mul y).toRat? = some (p * q) := by
  rw [mul, hx, hy]
  exact toRat?_signed _ _

theorem lt_iff (hx : x.toRat? = some p) (hy : y.toRat? = some q) : x.lt y = true ↔ p < q := by
  cases x <;> cases y <;> simp_all [lt, toRat?]

/-- equal as numbers compare, that is up to the sign of a zero -/
theorem beq_of_toRat? (hx : x.toRat? = some p) (hy : y.toRat? = some p) : (x == y) = true := by
  change x.eq y = true
  cases x <;> cases y <;> simp_all [eq, toRat?]

theorem toInt64_of_toRat? (hx : x.toRat? = some q) :
    x.toInt64 = max (-0x8000000000000000) (min 0x7FFFFFFFFFFFFFFF (roundAway q)) := by
  cases x with
  | nan => exact nomatch hx
  | infinity _ => exact nomatch hx
  | negativeZero =>
    cases hx
    rw [show (0 : Rat) = ((0 : Int) : Rat) from rfl, roundAway_intCast]
    rfl
  | rational r =>
    cases hx
    rfl

/-- a quotient by a positive rational has the sign of its integer, and a zero is the plain one -/
theorem ofInt_div (n : Int) {s : Rat} (hs : 0 < s) : (ofInt n).div (.rational s) = .rational (n / s) := by
  have hne : s ≠ 0 := hs.ne'
  have hpositive : (rational s).isNegative = false := decide_eq_false (not_lt.mpr hs.le)
  have hquotient : (ofInt n).div (.rational s) = signed ((ofInt n).isNegative != (rational s).isNegative) (n / s) :=
    if_neg hne
  rw [hquotient, hpositive, signed]
  split
  · next h =>
    have hn : n = 0 := by simpa [hne] using h
    rw [h, hn]
    rfl
  · rfl

end VisionMixer.Number
