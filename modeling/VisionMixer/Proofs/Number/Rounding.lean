/-
Rounding to a binary format.

A format keeps a rational within half a unit (`nearest_error`), and the unit is a part of the rational or the least one.
An integer below the bound of significands is a whole number of units, so it is kept as it is (`nearest_intCast`).
-/
import VisionMixer.Proofs.Number.Nearest

namespace VisionMixer

/-! ### Powers of two -/

theorem powTwo_eq (e : Int) : powTwo e = (2 : Rat) ^ e := by
  unfold powTwo
  split
  · next h =>
    obtain ⟨n, rfl⟩ := Int.eq_ofNat_of_zero_le h
    simp
  · next h =>
    obtain ⟨n, hn⟩ := Int.eq_ofNat_of_zero_le (by omega : 0 ≤ -e)
    obtain rfl : e = -(n : Int) := by omega
    simp

theorem toNat_num_div_den {q : Rat} (hq : 0 ≤ q) : (q.num.toNat : Rat) / q.den = q := by
  have hnum : ((q.num.toNat : Int) : Rat) = q.num := by rw [Int.toNat_of_nonneg (Rat.num_nonneg.2 hq)]
  rw [← Int.cast_natCast, hnum, Rat.num_div_den]

theorem ite_neg_eq_abs (q : Rat) : (if q < 0 then -q else q) = |q| := by
  split
  · next h => exact (abs_of_neg h).symm
  · next h => exact (abs_of_nonneg (not_lt.1 h)).symm

theorem ite_neg_abs (q : Rat) : (if q < 0 then -|q| else |q|) = q := by
  split
  · next h => rw [abs_of_neg h, neg_neg]
  · next h => exact abs_of_nonneg (not_lt.1 h)

/-- a positive rational is at least the power of two of its logarithm -/
theorem zpow_floorLog2_le {q : Rat} (hq : 0 < q) : (2 : Rat) ^ floorLog2 q ≤ q := by
  unfold floorLog2
  dsimp only
  split
  · next h => rwa [powTwo_eq] at h
  · -- the logarithms of both parts are off by less than one each, so their difference less one is low enough
    have hnum : q.num.toNat ≠ 0 := by
      have := Rat.num_pos.2 hq
      omega
    have hlow : (2 : Rat) ^ q.num.toNat.log2 ≤ q.num.toNat := by exact_mod_cast Nat.log2_self_le hnum
    have hhigh : (q.den : Rat) ≤ (2 : Rat) ^ (q.den.log2 + 1) := by exact_mod_cast Nat.lt_log2_self.le
    have hden : (0 : Rat) < q.den := by exact_mod_cast q.den_pos
    calc (2 : Rat) ^ ((q.num.toNat.log2 : Int) - q.den.log2 - 1)
        = (2 : Rat) ^ q.num.toNat.log2 / (2 : Rat) ^ (q.den.log2 + 1) := by
          rw [sub_sub, zpow_sub₀ two_ne_zero]
          norm_cast
      _ ≤ q.num.toNat / q.den := div_le_div₀ (Nat.cast_nonneg _) hlow hden hhigh
      _ = q := toNat_num_div_den hq.le

/-! ### Whole numbers -/

/-- the nearest whole number is off by a half at most -/
theorem abs_roundDivEven_sub_le (n : Nat) {d : Nat} (hd : 0 < d) : |(roundDivEven n d : Rat) - n / d| ≤ 1 / 2 := by
  have hd' : (0 : Rat) < d := by exact_mod_cast hd
  have hsplit : (n : Rat) / d = (n / d : Nat) + (n % d : Nat) / (d : Rat) := by
    rw [div_eq_iff hd'.ne', add_mul, div_mul_cancel₀ _ hd'.ne']
    exact_mod_cast (Nat.div_add_mod' n d).symm
  have hrest : 0 ≤ ((n % d : Nat) : Rat) / d := by positivity
  unfold roundDivEven
  dsimp only
  rw [hsplit, abs_le]
  split
  · next h =>
    have hhalf : ((n % d : Nat) : Rat) / d ≤ 1 / 2 := by
      rw [div_le_iff₀ hd']
      have : 2 * (n % d) ≤ d := by omega
      have : (2 : Rat) * (n % d : Nat) ≤ d := by exact_mod_cast this
      linarith
    constructor <;> linarith
  · next h =>
    have hhalf : 1 / 2 ≤ ((n % d : Nat) : Rat) / d := by
      rw [le_div_iff₀ hd']
      have : d ≤ 2 * (n % d) := by omega
      have : (d : Rat) ≤ 2 * (n % d : Nat) := by exact_mod_cast this
      linarith
    have hless : ((n % d : Nat) : Rat) / d ≤ 1 := by
      rw [div_le_iff₀ hd', one_mul]
      exact_mod_cast (Nat.mod_lt n hd).le
    push_cast
    constructor <;> linarith

theorem roundDivEven_one (n : Nat) : roundDivEven n 1 = n := by
  simp [roundDivEven, Nat.mod_one]

namespace Format

variable {f : Format} {q : Rat}

/-- exponent of the unit in which a positive rational is kept -/
def unit (f : Format) (q : Rat) : Int := max f.least (floorLog2 q - (f.precision - 1))

theorem parts_error (f : Format) (hq : 0 ≤ q) :
    |((f.parts q).1 : Rat) * powTwo (f.parts q).2 - q| ≤ (2 : Rat) ^ f.unit q / 2 := by
  have hpos : (0 : Rat) < 2 ^ f.unit q := by positivity
  have hscaled : 0 ≤ q * powTwo (-f.unit q) := by
    rw [powTwo_eq]
    positivity
  have hhalf := abs_roundDivEven_sub_le (q * powTwo (-f.unit q)).num.toNat (q * powTwo (-f.unit q)).den_pos
  rw [toNat_num_div_den hscaled] at hhalf
  have hparts : f.parts q =
      (roundDivEven (q * powTwo (-f.unit q)).num.toNat (q * powTwo (-f.unit q)).den, f.unit q) := rfl
  rw [hparts]
  dsimp only
  generalize roundDivEven (q * powTwo (-f.unit q)).num.toNat (q * powTwo (-f.unit q)).den = m at hhalf ⊢
  rw [powTwo_eq, zpow_neg, ← div_eq_mul_inv] at hhalf
  rw [powTwo_eq]
  calc |(m : Rat) * 2 ^ f.unit q - q| = |(m : Rat) - q / 2 ^ f.unit q| * 2 ^ f.unit q := by
        rw [← abs_of_pos hpos, ← abs_mul, abs_of_pos hpos, sub_mul, div_mul_cancel₀ _ hpos.ne']
    _ ≤ 1 / 2 * 2 ^ f.unit q := by gcongr
    _ = 2 ^ f.unit q / 2 := by ring

theorem zpow_unit_le (f : Format) (hq : 0 < q) :
    (2 : Rat) ^ f.unit q ≤ q * 2 ^ (1 - (f.precision : Int)) + 2 ^ f.least := by
  have hleast : (0 : Rat) < 2 ^ f.least := by positivity
  have hpart : (0 : Rat) ≤ q * 2 ^ (1 - (f.precision : Int)) := by positivity
  unfold unit
  rcases max_cases f.least (floorLog2 q - (f.precision - 1)) with ⟨h, -⟩ | ⟨h, -⟩
  · rw [h]
    linarith
  · rw [h]
    have hlog : (2 : Rat) ^ (floorLog2 q - ((f.precision : Int) - 1)) ≤ q * 2 ^ (1 - (f.precision : Int)) := by
      rw [show floorLog2 q - ((f.precision : Int) - 1) = floorLog2 q + (1 - f.precision) by ring, zpow_add₀ two_ne_zero]
      gcongr
      exact zpow_floorLog2_le hq
    linarith

/-- **Rounding is near.** -/
theorem nearest_error (f : Format) (q : Rat) :
    (∃ negative, f.nearest q = .infinity negative) ∨
      ∃ r, (f.nearest q).toRat? = some r ∧ |r - q| ≤ (|q| * 2 ^ (1 - (f.precision : Int)) + 2 ^ f.least) / 2 := by
  unfold nearest
  split
  · next h =>
    refine .inr ⟨0, rfl, ?_⟩
    rw [h, sub_zero, abs_zero, zero_mul, zero_add]
    positivity
  · next h =>
    have hq : 0 < |q| := abs_pos.2 h
    have herror := f.parts_error hq.le
    have hunit := f.zpow_unit_le hq
    rw [ite_neg_eq_abs]
    dsimp only
    split
    · exact .inl ⟨_, rfl⟩
    · refine .inr ⟨_, Number.toRat?_signed _ _, ?_⟩
      refine le_trans ?_ (le_trans herror (by linarith))
      split
      · next hneg =>
        rw [abs_of_neg hneg, ← abs_neg]
        exact le_of_eq (congrArg _ (by ring))
      · next hneg => rw [abs_of_nonneg (not_lt.1 hneg)]

/-- a natural number below the bound of significands is a whole number of units -/
theorem parts_natCast {n : Nat} (hpos : 0 < n) (hleast : f.least ≤ 0) (hn : n < 2 ^ f.precision) :
    ((f.parts n).1 : Rat) * powTwo (f.parts n).2 = n := by
  have hn' : (0 : Rat) < n := by exact_mod_cast hpos
  have hlog : floorLog2 n < f.precision := by
    have hlt : (2 : Rat) ^ floorLog2 n < 2 ^ (f.precision : Int) :=
      lt_of_le_of_lt (zpow_floorLog2_le hn') (by exact_mod_cast hn)
    exact (zpow_lt_zpow_iff_right₀ one_lt_two).1 hlt
  have hunit : f.unit n ≤ 0 := max_le hleast (by omega)
  obtain ⟨k, hk⟩ := Int.eq_ofNat_of_zero_le (by omega : 0 ≤ -f.unit n)
  have hscaled : (n : Rat) * powTwo (-f.unit n) = ((n * 2 ^ k : Nat) : Rat) := by
    rw [hk, powTwo_eq]
    push_cast
    rfl
  have hparts : f.parts n =
      (roundDivEven ((n : Rat) * powTwo (-f.unit n)).num.toNat ((n : Rat) * powTwo (-f.unit n)).den, f.unit n) := rfl
  rw [hparts, hscaled]
  dsimp only
  rw [Rat.num_natCast, Rat.den_natCast, Int.toNat_natCast, roundDivEven_one, ← hscaled, mul_assoc, powTwo_eq, powTwo_eq,
    ← zpow_add₀ two_ne_zero, neg_add_cancel, zpow_zero, mul_one]

/-- **Integers are kept.** -/
theorem nearest_intCast {n : Int} (hleast : f.least ≤ 0) (hbound : (f.precision : Int) ≤ f.bound)
    (hn : n.natAbs < 2 ^ f.precision) : f.nearest n = .rational n := by
  by_cases hzero : n = 0
  · subst hzero
    exact if_pos rfl
  have hq : (n : Rat) ≠ 0 := Int.cast_ne_zero.2 hzero
  have habs : |(n : Rat)| = (n.natAbs : Rat) := by rw [Nat.cast_natAbs, Int.cast_abs]
  have hkept := parts_natCast (Int.natAbs_pos.2 hzero) hleast hn
  have hsmall : ¬ powTwo f.bound ≤ (n.natAbs : Rat) := by
    rw [powTwo_eq, not_le]
    calc (n.natAbs : Rat) < 2 ^ (f.precision : Int) := by exact_mod_cast hn
      _ ≤ 2 ^ f.bound := zpow_le_zpow_right₀ one_le_two hbound
  unfold nearest
  rw [if_neg hq, ite_neg_eq_abs, habs]
  dsimp only
  rw [hkept, if_neg hsmall, ← habs, ite_neg_abs, Number.signed, if_neg hq]

end Format

end VisionMixer
