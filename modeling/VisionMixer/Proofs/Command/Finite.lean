/-
Numbers of commands that were read are finite.

A number is read as an integer of a width over the whole scale of its field. Both are small, so their quotient is far
below the greatest number of a format, and rounding to the format does not reach infinity (`isFinite_nearest`). So it is
for every table of the catalogue, and for every command in either arithmetic (`isFinite_of_decode`).
-/
import VisionMixer.Proofs.Command.Payload
import VisionMixer.Proofs.Command.Settled
import VisionMixer.Proofs.Field.Grammar

namespace VisionMixer

theorem Number.isFinite_of_toRat? {x : Number} {q : Rat} (h : x.toRat? = some q) : x.isFinite := by
  rw [isFinite, h]
  rfl

/-- a rational far enough below the bound of a format stays below it when it is rounded -/
theorem Format.isFinite_nearest {f : Format} {q : Rat}
    (h : |q| + (|q| * 2 ^ (1 - (f.precision : Int)) + 2 ^ f.least) / 2 < 2 ^ f.bound) : (f.nearest q).isFinite := by
  unfold nearest
  split
  · rfl
  · next hq =>
    have hpos : 0 < |q| := abs_pos.2 hq
    have herror := (abs_le.1 (f.parts_error hpos.le)).2
    have hunit := f.zpow_unit_le hpos
    rw [ite_neg_eq_abs]
    dsimp only
    rw [if_neg]
    · exact Number.isFinite_of_toRat? (Number.toRat?_signed _ _)
    · rw [powTwo_eq f.bound]
      linarith

namespace Arithmetic

variable {a : Arithmetic} {q s : Rat} {n : Int}

theorem isFinite_keep (hq : |q| ≤ 2 ^ 32) : (a.keep (.rational q)).isFinite := by
  cases a with
  | exact => rfl
  | binary64 =>
    refine Format.isFinite_nearest ?_
    have hpart : (2 : Rat) ^ (1 - (Format.binary64.precision : Int)) ≤ 1 := zpow_le_one_of_nonpos₀ one_le_two (by decide)
    have hleast : (2 : Rat) ^ Format.binary64.least ≤ 1 := zpow_le_one_of_nonpos₀ one_le_two (by decide)
    have hbound : (2 : Rat) ^ (34 : Int) ≤ 2 ^ Format.binary64.bound := zpow_le_zpow_right₀ one_le_two (by decide)
    have hsmall : |q| * (2 : Rat) ^ (1 - (Format.binary64.precision : Int)) ≤ |q| * 1 := by gcongr
    norm_num at hbound
    linarith

/-- an integer of a width over a whole scale -/
theorem isFinite_div {w : Width} (hwhole : s.isInt) (hs : 0 < s) (hunit : s < 500000000) (low : w.low ≤ n)
    (high : n ≤ w.high) : (a.div (.ofInt n) (.rational s)).isFinite := by
  have hbounds := Wire.width_bounds w
  have hsmall : n.natAbs < 2 ^ 53 := by omega
  have hinteger : |(n : Rat)| ≤ 2 ^ 32 := by
    have hnat : n.natAbs ≤ 2 ^ 32 := by omega
    have habs : |(n : Rat)| = (n.natAbs : Rat) := by rw [Nat.cast_natAbs, Int.cast_abs]
    rw [habs]
    exact_mod_cast hnat
  have hone : 1 ≤ s := by
    rw [Rat.eq_num_of_isInt hwhole] at hs ⊢
    exact_mod_cast hs
  have hquotient : |(n : Rat) / s| ≤ 2 ^ 32 := by
    rw [abs_div, abs_of_pos hs]
    exact (div_le_self (abs_nonneg _) hone).trans hinteger
  have hdiv : a.div (.ofInt n) (.rational s) = a.keep (.rational (n / s)) := by
    rw [Arithmetic.div, Number.ofInt, a.keep_intCast hsmall, Wire.keep_whole hwhole hs hunit]
    exact congrArg a.keep (Number.ofInt_div n hs)
  rw [hdiv]
  exact isFinite_keep hquotient

end Arithmetic

namespace Command

/-- all numbers of a command are finite -/
def IsFinite (c : Command) : Prop := ∀ p ∈ c.numbers, p.2.isFinite

/-- a multiple is finite -/
theorem isFinite_of_isMultiple {wire : Wire} {x : Number} (h : wire.IsMultiple x) : x.isFinite := by
  cases wire with
  | scaled =>
    obtain ⟨n, s, -, hx⟩ := h
    exact Number.isFinite_of_toRat? hx
  | _ => exact h.elim

/-- **Commands that were read have finite numbers**, whatever the arithmetic. -/
theorem isFinite_of_decode {a : Arithmetic} {v : Version} {r : Record} {c : Command} (h : decode a v r = .ok c) :
    c.IsFinite := by
  rintro ⟨wire, x⟩ hp
  rcases numbers_of_decode h _ hp with hmultiple | ⟨e, he, edition, hedition, body, values, hvalues, hnumber⟩
  · exact isFinite_of_isMultiple hmultiple
  · obtain ⟨f, hf, rfl, w, scale, least, greatest, hwire, rfl⟩ :=
      Layout.quotient_of_decode (wellFormed_of_mem e he edition hedition) hvalues hnumber
    have hregular := (Layout.isRegular_of_mem (isRegular_of_mem e he edition hedition) hf).1
    have hwhole := isWhole_of_mem e he edition hedition f hf
    rw [hwire] at hregular hwhole
    obtain ⟨s, -, -, rfl, -, -, hs, hunit, -⟩ := Wire.isRegular_scaled hregular
    obtain ⟨low, high⟩ := w.read_bounds (body.drop f.offset)
    exact Arithmetic.isFinite_div hwhole hs hunit low high

end Command

end VisionMixer
