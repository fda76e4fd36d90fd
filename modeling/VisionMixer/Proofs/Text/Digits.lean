/-
Decimal texts of natural numbers.

A run of digits spells the number that it is written with unless it has a zero too many in front, so `digits` is the only
run without one for its number (`digits_value`), and both readers read it back.
-/
import Mathlib.Tactic
import VisionMixer.Text.Digits

namespace VisionMixer.Text

/-- the number that a run of digits spells, high digit first -/
def value (cs : List Char) : Nat := Nat.ofDigitChars 10 cs 0

/-- a zero in front of another digit -/
def HasSpareZero (cs : List Char) : Prop := ∃ c rest, cs = '0' :: c :: rest

variable {cs : List Char} {n : Nat}

theorem ofDigits?_eq_some : ofDigits? cs = some n ↔ (cs ≠ [] ∧ ∀ c ∈ cs, c.isDigit) ∧ value cs = n := by
  have hvalue : cs.foldl (fun n c => n * 10 + (c.toNat - '0'.toNat)) 0 = value cs := by
    simp only [value, Nat.ofDigitChars, Nat.mul_comm]
  unfold ofDigits?
  simp only [hvalue, List.all_eq_true]
  split
  · next h => exact ⟨fun hn => ⟨h, Option.some.inj hn⟩, fun hn => congrArg some hn.2⟩
  · next h => exact iff_of_false (fun hn => nomatch hn) fun hn => h hn.1

theorem isDigit_of_mem_digits {c : Char} (h : c ∈ digits n) : c.isDigit :=
  Nat.isDigit_of_mem_toDigits (by decide) (by decide) h

theorem digits_ne_nil : digits n ≠ [] := Nat.toDigits_ne_nil

theorem value_digits (n : Nat) : value (digits n) = n := Nat.ofDigitChars_toDigits (by decide) (by decide)

theorem ofDigits?_digits (n : Nat) : ofDigits? (digits n) = some n :=
  ofDigits?_eq_some.2 ⟨⟨digits_ne_nil, fun _ hc => isDigit_of_mem_digits hc⟩, value_digits n⟩

/-- a number has no superfluous zero in front -/
theorem head?_digits {n : Nat} (hn : 0 < n) : (digits n).head? ≠ some '0' := by
  induction n using Nat.strongRecOn with
  | _ n ih =>
    rcases Nat.lt_or_ge n 10 with hlt | hge
    · rw [digits, Nat.toDigits_of_lt_base hlt]
      interval_cases n <;> decide
    · have hfront := ih (n / 10) (by omega) (by omega)
      rw [digits, Nat.toDigits_of_base_le (by decide) hge]
      rwa [List.head?_append_of_ne_nil _ Nat.toDigits_ne_nil]

theorem not_hasSpareZero_digits (n : Nat) : ¬HasSpareZero (digits n) := by
  rintro ⟨c, rest, hzero⟩
  rcases Nat.eq_zero_or_pos n with rfl | hn
  · cases hzero
  · exact head?_digits hn (by rw [hzero]; rfl)

theorem ofCanonical?_digits (n : Nat) : ofCanonical? (digits n) = some n := by
  unfold ofCanonical?
  split
  · next c rest hzero => exact absurd ⟨c, rest, hzero⟩ (not_hasSpareZero_digits n)
  · exact ofDigits?_digits n

theorem lt_ten_of_isDigit {c : Char} (h : c.isDigit) : c.toNat - '0'.toNat < 10 :=
  Nat.sub_lt_left_of_lt_add (Char.isDigit_iff_toNat.1 h).1 (Nat.lt_succ_of_le (Char.isDigit_iff_toNat.1 h).2)

theorem digits_of_isDigit {c : Char} (h : c.isDigit) : digits (c.toNat - '0'.toNat) = [c] := by
  have hchar : (c.toNat - '0'.toNat).digitChar = c := by
    refine Char.ext (UInt32.toNat_inj.1 ?_)
    exact (Nat.toNat_digitChar_of_lt_ten (lt_ten_of_isDigit h)).trans (Nat.add_sub_cancel' (Char.isDigit_iff_toNat.1 h).1)
  rw [digits, Nat.toDigits_of_lt_base (lt_ten_of_isDigit h), hchar]

/-- digits behind a number that is not zero are digits of the longer number -/
theorem digits_append (hdigits : ∀ c ∈ cs, c.isDigit) (hn : 0 < n) : digits n ++ cs = digits (Nat.ofDigitChars 10 cs n) := by
  induction cs generalizing n with
  | nil => rw [List.append_nil, Nat.ofDigitChars_nil]
  | cons c cs ih =>
    obtain ⟨hc, hdigits⟩ := List.forall_mem_cons.1 hdigits
    have hlonger : digits n ++ [c] = digits (10 * n + (c.toNat - '0'.toNat)) := by
      rw [← digits_of_isDigit hc]
      exact Nat.toDigits_append_toDigits (by decide) hn (lt_ten_of_isDigit hc)
    rw [Nat.ofDigitChars_cons, ← ih hdigits (by omega), ← hlonger, List.append_assoc, List.singleton_append]

/-- **A number is written in one way** without a spare zero. -/
theorem digits_value (hne : cs ≠ []) (hdigits : ∀ c ∈ cs, c.isDigit) : digits (value cs) = cs ↔ ¬HasSpareZero cs := by
  constructor
  · intro h
    rw [← h]
    exact not_hasSpareZero_digits _
  · intro h
    obtain ⟨c, rest, rfl⟩ := List.exists_cons_of_ne_nil hne
    obtain ⟨hc, hrest⟩ := List.forall_mem_cons.1 hdigits
    rw [value, Nat.ofDigitChars_cons, Nat.mul_zero, Nat.zero_add]
    rcases Nat.eq_zero_or_pos (c.toNat - '0'.toNat) with hzero | hpos
    · have hfirst : c = '0' := by
        have hdigit := digits_of_isDigit hc
        rw [hzero] at hdigit
        exact (List.singleton_inj.1 hdigit).symm
      subst hfirst
      cases rest with
      | nil => rfl
      | cons d rest => exact absurd ⟨d, rest, rfl⟩ h
    · rw [← digits_append hrest hpos, digits_of_isDigit hc, List.singleton_append]

end VisionMixer.Text
