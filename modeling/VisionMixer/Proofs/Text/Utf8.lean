/-
The lenient reader of UTF-8 reads back what was written.

A written character is a lead byte and as many continuation bytes as the lead byte announces; the reader takes the lead
byte to a pending state and each continuation byte one step on, so the character comes out with the last of them and the
reader is idle again. `decode_encode`: every text is read back from its own bytes.
-/
import Mathlib.Tactic
import VisionMixer.Text.Utf8

namespace VisionMixer.Utf8

/-! ### Single steps -/

theorem chars_cons (s : State) (b : UInt8) (rest : Bytes) :
    chars s (b :: rest) = (step s b).1 ++ chars (step s b).2 rest := by
  cases s <;> rfl

theorem start_one {b : UInt8} (h : b.toNat < 0x80) : start b = ([Char.ofNat b.toNat], .idle) := by
  have hb : b < 0x80 := UInt8.lt_iff_toNat_lt.mpr h
  rw [start, if_pos hb]

theorem start_two {b : UInt8} (hlow : 0xC2 ≤ b.toNat) (hhigh : b.toNat < 0xE0) :
    start b = ([], .pending (b.toNat % 32) 1 0x80 0xBF) := by
  have h1 : ¬ b < 0x80 := by rw [UInt8.lt_iff_toNat_lt]; simp; omega
  have h2 : ¬ b < 0xC2 := by rw [UInt8.lt_iff_toNat_lt]; simp; omega
  have h3 : b < 0xE0 := UInt8.lt_iff_toNat_lt.mpr hhigh
  rw [start, if_neg h1, if_neg h2, if_pos h3]

theorem start_three {b : UInt8} (hlow : 0xE0 ≤ b.toNat) (hhigh : b.toNat < 0xF0) :
    start b =
      ([], .pending (b.toNat % 16) 2 (if b = 0xE0 then 0xA0 else 0x80) (if b = 0xED then 0x9F else 0xBF)) := by
  have h1 : ¬ b < 0x80 := by rw [UInt8.lt_iff_toNat_lt]; simp; omega
  have h2 : ¬ b < 0xC2 := by rw [UInt8.lt_iff_toNat_lt]; simp; omega
  have h3 : ¬ b < 0xE0 := by rw [UInt8.lt_iff_toNat_lt]; simp; omega
  have h4 : b < 0xF0 := UInt8.lt_iff_toNat_lt.mpr hhigh
  rw [start, if_neg h1, if_neg h2, if_neg h3, if_pos h4]

theorem start_four {b : UInt8} (hlow : 0xF0 ≤ b.toNat) (hhigh : b.toNat < 0xF5) :
    start b =
      ([], .pending (b.toNat % 8) 3 (if b = 0xF0 then 0x90 else 0x80) (if b = 0xF4 then 0x8F else 0xBF)) := by
  have h1 : ¬ b < 0x80 := by rw [UInt8.lt_iff_toNat_lt]; simp; omega
  have h2 : ¬ b < 0xC2 := by rw [UInt8.lt_iff_toNat_lt]; simp; omega
  have h3 : ¬ b < 0xE0 := by rw [UInt8.lt_iff_toNat_lt]; simp; omega
  have h4 : ¬ b < 0xF0 := by rw [UInt8.lt_iff_toNat_lt]; simp; omega
  have h5 : b < 0xF5 := UInt8.lt_iff_toNat_lt.mpr hhigh
  rw [start, if_neg h1, if_neg h2, if_neg h3, if_neg h4, if_pos h5]

/-- the last continuation byte completes the character -/
theorem chars_last {value : Nat} {low high b : UInt8} (rest : Bytes) (hlow : low.toNat ≤ b.toNat)
    (hhigh : b.toNat ≤ high.toNat) :
    chars (.pending value 1 low high) (b :: rest) = Char.ofNat (value * 64 + b.toNat % 64) :: chars .idle rest := by
  have hb : low ≤ b ∧ b ≤ high := ⟨UInt8.le_iff_toNat_le.mpr hlow, UInt8.le_iff_toNat_le.mpr hhigh⟩
  rw [chars_cons, step, if_pos hb]
  rfl

/-- every other continuation byte only adds its six bits -/
theorem chars_more {value left : Nat} {low high b : UInt8} (rest : Bytes) (hlow : low.toNat ≤ b.toNat)
    (hhigh : b.toNat ≤ high.toNat) :
    chars (.pending value (left + 2) low high) (b :: rest) =
      chars (.pending (value * 64 + b.toNat % 64) (left + 1) 0x80 0xBF) rest := by
  have hb : low ≤ b ∧ b ≤ high := ⟨UInt8.le_iff_toNat_le.mpr hlow, UInt8.le_iff_toNat_le.mpr hhigh⟩
  rw [chars_cons, step, if_pos hb, if_neg (by omega)]
  rfl

/-- above a lower bound that one lead byte raises -/
theorem low_le {b lead tight : UInt8} {n : Nat} (h : 0x80 ≤ n) (ht : b = lead → tight.toNat ≤ n) :
    (if b = lead then tight else 0x80 : UInt8).toNat ≤ n := by
  split
  · next he => exact ht he
  · exact h

/-- below an upper bound that one lead byte lowers -/
theorem le_high {b lead tight : UInt8} {n : Nat} (h : n ≤ 0xBF) (ht : b = lead → n ≤ tight.toNat) :
    n ≤ (if b = lead then tight else 0xBF : UInt8).toNat := by
  split
  · next he => exact ht he
  · exact h

/-! ### Whole characters -/

theorem toNat_ofNat_lt {n : Nat} (h : n < 256) : (UInt8.ofNat n).toNat = n := by
  rw [UInt8.toNat_ofNat']
  exact Nat.mod_eq_of_lt h

/-- the values of characters: below the surrogates, or between them and the end of the code space -/
theorem value_cases (c : Char) : c.val.toNat < 0xD800 ∨ 0xDFFF < c.val.toNat ∧ c.val.toNat < 0x110000 := c.valid

/-- the character of a value -/
theorem ofNat_value (c : Char) {n : Nat} (h : n = c.val.toNat) : Char.ofNat n = c := by
  rw [h]
  exact Char.ofNat_toNat c

theorem chars_encodeChar (c : Char) (rest : Bytes) :
    chars .idle (String.utf8EncodeChar c ++ rest) = c :: chars .idle rest := by
  have hc := value_cases c
  fun_cases String.utf8EncodeChar c with
  | case1 v h1 =>
    have hlead : (UInt8.ofNat v).toNat = v := toNat_ofNat_lt (by omega)
    rw [List.singleton_append, chars_cons, step, start_one (by omega), hlead, ofNat_value c rfl]
    rfl
  | case2 v h1 h2 =>
    have hv : v = c.val.toNat := rfl
    have hlead : (UInt8.ofNat (v / 64 % 0x20 + 0xc0)).toNat = v / 64 % 0x20 + 0xc0 := toNat_ofNat_lt (by omega)
    have hlast : (UInt8.ofNat (v % 0x40 + 0x80)).toNat = v % 0x40 + 0x80 := toNat_ofNat_lt (by omega)
    rw [List.cons_append, List.singleton_append, chars_cons, step, start_two (by omega) (by omega), List.nil_append,
      chars_last rest (by simp; omega) (by simp; omega), ofNat_value c (by omega)]
  | case3 v h1 h2 h3 =>
    have hv : v = c.val.toNat := rfl
    have hlead : (UInt8.ofNat (v / 4096 % 0x10 + 0xe0)).toNat = v / 4096 % 0x10 + 0xe0 := toNat_ofNat_lt (by omega)
    have hnext : (UInt8.ofNat (v / 64 % 0x40 + 0x80)).toNat = v / 64 % 0x40 + 0x80 := toNat_ofNat_lt (by omega)
    have hlast : (UInt8.ofNat (v % 0x40 + 0x80)).toNat = v % 0x40 + 0x80 := toNat_ofNat_lt (by omega)
    rw [List.cons_append, List.cons_append, List.singleton_append, chars_cons, step, start_three (by omega) (by omega),
      List.nil_append, chars_more _ (low_le (by omega) fun he => ?_) (le_high (by omega) fun he => ?_),
      chars_last rest (by simp; omega) (by simp; omega), ofNat_value c (by omega)]
    -- past 0xE0 a smaller second byte would be overlong, past 0xED a greater one a surrogate
    · have := congrArg UInt8.toNat he
      simp at this ⊢
      omega
    · have := congrArg UInt8.toNat he
      simp at this ⊢
      omega
  | case4 v h1 h2 h3 =>
    have hv : v = c.val.toNat := rfl
    have hlead : (UInt8.ofNat (v / 262144 % 0x08 + 0xf0)).toNat = v / 262144 % 0x08 + 0xf0 := toNat_ofNat_lt (by omega)
    have hnext : (UInt8.ofNat (v / 4096 % 0x40 + 0x80)).toNat = v / 4096 % 0x40 + 0x80 := toNat_ofNat_lt (by omega)
    have hthird : (UInt8.ofNat (v / 64 % 0x40 + 0x80)).toNat = v / 64 % 0x40 + 0x80 := toNat_ofNat_lt (by omega)
    have hlast : (UInt8.ofNat (v % 0x40 + 0x80)).toNat = v % 0x40 + 0x80 := toNat_ofNat_lt (by omega)
    rw [List.cons_append, List.cons_append, List.cons_append, List.singleton_append, chars_cons, step,
      start_four (by omega) (by omega), List.nil_append,
      chars_more _ (low_le (by omega) fun he => ?_) (le_high (by omega) fun he => ?_),
      chars_more _ (by simp; omega) (by simp; omega), chars_last rest (by simp; omega) (by simp; omega),
      ofNat_value c (by omega)]
    -- past 0xF0 a smaller second byte would be overlong, past 0xF4 a greater one outside the code space
    · have := congrArg UInt8.toNat he
      simp at this ⊢
      omega
    · have := congrArg UInt8.toNat he
      simp at this ⊢
      omega

/-! ### Whole texts -/

/-- **Texts are read back.** The lenient reader finds in the bytes of a text that text and nothing else. -/
theorem decode_encode (s : String) : decode (encode s) = s := by
  have hchars : ∀ l : List Char, chars .idle (l.flatMap String.utf8EncodeChar) = l := by
    intro l
    induction l with
    | nil => rfl
    | cons c l ih => rw [List.flatMap_cons, chars_encodeChar, ih]
  rw [decode, encode, hchars, String.ofList_toList]

theorem length_encode (s : String) : (encode s).length = s.utf8ByteSize := by
  calc (encode s).length = (List.utf8Encode s.toList).size := by rw [encode, List.utf8Encode, List.size_toByteArray]
    _ = (String.ofList s.toList).toByteArray.size := by rw [String.toByteArray_ofList]
    _ = s.utf8ByteSize := by rw [String.ofList_toList, String.size_toByteArray]

end VisionMixer.Utf8
