/-
Regions of a body, and what stands in one after it has been written.

A field owns the region at its offset. Writing over a region leaves every region apart from it as it was
(`slice_patch_apart`) and puts the written bytes at its front, before what stood behind them (`slice_patch`). Integers
and padded texts are read back from a region that starts with their bytes (`Width.read_write`, `paddedText_encode`).
-/
import Mathlib.Tactic
import VisionMixer.Field.Coding
import VisionMixer.Proofs.Text.Utf8

namespace VisionMixer

namespace Bytes

/-- the `n` bytes from an offset -/
def slice (b : Bytes) (offset n : Nat) : Bytes := (b.drop offset).take n

variable {b d p : Bytes} {o o' n k : Nat}

/-! ### Slices -/

theorem getElem?_slice (i : Nat) : (b.slice o n)[i]? = if i < n then b[o + i]? else none := by
  rw [slice, List.getElem?_take, List.getElem?_drop]

theorem drop_slice : (b.slice o n).drop k = b.slice (o + k) (n - k) := by
  rw [slice, slice, List.drop_take, List.drop_drop]

/-- a slice of a front is a slice of the whole -/
theorem slice_take (h : o + n ≤ k) : slice (b.take k) o n = b.slice o n := by
  rw [slice, slice, List.drop_take, List.take_take, Nat.min_eq_left (by omega)]

/-- a slice that ends within the front is not changed by what follows -/
theorem slice_append (h : o + n ≤ b.length) : slice (b ++ d) o n = b.slice o n := by
  rw [slice, slice, List.drop_append_of_le_length (by omega), List.take_append_of_le_length]
  rw [List.length_drop]
  omega

theorem slice_zeros (h : o + n ≤ k) : (zeros k).slice o n = zeros n := by
  rw [slice, zeros, zeros, List.drop_replicate, List.take_replicate, Nat.min_eq_left (by omega)]

theorem drop_zeros : (zeros n).drop k = zeros (n - k) := List.drop_replicate

/-! ### Patches -/

theorem patch?_eq_some :
    b.patch? o p = some d ↔ o + p.length ≤ b.length ∧ b.take o ++ p ++ b.drop (o + p.length) = d := by
  rw [patch?]
  split <;> simp [*]

theorem length_patch (h : b.patch? o p = some d) : d.length = b.length := by
  obtain ⟨hfits, rfl⟩ := patch?_eq_some.mp h
  simp only [List.length_append, List.length_take, List.length_drop]
  omega

theorem getElem?_patch (h : b.patch? o p = some d) (i : Nat) :
    d[i]? = if i < o then b[i]? else if i < o + p.length then p[i - o]? else b[i]? := by
  obtain ⟨hfits, rfl⟩ := patch?_eq_some.mp h
  have hfront : (b.take o).length = o := by rw [List.length_take]; omega
  split
  · next hi => rw [List.append_assoc, List.getElem?_append_left (by omega), List.getElem?_take_of_lt hi]
  split
  · next hlow hhigh =>
    rw [List.getElem?_append_left (by rw [List.length_append]; omega), List.getElem?_append_right (by omega), hfront]
  · next hlow hhigh =>
    rw [List.getElem?_append_right (by rw [List.length_append]; omega), List.length_append, hfront,
      List.getElem?_drop, Nat.add_sub_cancel' (by omega)]

theorem slice_patch_apart (h : b.patch? o p = some d) (hapart : o' + n ≤ o ∨ o + p.length ≤ o') :
    d.slice o' n = b.slice o' n := by
  refine List.ext_getElem? fun i => ?_
  rw [getElem?_slice, getElem?_slice]
  split
  · next hi =>
    rw [getElem?_patch h]
    split
    · rfl
    · rw [if_neg (by omega)]
  · rfl

theorem slice_patch (h : b.patch? o p = some d) (hn : p.length ≤ n) :
    d.slice o n = p ++ (b.slice o n).drop p.length := by
  refine List.ext_getElem? fun i => ?_
  rw [getElem?_slice, drop_slice]
  by_cases hi : i < p.length
  · rw [List.getElem?_append_left hi, if_pos (by omega), getElem?_patch h, if_neg (by omega), if_pos (by omega),
      Nat.add_sub_cancel_left]
  · rw [List.getElem?_append_right (by omega), getElem?_slice]
    by_cases hin : i < n
    · rw [if_pos hin, if_pos (by omega), getElem?_patch h, if_neg (by omega), if_neg (by omega),
        show o + p.length + (i - p.length) = o + i by omega]
    · rw [if_neg hin, if_neg (by omega)]

end Bytes

/-! ### Integers -/

namespace Width

variable {w : Width} {n : Int}

theorem length_write : (w.write n).length = w.size := Bytes.length_ofNat _ _

/-- an integer reads its own bytes only -/
theorem read_take {b : Bytes} {k : Nat} (h : w.size ≤ k) : w.read (b.take k) = w.read b := by
  rw [read, List.take_take, Nat.min_eq_left h]
  rfl

/-- every integer of the width is read back, a negative one from its two's complement -/
theorem read_write (hlow : w.low ≤ n) (hhigh : n ≤ w.high) : w.read (w.write n) = n := by
  have htake : (w.write n).take w.size = w.write n := List.take_of_length_le (le_of_eq length_write)
  rw [read, htake, write, Bytes.toNat_ofNat]
  cases w <;> simp only [low, high, size, Bytes.runs] at * <;> split <;> omega

/-- the integers that a width accepts -/
theorem encode_eq_ok {field : String} {b : Bytes} :
    w.encode field n = .ok b ↔ (w.low ≤ n ∧ n ≤ w.high) ∧ w.write n = b := by
  rw [encode]
  split
  · next h =>
    constructor
    · intro hb
      exact nomatch hb
    · rintro ⟨hn, -⟩
      omega
  · next h =>
    constructor
    · intro hb
      exact ⟨by omega, by cases hb; rfl⟩
    · rintro ⟨-, rfl⟩
      rfl

/-- a width holds no integer past 64 signed bits -/
theorem bounds : -0x8000000000000000 < w.low ∧ w.high < 0x7FFFFFFFFFFFFFFF := by
  cases w <;> decide

end Width

/-! ### Padded texts -/

/-- a plain text has no zero byte -/
theorem Utf8.encode_ne_zero {s : String} (h : Wire.isPlain s = true) : ∀ b ∈ Utf8.encode s, b ≠ 0 := by
  intro b hb
  obtain ⟨c, hc, hbc⟩ := List.mem_flatMap.mp hb
  have hplain := List.all_eq_true.mp h c hc
  simp only [Bool.and_eq_true, decide_eq_true_eq] at hplain
  obtain ⟨hascii, hnul⟩ := hplain
  have hvalue : c.val.toNat ≤ 0x7f := Nat.le_of_lt_succ hascii
  rw [String.utf8EncodeChar, if_pos hvalue, List.mem_singleton] at hbc
  intro hzero
  have hval : c.val.toNat = 0 := by
    have := congrArg UInt8.toNat (hbc.symm.trans hzero)
    rwa [Utf8.toNat_ofNat_lt (by omega)] at this
  exact hnul (Char.ext (UInt32.toNat_inj.mp hval))

theorem Bytes.paddedText_encode {s : String} (h : Wire.isPlain s = true) (k : Nat) :
    Bytes.paddedText (Utf8.encode s ++ Bytes.zeros k) = s := by
  have hfront : (Utf8.encode s ++ Bytes.zeros k).takeWhile (· ≠ 0) = Utf8.encode s := by
    rw [List.takeWhile_append_of_pos fun b hb => by simpa using Utf8.encode_ne_zero h b hb]
    cases k with
    | zero => simp [Bytes.zeros]
    | succ k => simp [Bytes.zeros, List.replicate_succ]
  rw [Bytes.paddedText, hfront, Utf8.decode_encode]

end VisionMixer
