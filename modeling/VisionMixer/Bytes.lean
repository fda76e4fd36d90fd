/-
Runs of bytes and the numbers they spell, high byte first.

`toNat` and `ofNat` are the only way words of any width cross the wire: a word of `k` bytes is `ofNat k` of its value,
and `toNat` reads it back. `patch?` is the only way to write over a region of a run; it refuses a region that is not
inside it. Main statements: `toNat_ofNat` (reading back what was written gives the number, up to the number of such
runs), `ofNat_toNat` (the bytes of the number that a run spells are that run) and `toNat_append` (a run spells its front
shifted past its back, plus its back).
-/
namespace VisionMixer

/-- a run of bytes -/
abbrev Bytes := List UInt8

namespace Bytes

/-- the number a run spells, high byte first -/
def toNat (b : Bytes) : Nat := b.foldl (fun n x => n * 256 + x.toNat) 0

/-- the low `k` bytes of a number, high byte first -/
def ofNat : Nat → Nat → Bytes
  | 0, _ => []
  | k + 1, n => ofNat k (n / 256) ++ [UInt8.ofNat n]

/-- a 16-bit word -/
def word16 (w : UInt16) : Bytes := ofNat 2 w.toNat

/-- the 16-bit word at the front of a run -/
def toWord16 (b : Bytes) : UInt16 := UInt16.ofNat (toNat (b.take 2))

/-- the number of runs of `k` bytes -/
def runs : Nat → Nat
  | 0 => 1
  | k + 1 => runs k * 256

/-- a run of zeros -/
def zeros (n : Nat) : Bytes := List.replicate n 0

/-- the run with `patch` written over it at `offset`, if the patch fits inside -/
def patch? (b : Bytes) (offset : Nat) (patch : Bytes) : Option Bytes :=
  if offset + patch.length ≤ b.length then some (b.take offset ++ patch ++ b.drop (offset + patch.length)) else none

theorem length_ofNat (k n : Nat) : (ofNat k n).length = k := by
  induction k generalizing n with
  | zero => rfl
  | succ k ih => simp [ofNat, ih]

theorem foldl_eq_toNat (b : Bytes) (m : Nat) :
    b.foldl (fun n x => n * 256 + x.toNat) m = m * runs b.length + toNat b := by
  unfold toNat
  induction b generalizing m with
  | nil => simp [runs]
  | cons x b ih =>
    rw [List.foldl_cons, List.foldl_cons, ih (m * 256 + x.toNat), ih (0 * 256 + x.toNat), List.length_cons, runs,
      Nat.zero_mul, Nat.zero_add, Nat.add_mul, Nat.mul_assoc, Nat.mul_comm 256, Nat.add_assoc]

theorem toNat_append (a b : Bytes) : toNat (a ++ b) = toNat a * runs b.length + toNat b := by
  rw [toNat, List.foldl_append, foldl_eq_toNat b]
  rfl

theorem toNat_ofNat (k n : Nat) : toNat (ofNat k n) = n % runs k := by
  induction k generalizing n with
  | zero => simp [ofNat, toNat, runs, Nat.mod_one]
  | succ k ih =>
    rw [ofNat, toNat_append, ih, runs, Nat.mul_comm (runs k), Nat.mod_mul]
    simp [toNat, runs]
    omega

/-- **Numbers spell their runs.** -/
theorem ofNat_toNat {k : Nat} {b : Bytes} (h : b.length = k) : ofNat k (toNat b) = b := by
  induction k generalizing b with
  | zero =>
    rw [List.eq_nil_of_length_eq_zero h]
    rfl
  | succ k ih =>
    have hne : b ≠ [] := fun hnil => by simp [hnil] at h
    obtain ⟨c, x, rfl⟩ : ∃ c x, b = c ++ [x] := ⟨_, _, (List.dropLast_concat_getLast hne).symm⟩
    have hlow : toNat (c ++ [x]) = toNat c * 256 + x.toNat := by simp [toNat]
    have hx := x.toNat_lt
    have hlast : UInt8.ofNat (toNat (c ++ [x])) = x := by
      rw [hlow, ← UInt8.toNat_inj, UInt8.toNat_ofNat']
      omega
    rw [ofNat, hlast, hlow, show (toNat c * 256 + x.toNat) / 256 = toNat c by omega, ih (by simpa using h)]

theorem runs_pos (k : Nat) : 0 < runs k := by
  induction k with
  | zero => exact Nat.one_pos
  | succ k ih => exact Nat.mul_pos ih (by decide)

theorem runs_mono {m n : Nat} (h : m ≤ n) : runs m ≤ runs n := by
  induction h with
  | refl => exact Nat.le_refl _
  | step _ ih => exact Nat.le_trans ih (Nat.le_mul_of_pos_right _ (by decide))

theorem toNat_lt_runs (b : Bytes) : toNat b < runs b.length := by
  rw [← ofNat_toNat (b := b) rfl, toNat_ofNat, length_ofNat]
  exact Nat.mod_lt _ (runs_pos _)

theorem length_word16 (w : UInt16) : (word16 w).length = 2 := length_ofNat 2 _

/-- a number that fits a word is spelt by that word -/
theorem ofNat_eq_word16 {n : Nat} (h : n ≤ 65535) : ofNat 2 n = word16 (UInt16.ofNat n) := by
  rw [word16, UInt16.toNat_ofNat', Nat.mod_eq_of_lt (by omega)]

/-- a word is read back, whatever comes after it -/
theorem toWord16_append (w : UInt16) (rest : Bytes) : toWord16 (word16 w ++ rest) = w := by
  have hl := length_word16 w
  rw [toWord16, List.take_append_of_le_length (by omega), List.take_of_length_le (by omega), word16, toNat_ofNat,
    ← UInt16.toNat_inj, UInt16.toNat_ofNat']
  have := w.toNat_lt
  simp [runs]

/-- the word at the front of a run is the number that its first two bytes spell -/
theorem toNat_toWord16 (b : Bytes) : (toWord16 b).toNat = toNat (b.take 2) := by
  have hlt := Nat.lt_of_lt_of_le (toNat_lt_runs (b.take 2)) (runs_mono (List.length_take_le 2 b))
  rw [toWord16, UInt16.toNat_ofNat']
  exact Nat.mod_eq_of_lt hlt

theorem drop_word16_append (w : UInt16) (rest : Bytes) : (word16 w ++ rest).drop 2 = rest := by
  rw [← length_word16 w, List.drop_left]

end Bytes

end VisionMixer
