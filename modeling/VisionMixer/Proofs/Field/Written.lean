/-
One field, written and read back.

`Wire.Writes` lists what an encoding writes for which values; it is all that `Wire.encode` accepts (`encode_eq_ok`). What
a field reads depends on its region alone, and a region that starts with the bytes of a value and goes on with zeros
reads as that value (`decode_of_slice`). Numbers come back as the wire holds them: `Arithmetic.settle` is the number that
a field reads after it has written one.
-/
import Mathlib.Tactic
import VisionMixer.Proofs.Field.Region

namespace VisionMixer

/-- the number a field reads back after it has written one -/
def Arithmetic.settle (a : Arithmetic) : Wire → Number → Number
  | .scaled _ scale _ _, x => a.div (.ofInt (a.mul x scale).toInt64) scale
  | .single, x => .ofBinary32 x.toBinary32
  | _, x => x

/-- a value with a function on numbers applied to it -/
def Value.mapNumber (f : Wire → Number → Number) (wire : Wire) : Value → Value
  | .float x => .float (f wire x)
  | v => v

namespace Wire

/-- the encoding of a counted list of records -/
def isCounted : Wire → Bool
  | .records .. => true
  | _ => false

/-- what an encoding writes for a value it accepts -/
inductive Writes (a : Arithmetic) : Wire → Value → Bytes → Prop where
  | int {w : Width} {n : Int} (low : w.low ≤ n) (high : n ≤ w.high) : Writes a (.int w) (.int n) (w.write n)
  | flags {w : Width} {n : Int} (low : w.low ≤ n) (high : n ≤ w.high) : Writes a (.flags w) (.int n) (w.write n)
  | bool (b : Bool) : Writes a .bool (.bool b) [if b then 1 else 0]
  | single {x : Number} (finite : x.isFinite)
      (fits : !(Number.rational Format.binary32.greatest).lt (if x.isNegative then -x else x)) :
      Writes a .single (.float x) x.toBinary32
  | scaled {w : Width} {scale least greatest x : Number} (inRange : Wire.inRange a least greatest x)
      (low : w.low ≤ (a.mul x scale).toInt64) (high : (a.mul x scale).toInt64 ≤ w.high) :
      Writes a (.scaled w scale least greatest) (.float x) (w.write (a.mul x scale).toInt64)
  | ascii {size : Nat} {s : String} (plain : isPlain s) (fits : s.utf8ByteSize ≤ size) :
      Writes a (.ascii size) (.text s) (Utf8.encode s)

variable {a : Arithmetic} {wire : Wire} {name : String} {v : Value} {patch body : Bytes} {offset : Nat}

/-! ### The bytes of a value -/

theorem encode_of_writes (h : Writes a wire v patch) : wire.encode a name v = .ok patch := by
  cases h with
  | int low high => exact Width.encode_eq_ok.mpr ⟨⟨low, high⟩, rfl⟩
  | flags low high => exact Width.encode_eq_ok.mpr ⟨⟨low, high⟩, rfl⟩
  | bool b => rfl
  | single finite fits => exact if_pos ⟨finite, fits⟩
  | scaled inRange low high =>
    rw [encode, if_pos inRange]
    exact Width.encode_eq_ok.mpr ⟨⟨low, high⟩, rfl⟩
  | ascii plain fits => rw [encode, plain, if_neg (by decide), if_neg (not_lt.mpr fits)]

theorem writes_of_encode (h : wire.encode a name v = .ok patch) : Writes a wire v patch := by
  unfold encode at h
  split at h
  · obtain ⟨⟨low, high⟩, rfl⟩ := Width.encode_eq_ok.mp h
    exact .int low high
  · obtain ⟨⟨low, high⟩, rfl⟩ := Width.encode_eq_ok.mp h
    exact .flags low high
  · cases h
    exact .bool _
  · next x =>
    by_cases hx : x.isFinite ∧ !(Number.rational Format.binary32.greatest).lt (if x.isNegative then -x else x)
    · rw [if_pos hx] at h
      cases h
      exact .single hx.1 hx.2
    · rw [if_neg hx] at h
      exact nomatch h
  · split at h
    · next hx =>
      obtain ⟨⟨low, high⟩, rfl⟩ := Width.encode_eq_ok.mp h
      exact .scaled hx low high
    · exact nomatch h
  · split at h
    · exact nomatch h
    split at h
    · exact nomatch h
    · next hplain hfits =>
      cases h
      exact .ascii (by simpa using hplain) (not_lt.mp hfits)
  · exact nomatch h

/-- the name of a field only words the refusals -/
theorem encode_eq_ok : wire.encode a name v = .ok patch ↔ Writes a wire v patch := ⟨writes_of_encode, encode_of_writes⟩

theorem Writes.length_le (h : Writes a wire v patch) : patch.length ≤ wire.size := by
  cases h with
  | int | flags | scaled => exact le_of_eq Width.length_write
  | bool b => exact le_rfl
  | single => exact le_of_eq (Bytes.length_ofNat _ _)
  | ascii plain fits =>
    rw [Utf8.length_encode]
    exact fits

theorem Writes.not_isCounted (h : Writes a wire v patch) : wire.isCounted = false := by
  cases h <;> rfl

/-! ### Reading a region -/

theorem read_drop {w : Width} : w.read (body.drop offset) = w.read (Bytes.slice body offset w.size) :=
  (Width.read_take le_rfl).symm

theorem head?_drop : (body.drop offset).head? = (Bytes.slice body offset 1).head? := by
  rw [Bytes.slice]
  cases body.drop offset <;> rfl

/-- an integer is read from a region that holds it -/
theorem read_of_slice {w : Width} {n : Int} (low : w.low ≤ n) (high : n ≤ w.high)
    (h : Bytes.slice body offset w.size = w.write n ++ Bytes.zeros (w.size - (w.write n).length)) :
    w.read (body.drop offset) = n := by
  have hpadding : Bytes.zeros (w.size - (w.write n).length) = [] := by
    rw [Width.length_write, Nat.sub_self]
    rfl
  rw [read_drop, h, hpadding, List.append_nil]
  exact Width.read_write low high

/-- **A written field is read back.** A region with the bytes of a value, and zeros behind them, reads as that value
with its numbers as the wire holds them. -/
theorem decode_of_slice (h : Writes a wire v patch)
    (hslice : Bytes.slice body offset wire.size = patch ++ Bytes.zeros (wire.size - patch.length)) :
    wire.decode a name offset body = .ok (v.mapNumber a.settle wire) := by
  cases h with
  | int low high =>
    rw [decode, read_of_slice low high hslice]
    rfl
  | flags low high =>
    rw [decode, read_of_slice low high hslice]
    rfl
  | bool b =>
    rw [decode, head?_drop, show Bytes.slice body offset 1 = _ from hslice]
    cases b <;> rfl
  | @single x =>
    have hsize : x.toBinary32.length = 4 := Bytes.length_ofNat _ _
    have hwhole : (body.drop offset).take 4 = x.toBinary32 := by
      rw [show (body.drop offset).take 4 = _ from hslice, hsize]
      exact List.append_nil _
    rw [decode, hwhole]
    rfl
  | scaled inRange low high =>
    rw [decode, read_of_slice low high hslice]
    rfl
  | @ascii size s plain fits =>
    rw [decode, show (body.drop offset).take size = _ from hslice, Bytes.paddedText_encode plain]
    rfl

end Wire

end VisionMixer
