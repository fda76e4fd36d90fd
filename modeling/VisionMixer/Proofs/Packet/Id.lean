/-
Packet ids as wrapped counters.

`wrap n` is the id of packet `n` of a stream that is counted without bound. Near each other the wrapped ids behave as
the numbers do: `next_wrap`, `previous_wrap_succ`, `distance_wrap` and, for numbers at most half the id space apart,
`isBefore_wrap`.
-/
import VisionMixer.Packet.Id

namespace VisionMixer.PacketId

/-- the id of a packet counted without bound -/
def wrap (n : Nat) : PacketId := UInt16.ofNat (n % 0x8000)

theorem toNat_space : space.toNat = 0x8000 := rfl

theorem toNat_wrap (n : Nat) : (wrap n).toNat = n % 0x8000 := by
  rw [wrap, UInt16.toNat_ofNat']
  omega

theorem wrap_inside (n : Nat) : ¬space ≤ wrap n := by
  rw [UInt16.le_iff_toNat_le, toNat_space, toNat_wrap]
  omega

theorem wrap_inj {a b : Nat} (h : wrap a = wrap b) : a % 0x8000 = b % 0x8000 := by
  rw [← toNat_wrap, ← toNat_wrap, h]

theorem toNat_distance (a b : PacketId) : (distance a b).toNat = (65536 - a.toNat + b.toNat) % 65536 % 0x8000 := by
  rw [distance, UInt16.toNat_mod, UInt16.toNat_sub]
  rfl

theorem next_wrap (n : Nat) : next (wrap n) = wrap (n + 1) := by
  rw [← UInt16.toNat_inj, next, UInt16.toNat_mod, UInt16.toNat_add, toNat_space, toNat_wrap, toNat_wrap]
  simp

theorem previous_wrap_succ (n : Nat) : previous (wrap (n + 1)) = wrap n := by
  rw [← UInt16.toNat_inj, previous, UInt16.toNat_mod, UInt16.toNat_sub, UInt16.toNat_add, toNat_space, toNat_wrap,
    toNat_wrap]
  simp
  omega

theorem distance_wrap {a b : Nat} (h : a ≤ b) (hb : b < a + 0x8000) : (distance (wrap a) (wrap b)).toNat = b - a := by
  rw [toNat_distance, toNat_wrap, toNat_wrap]
  omega

theorem isBefore_iff (a b : PacketId) :
    isBefore a b = true ↔ 0 < (distance a b).toNat ∧ (distance a b).toNat < 0x4000 := by
  have hz : distance a b = 0 ↔ (distance a b).toNat = 0 := by rw [← UInt16.toNat_inj]; rfl
  simp only [isBefore, Bool.and_eq_true, decide_eq_true_eq, ne_eq, hz]
  rw [UInt16.lt_iff_toNat_lt, Nat.pos_iff_ne_zero]
  rfl

/-- numbers at most half the space apart: an id is before another if its number is, unless it is a full half behind -/
theorem isBefore_wrap {a b : Nat} (h : b ≤ a + 0x4000) (hb : a ≤ b + 0x4000) :
    isBefore (wrap a) (wrap b) = true ↔ a < b ∧ b < a + 0x4000 := by
  rw [isBefore_iff]
  rcases Nat.lt_or_ge b a with hlt | hge
  · have hd : (distance (wrap a) (wrap b)).toNat = b + 0x8000 - a := by
      rw [toNat_distance, toNat_wrap, toNat_wrap]
      omega
    omega
  · rw [distance_wrap hge (by omega)]
    omega

end VisionMixer.PacketId
