/-
Record framing, record after record.

`splitAll` is given fuel for the bytes of a run. A record takes at least the eight of its header, so the fuel never runs
out, and reading a payload goes by its front alone (`split_record`, `split_wait`, `split_malformed`). A written record is
a front of its own, whatever comes after it (`next_encode`).
-/
import VisionMixer.Record
import VisionMixer.Proofs.Fallible

namespace VisionMixer

namespace Record

variable {b p rest bytes : Bytes} {r : Record} {fault : FramingFault}

/-! ### Reading -/

theorem length_of_next (h : next b = .record r rest) : rest.length < b.length := by
  unfold next at h
  split at h
  · cases h
  · next hheader =>
    dsimp only at h
    split at h
    · cases h
    · split at h
      · cases h
      · cases h
        rw [headerSize] at *
        rw [List.length_drop]
        omega

/-- what holds of a run if it holds of the rest after its first record holds of every run -/
theorem rest_induction {P : Bytes → Prop} (step : ∀ b, (∀ r rest, next b = .record r rest → P rest) → P b) (b : Bytes) :
    P b := by
  have hsize : ∀ n, ∀ b : Bytes, b.length < n → P b := by
    intro n
    induction n with
    | zero => exact fun _ h => absurd h (Nat.not_lt_zero _)
    | succ n ih =>
      exact fun b hb => step b fun r rest hrest => ih rest (by have := length_of_next hrest; omega)
  exact hsize _ b (Nat.lt_succ_self _)

/-- fuel for all bytes is fuel enough -/
theorem splitUpTo_eq {n m : Nat} (hn : b.length ≤ n) (hm : b.length ≤ m) : splitUpTo n b = splitUpTo m b := by
  have hempty : next [] = .wait := rfl
  induction n generalizing m b with
  | zero =>
    obtain rfl := List.eq_nil_of_length_eq_zero (Nat.le_zero.1 hn)
    cases m <;> rfl
  | succ n ih =>
    cases m with
    | zero =>
      obtain rfl := List.eq_nil_of_length_eq_zero (Nat.le_zero.1 hm)
      rfl
    | succ m =>
      rw [splitUpTo, splitUpTo]
      cases hb : next b with
      | wait => rfl
      | malformed fault => rfl
      | record r rest =>
        have hrest := length_of_next hb
        dsimp only
        rw [ih (by omega : rest.length ≤ n) (by omega : rest.length ≤ m)]

theorem splitAll_eq (b : Bytes) : splitAll b = splitUpTo (b.length + 1) b := splitUpTo_eq le_rfl (Nat.le_succ _)

theorem splitAll_wait (h : next b = .wait) : splitAll b = ([], ⟨none, b⟩) := by
  rw [splitAll_eq, splitUpTo, h]

theorem splitAll_malformed (h : next b = .malformed fault) : splitAll b = ([], ⟨some fault, b⟩) := by
  rw [splitAll_eq, splitUpTo, h]

theorem splitAll_record (h : next b = .record r rest) :
    splitAll b = (r :: (splitAll rest).1, (splitAll rest).2) := by
  rw [splitAll_eq, splitUpTo, h]
  dsimp only
  rw [splitUpTo_eq (length_of_next h).le le_rfl, splitAll]

/-- **The rest of a payload is a payload.** -/
theorem split_record (h : next p = .record r rest) : split p = (r :: ·) <$> split rest := by
  rw [split, split, splitAll_record h]
  dsimp only
  cases (splitAll rest).2.fault with
  | some fault => rfl
  | none =>
    dsimp only
    split <;> rfl

theorem split_wait (h : next p = .wait) :
    split p = if p = [] then .ok [] else .error (.framing (.trailingBytes p.length)) := by
  rw [split, splitAll_wait h]

theorem split_malformed (h : next p = .malformed fault) : split p = .error (.framing fault) := by
  rw [split, splitAll_malformed h]

/-! ### Writing -/

theorem encode_eq_ok : r.encode = .ok bytes ↔
    r.size ≤ 65535 ∧ bytes = Bytes.word16 (UInt16.ofNat r.size) ++ ([0, 0] ++ (r.tag.bytes ++ r.body)) := by
  unfold encode
  split
  · next h =>
    refine iff_of_false (fun h => nomatch h) fun hbytes => ?_
    omega
  · next h =>
    rw [Bytes.ofNat_eq_word16 (not_lt.1 h), Except.ok.injEq, List.append_assoc, List.append_assoc]
    exact ⟨fun hbytes => ⟨not_lt.1 h, hbytes.symm⟩, fun hbytes => hbytes.2.symm⟩

/-- **A written record is read back**, whatever comes after it. -/
theorem next_encode (h : r.encode = .ok bytes) (rest : Bytes) : next (bytes ++ rest) = .record r rest := by
  obtain ⟨hfits, hbytes⟩ := encode_eq_ok.1 h
  have hsize : bytes.length = r.size := by
    rw [hbytes, List.length_append, Bytes.length_word16, List.length_append, List.length_append, size, headerSize]
    change 2 + (2 + (4 + r.body.length)) = 8 + r.body.length
    omega
  have hlength : (Bytes.toWord16 (bytes ++ rest)).toNat = r.size := by
    rw [hbytes, List.append_assoc, Bytes.toWord16_append, UInt16.toNat_ofNat', Nat.mod_eq_of_lt (by omega)]
  have hafter (n : Nat) : bytes.drop (2 + n) = ([0, 0] ++ (r.tag.bytes ++ r.body)).drop n := by
    rw [← List.drop_drop, hbytes, Bytes.drop_word16_append]
  have htag : Tag.ofBytes ((bytes ++ rest).drop 4) = r.tag := by
    rw [List.drop_append_of_le_length (by rw [hsize, size, headerSize]; omega), hafter 2]
    rfl
  have hbody : ((bytes ++ rest).take r.size).drop headerSize = r.body := by
    rw [List.take_left' hsize, headerSize, hafter 6]
    rfl
  have hwhole : r.size ≤ (bytes ++ rest).length := by
    rw [List.length_append]
    omega
  have hheader : headerSize ≤ r.size := Nat.le_add_right _ _
  unfold next
  dsimp only
  rw [hlength, if_neg (by omega), if_neg (by omega), if_neg (by omega), htag, hbody, List.drop_left' hsize]

/-- **Written records are split again.** -/
theorem split_flatten {records : List Record} {chunks : List Bytes}
    (h : List.Forall₂ (fun r b => r.encode = .ok b) records chunks) : split chunks.flatten = .ok records := by
  induction h with
  | nil => rfl
  | @cons r b records chunks hr _ ih =>
    rw [List.flatten_cons, split_record (next_encode hr _), ih]
    rfl

end Record

end VisionMixer
