/-
Payloads as frames.

A frame is the bytes of one record: a word that counts all of them, a reserved word, a tag and a body. A run has a record
at its front exactly if it starts with a frame (`frame_of_next`, `next_frame`), so a payload is split exactly if it is
frames one after another (`frames_of_split`, `split_frames`). Writing the record of a frame gives the frame with its
reserved word blanked (`encode_of_carries`); what the reserved word was is all that splitting forgets.
-/
import VisionMixer.Proofs.Record.Chunks

namespace VisionMixer.Record

/-- at least a header, with all bytes counted by the first two, high byte first -/
structure IsFrame (f : Bytes) : Prop where
  header : headerSize ≤ f.length
  counted : Bytes.toNat (f.take 2) = f.length

/-- the tag of the record stands behind the reserved word, and its body is what is left -/
structure Carries (f : Bytes) (r : Record) : Prop where
  tag : r.tag.bytes = (f.drop 4).take 4
  body : r.body = f.drop headerSize

/-- a frame with zeros in its reserved word -/
def blank (f : Bytes) : Bytes := f.take 2 ++ [0, 0] ++ f.drop 4

variable {b d f rest : Bytes} {r : Record} {records : List Record}

/-! ### One frame -/

/-- four bytes are those of a tag -/
theorem bytes_ofBytes (h : 4 ≤ b.length) : (Tag.ofBytes b).bytes = b.take 4 := by
  match b, h with
  | x :: y :: z :: w :: rest, _ => rfl

theorem Carries.size (hf : IsFrame f) (h : Carries f r) : r.size = f.length := by
  have hheader := hf.header
  rw [Record.size, h.body, List.length_drop, Nat.add_sub_cancel' hheader]

/-- a frame carries one record -/
theorem Carries.unique {r' : Record} (h : Carries f r) (h' : Carries f r') : r = r' := by
  obtain ⟨⟨a, b, c, d⟩, body⟩ := r
  obtain ⟨⟨a', b', c', d'⟩, body'⟩ := r'
  have htag := h.tag.trans h'.tag.symm
  have hbody := h.body.trans h'.body.symm
  simp_all [Tag.bytes]

theorem IsFrame.length_le (hf : IsFrame f) : f.length ≤ 65535 := by
  have hlt := (Bytes.toWord16 f).toNat_lt
  rw [Bytes.toNat_toWord16, hf.counted] at hlt
  omega

/-- **Writing blanks the reserved word.** -/
theorem encode_of_carries (hf : IsFrame f) (h : Carries f r) : r.encode = .ok (blank f) := by
  have hsize := h.size hf
  have hheader := hf.header
  have hword : Bytes.word16 (UInt16.ofNat f.length) = f.take 2 := by
    rw [headerSize] at hheader
    rw [← Bytes.ofNat_eq_word16 hf.length_le, ← hf.counted, Bytes.ofNat_toNat (List.length_take_of_le (by omega))]
  have hrest : r.tag.bytes ++ r.body = f.drop 4 := by
    rw [h.tag, h.body, headerSize, show f.drop 8 = (f.drop 4).drop 4 by rw [List.drop_drop], List.take_append_drop]
  refine encode_eq_ok.2 ⟨hsize ▸ hf.length_le, ?_⟩
  rw [hsize, hword, hrest, blank, List.append_assoc]

/-! ### Payloads -/

/-- a record at the front is a frame at the front -/
theorem frame_of_next (h : next b = .record r rest) : ∃ f, IsFrame f ∧ Carries f r ∧ b = f ++ rest := by
  unfold next at h
  split at h
  · cases h
  · dsimp only at h
    split at h
    · cases h
    · split at h
      · cases h
      · next hlong hcount hwhole =>
        cases h
        rw [headerSize] at *
        have hlength : (b.take (Bytes.toWord16 b).toNat).length = (Bytes.toWord16 b).toNat :=
          List.length_take_of_le (by omega)
        refine ⟨b.take (Bytes.toWord16 b).toNat, ⟨?_, ?_⟩, ⟨?_, rfl⟩, (List.take_append_drop _ _).symm⟩
        · rw [hlength, headerSize]
          omega
        · rw [List.take_take, Nat.min_eq_left (by omega), hlength, Bytes.toNat_toWord16]
        · rw [bytes_ofBytes (by rw [List.length_drop]; omega), List.drop_take, List.take_take, Nat.min_eq_left (by omega)]

/-- a frame is taken off the front, whatever comes after it -/
theorem next_frame (hf : IsFrame f) (h : Carries f r) (rest : Bytes) : next (f ++ rest) = .record r rest := by
  have hheader := hf.header
  rw [headerSize] at hheader
  have hcount : (Bytes.toWord16 (f ++ rest)).toNat = f.length := by
    rw [toWord16_append_of_le (by omega), Bytes.toNat_toWord16, hf.counted]
  have htag : Tag.ofBytes ((f ++ rest).drop 4) = Tag.ofBytes (f.drop 4) := by
    rw [List.drop_append_of_le_length (by omega), ofBytes_append_of_le (by rw [List.length_drop]; omega)]
  have hread : Carries f ⟨Tag.ofBytes (f.drop 4), f.drop headerSize⟩ :=
    ⟨bytes_ofBytes (by rw [List.length_drop]; omega), rfl⟩
  unfold next
  dsimp only
  rw [hcount, if_neg (by rw [List.length_append, headerSize]; omega), if_neg (by rw [headerSize]; omega),
    if_neg (by rw [List.length_append]; omega), htag, List.take_left, List.drop_left, hread.unique h]

/-- **Frames are split.** -/
theorem split_frames {frames : List Bytes} (hframes : ∀ f ∈ frames, IsFrame f) (h : List.Forall₂ Carries frames records) :
    split frames.flatten = .ok records := by
  induction h with
  | nil => rfl
  | cons hf _ ih =>
    obtain ⟨hfirst, hframes⟩ := List.forall_mem_cons.1 hframes
    rw [List.flatten_cons, split_record (next_frame hfirst hf _), ih hframes]
    rfl

/-- **What is split is frames.** -/
theorem frames_of_split (h : split b = .ok records) :
    ∃ frames, (∀ f ∈ frames, IsFrame f) ∧ List.Forall₂ Carries frames records ∧ b = frames.flatten := by
  induction b using rest_induction generalizing records with
  | step b ih =>
    cases hnext : next b with
    | wait =>
      rw [split_wait hnext] at h
      split at h
      · next hnil =>
        cases h
        exact ⟨[], List.forall_mem_nil _, .nil, hnil⟩
      · cases h
    | malformed fault =>
      rw [split_malformed hnext] at h
      cases h
    | record r rest =>
      rw [split_record hnext, map_eq_ok] at h
      obtain ⟨others, hothers, rfl⟩ := h
      obtain ⟨f, hf, hcarries, rfl⟩ := frame_of_next hnext
      obtain ⟨frames, hframes, hcarried, rfl⟩ := ih r rest hnext hothers
      exact ⟨f :: frames, List.forall_mem_cons.2 ⟨hf, hframes⟩, .cons hcarries hcarried, rfl⟩

/-- every frame carries a record -/
theorem exists_carried {frames : List Bytes} (hframes : ∀ f ∈ frames, IsFrame f) :
    ∃ records, List.Forall₂ Carries frames records := by
  refine ⟨frames.map fun f => ⟨Tag.ofBytes (f.drop 4), f.drop headerSize⟩, ?_⟩
  rw [List.forall₂_map_right_iff, List.forall₂_same]
  intro f hf
  have hheader := (hframes f hf).header
  rw [headerSize] at hheader
  exact ⟨bytes_ofBytes (by rw [List.length_drop]; omega), rfl⟩

/-! ### Joining -/

theorem join_eq_ok : join records = .ok b ↔ ∃ chunks, records.mapM encode = .ok chunks ∧ chunks.flatten = b := by
  rw [join, bind_eq_ok]
  simp only [pure_eq_ok]

/-- a record is written unless its body is too long for the count -/
theorem exists_encode : (∃ c, r.encode = .ok c) ↔ r.body.length ≤ 65527 := by
  simp only [encode_eq_ok, exists_and_left, exists_eq, and_true, Record.size, headerSize]
  omega

theorem exists_join : (∃ b, join records = .ok b) ↔ ∀ r ∈ records, r.body.length ≤ 65527 := by
  simp only [join_eq_ok, ← exists_encode]
  constructor
  · rintro ⟨b, chunks, hchunks, -⟩ r hr
    exact ok_of_mapM hchunks hr
  · intro h
    choose! write hwrite using h
    exact ⟨_, records.map write, mapM_eq_ok.2 (List.forall₂_map_right_iff.2 (List.forall₂_same.2 hwrite)), rfl⟩

/-- joined records are split again -/
theorem split_join (h : join records = .ok b) : split b = .ok records := by
  obtain ⟨chunks, hchunks, rfl⟩ := join_eq_ok.1 h
  exact split_flatten (mapM_eq_ok.1 hchunks)

/-- **Joining blanks the reserved words.** -/
theorem join_of_frames {frames : List Bytes} (hframes : ∀ f ∈ frames, IsFrame f)
    (h : List.Forall₂ Carries frames records) : join records = .ok (frames.map blank).flatten := by
  refine join_eq_ok.2 ⟨frames.map blank, mapM_eq_ok.2 (List.forall₂_map_right_iff.2 ?_), rfl⟩
  have hboth := (List.forall₂_and_left frames records).2 ⟨hframes, h⟩
  exact (hboth.imp fun f r hr => encode_of_carries hr.1 hr.2).flip

/-- splitting is calling the decoder until it gives no record, with nothing left then -/
theorem split_eq_ok_iff_drained (b : Bytes) :
    split b = .ok records ↔ (splitAll b).2 = ⟨none, []⟩ ∧ (splitAll b).1 = records := by
  rw [split]
  obtain ⟨found, fault, rest⟩ := splitAll b
  cases fault with
  | some fault => simp
  | none =>
    by_cases hrest : rest = [] <;> simp [hrest]

/-- **Framing is an exact round trip.** On any run the decoder comes to an end, and the run is split if nothing is left
then. The runs that are split are frames one after another; they give the record of each frame, and joining those gives
the run with every reserved word blanked. Records are joined unless a body is too long for the count, and joined records
are split again. -/
theorem framing_round_trip :
    (∀ b, ∃ found stop, Drains b found stop ∧ ∀ records, split b = .ok records ↔ stop = ⟨none, []⟩ ∧ found = records) ∧
      (∀ b, (∃ records, split b = .ok records) ↔ ∃ frames : List Bytes, (∀ f ∈ frames, IsFrame f) ∧ b = frames.flatten) ∧
      (∀ frames : List Bytes, (∀ f ∈ frames, IsFrame f) → ∃ records, split frames.flatten = .ok records ∧
        List.Forall₂ Carries frames records ∧ join records = .ok (frames.map blank).flatten) ∧
      (∀ records, (∃ b, join records = .ok b) ↔ ∀ r ∈ records, r.body.length ≤ 65527) ∧
      ∀ records b, join records = .ok b → split b = .ok records := by
  refine ⟨fun b => ⟨_, _, drains_splitAll b, fun records => split_eq_ok_iff_drained b⟩, fun b => ⟨?_, ?_⟩, ?_,
    fun records => exists_join, fun records b => split_join⟩
  · rintro ⟨records, h⟩
    obtain ⟨frames, hframes, -, hb⟩ := frames_of_split h
    exact ⟨frames, hframes, hb⟩
  · rintro ⟨frames, hframes, rfl⟩
    obtain ⟨records, hrecords⟩ := exists_carried hframes
    exact ⟨records, split_frames hframes hrecords⟩
  · intro frames hframes
    obtain ⟨records, hrecords⟩ := exists_carried hframes
    exact ⟨records, split_frames hframes hrecords, hrecords, join_of_frames hframes hrecords⟩

/-- a cut and the end of the initial state, with something in the reserved word of each -/
theorem framing_round_trip_reserved :
    let frames : List Bytes := [[0, 12, 7, 7, 68, 67, 117, 116, 1, 0, 0, 0], [0, 8, 255, 1, 73, 110, 67, 109]]
    let blanked : Bytes := [0, 12, 0, 0, 68, 67, 117, 116, 1, 0, 0, 0, 0, 8, 0, 0, 73, 110, 67, 109]
    (∀ f ∈ frames, IsFrame f) ∧ ∃ records, split frames.flatten = .ok records ∧ List.Forall₂ Carries frames records ∧
      join records = .ok blanked ∧ split blanked = .ok records := by
  intro frames blanked
  have hframes : ∀ f ∈ frames, IsFrame f := by
    intro f hf
    rcases List.mem_pair.1 hf with rfl | rfl <;> exact ⟨by decide, by decide⟩
  obtain ⟨records, hsplit, hcarried, hjoin⟩ := framing_round_trip.2.2.1 frames hframes
  exact ⟨hframes, records, hsplit, hcarried, hjoin, framing_round_trip.2.2.2.2 records _ hjoin⟩

end VisionMixer.Record
