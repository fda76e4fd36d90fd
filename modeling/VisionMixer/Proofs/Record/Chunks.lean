/-
Records that come in chunks.

`decode` is one call of the stream decoder. It takes the record at the front out of the buffer, and leaves the buffer as
it is when it waits for more bytes or finds a malformed header. After each chunk it is called until it gives no record
(`Drains`), and `fed` is what all chunks together have given.

A record at the front of a run stays there when more bytes come (`next_append_record`), and where there is none nothing was
taken out. So draining a run, and then what is left of it with more bytes, is draining all the bytes (`splitAll_append`),
and it does not matter where a stream was cut (`chunks_do_not_matter`).
-/
import VisionMixer.Proofs.Record.Framing

namespace VisionMixer.Record

variable {b rest : Bytes} {r : Record}

/-! ### More bytes -/

/-- the first word of a run that has one -/
theorem toWord16_append_of_le (h : 2 ≤ b.length) (more : Bytes) : Bytes.toWord16 (b ++ more) = Bytes.toWord16 b := by
  rw [Bytes.toWord16, Bytes.toWord16, List.take_append_of_le_length h]

/-- the tag at the front of a run that has one -/
theorem ofBytes_append_of_le (h : 4 ≤ b.length) (more : Bytes) : Tag.ofBytes (b ++ more) = Tag.ofBytes b := by
  simp only [Tag.ofBytes, List.getElem?_append_left (show 0 < b.length by omega),
    List.getElem?_append_left (show 1 < b.length by omega), List.getElem?_append_left (show 2 < b.length by omega),
    List.getElem?_append_left (show 3 < b.length by omega)]

/-- **A record that is there stays**, whatever comes after it. -/
theorem next_append_record (h : next b = .record r rest) (more : Bytes) : next (b ++ more) = .record r (rest ++ more) := by
  unfold next at h
  split at h
  · cases h
  · next hheader =>
    have hlength := toWord16_append_of_le (b := b) (by rw [headerSize] at hheader; omega) more
    dsimp only at h
    split at h
    · cases h
    · next hsize =>
      split at h
      · cases h
      · next hwhole =>
        cases h
        have htag : Tag.ofBytes ((b ++ more).drop 4) = Tag.ofBytes (b.drop 4) := by
          rw [headerSize] at hheader
          rw [List.drop_append_of_le_length (by omega)]
          exact ofBytes_append_of_le (by rw [List.length_drop]; omega) more
        unfold next
        dsimp only
        rw [hlength, List.length_append, if_neg (by omega), if_neg hsize, if_neg (by omega), htag,
          List.take_append_of_le_length (by omega), List.drop_append_of_le_length (by omega)]

/-! ### Calls of the decoder -/

/-- one call of the decoder: what it gives, and the buffer after it -/
def decode (buffer : Bytes) : Except Error (Option Record) × Bytes :=
  match next buffer with
  | .wait => (.ok none, buffer)
  | .malformed fault => (.error (.framing fault), buffer)
  | .record r rest => (.ok (some r), rest)

/-- the decoder is called on a buffer until it gives no record: the records by then, and where it stopped -/
inductive Drains : Bytes → List Record → Stop → Prop where
  | wait (b rest : Bytes) (h : decode b = (.ok none, rest)) : Drains b [] ⟨none, rest⟩
  | failed (b rest : Bytes) (fault : FramingFault) (h : decode b = (.error (.framing fault), rest)) :
      Drains b [] ⟨some fault, rest⟩
  | record (b rest : Bytes) (r : Record) (records : List Record) (stop : Stop) (h : decode b = (.ok (some r), rest))
      (hrest : Drains rest records stop) : Drains b (r :: records) stop

/-- calling the decoder until it gives no record comes to an end, and gives all records at the front -/
theorem drains_splitAll (b : Bytes) : Drains b (splitAll b).1 (splitAll b).2 := by
  induction b using rest_induction with
  | step b ih =>
    cases hnext : next b with
    | wait =>
      rw [splitAll_wait hnext]
      exact .wait b b (by rw [decode, hnext])
    | malformed fault =>
      rw [splitAll_malformed hnext]
      exact .failed b b fault (by rw [decode, hnext])
    | record r rest =>
      rw [splitAll_record hnext]
      exact .record b rest r _ _ (by rw [decode, hnext]) (ih r rest hnext)

/-! ### Chunks -/

/-- **Bytes that come later are read later.** -/
theorem splitAll_append (b more : Bytes) :
    splitAll (b ++ more) =
      ((splitAll b).1 ++ (splitAll ((splitAll b).2.rest ++ more)).1, (splitAll ((splitAll b).2.rest ++ more)).2) := by
  induction b using rest_induction with
  | step b ih =>
    cases hnext : next b with
    | wait =>
      rw [splitAll_wait hnext]
      rfl
    | malformed fault =>
      rw [splitAll_malformed hnext]
      rfl
    | record r rest =>
      rw [splitAll_record hnext, splitAll_record (next_append_record hnext more), ih r rest hnext]
      rfl

/-- the records so far and where the decoder stopped, after one more chunk -/
def feed (s : List Record × Stop) (chunk : Bytes) : List Record × Stop :=
  let (records, stop) := splitAll (s.2.rest ++ chunk)
  (s.1 ++ records, stop)

/-- the records of chunks fed one after another, and where the decoder stopped after the last -/
def fed (chunks : List Bytes) : List Record × Stop := chunks.foldl feed ([], ⟨none, []⟩)

theorem fed_concat (chunks : List Bytes) (chunk : Bytes) : fed (chunks ++ [chunk]) = feed (fed chunks) chunk := by
  rw [fed, List.foldl_concat, fed]

theorem fed_eq_splitAll (chunks : List Bytes) : fed chunks = splitAll chunks.flatten := by
  induction chunks using List.reverseRecOn with
  | nil => rfl
  | append_singleton chunks chunk ih =>
    rw [fed_concat, ih, List.flatten_append, List.flatten_singleton, splitAll_append, feed]

/-- **Where a stream is cut does not matter.** Each chunk is put behind what the last one has left, and the decoder is
called until it gives no record; the chunks give the records of all their bytes fed at once, and the decoder stops with
the same bytes left and the same fault or none. -/
theorem chunks_do_not_matter :
    (∀ chunks chunk, ∃ records stop, Drains ((fed chunks).2.rest ++ chunk) records stop ∧
        fed (chunks ++ [chunk]) = ((fed chunks).1 ++ records, stop)) ∧
      ∀ chunks, fed chunks = fed [chunks.flatten] := by
  refine ⟨fun chunks chunk => ⟨_, _, drains_splitAll _, fed_concat chunks chunk⟩, fun chunks => ?_⟩
  rw [fed_eq_splitAll, fed_eq_splitAll, List.flatten_singleton]

/-- a record cut in its length, its tag and its body, and then a header that counts four bytes -/
example : fed [[0], [], [12, 0, 0, 68, 67], [117, 116, 1, 0], [0, 0, 0, 4, 0, 0], [68, 65, 117, 116]] =
    ([⟨.ofChars 'D' 'C' 'u' 't', [1, 0, 0, 0]⟩], ⟨some (.shortRecord 4), [0, 4, 0, 0, 68, 65, 117, 116]⟩) := by
  cbv

end VisionMixer.Record
