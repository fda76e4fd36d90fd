/-
Commands read one at a time and a payload at once.

`Streams` is the reading of a buffer, call after call, until a call waits for more bytes. A payload that is read at once
gives the commands and the codec of that reading, if it leaves nothing in the buffer, and fails otherwise. A reading at
once that fails leaves the codec as it was, whatever versions the payload announced.
-/
import VisionMixer.Command.Codec
import VisionMixer.Proofs.Record.Framing

namespace VisionMixer

namespace Codec

variable {k k' : Codec} {b p rest : Bytes} {c : Command} {r : Record} {e : Error}

/-- the codec reads the commands off the front of a run and then waits; what is left and the codec then -/
inductive Streams : Codec → Bytes → List Command → Codec → Bytes → Prop where
  | wait (k : Codec) (b : Bytes) (h : k.next b = .wait) : Streams k b [] k b
  | command (k : Codec) (b : Bytes) (c : Command) (rest : Bytes) (k₁ : Codec) (commands : List Command) (k' : Codec)
      (left : Bytes) (h : k.next b = .command c rest k₁) (hrest : Streams k₁ rest commands k' left) :
      Streams k b (c :: commands) k' left

/-! ### The front of a run -/

theorem next_of_wait (h : Record.next b = .wait) : next k b = .wait := by
  rw [next, h]

theorem next_of_malformed {fault : FramingFault} (h : Record.next b = .malformed fault) :
    next k b = .failed (.framing fault) b := by
  rw [next, h]

theorem next_of_ok (h : Record.next b = .record r rest) (hc : Command.decode k.arithmetic k.version r = .ok c) :
    next k b = .command c rest (k.after c) := by
  rw [next, h]
  dsimp only
  rw [hc]

theorem next_of_error (h : Record.next b = .record r rest) (he : Command.decode k.arithmetic k.version r = .error e) :
    next k b = .failed e rest := by
  rw [next, h]
  dsimp only
  rw [he]

/-! ### Calls by the front -/

variable {commands : List Command} {left : Bytes}

theorem streams_of_wait (h : k.next b = .wait) : Streams k b commands k' left ↔ commands = [] ∧ k' = k ∧ left = b := by
  constructor
  · intro hstreams
    cases hstreams with
    | wait => exact ⟨rfl, rfl, rfl⟩
    | command _ _ _ _ _ _ _ _ hnext => cases h.symm.trans hnext
  · rintro ⟨rfl, rfl, rfl⟩
    exact .wait _ _ h

theorem not_streams_of_failed (h : k.next b = .failed e rest) : ¬ Streams k b commands k' left := by
  intro hstreams
  cases hstreams with
  | wait _ _ hnext => cases h.symm.trans hnext
  | command _ _ _ _ _ _ _ _ hnext => cases h.symm.trans hnext

theorem streams_of_command {k₁ : Codec} (h : k.next b = .command c rest k₁) :
    Streams k b commands k' left ↔ ∃ later, Streams k₁ rest later k' left ∧ c :: later = commands := by
  constructor
  · intro hstreams
    cases hstreams with
    | wait _ _ hnext => cases h.symm.trans hnext
    | command _ _ _ _ _ later _ _ hnext hrest =>
      cases h.symm.trans hnext
      exact ⟨later, hrest, rfl⟩
  · rintro ⟨later, hrest, rfl⟩
    exact .command _ _ _ _ _ _ _ _ h hrest

/-! ### Whole payloads -/

/-- a first record that cannot be read fails the payload -/
theorem decodePayload_of_error {records : Except Error (List Record)}
    (he : Command.decode k.arithmetic k.version r = .error e) :
    ((r :: ·) <$> records >>= k.decodePayload) ≠ .ok (commands, k') := by
  intro h
  obtain ⟨all, hall, hread⟩ := bind_eq_ok.mp h
  obtain ⟨later, -, rfl⟩ := map_eq_ok.mp hall
  rw [decodePayload, he] at hread
  cases hread

/-- a first record that can be read is followed by the reading of the rest with the codec after it -/
theorem decodePayload_of_ok {records : Except Error (List Record)}
    (hc : Command.decode k.arithmetic k.version r = .ok c) :
    ((r :: ·) <$> records >>= k.decodePayload) = .ok (commands, k') ↔
      ∃ later, (records >>= (k.after c).decodePayload) = .ok (later, k') ∧ c :: later = commands := by
  cases records with
  | error e => exact iff_of_false (fun h => nomatch h) fun ⟨_, h, _⟩ => nomatch h
  | ok records =>
    change k.decodePayload (r :: records) = _ ↔ _
    rw [decodePayload, hc, ok_bind, ok_bind]
    cases (k.after c).decodePayload records with
    | error e => exact iff_of_false (fun h => nomatch h) fun ⟨_, h, _⟩ => nomatch h
    | ok s => simp [Prod.ext_iff, and_comm]

theorem streams_iff :
    Streams k p commands k' [] ↔ (Record.split p >>= k.decodePayload) = .ok (commands, k') := by
  induction p using Record.rest_induction generalizing k commands with
  | step p ih =>
    cases hnext : Record.next p with
    | wait =>
      rw [streams_of_wait (next_of_wait hnext), Record.split_wait hnext]
      by_cases hempty : p = []
      · subst hempty
        rw [if_pos rfl, ok_bind, decodePayload]
        constructor
        · rintro ⟨rfl, rfl, -⟩
          rfl
        · intro h
          cases h
          exact ⟨rfl, rfl, rfl⟩
      · rw [if_neg hempty]
        exact iff_of_false (fun h => hempty h.2.2.symm) fun h => nomatch h
    | malformed fault =>
      rw [Record.split_malformed hnext]
      exact iff_of_false (not_streams_of_failed (next_of_malformed hnext)) fun h => nomatch h
    | record r rest =>
      rw [Record.split_record hnext]
      cases hc : Command.decode k.arithmetic k.version r with
      | error e => exact iff_of_false (not_streams_of_failed (next_of_error hnext hc)) (decodePayload_of_error hc)
      | ok c =>
        rw [streams_of_command (next_of_ok hnext hc), decodePayload_of_ok hc]
        simp only [ih r rest hnext]

/-! ### Reading in place -/

theorem foldlM_readRecord (records : List Record) (k : Codec) (read : Array Command) :
    records.foldlM readRecord (k, read) = (fun s => (s.2, read ++ s.1.toArray)) <$> k.decodePayload records := by
  induction records generalizing k read with
  | nil => simp [decodePayload, pure, Except.pure]
  | cons r records ih =>
    rw [List.foldlM_cons, decodePayload, readRecord]
    cases Command.decode k.arithmetic k.version r with
    | error e => rfl
    | ok c =>
      refine (ih (k.after c) (read.push c)).trans ?_
      rw [ok_bind]
      cases (k.after c).decodePayload records with
      | error e => rfl
      | ok s => simp [pure, Except.pure]

theorem read_eq_foldlM (k : Codec) (records : List Record) :
    k.read records =
      match records.foldlM readRecord (k, #[]) with
      | .ok (k', commands) => (.ok commands.toList, k')
      | .error e => (.error e, k) := by
  change (((do
    let read ← (liftM (records.foldlM readRecord (k, #[])) : ExceptT Error (StateM Codec) (Codec × Array Command))
    set read.1
    return read.2.toList : ExceptT Error (StateM Codec) (List Command)).run k).run) = _
  cases records.foldlM readRecord (k, #[]) with
  | error e => rfl
  | ok s => rfl

/-- the codec moves if all records can be read -/
theorem read_eq (k : Codec) (records : List Record) :
    k.read records =
      match k.decodePayload records with
      | .ok (commands, k') => (.ok commands, k')
      | .error e => (.error e, k) := by
  rw [read_eq_foldlM, foldlM_readRecord]
  cases k.decodePayload records with
  | error e => rfl
  | ok s => simp

theorem read_eq_ok {records : List Record} {commands : List Command} :
    k.read records = (.ok commands, k') ↔ k.decodePayload records = .ok (commands, k') := by
  rw [read_eq]
  cases k.decodePayload records with
  | error e => simp
  | ok s => simp [Prod.ext_iff]

theorem eq_of_read_error {records : List Record} (h : k.read records = (.error e, k')) : k' = k := by
  rw [read_eq] at h
  cases hread : k.decodePayload records with
  | error e =>
    rw [hread] at h
    exact (Prod.ext_iff.1 h).2.symm
  | ok s =>
    rw [hread] at h
    cases h

/-- **At once and one at a time agree**, and a failed reading at once leaves the codec as it was. -/
theorem read_agrees (k : Codec) (p : Bytes) :
    (∀ commands k', (∃ records, Record.split p = .ok records ∧ k.read records = (.ok commands, k')) ↔
        Streams k p commands k' []) ∧
      ∀ records e k', k.read records = (.error e, k') → k' = k := by
  refine ⟨fun commands k' => ?_, fun _ _ _ h => eq_of_read_error h⟩
  rw [streams_iff, bind_eq_ok]
  simp only [read_eq_ok]

/-- an announcement alone moves the codec; before a report that is too short it does not -/
theorem read_announcement :
    let k : Codec := ⟨.v7_2, .binary64⟩
    let announced : Record := ⟨.ofChars '_' 'v' 'e' 'r', [0, 2, 0, 28]⟩
    let short : Record := ⟨.ofChars 'P' 'r' 'g' 'I', [0]⟩
    Streams k [0, 12, 0, 0, 95, 118, 101, 114, 0, 2, 0, 28] [.version .v8_0] { k with version := .v8_0 } [] ∧
      ∃ e, k.read [announced, short] = (.error e, k) := by
  intro k announced short
  obtain ⟨hagree, hkept⟩ := read_agrees k [0, 12, 0, 0, 95, 118, 101, 114, 0, 2, 0, 28]
  have hread : k.read [announced] = (.ok [.version .v8_0], { k with version := .v8_0 }) :=
    read_eq_ok.mpr (by cbv)
  have hfailed : (k.read [announced, short]).1.isOk = false := by decide +kernel
  obtain ⟨e, he⟩ : ∃ e, (k.read [announced, short]).1 = .error e := by
    cases hread : (k.read [announced, short]).1 with
    | error e => exact ⟨e, rfl⟩
    | ok _ =>
      rw [hread] at hfailed
      cases hfailed
  exact ⟨(hagree _ _).1 ⟨[announced], rfl, hread⟩, e, Prod.ext he (hkept _ e _ (Prod.ext he rfl))⟩

end Codec

end VisionMixer
