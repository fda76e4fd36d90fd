/-
Packet framing: what a written header and an encoded packet read as, and which runs can be read.

`Header.parse_write` and `Packet.decode_encode` hold of every header and packet; five flag bits survive, and an id
outside the id space is refused. The other way round, `IsDatagram` says of the bytes of a run that it can be read, and
`Header.ReadFrom` which numbers its header has; nothing but the reserved word is lost (`Packet.encode_of_decode`).
-/
import VisionMixer.Packet.Basic

namespace VisionMixer

namespace Header

/-- a length of eleven bits -/
theorem toNat_and_length (l : UInt16) : (l &&& 0x7FF).toNat = l.toNat % 2048 := by
  rw [UInt16.toNat_and]
  exact Nat.and_two_pow_sub_one_eq_mod l.toNat 11

/-- flags of five bits -/
theorem toNat_and_flags (b : UInt8) : (b &&& 0x1F).toNat = b.toNat % 32 := by
  rw [UInt8.toNat_and]
  exact Nat.and_two_pow_sub_one_eq_mod b.toNat 5

/-- the first word of a header: flags above the length -/
theorem toNat_firstWord (b : UInt8) (l : UInt16) :
    (b.toUInt16 <<< 11 ||| (l &&& 0x7FF)).toNat = b.toNat % 32 * 2048 + l.toNat % 2048 := by
  have hb : (b.toUInt16 <<< 11).toNat = (b.toNat % 32) <<< 11 := by
    rw [UInt16.toNat_shiftLeft, UInt8.toNat_toUInt16]
    have := b.toNat_lt
    simp [Nat.shiftLeft_eq]
    omega
  rw [UInt16.toNat_or, toNat_and_length, hb, ← Nat.shiftLeft_add_eq_or_of_lt (by omega), Nat.shiftLeft_eq]

theorem flags_firstWord (b : UInt8) (l : UInt16) :
    ((b.toUInt16 <<< 11 ||| (l &&& 0x7FF)) >>> 11).toUInt8 = b &&& 0x1F := by
  rw [← UInt8.toNat_inj, UInt16.toNat_toUInt8, UInt16.toNat_shiftRight, toNat_firstWord, toNat_and_flags]
  simp [Nat.shiftRight_eq_div_pow]
  omega

theorem length_firstWord (b : UInt8) (l : UInt16) :
    ((b.toUInt16 <<< 11 ||| (l &&& 0x7FF)) &&& 0x7FF).toNat = l.toNat % 2048 := by
  rw [toNat_and_length, toNat_firstWord]
  omega

theorem length_write (h : Header) : h.write.length = size := by
  simp [write, Bytes.length_word16, size]

theorem drop_write (h : Header) (payload : Bytes) : (h.write ++ payload).drop size = payload := by
  rw [← length_write h, List.drop_left]

/-- what a written header reads as, in front of a payload that makes the stated length right -/
theorem parse_write (h : Header) (payload : Bytes) (hl : h.length.toNat = size + payload.length)
    (hm : size + payload.length ≤ maxLength) :
    parse (h.write ++ payload) =
      if PacketId.space ≤ h.packetId ∨ PacketId.space ≤ h.ackId ∨ PacketId.space ≤ h.resendFrom then
        .error (.framing .idOutsideSpace)
      else .ok { h with flags := ⟨h.flags.bits &&& 0x1F⟩ } := by
  have hsize : (h.write ++ payload).length = size + payload.length := by rw [List.length_append, length_write]
  have hword : Bytes.toWord16 (h.write ++ payload) = h.flags.bits.toUInt16 <<< 11 ||| (h.length &&& 0x7FF) := by
    simp only [write, List.append_assoc]
    exact Bytes.toWord16_append _ _
  have hsession : Bytes.toWord16 ((h.write ++ payload).drop 2) = h.sessionId := by
    simp only [write, List.append_assoc, Bytes.drop_word16_append]
    exact Bytes.toWord16_append _ _
  have hack : Bytes.toWord16 ((h.write ++ payload).drop 4) = h.ackId := by
    rw [show 4 = 2 + 2 from rfl, ← List.drop_drop]
    simp only [write, List.append_assoc, Bytes.drop_word16_append]
    exact Bytes.toWord16_append _ _
  have hresend : Bytes.toWord16 ((h.write ++ payload).drop 6) = h.resendFrom := by
    rw [show 6 = 2 + 2 + 2 from rfl, ← List.drop_drop, ← List.drop_drop]
    simp only [write, List.append_assoc, Bytes.drop_word16_append]
    exact Bytes.toWord16_append _ _
  have hpacket : Bytes.toWord16 ((h.write ++ payload).drop 10) = h.packetId := by
    rw [show 10 = 2 + 2 + 2 + 2 + 2 from rfl, ← List.drop_drop, ← List.drop_drop, ← List.drop_drop, ← List.drop_drop]
    simp only [write, List.append_assoc, Bytes.drop_word16_append]
    exact Bytes.toWord16_append _ _
  have hlength : (h.flags.bits.toUInt16 <<< 11 ||| (h.length &&& 0x7FF)) &&& 0x7FF = h.length := by
    rw [← UInt16.toNat_inj, length_firstWord]
    exact Nat.mod_eq_of_lt (by rw [hl]; exact Nat.lt_succ_of_le hm)
  unfold parse
  simp only [hsize, hword, hsession, hack, hresend, hpacket, hlength, flags_firstWord, hl, ne_eq, not_true_eq_false,
    if_false]
  rw [if_neg (by omega)]

end Header

/-! ### Reading -/

/-- the number that the two bytes from an offset spell -/
def Bytes.wordAt (d : Bytes) (offset : Nat) : Nat := toNat ((d.drop offset).take 2)

theorem Bytes.word16_eq_slice {d : Bytes} {w : UInt16} {offset : Nat} (h : w.toNat = d.wordAt offset)
    (hroom : offset + 2 ≤ d.length) : word16 w = (d.drop offset).take 2 := by
  rw [word16, h, wordAt, ofNat_toNat (List.length_take_of_le (by rw [List.length_drop]; omega))]

/-- a header in front, the size of the whole in the low eleven bits of its first word, and three ids inside their space -/
structure IsDatagram (d : Bytes) : Prop where
  header : 12 ≤ d.length
  fits : d.length ≤ 2047
  counted : d.wordAt 0 % 2048 = d.length
  acked : d.wordAt 4 < 0x8000
  resent : d.wordAt 6 < 0x8000
  own : d.wordAt 10 < 0x8000

/-- the header has the numbers of a datagram: flags and length share its first word -/
structure Header.ReadFrom (h : Header) (d : Bytes) : Prop where
  flags : h.flags.bits.toNat = d.wordAt 0 / 2048
  length : h.length.toNat = d.wordAt 0 % 2048
  sessionId : h.sessionId.toNat = d.wordAt 2
  ackId : h.ackId.toNat = d.wordAt 4
  resendFrom : h.resendFrom.toNat = d.wordAt 6
  packetId : h.packetId.toNat = d.wordAt 10

namespace Header

theorem toNat_flags_parse (d : Bytes) : (Bytes.toWord16 d >>> 11).toUInt8.toNat = d.wordAt 0 / 2048 := by
  have hlt := (Bytes.toWord16 d).toNat_lt
  have hword : (Bytes.toWord16 d).toNat = d.wordAt 0 := Bytes.toNat_toWord16 d
  rw [UInt16.toNat_toUInt8, UInt16.toNat_shiftRight, hword]
  simp [Nat.shiftRight_eq_div_pow]
  omega

theorem toNat_length_parse (d : Bytes) : (Bytes.toWord16 d &&& 0x7FF).toNat = d.wordAt 0 % 2048 := by
  rw [toNat_and_length, Bytes.toNat_toWord16]
  rfl

/-- what a header that can be parsed is read from -/
theorem read_of_parse {d : Bytes} {h : Header} (hparse : parse d = .ok h) : IsDatagram d ∧ h.ReadFrom d := by
  unfold parse at hparse
  split at hparse
  · cases hparse
  · next hshort =>
    dsimp only at hparse
    split at hparse
    · cases hparse
    · next hlength =>
      split at hparse
      · cases hparse
      · next hinside =>
        have hsame := Decidable.not_not.1 hlength
        simp only [not_or, UInt16.not_le, UInt16.lt_iff_toNat_lt, Bytes.toNat_toWord16] at hinside
        obtain ⟨hown, hacked, hresent⟩ := hinside
        rw [toNat_length_parse] at hsame
        cases hparse
        have hsize : 12 ≤ d.length := Nat.not_lt.1 hshort
        exact ⟨⟨hsize, by omega, hsame, hacked, hresent, hown⟩,
          ⟨toNat_flags_parse d, toNat_length_parse d, Bytes.toNat_toWord16 _, Bytes.toNat_toWord16 _,
            Bytes.toNat_toWord16 _, Bytes.toNat_toWord16 _⟩⟩

theorem exists_parse {d : Bytes} (hd : IsDatagram d) : ∃ h, parse d = .ok h := by
  have hinside {offset : Nat} (h : d.wordAt offset < 0x8000) : ¬PacketId.space ≤ Bytes.toWord16 (d.drop offset) := by
    rw [UInt16.not_le, UInt16.lt_iff_toNat_lt, Bytes.toNat_toWord16]
    exact h
  unfold parse
  dsimp only
  rw [toNat_length_parse, size, if_neg (Nat.not_lt.2 hd.header), if_neg (not_not_intro hd.counted),
    if_neg (not_or_intro (hinside hd.own) (not_or_intro (hinside hd.acked) (hinside hd.resent)))]
  exact ⟨_, rfl⟩

end Header

namespace Packet

/-- what an encoded packet reads as -/
theorem decode_encode {p : Packet} {d : Bytes} (h : p.encode = .ok d) :
    decode d =
      if PacketId.space ≤ p.header.packetId ∨ PacketId.space ≤ p.header.ackId ∨ PacketId.space ≤ p.header.resendFrom then
        .error (.framing .idOutsideSpace)
      else .ok { p with header := { p.header with
        flags := ⟨p.header.flags.bits &&& 0x1F⟩, length := UInt16.ofNat (Header.size + p.payload.length) } } := by
  unfold encode at h
  simp only at h
  split at h
  · cases h
  · rename_i hm
    have hm : Header.size + p.payload.length ≤ Header.maxLength := by omega
    have hl : (UInt16.ofNat (Header.size + p.payload.length)).toNat = Header.size + p.payload.length := by
      rw [UInt16.toNat_ofNat']
      exact Nat.mod_eq_of_lt (Nat.lt_of_le_of_lt hm (by decide))
    cases h
    unfold decode
    rw [Header.parse_write _ _ hl hm, Header.drop_write]
    split <;> rfl

/-- what a datagram that can be read is read as -/
theorem read_of_decode {d : Bytes} {p : Packet} (h : decode d = .ok p) :
    IsDatagram d ∧ p.header.ReadFrom d ∧ p.payload = d.drop Header.size := by
  cases hparse : Header.parse d with
  | error e =>
    rw [decode, hparse] at h
    cases h
  | ok header =>
    rw [decode, hparse] at h
    cases h
    exact ⟨(Header.read_of_parse hparse).1, (Header.read_of_parse hparse).2, rfl⟩

/-- a datagram that can be read holds a whole header, and its stated length bounds it -/
theorem length_of_decode {d : Bytes} {p : Packet} (h : decode d = .ok p) :
    Header.size ≤ d.length ∧ d.length ≤ Header.maxLength ∧ p.payload = d.drop Header.size := by
  obtain ⟨hd, -, hpayload⟩ := read_of_decode h
  exact ⟨hd.header, hd.fits, hpayload⟩

/-- the id of a packet that can be read lies inside the id space -/
theorem packetId_of_decode {d : Bytes} {p : Packet} (h : decode d = .ok p) : p.header.packetId < PacketId.space := by
  obtain ⟨hd, hread, -⟩ := read_of_decode h
  rw [UInt16.lt_iff_toNat_lt, hread.packetId]
  exact hd.own

/-- the datagrams that can be read -/
theorem exists_decode {d : Bytes} : (∃ p, decode d = .ok p) ↔ IsDatagram d := by
  constructor
  · rintro ⟨p, h⟩
    exact (read_of_decode h).1
  · intro hd
    obtain ⟨header, h⟩ := Header.exists_parse hd
    exact ⟨{ header, payload := d.drop Header.size }, by rw [decode, h]; rfl⟩

/-- **Reading loses the reserved word.** Writing what was read gives the datagram with zeros there. -/
theorem encode_of_decode {d : Bytes} {p : Packet} (h : decode d = .ok p) :
    p.encode = .ok (d.take 8 ++ [0, 0] ++ d.drop 10) := by
  obtain ⟨hd, hread, hpayload⟩ := read_of_decode h
  have hheader := hd.header
  have hfits := hd.fits
  have htotal : Header.size + p.payload.length = d.length := by
    rw [hpayload, List.length_drop, Header.size]
    omega
  have hfirst : Bytes.word16 (p.header.flags.bits.toUInt16 <<< 11 ||| (UInt16.ofNat d.length &&& 0x7FF)) = d.take 2 := by
    have hword : (p.header.flags.bits.toUInt16 <<< 11 ||| (UInt16.ofNat d.length &&& 0x7FF)).toNat = d.wordAt 0 := by
      have hlt := Bytes.toNat_lt_runs (d.take 2)
      rw [List.length_take_of_le (by omega)] at hlt
      rw [Header.toNat_firstWord, hread.flags, UInt16.toNat_ofNat', ← hd.counted]
      rw [show Bytes.toNat (d.take 2) = d.wordAt 0 from rfl, show Bytes.runs 2 = 65536 from rfl] at hlt
      omega
    rw [Bytes.word16_eq_slice hword (by omega), List.drop_zero]
  have hfront : d.take 8 = d.take 2 ++ (d.drop 2).take 2 ++ (d.drop 4).take 2 ++ (d.drop 6).take 2 := by
    rw [show 8 = 2 + 2 + 2 + 2 from rfl, List.take_add, List.take_add, List.take_add]
  have hback : (d.drop 10).take 2 ++ d.drop Header.size = d.drop 10 := by
    rw [Header.size, show 12 = 10 + 2 from rfl, ← List.drop_drop, List.take_append_drop]
  have hwritten : Header.write { p.header with length := UInt16.ofNat d.length } ++ p.payload =
      d.take 8 ++ [0, 0] ++ d.drop 10 := by
    rw [Header.write, hfirst, Bytes.word16_eq_slice hread.sessionId (by omega),
      Bytes.word16_eq_slice hread.ackId (by omega), Bytes.word16_eq_slice hread.resendFrom (by omega),
      Bytes.word16_eq_slice hread.packetId (by omega), hpayload, List.append_assoc, hback, hfront]
    rfl
  rw [encode, htotal]
  dsimp only
  rw [if_neg (by rw [Header.maxLength]; omega), hwritten]

/-! ### Both ways -/

/-- a packet is written unless the length of its datagram takes more than eleven bits -/
theorem exists_encode {p : Packet} : (∃ d, p.encode = .ok d) ↔ p.payload.length ≤ 2035 := by
  unfold encode
  dsimp only
  rw [Header.size, Header.maxLength]
  split
  · next hlong =>
    refine iff_of_false (fun ⟨d, h⟩ => nomatch h) ?_
    omega
  · next hshort =>
    refine iff_of_true ⟨_, rfl⟩ ?_
    omega

/-- flags survive if they are below the sixth bit -/
theorem flags_kept_iff (b : UInt8) : b &&& 0x1F = b ↔ b < 0x20 := by
  rw [← UInt8.toNat_inj, Header.toNat_and_flags, UInt8.lt_iff_toNat_lt]
  change b.toNat % 32 = b.toNat ↔ b.toNat < 32
  omega

/-- **Datagrams and packets go into each other.** A run is read exactly if it is a datagram, and writing what was read
gives it back with zeros in its reserved word. A packet is written exactly if its datagram is not too long, and is read
back, with its length filled in, exactly if its flags and ids fit the header. -/
theorem datagram_round_trip :
    (∀ d, (∃ p, decode d = .ok p) ↔ IsDatagram d) ∧
      (∀ d p, decode d = .ok p → p.encode = .ok (d.take 8 ++ [0, 0] ++ d.drop 10)) ∧
      (∀ p : Packet, (∃ d, p.encode = .ok d) ↔ p.payload.length ≤ 2035) ∧
      ∀ (p : Packet) (d : Bytes), p.encode = .ok d →
        (decode d = .ok { p with header := { p.header with length := UInt16.ofNat (12 + p.payload.length) } } ↔
          p.header.flags.bits < 0x20 ∧ p.header.ackId < 0x8000 ∧ p.header.resendFrom < 0x8000 ∧
            p.header.packetId < 0x8000) := by
  refine ⟨fun d => exists_decode, fun d p => encode_of_decode, fun p => exists_encode, fun p d h => ?_⟩
  rw [decode_encode h]
  have hspace : PacketId.space = 0x8000 := rfl
  split
  · next houtside =>
    refine iff_of_false (fun h => nomatch h) ?_
    rintro ⟨-, hacked, hresent, hown⟩
    rw [hspace] at houtside
    rcases houtside with h | h | h
    · exact absurd hown (UInt16.not_lt.2 h)
    · exact absurd hacked (UInt16.not_lt.2 h)
    · exact absurd hresent (UInt16.not_lt.2 h)
  · next hinside =>
    simp only [hspace, not_or, UInt16.not_le] at hinside
    obtain ⟨hown, hacked, hresent⟩ := hinside
    rw [← flags_kept_iff]
    constructor
    · intro h
      have hflags := congrArg (fun q : Packet => q.header.flags.bits) (Except.ok.inj h)
      exact ⟨hflags, hacked, hresent, hown⟩
    · rintro ⟨hflags, -⟩
      rw [hflags]
      rfl

/-- all five flags and the greatest ids, with something in the reserved word -/
theorem datagram_round_trip_greatest :
    let p : Packet := {
      header := {
        flags := ⟨0x1F⟩, length := 14, sessionId := 0xFFFF, ackId := 0x7FFF, resendFrom := 0x7FFF, packetId := 0x7FFF }
      payload := [1, 2] }
    decode [0xF8, 14, 255, 255, 127, 255, 127, 255, 9, 9, 127, 255, 1, 2] = .ok p ∧
      p.encode = .ok [0xF8, 14, 255, 255, 127, 255, 127, 255, 0, 0, 127, 255, 1, 2] ∧
      decode [0xF8, 14, 255, 255, 127, 255, 127, 255, 0, 0, 127, 255, 1, 2] = .ok p := by
  intro p
  have hread : decode [0xF8, 14, 255, 255, 127, 255, 127, 255, 9, 9, 127, 255, 1, 2] = .ok p := rfl
  have hwritten := datagram_round_trip.2.1 _ p hread
  exact ⟨hread, hwritten, (datagram_round_trip.2.2.2 p _ hwritten).2 (by decide)⟩

end Packet
end VisionMixer
