/-
Reading undoes writing, for every command at every version.

In exact arithmetic a written command is read back with its numbers at the nearest ones that their fields can hold, and
that command has the same record. Tables give this for all bodies but two: a macro slot is read back by the sizes it
states, and a record with a tag of its own is kept as it is.
-/
import VisionMixer.Proofs.Command.Carried
import VisionMixer.Proofs.Command.Settled

namespace VisionMixer

/-! ### Macro slots -/

namespace MacroProperties

variable {c : MacroProperties} {field : String} {s : String} {b body : Bytes}

theorem encodeText_eq_ok (h : encodeText field s = .ok b) : b = Utf8.encode s ∧ b.length ≤ 65535 := by
  unfold encodeText at h
  dsimp only at h
  split at h
  · exact nomatch h
  · next hshort =>
    cases h
    exact ⟨rfl, not_lt.mp hshort⟩

/-- the bytes of a slot, part after part -/
theorem encode_parts (h : c.encode = .ok body) :
    (Utf8.encode c.slot.name).length ≤ 65535 ∧ (Utf8.encode c.slot.description).length ≤ 65535 ∧
      ∃ padding, body = Bytes.word16 c.index ++ ([if c.slot.isUsed then 1 else 0, if c.slot.hasUnsupportedOps then 1 else 0]
        ++ (Bytes.word16 (UInt16.ofNat (Utf8.encode c.slot.name).length)
        ++ (Bytes.word16 (UInt16.ofNat (Utf8.encode c.slot.description).length)
        ++ (Utf8.encode c.slot.name ++ (Utf8.encode c.slot.description ++ padding))))) := by
  rw [encode] at h
  obtain ⟨name, hname, h⟩ := bind_eq_ok.mp h
  obtain ⟨description, hdescription, h⟩ := bind_eq_ok.mp h
  obtain ⟨rfl, hnameSize⟩ := encodeText_eq_ok hname
  obtain ⟨rfl, hdescriptionSize⟩ := encodeText_eq_ok hdescription
  have hpadded : ∃ padding, Bytes.word16 c.index
      ++ [if c.slot.isUsed then 1 else 0, if c.slot.hasUnsupportedOps then 1 else 0]
      ++ Bytes.ofNat 2 (Utf8.encode c.slot.name).length ++ Bytes.ofNat 2 (Utf8.encode c.slot.description).length
      ++ Utf8.encode c.slot.name ++ Utf8.encode c.slot.description ++ padding = body := ⟨_, pure_eq_ok.mp h⟩
  obtain ⟨padding, rfl⟩ := hpadded
  refine ⟨hnameSize, hdescriptionSize, padding, ?_⟩
  rw [Bytes.ofNat_eq_word16 hnameSize, Bytes.ofNat_eq_word16 hdescriptionSize]
  simp only [List.append_assoc]

/-- **Macro slots are read back.** -/
theorem decode_encode (h : c.encode = .ok body) : decode body = .ok c := by
  obtain ⟨hnameSize, hdescriptionSize, padding, hbody⟩ := encode_parts h
  obtain ⟨index, isUsed, hasUnsupportedOps, name, description⟩ := c
  dsimp only at hnameSize hdescriptionSize hbody
  have hindex : Bytes.toWord16 body = index := by rw [hbody, Bytes.toWord16_append]
  have hflags := congrArg (List.drop 2) hbody
  rw [Bytes.drop_word16_append] at hflags
  have hsizes := congrArg (List.drop 2) hflags
  rw [List.drop_drop, List.cons_append, List.cons_append, List.nil_append, List.drop_succ_cons, List.drop_succ_cons,
    List.drop_zero] at hsizes
  have hsecond := congrArg (List.drop 2) hsizes
  rw [List.drop_drop, Bytes.drop_word16_append] at hsecond
  have htexts := congrArg (List.drop 2) hsecond
  rw [List.drop_drop, Bytes.drop_word16_append] at htexts
  have hname : (Bytes.toWord16 (body.drop 4)).toNat = (Utf8.encode name).length := by
    rw [hsizes, Bytes.toWord16_append, UInt16.toNat_ofNat', Nat.mod_eq_of_lt (by omega)]
  have hdescription : (Bytes.toWord16 (body.drop 6)).toNat = (Utf8.encode description).length := by
    rw [hsecond, Bytes.toWord16_append, UInt16.toNat_ofNat', Nat.mod_eq_of_lt (by omega)]
  have hlength : fixedSize ≤ body.length := by
    rw [hbody]
    simp only [List.length_append, Bytes.length_word16, List.length_cons, List.length_nil, fixedSize]
    omega
  have hroom : (Utf8.encode name).length + (Utf8.encode description).length ≤ (body.drop fixedSize).length := by
    rw [fixedSize, htexts, List.length_append, List.length_append]
    omega
  have hused : decide (body[2]?.getD 0 ≠ 0) = isUsed := by
    have hbyte : body[2]? = (body.drop 2)[0]? := by rw [List.getElem?_drop]
    rw [hbyte, hflags]
    cases isUsed <;> rfl
  have hops : decide (body[3]?.getD 0 ≠ 0) = hasUnsupportedOps := by
    have hbyte : body[3]? = (body.drop 2)[1]? := by rw [List.getElem?_drop]
    rw [hbyte, hflags]
    cases hasUnsupportedOps <;> rfl
  rw [decode, if_neg (not_lt.mpr hlength), hname, hdescription]
  dsimp only
  rw [if_neg (not_lt.mpr hroom), hindex, hused, hops, fixedSize, htexts, List.take_left, List.drop_left, List.take_left,
    Utf8.decode_encode, Utf8.decode_encode]

end MacroProperties

namespace Command

variable {v : Version} {c : Command} {r : Record}

/-! ### Bodies that are tables -/

theorem tag_mapNumbers (f : Wire → Number → Number) (c : Command) : (c.mapNumbers f).tag = c.tag := by
  cases c <;> rfl

theorem isTabular_mapNumbers (f : Wire → Number → Number) (c : Command) :
    (c.mapNumbers f).isTabular = c.isTabular := by
  cases c <;> rfl

theorem tag_rounded (c : Command) : c.rounded.tag = c.tag := tag_mapNumbers _ c

theorem isTabular_rounded (c : Command) : c.rounded.isTabular = c.isTabular := isTabular_mapNumbers _ c

theorem table_rounded (v : Version) (c : Command) : c.rounded.table v = c.table v := by
  rw [table, table, tag_rounded]

theorem decode_encode_tabular (hc : c.isTabular) (h : c.encode .exact v = .ok r) :
    decode .exact v r = .ok c.rounded ∧ c.rounded.encode .exact v = .ok r := by
  obtain ⟨values, l, body, hvalues, hl, hbody, rfl⟩ := (encode_eq_ok hc).mp h
  have hwf := wellFormed_of_table hl
  have hregular := isRegular_of_table hl
  have hcarried : values.CarriedBy l := FieldValues.checkCarried_eq_ok.mp (Layout.encode_eq_ok.mp hbody).1
  have hrounded := valuesAt_rounded hc hl hvalues hcarried
  have hc' : c.rounded.isTabular := (isTabular_rounded c).trans hc
  have hread := ofValues_valuesAt hc' hrounded
  rw [tag_rounded] at hread
  constructor
  · exact decode_of_table hc hl (Layout.decode_encode_exact hwf hregular (together_of_table hl) hbody) hread
  · refine (encode_eq_ok hc').mpr ⟨_, l, body, hrounded, (table_rounded v c).trans hl, ?_, by rw [tag_rounded]⟩
    exact Layout.encode_nearest hwf hregular hbody

/-! ### All commands -/

/-- a record that is kept as it is has a tag that no entry reads -/
def IsWellTagged : Command → Prop
  | .unrecognized r => entryOf? r.tag = none
  | _ => True

theorem mapNumbers_of_not_tabular (f : Wire → Number → Number) (hc : ¬ c.isTabular) : c.mapNumbers f = c := by
  cases c with
  | macroProperties _ | unrecognized _ => rfl
  | _ => exact absurd rfl hc

/-- bodies that are no tables have no numbers, and are read back as they are -/
theorem decode_encode_of_not_tabular {a : Arithmetic} (hc : ¬ c.isTabular) (htag : c.IsWellTagged)
    (h : c.encode a v = .ok r) : decode a v r = .ok c := by
  cases c with
  | macroProperties c =>
    obtain ⟨body, hbody, hr⟩ := bind_eq_ok.mp h
    obtain rfl := pure_eq_ok.mp hr
    have hread : MacroProperties.decode body = .ok c := MacroProperties.decode_encode hbody
    exact decode_eq_ok.mpr (.inr ⟨macroEntry, rfl, map_eq_ok.mpr ⟨c, hread, rfl⟩⟩)
  | unrecognized r' =>
    cases h
    exact decode_eq_ok.mpr (.inl ⟨htag, rfl⟩)
  | _ => exact absurd rfl hc

theorem decode_encode_rounded (htag : c.IsWellTagged) (h : c.encode .exact v = .ok r) :
    decode .exact v r = .ok c.rounded ∧ c.rounded.encode .exact v = .ok r := by
  by_cases hc : c.isTabular
  · exact decode_encode_tabular hc h
  · rw [rounded, mapNumbers_of_not_tabular _ hc]
    exact ⟨decode_encode_of_not_tabular hc htag h, h⟩

/-- **Reading undoes writing.** A written command is read back with its numbers at the nearest ones that their fields
can hold, and that command has the same record; a command whose numbers are such numbers already is read back as it
compares, and every command that was read is one of those. -/
theorem round_trip (v : Version) (c : Command) (htag : c.IsWellTagged) :
    (∀ r, c.encode .exact v = .ok r → decode .exact v r = .ok c.rounded ∧ c.rounded.encode .exact v = .ok r) ∧
      (c.IsSettled → (c.rounded == c) = true) ∧
      ∀ w r, decode .exact w r = .ok c → c.IsSettled :=
  ⟨fun _ h => decode_encode_rounded htag h, rounded_beq, fun _ _ h => isSettled_of_decode h⟩

/-- a transition a third of the way through -/
def aThird : Command := .transitionPosition ⟨0, true, 20, .rational (1 / 3)⟩

/-- the position has four decimals on the wire -/
theorem round_trip_third :
    decode .exact .v8_0 ⟨.ofChars 'T' 'r' 'P' 's', [0, 1, 20, 0, 13, 5, 0, 0]⟩ = .ok aThird.rounded
      ∧ aThird.rounded.encode .exact .v8_0 = .ok ⟨.ofChars 'T' 'r' 'P' 's', [0, 1, 20, 0, 13, 5, 0, 0]⟩
      ∧ (aThird.rounded.rounded == aThird.rounded) = true
      ∧ aThird.rounded = .transitionPosition ⟨0, true, 20, .rational (3333 / 10000)⟩ := by
  have hencode : aThird.encode .exact .v8_0 = .ok ⟨.ofChars 'T' 'r' 'P' 's', [0, 1, 20, 0, 13, 5, 0, 0]⟩ := by
    cbv
  obtain ⟨hdecode, hagain⟩ := (round_trip .v8_0 aThird trivial).1 _ hencode
  have hread := round_trip .v8_0 aThird.rounded trivial
  exact ⟨hdecode, hagain, hread.2.1 (hread.2.2 .v8_0 _ hdecode), by decide +kernel⟩

end Command

end VisionMixer
