/-
Payloads that say their own version.

In either arithmetic a written command is read back with its numbers as their fields hold them (`decode_encode_settled`),
and numbers that are multiples of their units come back as they were (`settled_beq`). Announcements are coded alike at
every version, so a payload that starts with one is read by a codec at any version: the announcement moves the codec to
the version of the writer, and the rest is read at that version (`read_encodePayload`).
-/
import VisionMixer.Proofs.Command.RoundTrip
import VisionMixer.Proofs.Command.Stream
import VisionMixer.Proofs.Field.Multiple

namespace VisionMixer

/-! ### Scaled fields of the catalogue -/

/-- the width, scale and bounds of a scaled field -/
def Wire.scaling? : Wire → Option (Width × Number × Number × Number)
  | .scaled w scale least greatest => some (w, scale, least, greatest)
  | _ => none

theorem Wire.eq_of_scaling? {wire : Wire} {w : Width} {scale least greatest : Number}
    (h : wire.scaling? = some (w, scale, least, greatest)) : wire = .scaled w scale least greatest := by
  cases wire with
  | scaled =>
    cases h
    rfl
  | _ => cases h

/-- the other table has every scaled field of a table, at some offset -/
def Layout.sharesScaled (l other : Layout) : Bool :=
  l.fields.all fun f => !f.wire.isScaled ||
    other.fields.any fun g => g.name = f.name && g.wire.scaling? = f.wire.scaling?

namespace Command

theorem isWhole_of_mem : ∀ e ∈ catalogue, ∀ edition ∈ e.editions, ∀ f ∈ edition.layout.fields, f.wire.isWhole := by
  decide +kernel

theorem sharesScaled_of_mem : ∀ e ∈ catalogue, ∀ edition ∈ e.editions, ∀ other ∈ e.editions,
    edition.layout.sharesScaled other.layout := by
  decide +kernel

variable {a : Arithmetic} {v : Version} {c : Command} {r : Record} {values : FieldValues}

/-- the command with every number as its field reads it back -/
def settled (a : Arithmetic) (c : Command) : Command := c.mapNumbers a.settle

theorem decode_encode_settled (htag : c.IsWellTagged) (h : c.encode a v = .ok r) :
    decode a v r = .ok (c.settled a) := by
  by_cases hc : c.isTabular
  · obtain ⟨values, l, body, hvalues, hl, hbody, rfl⟩ := (encode_eq_ok hc).mp h
    have hcarried : values.CarriedBy l := FieldValues.checkCarried_eq_ok.mp (Layout.encode_eq_ok.mp hbody).1
    have hgain : a.settle .gain 0 = 0 := by cases a <;> decide +kernel
    have hbalance : a.settle .balance 0 = 0 := by cases a <;> decide +kernel
    have hread := ofValues_valuesAt ((isTabular_mapNumbers a.settle c).trans hc)
      (valuesAt_mapNumbers hc hl hvalues hcarried hgain hbalance)
    rw [tag_mapNumbers] at hread
    exact decode_of_table hc hl (Layout.decode_encode (wellFormed_of_table hl) (together_of_table hl) hbody) hread
  · rw [settled, mapNumbers_of_not_tabular _ hc]
    exact decode_encode_of_not_tabular hc htag h

/-! ### Numbers that were written -/

/-- at a version a command carries its values, but for the number of a super source -/
theorem get?_valuesAt {name : String} {x : Number} (h : c.valuesAt v = .ok values)
    (hx : c.toValues.get? name = some (.float x)) : values.get? name = some (.float x) := by
  have hwithout (superSource : UInt8) (rest : FieldValues)
      (hvalues : c.toValues = ("super_source", .byte superSource) :: rest) :
      (c.toValues.without "super_source").get? name = some (.float x) := by
    have hname : name ≠ "super_source" := by
      rintro rfl
      rw [hvalues, FieldValues.get?_cons_self] at hx
      cases hx
    rwa [FieldValues.get?_without hname]
  cases c with
  | superSourceArt s =>
    rcases superSourceValues_eq_ok.mp h with ⟨-, rfl⟩ | ⟨-, -, rfl⟩
    · exact hx
    · exact hwithout _ _ rfl
  | superSourceBox s =>
    rcases superSourceValues_eq_ok.mp h with ⟨-, rfl⟩ | ⟨-, -, rfl⟩
    · exact hx
    · exact hwithout _ _ rfl
  | _ =>
    cases h
    exact hx

/-- a number of a command stands in a scaled field of its table, whatever the version -/
theorem exists_field_of_numbers {l : Layout} {wire : Wire} {x : Number} (hl : c.table v = .ok l)
    (hp : (wire, x) ∈ c.numbers) :
    ∃ f ∈ l.fields, f.wire = wire ∧ wire.isScaled ∧ c.toValues.get? f.name = some (.float x) := by
  rw [table] at hl
  rw [numbers] at hp
  cases he : entryOf? c.tag with
  | none =>
    rw [he] at hp
    cases hp
  | some e =>
    rw [he] at hl hp
    have hmem : e ∈ catalogue := List.mem_of_find?_eq_some he
    obtain ⟨other, hother, rfl⟩ := Editions.mem_of_resolve hl
    obtain ⟨edition, hedition, hnumber⟩ := List.mem_flatMap.mp hp
    obtain ⟨f, hf, hfield⟩ := List.mem_filterMap.mp hnumber
    split at hfield
    · next w scale least greatest y hwire hget =>
      cases hfield
      have hshared := List.all_eq_true.mp (sharesScaled_of_mem e hmem edition hedition other hother) f hf
      rw [hwire] at hshared
      -- the table may be another edition than the one that lists the number
      obtain ⟨g, hg, hsame⟩ := List.any_eq_true.mp hshared
      rw [Bool.and_eq_true, decide_eq_true_eq, decide_eq_true_eq] at hsame
      exact ⟨g, hg, Wire.eq_of_scaling? hsame.2, rfl, hsame.1 ▸ hget⟩
    · cases hfield

/-- every number of a written command was accepted by its field -/
theorem writes_of_numbers {wire : Wire} {x : Number} (htag : c.IsWellTagged) (h : c.encode a v = .ok r)
    (hp : (wire, x) ∈ c.numbers) :
    wire.isRegular ∧ wire.isWhole ∧ ∃ patch, Wire.Writes a wire (.float x) patch := by
  by_cases hc : c.isTabular
  · obtain ⟨values, l, body, hvalues, hl, hbody, rfl⟩ := (encode_eq_ok hc).mp h
    obtain ⟨f, hf, rfl, hscaled, hx⟩ := exists_field_of_numbers hl hp
    have hx' := get?_valuesAt hvalues hx
    obtain ⟨e, he, edition, hedition, rfl⟩ := exists_edition_of_table hl
    obtain ⟨-, d, hd, -⟩ := Layout.encode_eq_ok.mp hbody
    refine ⟨(Layout.isRegular_of_mem (isRegular_of_mem e he edition hedition) hf).1,
      isWhole_of_mem e he edition hedition f hf, ?_⟩
    cases Layout.held_of_foldlM (wellFormed_of_table hl).separate hd f hf with
    | missing habsent => cases habsent.symm.trans hx'
    | plain hpresent hwrites =>
      cases hpresent.symm.trans hx'
      exact ⟨_, hwrites⟩
    | counted hcounted =>
      rw [hcounted] at hscaled
      cases hscaled
  · cases c with
    | macroProperties _ => cases hp
    | unrecognized r =>
      have hnumbers : (unrecognized r).numbers = [] := congrArg (fun e => Option.elim e [] _) htag
      rw [hnumbers] at hp
      cases hp
    | _ => exact absurd rfl hc

/-- **Multiples come back.** -/
theorem settled_beq (htag : c.IsWellTagged) (h : c.encode a v = .ok r)
    (hmultiples : ∀ p ∈ c.numbers, p.1.Keeps a p.2) : (c.settled a == c) = true := by
  refine mapNumbers_beq fun p hp => ?_
  obtain ⟨hregular, hwhole, patch, hwrites⟩ := writes_of_numbers htag h hp
  exact hwrites.settle_beq hregular hwhole (hmultiples p hp)

/-- an announcement is coded alike at every version -/
theorem encode_version {u w : Version} (h : (version u).encode a v = .ok r) : (version u).encode a w = .ok r := by
  obtain ⟨values, l, body, hvalues, hl, hbody, rfl⟩ := (encode_eq_ok rfl).mp h
  have hsame : (version u).table w = (version u).table v := Editions.resolve_only.trans Editions.resolve_only.symm
  exact (encode_eq_ok rfl).mpr ⟨values, l, body, hvalues, hsame.trans hl, hbody, rfl⟩

end Command

namespace Codec

variable {k : Codec} {commands : List Command}

/-- the payload of a codec announces its version first, and no other one after; numbers are multiples of their units -/
structure SelfDescribing (k : Codec) (commands : List Command) : Prop where
  first : commands.head? = some (.version k.version)
  only : ∀ v, .version v ∈ commands → v = k.version
  tagged : ∀ c ∈ commands, c.IsWellTagged
  multiples : ∀ c ∈ commands, ∀ p ∈ c.numbers, p.1.Keeps k.arithmetic p.2

theorem after_settled {c : Command} (h : ∀ v, c = .version v → v = k.version) :
    k.after (c.settled k.arithmetic) = k := by
  cases c with
  | version v =>
    obtain rfl := h v rfl
    rfl
  | _ => rfl

/-- records written at the version of the codec are read by it, if they announce no other one -/
theorem decodePayload_settled {records : List Record} (htagged : ∀ c ∈ commands, c.IsWellTagged)
    (honly : ∀ v, .version v ∈ commands → v = k.version)
    (h : List.Forall₂ (fun c r => c.encode k.arithmetic k.version = .ok r) commands records) :
    k.decodePayload records = .ok (commands.map (Command.settled k.arithmetic), k) := by
  induction h with
  | nil => rfl
  | @cons c r commands records hencode _ ih =>
    have hafter : k.after (c.settled k.arithmetic) = k :=
      after_settled fun v hv => honly v (hv ▸ List.mem_cons_self)
    have hrest := ih (fun d hd => htagged d (List.mem_cons_of_mem c hd)) fun v hv => honly v (List.mem_cons_of_mem c hv)
    rw [decodePayload, Command.decode_encode_settled (htagged c List.mem_cons_self) hencode, ok_bind, hafter, hrest]
    rfl

/-- a payload is the run of the records of its commands -/
theorem split_encodePayload {bytes : Bytes} (h : k.encodePayload commands = .ok bytes) :
    ∃ records, commands.mapM (Command.encode k.arithmetic k.version) = .ok records ∧ Record.split bytes = .ok records := by
  obtain ⟨chunks, hchunks, hbytes⟩ := bind_eq_ok.mp h
  obtain rfl := pure_eq_ok.mp hbytes
  obtain ⟨records, hencode, hwritten⟩ := mapM_bind_eq_ok hchunks
  exact ⟨records, hencode, Record.split_flatten (mapM_eq_ok.mp hwritten)⟩

/-- commands that each come back equal come back equal -/
theorem map_beq {f : Command → Command} (h : ∀ c ∈ commands, (f c == c) = true) :
    (commands.map f == commands) = true := by
  induction commands with
  | nil => rfl
  | cons c commands ih =>
    exact Bool.and_eq_true_iff.2 ⟨h c List.mem_cons_self, ih fun d hd => h d (List.mem_cons_of_mem c hd)⟩

/-- **A payload that says its version is read at any version.** -/
theorem read_encodePayload (k : Codec) (w : Version) (commands : List Command) (bytes : Bytes)
    (hself : k.SelfDescribing commands) (hbytes : k.encodePayload commands = .ok bytes) :
    ∃ records again, Record.split bytes = .ok records ∧ ({ k with version := w } : Codec).read records = (.ok again, k) ∧
      (again == commands) = true := by
  obtain ⟨records, hmap, hsplit⟩ := split_encodePayload hbytes
  have hencode := mapM_eq_ok.mp hmap
  have hequal : (commands.map (Command.settled k.arithmetic) == commands) = true := map_beq fun c hc => by
    obtain ⟨r, hr⟩ := ok_of_mapM hmap hc
    exact Command.settled_beq (hself.tagged c hc) hr (hself.multiples c hc)
  refine ⟨records, commands.map (Command.settled k.arithmetic), hsplit, read_eq_ok.mpr ?_, hequal⟩
  obtain ⟨hfirst, honly, htagged, -⟩ := hself
  cases hencode with
  | nil => exact nomatch hfirst
  | @cons c r commands records hr hrest =>
    obtain rfl : c = .version k.version := Option.some.inj hfirst
    -- the announcement is read at the version of the reader, the rest at the version it announces
    have hannounced := Command.decode_encode_settled (c := .version k.version) trivial (Command.encode_version (w := w) hr)
    have hafter : ({ k with version := w } : Codec).after ((Command.version k.version).settled k.arithmetic) = k := rfl
    have hread := decodePayload_settled (fun d hd => htagged d (List.mem_cons_of_mem _ hd))
      (fun v hv => honly v (List.mem_cons_of_mem _ hv)) hrest
    rw [decodePayload, hannounced, ok_bind, hafter, hread]
    rfl

/-- a window with a safe area, which 7.2 has no field for, and a transition a third of the way through -/
theorem read_window :
    let k : Codec := ⟨.v8_0, .binary64⟩
    let third := Format.binary64.nearest (3333 / 10000)
    let commands : List Command := [.version .v8_0, .multiviewerWindow ⟨0, 5, 1000, true, some true⟩,
      .transitionPosition ⟨0, true, 20, third⟩]
    let bytes : Bytes := [0, 12, 0, 0, 95, 118, 101, 114, 0, 2, 0, 28, 0, 16, 0, 0, 77, 118, 73, 110, 0, 5, 3, 232, 1, 1, 0,
      0, 0, 16, 0, 0, 84, 114, 80, 115, 0, 1, 20, 0, 13, 5, 0, 0]
    k.SelfDescribing commands ∧ k.encodePayload commands = .ok bytes ∧
      ∃ records again, Record.split bytes = .ok records ∧ (⟨.v7_2, .binary64⟩ : Codec).read records = (.ok again, k) ∧
        (again == commands) = true := by
  intro k third commands bytes
  have hthird : Wire.unitInterval.Keeps .binary64 third := ⟨3333, 10000, rfl, by decide +kernel⟩
  have hself : k.SelfDescribing commands :=
    { first := rfl
      only := by simp [commands, k]
      tagged := by simp [commands, Command.IsWellTagged]
      multiples := by
        have hversion : (Command.version .v8_0).numbers = [] := rfl
        have hwindow : (Command.multiviewerWindow ⟨0, 5, 1000, true, some true⟩).numbers = [] := rfl
        simpa [commands, hversion, hwindow, Command.numbers_transitionPosition] using hthird }
  have hwritten : (k.encodePayload commands).toOption = some bytes := by decide +kernel
  have hbytes : k.encodePayload commands = .ok bytes := by
    cases hpayload : k.encodePayload commands with
    | error e =>
      rw [hpayload] at hwritten
      cases hwritten
    | ok written =>
      rw [hpayload] at hwritten
      exact congrArg Except.ok (Option.some.inj hwritten)
  exact ⟨hself, hbytes, read_encodePayload k .v7_2 commands bytes hself hbytes⟩

end Codec

end VisionMixer
