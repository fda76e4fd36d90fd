/-
Which records are commands.

A reader asks its values only for names and kinds that its own tables have (`total_of_mem`, by a walk over the catalogue),
so that a body is a command exactly if its table accepts it (`guarded_entry`). What lies behind the fields is not looked
at (`entry_append`). `decode_grammar` states both for records, with the two exceptions that there are: an action of a
macro has a code that may be unknown, and a body on the preview bus has a last byte that may be missing.
-/
import VisionMixer.Proofs.Command.Carried
import VisionMixer.Proofs.Command.Settled
import VisionMixer.Proofs.Field.Grammar

namespace VisionMixer.Command

open FieldValues (Typed)

/-! ### Every reader asks for what its own tables have -/

/-- a command is made from all values of the tables of its tag -/
def Entry.Total (e : Entry) : Prop :=
  ∀ edition ∈ e.editions, ∀ values : FieldValues, values.Typed edition.layout.fields → Succeeds (e.ofValues values)

variable {α : Type} {tag : Tag} {l old new : Layout} {command : α → Command} {read : FieldValues → Except Error α}

theorem Entry.Total.of_only (h : ∀ values : FieldValues, values.Typed l.fields → Succeeds (read values)) :
    (Entry.tabular tag (.only l) command read).Total := by
  intro edition hedition values hvalues
  obtain rfl := List.mem_singleton.mp hedition
  exact (h values hvalues).map

theorem Entry.Total.of_changed (hold : ∀ values : FieldValues, values.Typed old.fields → Succeeds (read values))
    (hnew : ∀ values : FieldValues, values.Typed new.fields → Succeeds (read values)) :
    (Entry.tabular tag (.changed old new) command read).Total := by
  intro edition hedition values hvalues
  rcases List.mem_pair.mp hedition with rfl | rfl
  · exact (hold values hvalues).map
  · exact (hnew values hvalues).map

theorem total_tallyByIndex :
    (Entry.tabular (.ofChars 'T' 'l' 'I' 'n') TallyByIndex.editions tallyByIndex TallyByIndex.ofValues).Total := by
  refine .of_only fun values h => ?_
  obtain ⟨items, hitems, htyped⟩ := h.getRecords List.mem_cons_self rfl rfl rfl
  rw [TallyByIndex.ofValues, hitems, ok_bind]
  refine Succeeds.bind (.mapM fun item hitem => ?_) fun _ => .ok _
  exact ((htyped item hitem).getU8 "flags" rfl).bind fun _ => .ok _

theorem total_tallyBySource :
    (Entry.tabular (.ofChars 'T' 'l' 'S' 'r') TallyBySource.editions tallyBySource TallyBySource.ofValues).Total := by
  refine .of_only fun values h => ?_
  obtain ⟨items, hitems, htyped⟩ := h.getRecords List.mem_cons_self rfl rfl rfl
  rw [TallyBySource.ofValues, hitems, ok_bind]
  refine Succeeds.bind (.mapM fun item hitem => ?_) fun _ => .ok _
  have hitem := htyped item hitem
  exact (hitem.getU16 "source" rfl).bind fun _ => (hitem.getU8 "flags" rfl).bind fun _ => .ok _

theorem total_blockOnly {command : UInt8 → Command} :
    (Entry.tabular tag BlockOnly.editions command BlockOnly.ofValues).Total :=
  .of_only fun _ h => h.getU8 "mix_effect" rfl

theorem total_of_mem : ∀ e ∈ catalogue, e.tag = .ofChars 'M' 'A' 'c' 't' ∨ e.Total := by
  simp only [catalogue, List.forall_mem_cons]
  and_intros
  all_goals first
    | exact .inl rfl
    | exact .inr total_tallyByIndex
    | exact .inr total_tallyBySource
    | exact .inr total_blockOnly
    | exact .inr (List.forall_mem_nil _)
    | exact List.forall_mem_nil _
    | refine .inr (.of_only fun values h => ?_)
    | refine .inr (.of_changed (fun values h => ?_) fun values h => ?_)
  all_goals repeat' first
    | with_reducible exact .ok _
    | with_reducible exact .pure _
    | (with_reducible refine h.getU8 _ ?_); rfl
    | (with_reducible refine h.getU16 _ ?_); rfl
    | (with_reducible refine h.getBool _ ?_); rfl
    | (with_reducible refine h.getFloat _ ?_); rfl
    | (with_reducible refine h.getText _ ?_); rfl
    | (with_reducible refine h.getU8? _ ?_); rfl
    | (with_reducible refine h.getBool? _ ?_); rfl
    | with_reducible refine .map ?_
    | with_reducible refine .ite ?_ ?_
    | refine .bind ?_ fun _ => ?_

/-! ### The grammar -/

/-- what a body must hold beyond its fields, by its tag: all records that it counts, an action that there is, both texts
of a macro slot -/
def IsComplete (tag : Tag) (body : Bytes) : Prop :=
  if tag = .ofChars 'T' 'l' 'I' 'n' then 2 + (Bytes.toWord16 body).toNat * 1 ≤ body.length
  else if tag = .ofChars 'T' 'l' 'S' 'r' then 2 + (Bytes.toWord16 body).toNat * 3 ≤ body.length
  else if tag = .ofChars 'M' 'A' 'c' 't' then ∀ code ∈ body[2]?, code ≤ 5
  else if tag = .ofChars 'M' 'P' 'r' 'p' then
    8 ≤ body.length ∧ 8 + (Bytes.toWord16 (body.drop 4)).toNat + (Bytes.toWord16 (body.drop 6)).toNat ≤ body.length
  else True
  deriving Decidable

/-- the bodies of a tag at a version: they reach the end of the last field that must be there, and are complete -/
structure Entry.IsBody (e : Entry) (v : Version) (body : Bytes) : Prop where
  fixed : ∀ l, e.editions.resolve v = .ok l → l.minSize ≤ body.length
  complete : IsComplete e.tag body

variable {a : Arithmetic} {v : Version} {e : Entry} {body rest : Bytes} {values : FieldValues}

theorem Entry.isBody_iff (hl : e.editions.resolve v = .ok l) :
    e.IsBody v body ↔ l.minSize ≤ body.length ∧ IsComplete e.tag body := by
  refine ⟨fun h => ⟨h.fixed l hl, h.complete⟩, fun h => ⟨fun l' hl' => ?_, h.2⟩⟩
  cases hl.symm.trans hl'
  exact h.1

theorem tag_of_entryOf? (he : entryOf? tag = some e) : e.tag = tag := by simpa using List.find?_some he

theorem plain_of_mem : ∀ e ∈ catalogue, e.tag = .ofChars 'T' 'l' 'I' 'n' ∨ e.tag = .ofChars 'T' 'l' 'S' 'r' ∨
    ∀ edition ∈ e.editions, ∀ f ∈ edition.layout.fields, f.wire.isCounted = false := by
  decide +kernel

theorem editions_of_mem : ∀ e ∈ catalogue, e.tag = .ofChars 'M' 'P' 'r' 'p' ∨ e.editions.isEmpty = false := by
  decide +kernel

/-- a body with a table is read by it, and then its values are -/
theorem guarded_tabular {q : Prop} (hmem : e ∈ catalogue) (hl : e.editions.resolve v = .ok l)
    (hdecode : e.decode a v body = (do e.ofValues (← (← e.editions.resolve v).decode a body)))
    (hread : ∀ values, l.decode a body = .ok values → Guarded Error.IsFraming q (e.ofValues values)) :
    Guarded Error.IsFraming (l.Accepts body ∧ q) (e.decode a v body) := by
  obtain ⟨edition, hedition, rfl⟩ := Editions.mem_of_resolve hl
  rw [hdecode, hl, ok_bind]
  exact (Layout.guarded_decode (wellFormed_of_mem e hmem edition hedition).records).bind hread

/-- a body whose values always make a command -/
theorem guarded_total (hmem : e ∈ catalogue) (htotal : e.Total) (hl : e.editions.resolve v = .ok l)
    (hdecode : e.decode a v body = (do e.ofValues (← (← e.editions.resolve v).decode a body))) :
    Guarded Error.IsFraming (l.Accepts body) (e.decode a v body) := by
  refine (guarded_tabular hmem hl hdecode fun values hvalues => Succeeds.guarded ?_).congr (by rw [and_true])
  obtain ⟨edition, hedition, rfl⟩ := Editions.mem_of_resolve hl
  exact htotal edition hedition values (Layout.typed_of_decode (wellFormed_of_mem e hmem edition hedition) hvalues)

/-- the body of a tally list -/
theorem tally_accepts_iff {name : String} {stride : Nat} {fields : List Field} :
    (Layout.mk 2 [⟨name, 0, .records stride fields, false⟩]).Accepts body ↔
      2 ≤ body.length ∧ 2 + (Bytes.toWord16 body).toNat * stride ≤ body.length := by
  have hcount : (Width.u16.read (body.drop 0)).toNat = (Bytes.toWord16 body).toNat := by
    have := Value.int.inj (Width.int_read_u16 body)
    rw [List.drop_zero, this, Int.toNat_natCast]
  constructor
  · intro h
    have hroom : 0 + 2 + (Width.u16.read (body.drop 0)).toNat * stride ≤ body.length :=
      h.records _ List.mem_cons_self h.size
    rw [hcount] at hroom
    exact ⟨h.size, by omega⟩
  · rintro ⟨hsize, hroom⟩
    refine ⟨hsize, List.forall_mem_cons.mpr ⟨fun _ => ?_, List.forall_mem_nil _⟩⟩
    show 0 + 2 + (Width.u16.read (body.drop 0)).toNat * stride ≤ body.length
    rw [hcount]
    omega

/-- there are six verbs -/
theorem macroVerb_cases (code : UInt8) : (code ≤ 5 ∧ ∃ verb, MacroVerb.ofCode code = .ok verb) ∨
    (5 < code ∧ MacroVerb.ofCode code = .error (.framing (.unknownMacroAction code))) := by
  rw [MacroVerb.ofCode]
  split
  · next verb hverb =>
    obtain ⟨hlt, -⟩ := List.getElem?_eq_some_iff.mp hverb
    exact .inl ⟨UInt8.le_iff_toNat_le.mpr (Nat.le_of_lt_succ hlt), verb, rfl⟩
  · next hnone =>
    have hge : 6 ≤ code.toNat := List.getElem?_eq_none_iff.mp hnone
    exact .inr ⟨UInt8.lt_iff_toNat_lt.mpr (Nat.lt_of_succ_le hge), rfl⟩

theorem guarded_macroVerb (code : UInt8) : Guarded Error.IsFraming (code ≤ 5) (MacroVerb.ofCode code) := by
  rcases macroVerb_cases code with ⟨hle, verb, h⟩ | ⟨hlt, h⟩
  · rw [h]
    exact (Guarded.ok verb).congr ⟨fun _ => hle, fun _ => trivial⟩
  · rw [h]
    exact (Guarded.error ⟨_, rfl⟩).congr ⟨False.elim, fun hle => absurd hle (UInt8.not_le.mpr hlt)⟩

theorem guarded_macroProperties : Guarded Error.IsFraming
    (8 ≤ body.length ∧ 8 + (Bytes.toWord16 (body.drop 4)).toNat + (Bytes.toWord16 (body.drop 6)).toNat ≤ body.length)
    (MacroProperties.decode body) := by
  rw [MacroProperties.decode]
  refine (Guarded.check ⟨_, rfl⟩ fun hsize => Guarded.check ⟨_, rfl⟩ fun _ => .ok _).congr ?_
  simp only [MacroProperties.fixedSize, List.length_drop, not_lt, and_true]
  omega

/-- the action of a macro is the byte behind its index -/
theorem macroAction_values (h : (Layout.mk 4 [.u16 "index" 0, .u8 "action" 2]).decode a body = .ok values) :
    ∃ code, body[2]? = some code ∧ values = [("index", .word (Bytes.toWord16 body)), ("action", .byte code)] := by
  have hsize : 3 ≤ body.length := ((Layout.guarded_decode (by decide)).ok_iff.mp ⟨values, h⟩).size
  have hindex : Wire.decodeField a body (Field.u16 "index" 0) = .ok [("index", .word (Bytes.toWord16 body))] :=
    Field.decode_u16 (by omega)
  have haction : Wire.decodeField a body (Field.u8 "action" 2) = .ok [("action", .byte (body[2]?.getD 0))] := by
    rw [Field.decode_u8 (by omega), List.head?_drop]
  rw [Layout.decode, Wire.decodeFields, Wire.decodeFields, Wire.decodeFields, hindex, haction] at h
  obtain ⟨code, hcode⟩ : ∃ code, body[2]? = some code := ⟨_, List.getElem?_eq_getElem (by omega)⟩
  rw [hcode] at h
  exact ⟨code, hcode, (Except.ok.inj h).symm⟩

/-- an action is a macro and a verb, which may be one that there is not -/
theorem macroAction_ofValues (index : UInt16) (code : UInt8) :
    MacroAction.ofValues [("index", .word index), ("action", .byte code)] =
      MacroAction.mk index <$> MacroVerb.ofCode code := by
  have haction : FieldValues.getU8 [("index", .word index), ("action", .byte code)] "action" = .ok code := by simp
  rw [MacroAction.ofValues, FieldValues.getU16_cons_self, ok_bind, haction, ok_bind]
  cases MacroVerb.ofCode code <;> rfl

/-- every entry but that of macro slots has a table at every version, and reads a body by it -/
theorem exists_table (hmem : e ∈ catalogue) (hslot : e.tag ≠ .ofChars 'M' 'P' 'r' 'p') :
    (∀ a body, e.decode a v body = (do e.ofValues (← (← e.editions.resolve v).decode a body))) ∧
      ∃ l, e.editions.resolve v = .ok l := by
  refine ⟨fun a body => ?_, ?_⟩
  · rcases decode_of_mem e hmem with rfl | hdecode
    · exact absurd rfl hslot
    · exact hdecode a v body
  · have heditions := (editions_of_mem e hmem).resolve_left hslot
    cases hes : e.editions with
    | nil =>
      rw [hes] at heditions
      exact nomatch heditions
    | cons oldest later => exact ⟨_, rfl⟩

/-- **Bodies.** The entry of a tag reads exactly the bodies of its grammar, and refuses others as malformed. -/
theorem guarded_entry (he : entryOf? tag = some e) : Guarded Error.IsFraming (e.IsBody v body) (e.decode a v body) := by
  have hmem : e ∈ catalogue := List.mem_of_find?_eq_some he
  have htag := tag_of_entryOf? he
  subst htag
  by_cases hslot : e.tag = .ofChars 'M' 'P' 'r' 'p'
  · rw [hslot] at he
    cases he
    exact guarded_macroProperties.map.congr ⟨fun h => ⟨fun l hl => (nomatch hl), h⟩, fun h => h.complete⟩
  obtain ⟨hdecode, l, hl⟩ := exists_table (v := v) hmem hslot
  rw [Entry.isBody_iff hl]
  by_cases haction : e.tag = .ofChars 'M' 'A' 'c' 't'
  · rw [haction] at he
    cases he
    cases Editions.only_eq_ok hl
    refine (guarded_tabular hmem hl (hdecode a body) fun values hvalues => ?_).congr
      (and_congr_left' (Layout.accepts_iff_of_plain (by decide)))
    obtain ⟨code, hcode, rfl⟩ := macroAction_values hvalues
    show Guarded _ (∀ code ∈ body[2]?, code ≤ 5) (macroAction <$> MacroAction.ofValues _)
    rw [hcode, macroAction_ofValues]
    exact (guarded_macroVerb code).map.map.congr (by simp)
  have htotal := (total_of_mem e hmem).resolve_left haction
  refine (guarded_total hmem htotal hl (hdecode a body)).congr ?_
  by_cases hindex : e.tag = .ofChars 'T' 'l' 'I' 'n'
  · rw [hindex] at he
    cases he
    cases Editions.only_eq_ok hl
    exact tally_accepts_iff
  by_cases hsource : e.tag = .ofChars 'T' 'l' 'S' 'r'
  · rw [hsource] at he
    cases he
    cases Editions.only_eq_ok hl
    exact tally_accepts_iff
  have hplain := ((plain_of_mem e hmem).resolve_left hindex).resolve_left hsource
  obtain ⟨edition, hedition, rfl⟩ := Editions.mem_of_resolve hl
  rw [Layout.accepts_iff_of_plain (hplain edition hedition), IsComplete, if_neg hindex, if_neg hsource, if_neg haction,
    if_neg hslot, and_true]

/-- **Readers and their tables.** A reader is never refused what one of its own tables has read, but for the code of an
action that there is not. -/
theorem total_or_unknown (he : entryOf? tag = some e) {edition : Edition} (hedition : edition ∈ e.editions)
    (hvalues : edition.layout.decode a body = .ok values) :
    (∃ c, e.ofValues values = .ok c) ∨ e.tag = .ofChars 'M' 'A' 'c' 't' ∧ ∃ code, body[2]? = some code ∧ 5 < code ∧
      e.ofValues values = .error (.framing (.unknownMacroAction code)) := by
  have hmem : e ∈ catalogue := List.mem_of_find?_eq_some he
  rcases total_of_mem e hmem with haction | htotal
  · rw [← tag_of_entryOf? he, haction] at he
    cases he
    obtain rfl := List.mem_singleton.mp hedition
    obtain ⟨code, hcode, rfl⟩ := macroAction_values hvalues
    have hread : macroAction <$> MacroAction.ofValues [("index", .word (Bytes.toWord16 body)), ("action", .byte code)] =
        macroAction <$> MacroAction.mk (Bytes.toWord16 body) <$> MacroVerb.ofCode code :=
      congrArg (macroAction <$> ·) (macroAction_ofValues _ code)
    rcases macroVerb_cases code with ⟨-, verb, hverb⟩ | ⟨hlt, hverb⟩
    · rw [hverb] at hread
      exact .inl ⟨_, hread⟩
    · rw [hverb] at hread
      exact .inr ⟨rfl, code, hcode, hlt, hread⟩
  · have htyped := Layout.typed_of_decode (wellFormed_of_mem e hmem edition hedition) hvalues
    exact .inl (htotal edition hedition values htyped)

/-! ### More bytes -/

theorem required_of_mem : ∀ e ∈ catalogue, e.tag = .ofChars 'P' 'r' 'v' 'I' ∨
    ∀ edition ∈ e.editions, ∀ f ∈ edition.layout.fields, f.optional = false := by
  decide +kernel

theorem toWord16_drop_append (offset : Nat) (h : offset + 2 ≤ body.length) :
    Bytes.toWord16 ((body ++ rest).drop offset) = Bytes.toWord16 (body.drop offset) :=
  congrArg (fun b => UInt16.ofNat (Bytes.toNat b)) (Bytes.slice_append h)

/-- the macro slot of a body that holds both of its texts -/
theorem macroProperties_of_room (hsize : 8 ≤ body.length)
    (htexts : (Bytes.toWord16 (body.drop 4)).toNat + (Bytes.toWord16 (body.drop 6)).toNat ≤ (body.drop 8).length) :
    MacroProperties.decode body = .ok {
      index := Bytes.toWord16 body
      slot := {
        isUsed := body[2]?.getD 0 ≠ 0
        hasUnsupportedOps := body[3]?.getD 0 ≠ 0
        name := Utf8.decode ((body.drop 8).take (Bytes.toWord16 (body.drop 4)).toNat)
        description := Utf8.decode
          (((body.drop 8).drop (Bytes.toWord16 (body.drop 4)).toNat).take (Bytes.toWord16 (body.drop 6)).toNat) } } :=
  (if_neg (not_lt.mpr hsize)).trans (if_neg (not_lt.mpr htexts))

/-- the texts of a macro slot end where its body says -/
theorem macroProperties_append {c : MacroProperties} (h : MacroProperties.decode body = .ok c) :
    MacroProperties.decode (body ++ rest) = .ok c := by
  obtain ⟨hsize, htexts⟩ := guarded_macroProperties.ok_iff.mp ⟨c, h⟩
  have hindex : Bytes.toWord16 (body ++ rest) = Bytes.toWord16 body := toWord16_drop_append 0 (by omega)
  have hused : (body ++ rest)[2]? = body[2]? := List.getElem?_append_left (by omega)
  have hops : (body ++ rest)[3]? = body[3]? := List.getElem?_append_left (by omega)
  have hname : Bytes.toWord16 ((body ++ rest).drop 4) = Bytes.toWord16 (body.drop 4) := toWord16_drop_append 4 (by omega)
  have hdescription : Bytes.toWord16 ((body ++ rest).drop 6) = Bytes.toWord16 (body.drop 6) :=
    toWord16_drop_append 6 (by omega)
  have htail : (body ++ rest).drop 8 = body.drop 8 ++ rest := List.drop_append_of_le_length hsize
  have hroom : (Bytes.toWord16 (body.drop 4)).toNat + (Bytes.toWord16 (body.drop 6)).toNat ≤ (body.drop 8).length := by
    rw [List.length_drop]
    omega
  rw [← h, macroProperties_of_room hsize hroom, macroProperties_of_room (by rw [List.length_append]; omega)
    (by rw [hname, hdescription, htail, List.length_append]; omega)]
  rw [hindex, hused, hops, hname, hdescription, htail, List.take_append_of_le_length (by omega),
    List.drop_append_of_le_length (by omega), List.take_append_of_le_length (by rw [List.length_drop]; omega)]

/-- **More bytes** change nothing, but for a body on the preview bus that ends before its optional byte. -/
theorem entry_append {c : Command} (he : entryOf? tag = some e) (h : e.decode a v body = .ok c)
    (hbrief : ¬(tag = .ofChars 'P' 'r' 'v' 'I' ∧ body.length = 4)) : e.decode a v (body ++ rest) = .ok c := by
  have hmem : e ∈ catalogue := List.mem_of_find?_eq_some he
  have htag := tag_of_entryOf? he
  subst htag
  by_cases hslot : e.tag = .ofChars 'M' 'P' 'r' 'p'
  · rw [hslot] at he
    cases he
    obtain ⟨m, hm, rfl⟩ := map_eq_ok.mp h
    exact map_eq_ok.mpr ⟨m, macroProperties_append hm, rfl⟩
  obtain ⟨hdecode, l, hl⟩ := exists_table (v := v) hmem hslot
  obtain ⟨edition, hedition, rfl⟩ := Editions.mem_of_resolve hl
  rw [hdecode, hl, ok_bind] at h ⊢
  obtain ⟨values, hvalues, -⟩ := bind_eq_ok.mp h
  have haccepts : edition.layout.Accepts body :=
    (Layout.guarded_decode (wellFormed_of_mem e hmem edition hedition).records).ok_iff.mp ⟨values, hvalues⟩
  have hstop : ∀ f ∈ edition.layout.fields, f.stop ≤ body.length := by
    by_cases hpreview : e.tag = .ofChars 'P' 'r' 'v' 'I'
    · have hlength : body.length ≠ 4 := fun hlength => hbrief ⟨hpreview, hlength⟩
      rw [hpreview] at he
      cases he
      obtain rfl := List.mem_singleton.mp hedition
      have hsize : 4 ≤ body.length := haccepts.size
      have hlast : ∀ f ∈ [Field.u8 "mix_effect" 0, .u16 "source" 2, ⟨"preview_live", 4, .bool, true⟩], f.stop ≤ 5 := by
        decide
      exact fun f hf => le_trans (hlast f hf) (by omega)
    · have hrequired := (required_of_mem e hmem).resolve_left hpreview edition hedition
      exact fun f hf => Layout.minSize_le_iff.mp haccepts.size f hf (by rw [hrequired f hf]; decide)
  rw [Layout.decode_append haccepts hstop]
  exact h

/-- whether preview is live is the byte behind the source, if there is one -/
theorem decode_previewInput (h : 4 ≤ body.length) : decode a v ⟨.ofChars 'P' 'r' 'v' 'I', body⟩ =
    .ok (.previewInput ⟨body.head?.getD 0, Bytes.toWord16 (body.drop 2), body[4]?.map fun x => decide (x ≠ 0)⟩) := by
  have hmix : Wire.decodeField a body (Field.u8 "mix_effect" 0) = .ok [("mix_effect", .byte (body.head?.getD 0))] :=
    Field.decode_u8 (by omega)
  have hsource : Wire.decodeField a body (Field.u16 "source" 2) =
      .ok [("source", .word (Bytes.toWord16 (body.drop 2)))] := Field.decode_u16 (by omega)
  have hlive : Wire.decodeField a body ⟨"preview_live", 4, .bool, true⟩ =
      .ok (FieldValues.maybe "preview_live" ((body[4]?.map fun x => decide (x ≠ 0)).map .bool)) := by
    by_cases hlong : 5 ≤ body.length
    · obtain ⟨x, hbyte⟩ : ∃ x, body[4]? = some x := ⟨_, List.getElem?_eq_getElem (by omega)⟩
      rw [hbyte]
      refine Wire.decodeField_of_decode hlong ?_
      rw [Wire.decode, List.head?_drop, hbyte]
      rfl
    · rw [Wire.decodeField_missing (f := ⟨"preview_live", 4, .bool, true⟩) (not_le.mp hlong) rfl,
        List.getElem?_eq_none (by omega)]
      rfl
  have hvalues : (Layout.mk 8 [.u8 "mix_effect" 0, .u16 "source" 2, ⟨"preview_live", 4, .bool, true⟩]).decode a body =
      .ok (PreviewSource.mk (body.head?.getD 0) (Bytes.toWord16 (body.drop 2))
        (body[4]?.map fun x => decide (x ≠ 0))).toValues := by
    rw [Layout.decode, Wire.decodeFields, Wire.decodeFields, Wire.decodeFields, Wire.decodeFields, hmix, hsource, hlive,
      ok_bind, ok_bind, ok_bind, ok_bind]
    exact congrArg Except.ok (congrArg _ (congrArg _ (List.append_nil _)))
  have hread : (Entry.tabular (.ofChars 'P' 'r' 'v' 'I') PreviewSource.editions .previewInput
      PreviewSource.ofValues).decode a v body =
        (do previewInput <$> PreviewSource.ofValues (← (← PreviewSource.editions.resolve v).decode a body)) := rfl
  refine decode_eq_ok.mpr (.inr ⟨_, rfl, hread.trans ?_⟩)
  rw [PreviewSource.editions, Editions.resolve_only, ok_bind, hvalues, ok_bind, PreviewSource.ofValues_toValues]
  rfl

theorem decode_of_entryOf? {r : Record} (he : entryOf? r.tag = some e) :
    decode a v r = (e.decode a v r.body).mapError (underTag r.tag) := by
  rw [decode, he]

/-- a body that ends before the last field that must be there is malformed -/
theorem malformed_of_short {r : Record} (he : entryOf? r.tag = some e) (hl : e.editions.resolve v = .ok l)
    (hshort : r.body.length < l.minSize) : ∃ fault, decode a v r = .error (.framing (.inCommand r.tag.text fault)) := by
  have hguarded : Guarded Error.IsFraming (e.IsBody v r.body) (e.decode a v r.body) := guarded_entry he
  rw [decode_of_entryOf? he]
  cases hread : e.decode a v r.body with
  | ok c => exact absurd ((hguarded.ok_iff.mp ⟨c, hread⟩).fixed l hl) (not_le.mpr hshort)
  | error error =>
    obtain ⟨fault, rfl⟩ := hguarded.kind_of_error error hread
    exact ⟨fault, rfl⟩

/-- **Grammar.** A record of a known tag is a command exactly if its body reaches the end of the last field that must be
there at the version, holds all records that it counts (`TlIn`, `TlSr`), an action that there is (`MAct`) and both texts
that it announces (`MPrp`); everything else is malformed. A reader is never refused values of its own tables, but for the
code of an action that there is not. And no bytes behind a body change its command, but for the byte that tells a body
on the preview bus whether preview is live. -/
theorem decode_grammar (a : Arithmetic) (v : Version) (r : Record) (e : Entry) (he : entryOf? r.tag = some e) :
    ((∃ c, decode a v r = .ok c) ↔ e.IsBody v r.body) ∧
    (∀ error, decode a v r = .error error → error.IsFraming) ∧
    (∀ edition ∈ e.editions, ∀ body values, edition.layout.decode a body = .ok values →
      (∃ c, e.ofValues values = .ok c) ∨ e.tag = .ofChars 'M' 'A' 'c' 't' ∧ ∃ code, body[2]? = some code ∧ 5 < code ∧
        e.ofValues values = .error (.framing (.unknownMacroAction code))) ∧
    (¬(r.tag = .ofChars 'P' 'r' 'v' 'I' ∧ r.body.length = 4) → ∀ c rest, decode a v r = .ok c →
      decode a v ⟨r.tag, r.body ++ rest⟩ = .ok c) ∧
    (r.tag = .ofChars 'P' 'r' 'v' 'I' ∧ r.body.length = 4 → ∃ mixEffect source,
      decode a v r = .ok (.previewInput ⟨mixEffect, source, none⟩) ∧
      ∀ x rest, decode a v ⟨r.tag, r.body ++ x :: rest⟩ =
        .ok (.previewInput ⟨mixEffect, source, some (decide (x ≠ 0))⟩)) := by
  have hguarded : Guarded Error.IsFraming (e.IsBody v r.body) (decode a v r) := by
    rw [decode_of_entryOf? he]
    refine (guarded_entry he).mapError fun error herror => ?_
    obtain ⟨fault, rfl⟩ := herror
    exact ⟨_, rfl⟩
  refine ⟨hguarded.ok_iff, hguarded.kind_of_error, ?_, ?_, ?_⟩
  · exact fun edition hedition body values hvalues => total_or_unknown he hedition hvalues
  · intro hbrief c rest h
    rcases decode_eq_ok.mp h with ⟨hnone, -⟩ | ⟨e', he', hread⟩
    · exact nomatch he.symm.trans hnone
    · exact decode_eq_ok.mpr (.inr ⟨e', he', entry_append he' hread hbrief⟩)
  · obtain ⟨tag, body⟩ := r
    rintro ⟨rfl, hlength⟩
    replace hlength : body.length = 4 := hlength
    refine ⟨body.head?.getD 0, Bytes.toWord16 (body.drop 2), ?_, fun x rest => ?_⟩
    · rw [decode_previewInput hlength.ge, List.getElem?_eq_none hlength.le]
      rfl
    · have hlong : 4 ≤ (body ++ x :: rest).length := by
        rw [List.length_append]
        omega
      have hhead : (body ++ x :: rest).head? = body.head? := by
        rw [List.head?_eq_getElem?, List.head?_eq_getElem?, List.getElem?_append_left (by omega)]
      have hbehind : (body ++ x :: rest)[4]? = some x := by
        rw [← hlength]
        exact List.getElem?_append_right (Nat.le_refl _) |>.trans (by simp)
      rw [decode_previewInput hlong, hhead, toWord16_drop_append 2 hlength.ge, hbehind]
      rfl

/-- two sources of which only one is there are no list, and one with a byte to spare is -/
theorem decode_grammar_short_list :
    (¬∃ c, decode .exact .v8_0 ⟨.ofChars 'T' 'l' 'S' 'r', [0, 2, 0, 1, 1]⟩ = .ok c) ∧
      ∃ c, decode .exact .v8_0 ⟨.ofChars 'T' 'l' 'S' 'r', [0, 1, 0, 1, 1, 0]⟩ = .ok c := by
  have hl : (Entry.tabular (.ofChars 'T' 'l' 'S' 'r') TallyBySource.editions tallyBySource
      TallyBySource.ofValues).editions.resolve .v8_0 = _ := Editions.resolve_only
  constructor
  · rw [(decode_grammar .exact .v8_0 ⟨.ofChars 'T' 'l' 'S' 'r', [0, 2, 0, 1, 1]⟩ _ rfl).1, Entry.isBody_iff hl]
    exact fun h => absurd h.2 (by decide)
  · rw [(decode_grammar .exact .v8_0 ⟨.ofChars 'T' 'l' 'S' 'r', [0, 1, 0, 1, 1, 0]⟩ _ rfl).1, Entry.isBody_iff hl]
    exact ⟨by decide, by decide⟩

end VisionMixer.Command
