/-
Which commands can be written.

The values of a command are of the kinds of its tables (`suits_of_tabular`, by a walk over the catalogue) and have the
names of the table of a version exactly if what came with 8.0 is there or not as the version asks (`isNamedBy_eq`). What
is left is what the fields ask of their values, so that `IsWritable` is the domain of writing (`encode_domain`).
-/
import VisionMixer.Proofs.Command.Carried
import VisionMixer.Proofs.Field.Domain

namespace VisionMixer

/-- values that suit the only table of a body suit all of them -/
theorem Editions.suits_of_only {fields : List Field} {size : Nat} {values : FieldValues}
    (h : ∀ p ∈ values, Suits fields p) : ∀ edition ∈ only ⟨size, fields⟩, ∀ p ∈ values, Suits edition.layout.fields p :=
  List.forall_mem_singleton.mpr h

/-- the records of a list that each suit the fields of records -/
theorem Suits.records {fields inner : List Field} {stride : Nat} {name : String} {items : List FieldValues}
    (hitems : ∀ item ∈ items, FieldValues.isNamedBy inner item ∧ ∀ p ∈ item, Suits inner p)
    (h : ∀ f ∈ fields, f.wire = .records stride inner) : Suits fields (name, .records items) := by
  have htyped : ∀ item ∈ items, item.Typed inner := fun item hitem =>
    (FieldValues.typed_iff (hitems item hitem).2).mpr (hitems item hitem).1
  refine ⟨fun f hf _ => ?_⟩
  rw [h f hf]
  exact .records (fun item hitem => (htyped item hitem).named) (fun item hitem => (htyped item hitem).carried)
    fun item hitem => (htyped item hitem).held

theorem TallyByIndex.suits (c : TallyByIndex) :
    ∀ edition ∈ editions, ∀ p ∈ c.toValues, Suits edition.layout.fields p := by
  refine Editions.suits_of_only (List.forall_mem_singleton.mpr ?_)
  refine .records (List.forall_mem_map.mpr fun t _ => ⟨rfl, ?_⟩) (List.forall_mem_singleton.mpr rfl)
  exact List.forall_mem_singleton.mpr (.byte _ rfl)

theorem TallyBySource.suits (c : TallyBySource) :
    ∀ edition ∈ editions, ∀ p ∈ c.toValues, Suits edition.layout.fields p := by
  refine Editions.suits_of_only (List.forall_mem_singleton.mpr ?_)
  refine .records (List.forall_mem_map.mpr fun e _ => ⟨rfl, ?_⟩) (List.forall_mem_singleton.mpr rfl)
  exact List.forall_mem_cons.mpr ⟨.word _ rfl, List.forall_mem_singleton.mpr (.byte _ rfl)⟩

namespace Command

variable {v : Version} {c : Command} {l : Layout} {values : FieldValues}

/-! ### The values of a command -/

/-- **Kinds.** The values of a command are of the kinds of its tables. -/
theorem suits_of_tabular (hc : c.isTabular) : ∀ edition ∈ (entryOf? c.tag).elim [] Entry.editions,
    ∀ p ∈ c.toValues, Suits edition.layout.fields p := by
  cases c with
  | macroProperties | unrecognized => exact nomatch hc
  | tallyByIndex c => exact c.suits
  | tallyBySource c => exact c.suits
  | _ =>
    repeat' first
      | (with_reducible refine Suits.byte _ ?_); rfl
      | (with_reducible refine Suits.word _ ?_); rfl
      | (with_reducible refine Suits.bool _ ?_); rfl
      | (with_reducible refine Suits.float _ ?_); rfl
      | (with_reducible refine Suits.text _ ?_); rfl
      | refine List.forall_mem_cons.mpr ⟨?_, ?_⟩
      | exact List.forall_mem_nil _
      | refine Suits.maybe fun _ => ?_
      | refine List.forall_mem_append.mpr ⟨?_, ?_⟩

/-- whether each of the values of a command that came with 8.0 is present -/
def newer : Command → List Bool
  | .product c => [c.model.isSome]
  | .topology c =>
    [c.multiviewers.isSome, c.talkbackChannels.isSome, c.cameraControl.isSome, c.advancedChromaKeyers.isSome]
  | .multiviewerConfig c => [c.canRouteInputs.isSome, c.canSwapPreviewProgram.isSome, c.canToggleSafeArea.isSome]
  | .multiviewerWindow c => [c.supportsSafeArea.isSome]
  | _ => []

/-- the super source that a command is about, if it is about one -/
def superSource? : Command → Option UInt8
  | .superSourceArt c => some c.superSource
  | .superSourceBox c => some c.superSource
  | _ => none

/-- a super source is named by the new table and has no number by the old one -/
theorem superSource_isNamedBy {old new : Layout} {tag : Tag} {superSource : UInt8} {written : FieldValues}
    (hl : (Editions.changed old new).resolve v = .ok l) (h : superSourceValues tag superSource v written = .ok values)
    (hnew : written.isNamedBy new.fields = true)
    (hold : (written.without "super_source").isNamedBy old.fields = true) : values.isNamedBy l.fields = true := by
  rcases superSourceValues_eq_ok.mp h with ⟨hv, rfl⟩ | ⟨hv, -, rfl⟩
  · rcases Editions.changed_eq_ok hl with ⟨-, rfl⟩ | ⟨hv', -⟩
    · exact hnew
    · exact absurd hv hv'
  · rcases Editions.changed_eq_ok hl with ⟨hv', -⟩ | ⟨-, rfl⟩
    · exact absurd hv' hv
    · exact hold

/-- the names of a table that changed with 8.0 -/
theorem isNamedBy_of_changed {old new : Layout} (hl : (Editions.changed old new).resolve v = .ok l)
    {present : List Bool} (hnew : values.isNamedBy new.fields = present.all (· == true))
    (hold : values.isNamedBy old.fields = present.all (· == false)) :
    values.isNamedBy l.fields = present.all (· == decide (.v8_0 ≤ v)) := by
  rcases Editions.changed_eq_ok hl with ⟨hv, rfl⟩ | ⟨hv, rfl⟩
  · rw [hnew, decide_eq_true hv]
  · rw [hold, decide_eq_false hv]

/-- **Names.** A command has the names of its table exactly if the values that came with 8.0 are all there from 8.0 on,
and none before. -/
theorem isNamedBy_eq (hc : c.isTabular) (hl : c.table v = .ok l) (h : c.valuesAt v = .ok values) :
    values.isNamedBy l.fields = c.newer.all (· == decide (.v8_0 ≤ v)) := by
  cases c with
  | macroProperties | unrecognized => exact nomatch hc
  | product c =>
    cases h
    obtain ⟨_, model⟩ := c
    exact isNamedBy_of_changed hl (by cases model <;> rfl) (by cases model <;> rfl)
  | topology c =>
    cases h
    obtain ⟨_, _, _, _, _, _, _, _, _, _, _, multiviewers, talkbackChannels, cameraControl, advancedChromaKeyers⟩ := c
    refine isNamedBy_of_changed hl ?_ ?_ <;>
      cases multiviewers <;> cases talkbackChannels <;> cases cameraControl <;> cases advancedChromaKeyers <;> rfl
  | multiviewerConfig c =>
    cases h
    obtain ⟨_, _, canRouteInputs, canSwapPreviewProgram, canToggleSafeArea⟩ := c
    refine isNamedBy_of_changed hl ?_ ?_ <;>
      cases canRouteInputs <;> cases canSwapPreviewProgram <;> cases canToggleSafeArea <;> rfl
  | multiviewerWindow c =>
    cases h
    obtain ⟨_, _, _, _, supportsSafeArea⟩ := c
    exact isNamedBy_of_changed hl (by cases supportsSafeArea <;> rfl) (by cases supportsSafeArea <;> rfl)
  | superSourceArt c => exact superSource_isNamedBy hl h rfl rfl
  | superSourceBox c => exact superSource_isNamedBy hl h rfl rfl
  | previewInput c =>
    cases h
    cases Editions.only_eq_ok hl
    obtain ⟨_, _, previewLive⟩ := c
    cases previewLive <;> rfl
  | _ =>
    cases h
    cases Editions.only_eq_ok hl
    rfl

theorem superSource_subset {tag : Tag} {superSource : UInt8} {written : FieldValues}
    (h : superSourceValues tag superSource v written = .ok values) : ∀ p ∈ values, p ∈ written := by
  rcases superSourceValues_eq_ok.mp h with ⟨-, rfl⟩ | ⟨-, -, rfl⟩
  · exact fun _ hp => hp
  · exact fun _ hp => (List.mem_filter.mp hp).1

theorem valuesAt_subset (h : c.valuesAt v = .ok values) : ∀ p ∈ values, p ∈ c.toValues := by
  cases c with
  | superSourceArt | superSourceBox => exact superSource_subset h
  | _ =>
    cases h
    exact fun _ hp => hp

theorem superSource_takes {old new : Layout} {tag : Tag} {superSource : UInt8} {written : FieldValues}
    (hl : (Editions.changed old new).resolve v = .ok l) (h : superSourceValues tag superSource v written = .ok values)
    (hold : ∀ f ∈ old.fields, f.name ≠ "super_source") : l.Takes values ↔ l.Takes written := by
  rcases superSourceValues_eq_ok.mp h with ⟨-, rfl⟩ | ⟨hv, -, rfl⟩
  · rfl
  · rcases Editions.changed_eq_ok hl with ⟨hv', -⟩ | ⟨-, rfl⟩
    · exact absurd hv' hv
    · exact forall₂_congr fun f hf => by rw [FieldValues.get?_without (hold f hf)]

/-- a table never asks for the number of a super source that is left out -/
theorem takes_valuesAt (hl : c.table v = .ok l) (h : c.valuesAt v = .ok values) : l.Takes values ↔ l.Takes c.toValues := by
  cases c with
  | superSourceArt => exact superSource_takes hl h (by decide)
  | superSourceBox => exact superSource_takes hl h (by decide)
  | _ =>
    cases h
    rfl

/-! ### Writing -/

theorem isSound_of_mem : ∀ e ∈ catalogue, ∀ edition ∈ e.editions, edition.layout.isSound := by
  decide +kernel

theorem isSound_of_table (h : c.table v = .ok l) : l.isSound := by
  obtain ⟨e, he, edition, hedition, rfl⟩ := exists_edition_of_table h
  exact isSound_of_mem e he edition hedition

theorem exists_table_of_tabular (hc : c.isTabular) (v : Version) : ∃ l, c.table v = .ok l := by
  cases c with
  | macroProperties | unrecognized => exact nomatch hc
  | _ => exact ⟨_, rfl⟩

/-- what a command must be to be written at a version -/
structure IsWritable (v : Version) (c : Command) : Prop where
  /-- every field of the table takes its value -/
  taken : ∀ l, c.table v = .ok l → l.Takes c.toValues
  /-- the values that came with 8.0 are all there from 8.0 on, and none before -/
  newer : ∀ present ∈ c.newer, present = decide (.v8_0 ≤ v)
  /-- before 8.0 there is no other super source than 0 -/
  superSource : ∀ n ∈ c.superSource?, ¬ .v8_0 ≤ v → n = 0
  /-- the texts of a macro slot have sizes of 16 bits -/
  texts : ∀ m, c = .macroProperties m → m.slot.name.utf8ByteSize ≤ 65535 ∧ m.slot.description.utf8ByteSize ≤ 65535

theorem guarded_superSourceValues {tag : Tag} {superSource : UInt8} :
    Guarded Error.IsEncoding (¬ .v8_0 ≤ v → superSource = 0) (superSourceValues tag superSource v values) := by
  rw [superSourceValues]
  split
  · next hv => exact (Guarded.ok _).congr ⟨fun _ h => absurd hv h, fun _ => trivial⟩
  · next hv =>
    refine (Guarded.check ⟨_, rfl⟩ fun _ => .ok _).congr ?_
    rw [not_not, and_true]
    exact ⟨fun h _ => h, fun h => h hv⟩

theorem guarded_valuesAt :
    Guarded Error.IsEncoding (∀ n ∈ c.superSource?, ¬ .v8_0 ≤ v → n = 0) (c.valuesAt v) := by
  cases c with
  | superSourceArt c => exact guarded_superSourceValues.congr (by simp [superSource?])
  | superSourceBox c => exact guarded_superSourceValues.congr (by simp [superSource?])
  | _ => exact (Guarded.ok _).congr (by simp [superSource?])

theorem guarded_encodeText {field s : String} :
    Guarded Error.IsEncoding (s.utf8ByteSize ≤ 65535) (MacroProperties.encodeText field s) := by
  rw [MacroProperties.encodeText]
  refine (Guarded.check ⟨_, rfl⟩ fun _ => .ok _).congr ?_
  rw [Utf8.length_encode, not_lt, and_true]

theorem encodeBody_of_tabular {a : Arithmetic} (hc : c.isTabular) : c.encodeBody a v = (do
    let values ← c.valuesAt v
    (← c.table v).encode a values) := by
  cases c with
  | macroProperties | unrecognized => exact nomatch hc
  | _ => rfl

/-- a body that is a table -/
theorem guarded_encodeBody_tabular (hc : c.isTabular) :
    Guarded Error.IsEncoding (c.IsWritable v) (c.encodeBody .exact v) := by
  obtain ⟨l, hl⟩ := exists_table_of_tabular hc v
  have hbody : ∀ values, c.valuesAt v = .ok values → Guarded Error.IsEncoding
      ((∀ present ∈ c.newer, present = decide (.v8_0 ≤ v)) ∧ l.Takes c.toValues)
      (c.table v >>= fun l => l.encode .exact values) := by
    intro values hvalues
    have hsuits : ∀ p ∈ values, Suits l.fields p := by
      obtain ⟨edition, hedition, rfl⟩ := Editions.mem_of_resolve hl
      exact fun p hp => suits_of_tabular hc edition hedition p (valuesAt_subset hvalues p hp)
    rw [hl, ok_bind]
    refine (Layout.guarded_encode (wellFormed_of_table hl) (isRegular_of_table hl) (isSound_of_table hl)).congr ?_
    rw [FieldValues.typed_iff hsuits, isNamedBy_eq hc hl hvalues, takes_valuesAt hl hvalues]
    simp
  rw [encodeBody_of_tabular hc]
  refine (guarded_valuesAt.bind hbody).congr ⟨fun h => ⟨fun l' hl' => ?_, h.2.1, h.1, fun m hm => ?_⟩, fun h => ?_⟩
  · cases hl.symm.trans hl'
    exact h.2.2
  · rw [hm] at hc
    exact nomatch hc
  · exact ⟨h.superSource, h.newer, h.taken l hl⟩

theorem guarded_encodeBody : Guarded Error.IsEncoding (c.IsWritable v) (c.encodeBody .exact v) := by
  by_cases hc : c.isTabular = true
  · exact guarded_encodeBody_tabular hc
  cases c with
  | macroProperties m =>
    have htexts : Guarded Error.IsEncoding (m.slot.name.utf8ByteSize ≤ 65535 ∧ m.slot.description.utf8ByteSize ≤ 65535)
        m.encode :=
      (guarded_encodeText.bind fun _ _ => guarded_encodeText.bind fun _ _ => .ok _).congr (by rw [and_true])
    refine htexts.congr ⟨fun h => ⟨fun l hl => (nomatch hl), by simp [newer], by simp [superSource?], fun m' hm => ?_⟩, ?_⟩
    · cases hm
      exact h
    · exact fun h => h.texts m rfl
  | unrecognized r =>
    exact (Guarded.ok _).congr
      ⟨fun _ => ⟨fun l _ f _ x hx => (nomatch hx), by simp [newer], by simp [superSource?], by simp⟩, fun _ => trivial⟩
  | _ => exact absurd rfl hc

/-- **Domain.** In exact arithmetic a command is written exactly if its numbers lie within the bounds of their fields or
at most the tolerance past them, its texts are plain and fit their fields, its lists can be counted, the values that came
with 8.0 are all there from 8.0 on and none before, and before 8.0 it is about super source 0. Everything else is an
encoding error, and it is never the width of a field that refuses a number within bounds. -/
theorem encode_domain (v : Version) (c : Command) :
    ((∃ r, c.encode .exact v = .ok r) ↔ c.IsWritable v) ∧
    (∀ error, c.encode .exact v = .error error → error.IsEncoding) ∧
    ∀ l, c.table v = .ok l → ∀ f ∈ l.fields, ∀ w scale least greatest x, f.wire = .scaled w scale least greatest →
      Wire.inRange .exact least greatest x → ∃ b, w.encode f.name (Arithmetic.exact.mul x scale).toInt64 = .ok b := by
  have hguarded : Guarded Error.IsEncoding (c.IsWritable v) (c.encode .exact v) :=
    (guarded_encodeBody.bind fun _ _ => .ok _).congr (by rw [and_true])
  refine ⟨hguarded.ok_iff, hguarded.kind_of_error, fun l hl f hf w scale least greatest x hwire hrange => ?_⟩
  have hregular := (Layout.isRegular_of_mem (isRegular_of_table hl) hf).1
  have hsound := List.all_eq_true.mp (isSound_of_table hl) f hf
  rw [hwire] at hregular hsound
  exact Width.guarded_encode.ok_iff.mpr (Wire.fits_of_inRange hregular hsound hrange)

/-- a transition past its end -/
def pastEnd (q : Rat) : Command := .transitionPosition ⟨0, true, 20, .rational (1 + q)⟩

/-- a billionth past the end of a transition is let through, two are not -/
theorem encode_domain_edge :
    (∃ r, (pastEnd (1 / 1000000000)).encode .exact .v8_0 = .ok r) ∧
      ¬∃ r, (pastEnd (2 / 1000000000)).encode .exact .v8_0 = .ok r := by
  rw [(encode_domain .v8_0 (pastEnd (1 / 1000000000))).1, (encode_domain .v8_0 (pastEnd (2 / 1000000000))).1]
  constructor
  · refine ⟨fun l hl => ?_, by simp [newer, pastEnd], by simp [superSource?, pastEnd], by simp [pastEnd]⟩
    cases Editions.only_eq_ok hl
    refine List.forall_mem_cons.mpr ⟨fun x hx => ?_, List.forall_mem_cons.mpr ⟨fun x hx => ?_,
      List.forall_mem_cons.mpr ⟨fun x hx => ?_, List.forall_mem_singleton.mpr fun x hx => ?_⟩⟩⟩
    all_goals cases hx
    · trivial
    · trivial
    · trivial
    · exact ⟨_, 0, 1, rfl, rfl, rfl, by norm_num, by norm_num⟩
  · intro h
    have hmem : Field.number "position" 4 .unitInterval ∈
        [.u8 "mix_effect" 0, .bool "in_transition" 1, .u8 "remaining_frames" 2, .number "position" 4 .unitInterval] :=
      List.mem_of_getElem? (i := 3) rfl
    obtain ⟨q, lo, hi, hq, -, hhi, -, hle⟩ := h.taken _ Editions.resolve_only _ hmem _ rfl
    cases hq
    cases hhi
    norm_num at hle

end Command

end VisionMixer
