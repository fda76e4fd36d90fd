/-
The values that a command carries at a version.

A table carries the values it has fields for, so before 8.0 a command that is written has none of the values that came
with 8.0 (`missing_of_carried`), and a super source has the number 0. What is carried makes the command again
(`ofValues_valuesAt`), and taken along the table with other numbers it is what the command with those numbers carries
(`valuesAt_mapNumbers`).
-/
import VisionMixer.Proofs.Command.Tables

namespace VisionMixer

variable {v : Version} {l old new : Layout} {values values' : FieldValues} {f : Wire → Number → Number}

/-! ### Old and new tables -/

/-- every value has a field in a table -/
def FieldValues.CarriedBy (values : FieldValues) (l : Layout) : Prop := ∀ p ∈ values, ∃ f ∈ l.fields, f.name = p.1

/-- a value that the table has no field for is missing -/
theorem FieldValues.CarriedBy.missing (h : values.CarriedBy l) (name : String)
    (hname : name ∉ l.fields.map FieldOf.name) : values.get? name = none := by
  rw [FieldValues.get?, Option.map_eq_none_iff, List.find?_eq_none]
  intro p hp
  obtain ⟨f, hf, heq⟩ := h p hp
  have hne : p.1 ≠ name := fun h => hname (List.mem_map.mpr ⟨f, hf, heq.trans h⟩)
  simpa using hne

/-- a changed body has its old table before 8.0 and its new one after -/
theorem Editions.changed_eq_ok (h : (changed old new).resolve v = .ok l) :
    (.v8_0 ≤ v ∧ l = new) ∨ (¬ .v8_0 ≤ v ∧ l = old) := by
  rw [resolve_changed, Except.ok.injEq] at h
  split at h
  · next hnew => exact .inl ⟨hnew, h.symm⟩
  · next hold => exact .inr ⟨hold, h.symm⟩

theorem Editions.only_eq_ok (h : (only old).resolve v = .ok l) : l = old := by
  rw [resolve_only, Except.ok.injEq] at h
  exact h.symm

/-! ### Bodies with optional values -/

theorem PreviewSource.along_toValues {c : PreviewSource} (hl : editions.resolve v = .ok l) :
    c.toValues.along (Wire.mapNumbers f) l.fields = c.toValues := by
  obtain rfl := Editions.only_eq_ok hl
  obtain ⟨_, _, previewLive⟩ := c
  cases previewLive <;> rfl

theorem Product.along_toValues {c : Product} (hl : editions.resolve v = .ok l) (hcarried : c.toValues.CarriedBy l) :
    c.toValues.along (Wire.mapNumbers f) l.fields = c.toValues := by
  obtain ⟨_, model⟩ := c
  rcases Editions.changed_eq_ok hl with ⟨-, rfl⟩ | ⟨-, rfl⟩
  · cases model <;> rfl
  · cases model with
    | some => exact nomatch hcarried.missing "model" (by decide)
    | none => rfl

theorem Topology.along_toValues {c : Topology} (hl : editions.resolve v = .ok l) (hcarried : c.toValues.CarriedBy l) :
    c.toValues.along (Wire.mapNumbers f) l.fields = c.toValues := by
  obtain ⟨_, _, _, _, _, _, _, _, _, _, _, multiviewers, talkbackChannels, cameraControl, advancedChromaKeyers⟩ := c
  rcases Editions.changed_eq_ok hl with ⟨-, rfl⟩ | ⟨-, rfl⟩
  · cases multiviewers <;> cases talkbackChannels <;> cases cameraControl <;> cases advancedChromaKeyers <;> rfl
  · cases multiviewers with
    | some => exact nomatch hcarried.missing "multiviewers" (by decide)
    | none =>
    cases talkbackChannels with
    | some => exact nomatch hcarried.missing "talkback_channels" (by decide)
    | none =>
    cases cameraControl with
    | some => exact nomatch hcarried.missing "camera_control" (by decide)
    | none =>
    cases advancedChromaKeyers with
    | some => exact nomatch hcarried.missing "advanced_chroma_keyers" (by decide)
    | none => rfl

theorem MultiviewerConfig.along_toValues {c : MultiviewerConfig} (hl : editions.resolve v = .ok l)
    (hcarried : c.toValues.CarriedBy l) : c.toValues.along (Wire.mapNumbers f) l.fields = c.toValues := by
  obtain ⟨_, _, canRouteInputs, canSwapPreviewProgram, canToggleSafeArea⟩ := c
  rcases Editions.changed_eq_ok hl with ⟨-, rfl⟩ | ⟨-, rfl⟩
  · cases canRouteInputs <;> cases canSwapPreviewProgram <;> cases canToggleSafeArea <;> rfl
  · cases canRouteInputs with
    | some => exact nomatch hcarried.missing "can_route_inputs" (by decide)
    | none =>
    cases canSwapPreviewProgram with
    | some => exact nomatch hcarried.missing "can_swap_preview_program" (by decide)
    | none =>
    cases canToggleSafeArea with
    | some => exact nomatch hcarried.missing "can_toggle_safe_area" (by decide)
    | none => rfl

theorem MultiviewerWindow.along_toValues {c : MultiviewerWindow} (hl : editions.resolve v = .ok l)
    (hcarried : c.toValues.CarriedBy l) : c.toValues.along (Wire.mapNumbers f) l.fields = c.toValues := by
  obtain ⟨_, _, _, _, supportsSafeArea⟩ := c
  rcases Editions.changed_eq_ok hl with ⟨-, rfl⟩ | ⟨-, rfl⟩
  · cases supportsSafeArea <;> rfl
  · cases supportsSafeArea with
    | some => exact nomatch hcarried.missing "supports_safe_area" (by decide)
    | none => rfl

/-! ### Bodies with records -/

theorem TallyByIndex.along_toValues {c : TallyByIndex} (hl : editions.resolve v = .ok l) :
    c.toValues.along (Wire.mapNumbers f) l.fields = c.toValues := by
  obtain rfl := Editions.only_eq_ok hl
  have hitems : (c.flags.map fun t => [("flags", Value.byte t.bits)]).map
      (FieldValues.along (Value.mapNumber f) [Field.flags8 "flags" 0]) =
      c.flags.map fun t => [("flags", Value.byte t.bits)] := by
    rw [List.map_map]
    exact List.map_congr_left fun t _ => rfl
  exact congrArg (fun items => [("entries", Value.records items)]) hitems

theorem TallyBySource.along_toValues {c : TallyBySource} (hl : editions.resolve v = .ok l) :
    c.toValues.along (Wire.mapNumbers f) l.fields = c.toValues := by
  obtain rfl := Editions.only_eq_ok hl
  have hitems : (c.entries.map fun e => [("source", Value.word e.1), ("flags", Value.byte e.2.bits)]).map
      (FieldValues.along (Value.mapNumber f) [Field.u16 "source" 0, Field.flags8 "flags" 2]) =
      c.entries.map fun e => [("source", Value.word e.1), ("flags", Value.byte e.2.bits)] := by
    rw [List.map_map]
    exact List.map_congr_left fun e _ => rfl
  exact congrArg (fun items => [("entries", Value.records items)]) hitems

/-! ### Bodies with numbers that may be missing -/

/-- zero stands for a setting that is not asked for, and is a multiple of every unit -/
theorem SetAudioMixerInput.along_toValues {c : SetAudioMixerInput} (hl : editions.resolve v = .ok l)
    (hgain : f .gain 0 = 0) (hbalance : f .balance 0 = 0) :
    c.toValues.along (Wire.mapNumbers f) l.fields = (c.mapNumbers f).toValues := by
  obtain rfl := Editions.only_eq_ok hl
  obtain ⟨index, mixOption, gain, balance⟩ := c
  have hmask : mask ⟨index, mixOption, gain.map (f .gain), balance.map (f .balance)⟩ =
      mask ⟨index, mixOption, gain, balance⟩ := by
    simp only [mask, Option.isSome_map]
  have hgain' : f .gain (gain.getD 0) = (gain.map (f .gain)).getD 0 := by
    cases gain with
    | none => exact hgain
    | some x => rfl
  have hbalance' : f .balance (balance.getD 0) = (balance.map (f .balance)).getD 0 := by
    cases balance with
    | none => exact hbalance
    | some x => rfl
  change ([("mask", .byte (mask ⟨index, mixOption, gain, balance⟩)), ("index", .word index),
    ("mix_option", .byte (mixOption.getD 0)), ("gain", .float (f .gain (gain.getD 0))),
    ("balance", .float (f .balance (balance.getD 0)))] : FieldValues) = _
  rw [hgain', hbalance', ← hmask]
  rfl

/-! ### Super sources -/

theorem Command.superSourceValues_eq_ok {tag : Tag} {superSource : UInt8} :
    superSourceValues tag superSource v values = .ok values' ↔
      (.v8_0 ≤ v ∧ values = values') ∨ (¬ .v8_0 ≤ v ∧ superSource = 0 ∧ values.without "super_source" = values') := by
  rw [superSourceValues]
  by_cases hnew : Version.v8_0 ≤ v <;> by_cases hzero : superSource = 0 <;> simp [hnew, hzero]

/-- a super source is written with its number by the new table and without it by the old one -/
theorem Command.superSourceValues_along {tag : Tag} {superSource : UInt8} {written rounded : FieldValues}
    (hl : (Editions.changed old new).resolve v = .ok l)
    (hnew : written.along (Wire.mapNumbers f) new.fields = rounded)
    (hold : (written.without "super_source").along (Wire.mapNumbers f) old.fields = rounded.without "super_source")
    (h : superSourceValues tag superSource v written = .ok values) :
    superSourceValues tag superSource v rounded = .ok (values.along (Wire.mapNumbers f) l.fields) := by
  refine superSourceValues_eq_ok.mpr ?_
  rcases superSourceValues_eq_ok.mp h with ⟨hv, rfl⟩ | ⟨hv, hzero, rfl⟩
  · rcases Editions.changed_eq_ok hl with ⟨-, rfl⟩ | ⟨hv', -⟩
    · exact .inl ⟨hv, hnew.symm⟩
    · exact absurd hv hv'
  · rcases Editions.changed_eq_ok hl with ⟨hv', -⟩ | ⟨-, rfl⟩
    · exact absurd hv' hv
    · exact .inr ⟨hv, hzero, hold.symm⟩

/-! ### All commands -/

namespace Command

variable {c : Command}

/-- **Values make the command.** A command is read back from the values it carries at a version. -/
theorem ofValues_valuesAt (hc : c.isTabular) (h : c.valuesAt v = .ok values) : ofValues c.tag values = .ok c := by
  cases c with
  | macroProperties | unrecognized => exact nomatch hc
  | superSourceArt c =>
    change superSourceArt <$> SuperSourceArt.ofValues values = _
    rcases superSourceValues_eq_ok.mp h with ⟨-, rfl⟩ | ⟨-, hzero, rfl⟩
    · simp [toValues]
    · simp [toValues, c.ofValues_without hzero]
  | superSourceBox c =>
    change superSourceBox <$> SuperSourceBox.ofValues values = _
    rcases superSourceValues_eq_ok.mp h with ⟨-, rfl⟩ | ⟨-, hzero, rfl⟩
    · simp [toValues]
    · simp [toValues, c.ofValues_without hzero]
  | _ =>
    cases h
    change (_ <$> _ : Except Error Command) = _
    simp [toValues]

/-- **The table changes numbers as the command does**, if zero stays for what is not asked for. -/
theorem valuesAt_mapNumbers (hc : c.isTabular) (hl : c.table v = .ok l) (h : c.valuesAt v = .ok values)
    (hcarried : values.CarriedBy l) (hgain : f .gain 0 = 0) (hbalance : f .balance 0 = 0) :
    (c.mapNumbers f).valuesAt v = .ok (values.along (Wire.mapNumbers f) l.fields) := by
  cases c with
  | macroProperties | unrecognized => exact nomatch hc
  | superSourceArt c => exact superSourceValues_along hl rfl rfl h
  | superSourceBox c => exact superSourceValues_along hl rfl rfl h
  | previewInput c =>
    cases h
    exact congrArg Except.ok (PreviewSource.along_toValues hl).symm
  | product c =>
    cases h
    exact congrArg Except.ok (Product.along_toValues hl hcarried).symm
  | topology c =>
    cases h
    exact congrArg Except.ok (Topology.along_toValues hl hcarried).symm
  | multiviewerConfig c =>
    cases h
    exact congrArg Except.ok (MultiviewerConfig.along_toValues hl hcarried).symm
  | multiviewerWindow c =>
    cases h
    exact congrArg Except.ok (MultiviewerWindow.along_toValues hl hcarried).symm
  | tallyByIndex c =>
    cases h
    exact congrArg Except.ok (TallyByIndex.along_toValues hl).symm
  | tallyBySource c =>
    cases h
    exact congrArg Except.ok (TallyBySource.along_toValues hl).symm
  | setAudioMixerInput c =>
    cases h
    exact congrArg Except.ok (SetAudioMixerInput.along_toValues hl hgain hbalance).symm
  | _ =>
    cases h
    obtain rfl := Editions.only_eq_ok hl
    rfl

theorem valuesAt_rounded (hc : c.isTabular) (hl : c.table v = .ok l) (h : c.valuesAt v = .ok values)
    (hcarried : values.CarriedBy l) :
    c.rounded.valuesAt v = .ok (values.along (Wire.mapNumbers Wire.nearest) l.fields) :=
  valuesAt_mapNumbers hc hl h hcarried (by decide +kernel) (by decide +kernel)

end Command

end VisionMixer
