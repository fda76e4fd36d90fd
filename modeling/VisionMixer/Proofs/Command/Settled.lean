/-
Every command that was read is settled.

A number of a command that was read stands in a scaled field of the table it was read by (`Entry.ReadsNumbers`), and
tables read multiples only. `readsNumbers_of_mem` checks this entry by entry: most commands have no numbers, and for the
others the reader of each number is taken out of the reader of the body.
-/
import VisionMixer.Proofs.Command.Tables

namespace VisionMixer

variable {values : FieldValues}

/-! ### Where the numbers of a body come from -/

theorem MaskRect.get?_of_ofValues {m : MaskRect} (h : ofValues values = .ok m) :
    values.get? "mask_top" = some (.float m.top) ∧ values.get? "mask_bottom" = some (.float m.bottom)
      ∧ values.get? "mask_left" = some (.float m.left) ∧ values.get? "mask_right" = some (.float m.right) := by
  simp only [ofValues, bind_eq_ok, pure_eq_ok, FieldValues.getFloat_eq_ok] at h
  obtain ⟨top, htop, bottom, hbottom, left, hleft, right, hright, rfl⟩ := h
  exact ⟨htop, hbottom, hleft, hright⟩

theorem LumaSettings.get?_of_ofValues {s : LumaSettings} (h : ofValues values = .ok s) :
    values.get? "clip" = some (.float s.clip) ∧ values.get? "gain" = some (.float s.gain) := by
  simp only [ofValues, bind_eq_ok, pure_eq_ok, FieldValues.getFloat_eq_ok] at h
  obtain ⟨_, -, clip, hclip, gain, hgain, _, -, rfl⟩ := h
  exact ⟨hclip, hgain⟩

namespace Layout

variable {l : Layout} {name : String} {wire : Wire}

/-- a number stands in a scaled field of a table, or is a multiple anyway -/
def Accounts (l : Layout) (values : FieldValues) (p : Wire × Number) : Prop :=
  p ∈ l.numbers values ∨ p.1.IsMultiple p.2

theorem Accounts.of_get? {x : Number} (hwire : (l.fields.find? (·.name = name)).map FieldOf.wire = some wire)
    (hscaled : wire.isScaled) (hx : values.get? name = some (.float x)) : l.Accounts values (wire, x) :=
  .inl (mem_numbers hwire hscaled hx)

/-- a setting that is not asked for is zero, and zero is a multiple -/
theorem Accounts.of_masked {p : Prop} [Decidable p] {x : Option Number}
    (hwire : (l.fields.find? (·.name = name)).map FieldOf.wire = some wire) (hscaled : wire.isScaled)
    (hzero : wire.IsMultiple 0)
    (h : (if p then some <$> values.getFloat name else .ok none : Except Error (Option Number)) = .ok x) :
    l.Accounts values (wire, x.getD 0) := by
  split at h
  · obtain ⟨y, hy, rfl⟩ := map_eq_ok.mp h
    exact .of_get? hwire hscaled (FieldValues.getFloat_eq_ok.mp hy)
  · cases h
    exact .inr hzero

end Layout

namespace Command

/-- the numbers of a command are accounted for by the table it was read by -/
def Entry.ReadsNumbers (e : Entry) : Prop :=
  ∀ edition ∈ e.editions, ∀ values c, e.ofValues values = .ok c → ∀ p ∈ c.numbers, edition.layout.Accounts values p

theorem Entry.ReadsNumbers.of_none {α : Type} {tag : Tag} {editions : Editions} {command : α → Command}
    {read : FieldValues → Except Error α} (h : ∀ x, (command x).numbers = []) :
    (Entry.tabular tag editions command read).ReadsNumbers := by
  intro edition _ values c hc p hp
  obtain ⟨x, -, rfl⟩ := map_eq_ok.mp hc
  rw [h x] at hp
  exact nomatch hp

theorem readsNumbers_transitionPosition :
    (Entry.tabular (.ofChars 'T' 'r' 'P' 's') TransitionPosition.editions transitionPosition
      TransitionPosition.ofValues).ReadsNumbers := by
  intro edition hedition values c hc
  obtain ⟨c, hread, rfl⟩ := map_eq_ok.mp hc
  simp only [TransitionPosition.ofValues, bind_eq_ok, pure_eq_ok, FieldValues.getFloat_eq_ok] at hread
  obtain ⟨_, -, _, -, _, -, position, hposition, rfl⟩ := hread
  rw [numbers_transitionPosition]
  simp only [List.forall_mem_cons]
  obtain rfl := List.mem_singleton.mp hedition
  exact ⟨.of_get? rfl rfl hposition, List.forall_mem_nil _⟩

theorem readsNumbers_transitionWipe :
    (Entry.tabular (.ofChars 'T' 'W' 'p' 'P') TransitionWipe.editions transitionWipe
      TransitionWipe.ofValues).ReadsNumbers := by
  intro edition hedition values c hc
  obtain ⟨c, hread, rfl⟩ := map_eq_ok.mp hc
  simp only [TransitionWipe.ofValues, bind_eq_ok, pure_eq_ok, FieldValues.getFloat_eq_ok] at hread
  obtain ⟨_, -, _, -, _, -, width, hwidth, _, -, symmetry, hsymmetry, softness, hsoftness, x, hx, y, hy, _, -, _, -,
    rfl⟩ := hread
  rw [numbers_transitionWipe]
  simp only [List.forall_mem_cons]
  obtain rfl := List.mem_singleton.mp hedition
  exact ⟨.of_get? rfl rfl hwidth, .of_get? rfl rfl hsymmetry, .of_get? rfl rfl hsoftness, .of_get? rfl rfl hx,
    .of_get? rfl rfl hy, List.forall_mem_nil _⟩

theorem readsNumbers_keyerBase :
    (Entry.tabular (.ofChars 'K' 'e' 'B' 'P') KeyerBase.editions keyerBase KeyerBase.ofValues).ReadsNumbers := by
  intro edition hedition values c hc
  obtain ⟨c, hread, rfl⟩ := map_eq_ok.mp hc
  simp only [KeyerBase.ofValues, bind_eq_ok, pure_eq_ok] at hread
  obtain ⟨_, -, _, -, _, -, _, -, _, -, _, -, _, -, _, -, mask, hmask, rfl⟩ := hread
  obtain ⟨htop, hbottom, hleft, hright⟩ := MaskRect.get?_of_ofValues hmask
  rw [numbers_keyerBase]
  simp only [List.forall_mem_cons]
  obtain rfl := List.mem_singleton.mp hedition
  exact ⟨.of_get? rfl rfl htop, .of_get? rfl rfl hbottom, .of_get? rfl rfl hleft, .of_get? rfl rfl hright,
    List.forall_mem_nil _⟩

theorem readsNumbers_keyerLuma :
    (Entry.tabular (.ofChars 'K' 'e' 'L' 'm') KeyerLuma.editions keyerLuma KeyerLuma.ofValues).ReadsNumbers := by
  intro edition hedition values c hc
  obtain ⟨c, hread, rfl⟩ := map_eq_ok.mp hc
  simp only [KeyerLuma.ofValues, bind_eq_ok, pure_eq_ok] at hread
  obtain ⟨_, -, _, -, settings, hsettings, rfl⟩ := hread
  obtain ⟨hclip, hgain⟩ := LumaSettings.get?_of_ofValues hsettings
  rw [numbers_keyerLuma]
  simp only [List.forall_mem_cons]
  obtain rfl := List.mem_singleton.mp hedition
  exact ⟨.of_get? rfl rfl hclip, .of_get? rfl rfl hgain, List.forall_mem_nil _⟩

theorem readsNumbers_keyerChroma :
    (Entry.tabular (.ofChars 'K' 'e' 'C' 'k') KeyerChroma.editions keyerChroma KeyerChroma.ofValues).ReadsNumbers := by
  intro edition hedition values c hc
  obtain ⟨c, hread, rfl⟩ := map_eq_ok.mp hc
  simp only [KeyerChroma.ofValues, bind_eq_ok, pure_eq_ok, FieldValues.getFloat_eq_ok] at hread
  obtain ⟨_, -, _, -, hue, hhue, gain, hgain, suppress, hsuppress, lift, hlift, _, -, rfl⟩ := hread
  rw [numbers_keyerChroma]
  simp only [List.forall_mem_cons]
  obtain rfl := List.mem_singleton.mp hedition
  exact ⟨.of_get? rfl rfl hhue, .of_get? rfl rfl hgain, .of_get? rfl rfl hsuppress, .of_get? rfl rfl hlift,
    List.forall_mem_nil _⟩

theorem readsNumbers_dskProperties :
    (Entry.tabular (.ofChars 'D' 's' 'k' 'P') DskProperties.editions dskProperties
      DskProperties.ofValues).ReadsNumbers := by
  intro edition hedition values c hc
  obtain ⟨c, hread, rfl⟩ := map_eq_ok.mp hc
  simp only [DskProperties.ofValues, bind_eq_ok, pure_eq_ok] at hread
  obtain ⟨_, -, _, -, _, -, luma, hluma, _, -, mask, hmask, rfl⟩ := hread
  obtain ⟨hclip, hgain⟩ := LumaSettings.get?_of_ofValues hluma
  obtain ⟨htop, hbottom, hleft, hright⟩ := MaskRect.get?_of_ofValues hmask
  rw [numbers_dskProperties]
  simp only [List.forall_mem_cons]
  obtain rfl := List.mem_singleton.mp hedition
  exact ⟨.of_get? rfl rfl hclip, .of_get? rfl rfl hgain, .of_get? rfl rfl htop, .of_get? rfl rfl hbottom,
    .of_get? rfl rfl hleft, .of_get? rfl rfl hright, List.forall_mem_nil _⟩

theorem readsNumbers_audioMixerInput :
    (Entry.tabular (.ofChars 'A' 'M' 'I' 'P') AudioMixerInput.editions audioMixerInput
      AudioMixerInput.ofValues).ReadsNumbers := by
  intro edition hedition values c hc
  obtain ⟨c, hread, rfl⟩ := map_eq_ok.mp hc
  simp only [AudioMixerInput.ofValues, bind_eq_ok, pure_eq_ok, FieldValues.getFloat_eq_ok] at hread
  obtain ⟨_, -, _, -, _, -, _, -, _, -, gain, hgain, balance, hbalance, rfl⟩ := hread
  rw [numbers_audioMixerInput]
  simp only [List.forall_mem_cons]
  obtain rfl := List.mem_singleton.mp hedition
  exact ⟨.of_get? rfl rfl hgain, .of_get? rfl rfl hbalance, List.forall_mem_nil _⟩

theorem readsNumbers_audioMaster :
    (Entry.tabular (.ofChars 'A' 'M' 'M' 'O') AudioMaster.editions audioMaster AudioMaster.ofValues).ReadsNumbers := by
  intro edition hedition values c hc
  obtain ⟨c, hread, rfl⟩ := map_eq_ok.mp hc
  simp only [AudioMaster.ofValues, bind_eq_ok, pure_eq_ok, FieldValues.getFloat_eq_ok] at hread
  obtain ⟨gain, hgain, balance, hbalance, _, -, rfl⟩ := hread
  rw [numbers_audioMaster]
  simp only [List.forall_mem_cons]
  obtain rfl := List.mem_singleton.mp hedition
  exact ⟨.of_get? rfl rfl hgain, .of_get? rfl rfl hbalance, List.forall_mem_nil _⟩

theorem readsNumbers_superSourceArt :
    (Entry.tabular (.ofChars 'S' 'S' 'r' 'c') SuperSourceArt.editions superSourceArt
      SuperSourceArt.ofValues).ReadsNumbers := by
  intro edition hedition values c hc
  obtain ⟨c, hread, rfl⟩ := map_eq_ok.mp hc
  simp only [SuperSourceArt.ofValues, bind_eq_ok, pure_eq_ok, FieldValues.getFloat_eq_ok] at hread
  obtain ⟨_, -, _, -, _, -, _, -, luma, hluma, _, -, hue, hhue, saturation, hsaturation, border, hborder, rfl⟩ := hread
  obtain ⟨hclip, hgain⟩ := LumaSettings.get?_of_ofValues hluma
  rw [numbers_superSourceArt]
  simp only [List.forall_mem_cons]
  rcases List.mem_pair.mp hedition with rfl | rfl <;>
    exact ⟨.of_get? rfl rfl hclip, .of_get? rfl rfl hgain, .of_get? rfl rfl hhue, .of_get? rfl rfl hsaturation,
      .of_get? rfl rfl hborder, .of_get? rfl rfl hclip, .of_get? rfl rfl hgain, .of_get? rfl rfl hhue,
      .of_get? rfl rfl hsaturation, .of_get? rfl rfl hborder, List.forall_mem_nil _⟩

theorem readsNumbers_superSourceBox :
    (Entry.tabular (.ofChars 'S' 'S' 'B' 'P') SuperSourceBox.editions superSourceBox
      SuperSourceBox.ofValues).ReadsNumbers := by
  intro edition hedition values c hc
  obtain ⟨c, hread, rfl⟩ := map_eq_ok.mp hc
  simp only [SuperSourceBox.ofValues, bind_eq_ok, pure_eq_ok, FieldValues.getFloat_eq_ok] at hread
  obtain ⟨_, -, _, -, _, -, _, -, x, hx, y, hy, size, hsize, _, -, top, htop, bottom, hbottom, left, hleft, right,
    hright, rfl⟩ := hread
  rw [numbers_superSourceBox]
  simp only [List.forall_mem_cons]
  rcases List.mem_pair.mp hedition with rfl | rfl <;>
    exact ⟨.of_get? rfl rfl hx, .of_get? rfl rfl hy, .of_get? rfl rfl hsize, .of_get? rfl rfl htop,
      .of_get? rfl rfl hbottom, .of_get? rfl rfl hleft, .of_get? rfl rfl hright, .of_get? rfl rfl hx,
      .of_get? rfl rfl hy, .of_get? rfl rfl hsize, .of_get? rfl rfl htop, .of_get? rfl rfl hbottom,
      .of_get? rfl rfl hleft, .of_get? rfl rfl hright, List.forall_mem_nil _⟩

theorem readsNumbers_setAudioMixerInput :
    (Entry.tabular (.ofChars 'C' 'A' 'M' 'I') SetAudioMixerInput.editions setAudioMixerInput
      SetAudioMixerInput.ofValues).ReadsNumbers := by
  intro edition hedition values c hc
  obtain ⟨c, hread, rfl⟩ := map_eq_ok.mp hc
  simp only [SetAudioMixerInput.ofValues, ite_bind, bind_eq_ok, pure_eq_ok] at hread
  obtain ⟨_, -, _, -, _, -, gain, hgain, balance, hbalance, rfl⟩ := hread
  have hgainZero : Wire.gain.IsMultiple 0 := ⟨0, 100, rfl, by norm_num; rfl⟩
  have hbalanceZero : Wire.balance.IsMultiple 0 := ⟨0, 10000, rfl, by norm_num; rfl⟩
  rw [numbers_setAudioMixerInput]
  simp only [List.forall_mem_cons]
  obtain rfl := List.mem_singleton.mp hedition
  exact ⟨.of_masked rfl rfl hgainZero hgain, .of_masked rfl rfl hbalanceZero hbalance,
    List.forall_mem_nil _⟩

/-! ### The catalogue -/

theorem readsNumbers_of_mem : ∀ e ∈ catalogue, e.ReadsNumbers := by
  simp only [catalogue, List.forall_mem_cons]
  and_intros
  all_goals first
    | exact .of_none fun _ => rfl
    | exact readsNumbers_transitionPosition
    | exact readsNumbers_transitionWipe
    | exact readsNumbers_keyerBase
    | exact readsNumbers_keyerLuma
    | exact readsNumbers_keyerChroma
    | exact readsNumbers_dskProperties
    | exact readsNumbers_audioMixerInput
    | exact readsNumbers_audioMaster
    | exact readsNumbers_superSourceArt
    | exact readsNumbers_superSourceBox
    | exact readsNumbers_setAudioMixerInput
    | exact fun _ h => nomatch h

/-- every entry but that of macro slots reads a body by its table -/
theorem decode_of_mem : ∀ e ∈ catalogue, e = macroEntry ∨ ∀ a v body,
    e.decode a v body = (do e.ofValues (← (← e.editions.resolve v).decode a body)) := by
  simp only [catalogue, List.forall_mem_cons]
  and_intros
  all_goals first
    | exact .inr fun _ _ _ => rfl
    | exact .inl trivial
    | exact fun _ h => nomatch h

/-- a number of a command that was read is a multiple anyway, or a table of the catalogue has read it -/
theorem numbers_of_decode {a : Arithmetic} {v : Version} {r : Record} {c : Command} (h : decode a v r = .ok c) :
    ∀ p ∈ c.numbers, p.1.IsMultiple p.2 ∨ ∃ e ∈ catalogue, ∃ edition ∈ e.editions, ∃ body values,
      edition.layout.decode a body = .ok values ∧ p ∈ edition.layout.numbers values := by
  rcases decode_eq_ok.mp h with ⟨hnone, rfl⟩ | ⟨e, he, hread⟩
  · have hnumbers : (unrecognized r).numbers = [] := congrArg (fun e => Option.elim e [] _) hnone
    intro p hp
    rw [hnumbers] at hp
    cases hp
  have hmem : e ∈ catalogue := List.mem_of_find?_eq_some he
  rcases decode_of_mem e hmem with rfl | hdecode
  · obtain ⟨m, -, rfl⟩ := map_eq_ok.mp hread
    intro p hp
    cases hp
  rw [hdecode] at hread
  obtain ⟨l, hl, hbody⟩ := bind_eq_ok.mp hread
  obtain ⟨values, hvalues, hc⟩ := bind_eq_ok.mp hbody
  obtain ⟨edition, hedition, rfl⟩ := Editions.mem_of_resolve hl
  intro p hp
  rcases readsNumbers_of_mem e hmem edition hedition values c hc p hp with hnumber | hmultiple
  · exact .inr ⟨e, hmem, edition, hedition, _, values, hvalues, hnumber⟩
  · exact .inl hmultiple

/-- **Commands that were read are settled.** -/
theorem isSettled_of_decode {v : Version} {r : Record} {c : Command} (h : decode .exact v r = .ok c) : c.IsSettled := by
  intro p hp
  rcases numbers_of_decode h p hp with hmultiple | ⟨e, he, edition, hedition, body, values, hvalues, hnumber⟩
  · exact hmultiple
  · exact Layout.isMultiple_of_decode (wellFormed_of_mem e he edition hedition) (isRegular_of_mem e he edition hedition)
      hvalues p hnumber

end Command

end VisionMixer
