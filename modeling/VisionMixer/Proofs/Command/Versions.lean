/-
Bodies across firmware 8.0.

The tables that changed with 8.0 keep the fields of their old ones in their places and add new ones behind them, the super
sources apart. So a body that a newer version reads has, by an older table, the same values without the added ones
(`Layout.decode_of_extends`), and an older version makes the same command of them without what came with 8.0
(`readsOlder_of_mem`). The other way round, where a body has grown, one by the old table ends before the fields that were
added, so a newer version refuses it (`malformed_of_encode`).
-/
import VisionMixer.Proofs.Command.Grammar

namespace VisionMixer

variable {a : Arithmetic} {body : Bytes} {fields added : List Field} {l old new : Layout}
  {values kept more : FieldValues} {names : List String} {name : String}

/-! ### Tables with fields behind those of another -/

/-- the fields of a longer table are read one after another -/
theorem Wire.decodeFields_of_extended (h : Wire.decodeFields a body (fields ++ added) = .ok values) :
    ∃ kept more, Wire.decodeFields a body fields = .ok kept ∧ Wire.decodeFields a body added = .ok more
      ∧ kept ++ more = values := by
  induction fields generalizing values with
  | nil => exact ⟨[], values, rfl, h, rfl⟩
  | cons f fields ih =>
    rw [List.cons_append, decodeFields] at h
    obtain ⟨first, hfirst, hrest⟩ := bind_eq_ok.mp h
    obtain ⟨rest, hdecode, hvalues⟩ := bind_eq_ok.mp hrest
    cases hvalues
    obtain ⟨kept, more, hkept, hmore, rfl⟩ := ih hdecode
    refine ⟨first ++ kept, more, ?_, hmore, List.append_assoc _ _ _⟩
    rw [decodeFields, hfirst, ok_bind, hkept]
    rfl

namespace FieldValues

/-- the values of a body, but for some names, which have none -/
structure Without (names : List String) (kept values : FieldValues) : Prop where
  same : ∀ name ∉ names, kept.get? name = values.get? name
  missing : ∀ name ∈ names, kept.get? name = none

namespace Without

variable (h : Without names kept values)

include h

theorem require (hname : name ∉ names) : kept.require name = values.require name := by
  rw [FieldValues.require, FieldValues.require, h.same name hname]

theorem getU8 (hname : name ∉ names) : kept.getU8 name = values.getU8 name := by
  rw [FieldValues.getU8, FieldValues.getU8, getWidth, getWidth, getInt, getInt, h.require hname]

theorem getU16 (hname : name ∉ names) : kept.getU16 name = values.getU16 name := by
  rw [FieldValues.getU16, FieldValues.getU16, getWidth, getWidth, getInt, getInt, h.require hname]

theorem getBool (hname : name ∉ names) : kept.getBool name = values.getBool name := by
  rw [FieldValues.getBool, FieldValues.getBool, h.require hname]

theorem getText (hname : name ∉ names) : kept.getText name = values.getText name := by
  rw [FieldValues.getText, FieldValues.getText, h.require hname]

theorem getU8? (hname : name ∈ names) : kept.getU8? name = .ok none := by
  rw [FieldValues.getU8?, ifPresent, h.missing name hname]

theorem getBool? (hname : name ∈ names) : kept.getBool? name = .ok none := by
  rw [FieldValues.getBool?, ifPresent, h.missing name hname]

end Without

end FieldValues

/-- **An older table** reads what a longer one reads, without the values of the fields that were added. -/
theorem Layout.decode_of_extends (hfields : new.fields = old.fields ++ added)
    (hnames : (new.fields.map FieldOf.name).Nodup) (h : new.decode a body = .ok values) :
    ∃ kept, old.decode a body = .ok kept ∧ FieldValues.Without (added.map FieldOf.name) kept values := by
  rw [decode, hfields] at h
  obtain ⟨kept, more, hkept, hmore, rfl⟩ := Wire.decodeFields_of_extended h
  rw [hfields, List.map_append, List.nodup_append] at hnames
  -- a value stands under the name of a field of the part of the table that it was read by
  have hold : kept.CarriedBy old := (Wire.names_of_decodeFields hkept).2
  have hadded : more.CarriedBy ⟨0, added⟩ := (Wire.names_of_decodeFields hmore).2
  refine ⟨kept, hkept, fun name hname => ?_, fun name hname => ?_⟩
  · rw [FieldValues.get?_append, hadded.missing name hname, Option.or_none]
  · exact hold.missing name fun hmem => hnames.2.2 name hmem name hname rfl

/-! ### Commands without what came with 8.0 -/

def Product.before8_0 (c : Product) : Product := { c with model := none }

def Topology.before8_0 (c : Topology) : Topology :=
  { c with multiviewers := none, talkbackChannels := none, cameraControl := none, advancedChromaKeyers := none }

def MultiviewerConfig.before8_0 (c : MultiviewerConfig) : MultiviewerConfig :=
  { c with canRouteInputs := none, canSwapPreviewProgram := none, canToggleSafeArea := none }

def MultiviewerWindow.before8_0 (c : MultiviewerWindow) : MultiviewerWindow := { c with supportsSafeArea := none }

/-- the command without the values that came with 8.0 -/
def Command.before8_0 : Command → Command
  | .product c => .product c.before8_0
  | .topology c => .topology c.before8_0
  | .multiviewerConfig c => .multiviewerConfig c.before8_0
  | .multiviewerWindow c => .multiviewerWindow c.before8_0
  | c => c

/-- the bodies that took more bytes from 8.0 on -/
def Command.isLonger : Command → Bool
  | .product _ | .topology _ | .multiviewerConfig _ => true
  | _ => false

theorem Product.ofValues_kept {c : Product} (h : FieldValues.Without ["model"] kept values)
    (hread : ofValues values = .ok c) : ofValues kept = .ok c.before8_0 := by
  simp only [ofValues, bind_eq_ok, pure_eq_ok] at hread
  obtain ⟨name, hname, _, -, rfl⟩ := hread
  simp (disch := decide) only [ofValues, h.getText, h.getU8?, hname]
  rfl

theorem Topology.ofValues_kept {c : Topology}
    (h : FieldValues.Without ["multiviewers", "talkback_channels", "camera_control", "advanced_chroma_keyers"] kept values)
    (hread : ofValues values = .ok c) : ofValues kept = .ok c.before8_0 := by
  simp only [ofValues, bind_eq_ok, pure_eq_ok] at hread
  obtain ⟨_, hmixEffects, _, hsources, _, hdownstreamKeyers, _, hauxiliaries, _, hmixMinusOutputs, _, hmediaPlayers,
    _, hserialPorts, _, hhyperdecks, _, hdves, _, hstingers, _, hsuperSources, _, -, _, -, _, -, _, -, rfl⟩ := hread
  simp (disch := decide) only [ofValues, h.getU8, h.getU8?, h.getBool?, hmixEffects, hsources, hdownstreamKeyers,
    hauxiliaries, hmixMinusOutputs, hmediaPlayers, hserialPorts, hhyperdecks, hdves, hstingers, hsuperSources]
  rfl

theorem MultiviewerConfig.ofValues_kept {c : MultiviewerConfig}
    (h : FieldValues.Without ["can_route_inputs", "can_swap_preview_program", "can_toggle_safe_area"] kept values)
    (hread : ofValues values = .ok c) : ofValues kept = .ok c.before8_0 := by
  simp only [ofValues, bind_eq_ok, pure_eq_ok] at hread
  obtain ⟨_, hcount, _, hwindows, _, -, _, -, _, -, rfl⟩ := hread
  simp (disch := decide) only [ofValues, h.getU8, h.getBool?, hcount, hwindows]
  rfl

theorem MultiviewerWindow.ofValues_kept {c : MultiviewerWindow}
    (h : FieldValues.Without ["supports_safe_area"] kept values) (hread : ofValues values = .ok c) :
    ofValues kept = .ok c.before8_0 := by
  simp only [ofValues, bind_eq_ok, pure_eq_ok] at hread
  obtain ⟨_, hmultiviewer, _, hwindow, _, hsource, _, hmeter, _, -, rfl⟩ := hread
  simp (disch := decide) only [ofValues, h.getU8, h.getU16, h.getBool, h.getBool?, hmultiviewer, hwindow, hsource, hmeter]
  rfl

namespace Command

variable {α : Type} {tag : Tag} {command : α → Command} {read : FieldValues → Except Error α} {v w : Version}
  {e : Entry} {r : Record} {c : Command}

/-! ### The catalogue -/

/-- an older version reads what a newer one reads, without what came with 8.0 -/
def Entry.ReadsOlder (e : Entry) : Prop :=
  ∀ a v w body c, .v8_0 ≤ v → ¬ .v8_0 ≤ w → e.decode a v body = .ok c → e.decode a w body = .ok c.before8_0

theorem Entry.ReadsOlder.of_only (hsame : ∀ x, (command x).before8_0 = command x) :
    (Entry.tabular tag (.only l) command read).ReadsOlder := by
  intro a v w body c _ _ h
  simp only [tabular, Editions.resolve_only, ok_bind, bind_eq_ok, map_eq_ok] at h ⊢
  obtain ⟨values, hvalues, x, hread, rfl⟩ := h
  exact ⟨values, hvalues, x, hread, (hsame x).symm⟩

theorem Entry.ReadsOlder.of_changed (added : List Field) (hfields : new.fields = old.fields ++ added)
    (hnames : (new.fields.map FieldOf.name).Nodup)
    (hkept : ∀ kept values x, FieldValues.Without (added.map FieldOf.name) kept values → read values = .ok x →
      ∃ y, read kept = .ok y ∧ command y = (command x).before8_0) :
    (Entry.tabular tag (.changed old new) command read).ReadsOlder := by
  intro a v w body c hv hw h
  simp only [tabular, Editions.resolve_changed, if_pos hv, if_neg hw, ok_bind, bind_eq_ok, map_eq_ok] at h ⊢
  obtain ⟨values, hvalues, x, hread, rfl⟩ := h
  obtain ⟨kept, hdecode, hwithout⟩ := Layout.decode_of_extends hfields hnames hvalues
  exact ⟨kept, hdecode, hkept kept values x hwithout hread⟩

theorem readsOlder_product :
    (Entry.tabular (.ofChars '_' 'p' 'i' 'n') Product.editions product Product.ofValues).ReadsOlder :=
  .of_changed [.u8 "model" 44] rfl (by decide) fun _ _ c h hread =>
    ⟨c.before8_0, Product.ofValues_kept h hread, rfl⟩

theorem readsOlder_topology :
    (Entry.tabular (.ofChars '_' 't' 'o' 'p') Topology.editions topology Topology.ofValues).ReadsOlder :=
  .of_changed _ rfl (by decide) fun _ _ c h hread => ⟨c.before8_0, Topology.ofValues_kept h hread, rfl⟩

theorem readsOlder_multiviewerConfig :
    (Entry.tabular (.ofChars '_' 'M' 'v' 'C') MultiviewerConfig.editions multiviewerConfig
      MultiviewerConfig.ofValues).ReadsOlder :=
  .of_changed [.bool "can_route_inputs" 2, .bool "can_swap_preview_program" 4, .bool "can_toggle_safe_area" 5] rfl
    (by decide) fun _ _ c h hread => ⟨c.before8_0, MultiviewerConfig.ofValues_kept h hread, rfl⟩

theorem readsOlder_multiviewerWindow :
    (Entry.tabular (.ofChars 'M' 'v' 'I' 'n') MultiviewerWindow.editions multiviewerWindow
      MultiviewerWindow.ofValues).ReadsOlder :=
  .of_changed _ rfl (by decide) fun _ _ c h hread => ⟨c.before8_0, MultiviewerWindow.ofValues_kept h hread, rfl⟩

/-- a macro slot reads the same at all versions -/
theorem readsOlder_macroEntry : macroEntry.ReadsOlder := by
  intro a v w body c _ _ h
  obtain ⟨m, hm, rfl⟩ := map_eq_ok.mp h
  exact map_eq_ok.mpr ⟨m, hm, rfl⟩

theorem readsOlder_of_mem : ∀ e ∈ catalogue,
    e.tag = .ofChars 'S' 'S' 'r' 'c' ∨ e.tag = .ofChars 'S' 'S' 'B' 'P' ∨ e.ReadsOlder := by
  simp only [catalogue, List.forall_mem_cons]
  and_intros
  all_goals first
    | with_reducible exact .inr (.inr readsOlder_product)
    | with_reducible exact .inr (.inr readsOlder_topology)
    | with_reducible exact .inr (.inr readsOlder_multiviewerConfig)
    | with_reducible exact .inr (.inr readsOlder_multiviewerWindow)
    | with_reducible exact .inr (.inr readsOlder_macroEntry)
    | exact .inl rfl
    | exact .inr (.inl rfl)
    | exact .inr (.inr (.of_only fun _ => rfl))
    | exact List.forall_mem_nil _

/-- a body by an old table is malformed by one that asks for more than its bytes -/
theorem malformed_of_encode (hc : c.isTabular) (he : entryOf? c.tag = some e) (heditions : e.editions = .changed old new)
    (hrequired : ∀ f ∈ old.fields, f.optional = false) (hplain : ∀ f ∈ old.fields, f.wire.isCounted = false)
    (hlonger : old.size < new.minSize) (hv : .v8_0 ≤ v) (hw : ¬ .v8_0 ≤ w) (h : c.encode a w = .ok r) :
    ∃ fault, decode a v r = .error (.framing (.inCommand r.tag.text fault)) := by
  obtain ⟨values, l, body, -, hl, hbody, rfl⟩ := (encode_eq_ok hc).mp h
  rw [table, he] at hl
  obtain rfl : old = l := by
    simpa only [Option.elim, heditions, Editions.resolve_changed, if_neg hw, Except.ok.injEq] using hl
  have hnew : e.editions.resolve v = .ok new := by rw [heditions, Editions.resolve_changed, if_pos hv]
  exact malformed_of_short he hnew (Layout.length_of_encode hrequired hplain hbody ▸ hlonger)

/-- **Bodies across versions.** What a version from 8.0 on reads, a version before 8.0 reads without the values that came
with 8.0, on every record but those of the super sources, whose fields have moved. And a product, a topology or a
multiviewer configuration that was written before 8.0 is malformed from 8.0 on. -/
theorem decode_across_versions (a : Arithmetic) (v w : Version) (hv : .v8_0 ≤ v) (hw : w < .v8_0) :
    (∀ r c, r.tag ≠ .ofChars 'S' 'S' 'r' 'c' → r.tag ≠ .ofChars 'S' 'S' 'B' 'P' → decode a v r = .ok c →
      decode a w r = .ok c.before8_0) ∧
    ∀ (c : Command) (r : Record), c.isLonger → c.encode a w = .ok r →
      ∃ fault, decode a v r = .error (.framing (.inCommand r.tag.text fault)) := by
  have hold : ¬ .v8_0 ≤ w := UInt32.not_le.mpr hw
  constructor
  · intro r c hart hbox h
    rcases decode_eq_ok.mp h with ⟨hnone, rfl⟩ | ⟨e, he, hread⟩
    · exact decode_eq_ok.mpr (.inl ⟨hnone, rfl⟩)
    have htag := tag_of_entryOf? he
    have holder : e.ReadsOlder := by
      have hmem : e ∈ catalogue := List.mem_of_find?_eq_some he
      exact ((readsOlder_of_mem e hmem).resolve_left (htag ▸ hart)).resolve_left (htag ▸ hbox)
    exact decode_eq_ok.mpr (.inr ⟨e, he, holder a v w r.body c hv hold hread⟩)
  · intro c r hlonger h
    cases c with
    | product => exact malformed_of_encode rfl rfl rfl (by decide) (by decide) (by decide) hv hold h
    | topology => exact malformed_of_encode rfl rfl rfl (by decide) (by decide) (by decide) hv hold h
    | multiviewerConfig => exact malformed_of_encode rfl rfl rfl (by decide) (by decide) (by decide) hv hold h
    | _ => exact nomatch hlonger

/-- two multiviewers that can route inputs, by either table -/
theorem decode_across_versions_multiviewers :
    decode .exact .v7_2 ⟨.ofChars '_' 'M' 'v' 'C', [2, 10, 1, 0, 1, 0, 0, 0]⟩ =
        .ok (.multiviewerConfig ⟨2, 10, none, none, none⟩) ∧
      ∃ fault, decode .exact .v8_1_1 ⟨.ofChars '_' 'M' 'v' 'C', [2, 10, 0, 0]⟩ = .error (.framing fault) := by
  obtain ⟨hread, hrefused⟩ := decode_across_versions .exact .v8_1_1 .v7_2 (by decide) (by decide)
  refine ⟨hread _ (.multiviewerConfig ⟨2, 10, some true, some true, some false⟩) (by decide) (by decide) rfl, ?_⟩
  obtain ⟨fault, hfault⟩ := hrefused (.multiviewerConfig ⟨2, 10, none, none, none⟩) _ rfl rfl
  exact ⟨_, hfault⟩

end Command

end VisionMixer
