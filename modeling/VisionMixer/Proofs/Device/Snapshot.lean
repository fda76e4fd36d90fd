/-
Snapshots survive.

A snapshot of a device is stored as a document, and what keeps the document may list its members in any order. Part by
part the tree and the profile are restored from every arrangement of their documents. A record is if its members are, so
each lemma on a record only has to say why: most members always are, numbers are if they are finite, and maps and optional
members are if what they hold is. `snapshots_survive` is about the whole tree and the whole profile.
-/
import VisionMixer.Proofs.Device.Arranged
import VisionMixer.Proofs.Device.Finite
import VisionMixer.Profile

namespace VisionMixer

/-! ### Single values -/

@[simp] theorem restored_bool (b : Bool) : Restored b := ⟨nofun, fun _ => rfl⟩

@[simp] theorem restored_text (s : String) : Restored s := ⟨nofun, fun _ => rfl⟩

theorem loadNat?_natCast {bound n : Nat} (h : n < bound) : Stored.loadNat? bound (.integer n) = some n := by
  rw [Stored.loadNat?, if_pos ⟨Int.natCast_nonneg n, Int.ofNat_lt.2 h⟩, Int.toNat_natCast]

@[simp] theorem restored_byte (n : UInt8) : Restored n where
  solid := nofun
  load ρ := by
    show (Stored.loadNat? UInt8.size (.integer n.toNat)).map UInt8.ofNat = some n
    rw [loadNat?_natCast n.toNat_lt, Option.map_some, UInt8.ofNat_toNat]

@[simp] theorem restored_word (n : UInt16) : Restored n where
  solid := nofun
  load ρ := by
    show (Stored.loadNat? UInt16.size (.integer n.toNat)).map UInt16.ofNat = some n
    rw [loadNat?_natCast n.toNat_lt, Option.map_some, UInt16.ofNat_toNat]

@[simp] theorem restored_dword (n : UInt32) : Restored n where
  solid := nofun
  load ρ := by
    show (Stored.loadNat? UInt32.size (.integer n.toNat)).map UInt32.ofNat = some n
    rw [loadNat?_natCast n.toNat_lt, Option.map_some, UInt32.ofNat_toNat]

theorem restored_number {x : Number} (h : x.isFinite) : Restored x := by
  have hstore : (store x : Document) = .number x := if_pos h
  refine ⟨?_, fun ρ => ?_⟩
  · rw [hstore]
    exact nofun
  · rw [hstore]
    rfl

/-- a value that is stored as the one it wraps -/
theorem Restored.wrapped {α β : Type} [Stored α] [Stored β] {a : α} {b : β} {wrap : β → α} (h : Restored b)
    (hstore : store a = (store b : Document)) (hload : ∀ d : Document, load? d = wrap <$> load? d) (ha : wrap b = a) :
    Restored a where
  solid := hstore ▸ h.solid
  load ρ := by
    rw [hload, hstore, h.load, ← ha]
    rfl

@[simp] theorem restored_version (v : Version) : Restored v :=
  .wrapped (restored_dword v.value) rfl (fun _ => rfl) rfl

@[simp] theorem restored_videoMode (m : VideoMode) : Restored m :=
  .wrapped (restored_byte m.code) rfl (fun _ => rfl) rfl

@[simp] theorem restored_tallyFlags (f : TallyFlags) : Restored f :=
  .wrapped (restored_byte f.bits) rfl (fun _ => rfl) rfl

@[simp] theorem restored_audioMixerKind (k : AudioMixerKind) : Restored k where
  solid := nofun
  load ρ := by
    show load? (Document.text k.name) = some k
    cases k <;> decide

/-! ### Records -/

theorem single?_arranged {α : Type} [Stored α] {a : α} {name : String} {ρ : Arrangement} (h : Restored a) :
    Document.single? α name ((Document.ofSingle name a).arranged ρ) = some a := by
  rw [Document.single?, Document.ofSingle, Document.record?_arranged ρ (List.nodup_singleton name) rfl]
  exact required_arranged h

@[simp] theorem restored_dipSettings (x : DipSettings) : Restored x :=
  .record rfl (fun _ => rfl) (by decide) rfl fun ρ => by simp

@[simp] theorem restored_topology (x : Topology) : Restored x :=
  .record rfl (fun _ => rfl) (by decide) rfl fun ρ => by simp

@[simp] theorem restored_mediaPool (x : MediaPool) : Restored x :=
  .record rfl (fun _ => rfl) (by decide) rfl fun ρ => by simp

@[simp] theorem restored_multiviewerConfig (x : MultiviewerConfig) : Restored x :=
  .record rfl (fun _ => rfl) (by decide) rfl fun ρ => by simp

@[simp] theorem restored_audioMixerConfig (x : AudioMixerConfig) : Restored x :=
  .record rfl (fun _ => rfl) (by decide) rfl fun ρ => by simp

@[simp] theorem restored_input (x : Input) : Restored x :=
  .record rfl (fun _ => rfl) (by decide) rfl fun ρ => by simp

@[simp] theorem restored_mediaSource (x : MediaSource) : Restored x :=
  .record rfl (fun _ => rfl) (by decide) rfl fun ρ => by simp

@[simp] theorem restored_macroSlot (x : MacroSlot) : Restored x :=
  .record rfl (fun _ => rfl) (by decide) rfl fun ρ => by simp

@[simp] theorem restored_macroPlayer (x : MacroPlayer) : Restored x :=
  .record rfl (fun _ => rfl) (by decide) rfl fun ρ => by simp

@[simp] theorem restored_fadeToBlack (x : FadeToBlack) : Restored x :=
  .record rfl (fun _ => rfl) (by decide) rfl fun ρ => by simp

@[simp] theorem restored_window (x : Window) : Restored x :=
  .record rfl (fun _ => rfl) (by decide) rfl fun ρ => by simp

/-- a map of values that are always restored -/
theorem Restored.map_of_all {κ α : Type} [Id κ] [Stored α] {m : IdMap κ α} (h : ∀ a : α, Restored a) : Restored m :=
  .map fun _ a _ => h a

@[simp] theorem restored_deviceInfo (x : DeviceInfo) : Restored x :=
  .record rfl (fun _ => rfl) (by decide) rfl fun ρ => by simp [Restored.map_of_all]

@[simp] theorem restored_multiviewer (x : Multiviewer) : Restored x :=
  .record rfl (fun _ => rfl) (by decide) rfl fun ρ => by simp [Restored.map_of_all]

@[simp] theorem restored_macroTree (x : MacroTree) : Restored x :=
  .record rfl (fun _ => rfl) (by decide) rfl fun ρ => by simp [Restored.map_of_all]

@[simp] theorem restored_tallyTree (x : TallyTree) : Restored x :=
  .record rfl (fun _ => rfl) (by decide) rfl fun ρ => by simp [Restored.map_of_all, Restored.list]

@[simp] theorem restored_profile (x : Profile) : Restored x :=
  .record rfl (fun _ => rfl) (by decide) rfl fun ρ => by simp [Restored.map_of_all, Restored.list]

/-! ### Records with numbers -/

theorem restored_maskRect {x : MaskRect} (h : x.IsFinite) : Restored x :=
  .record rfl (fun _ => rfl) (by decide) rfl fun ρ => by
    simp [restored_number, h.top, h.bottom, h.left, h.right]

theorem restored_lumaSettings {x : LumaSettings} (h : x.IsFinite) : Restored x :=
  .record rfl (fun _ => rfl) (by decide) rfl fun ρ => by
    simp [restored_number, h.clip, h.gain]

theorem restored_chromaSettings {x : ChromaSettings} (h : x.IsFinite) : Restored x :=
  .record rfl (fun _ => rfl) (by decide) rfl fun ρ => by
    simp [restored_number, h.hue, h.gain, h.ySuppress, h.lift]

theorem restored_borderSettings {x : BorderSettings} (h : x.IsFinite) : Restored x :=
  .record rfl (fun _ => rfl) (by decide) rfl fun ρ => by
    simp [restored_number, h.hue, h.saturation, h.luma]

theorem restored_boxSettings {x : BoxSettings} (h : x.IsFinite) : Restored x :=
  .record rfl (fun _ => rfl) (by decide) rfl fun ρ => by
    simp [restored_number, h.x, h.y, h.size, restored_maskRect h.crop]

theorem restored_wipeSettings {x : WipeSettings} (h : x.IsFinite) : Restored x :=
  .record rfl (fun _ => rfl) (by decide) rfl fun ρ => by
    simp [restored_number, h.borderWidth, h.symmetry, h.borderSoftness, h.xPosition, h.yPosition]

theorem restored_audioMaster {x : AudioMaster} (h : x.IsFinite) : Restored x :=
  .record rfl (fun _ => rfl) (by decide) rfl fun ρ => by
    simp [restored_number, h.gain, h.balance]

theorem restored_audioStrip {x : AudioStrip} (h : x.IsFinite) : Restored x :=
  .record rfl (fun _ => rfl) (by decide) rfl fun ρ => by
    simp [restored_number, h.gain, h.balance]

/-! ### Parts of the tree -/

theorem restored_transition {x : Transition} (h : x.IsFinite) : Restored x :=
  .record rfl (fun _ => rfl) (by decide) rfl fun ρ => by
    simp [single?_arranged, restored_number h.position, restored_wipeSettings h.wipe]

theorem restored_upstreamKeyer {x : UpstreamKeyer} (h : x.IsFinite) : Restored x :=
  .record rfl (fun _ => rfl) (by decide) rfl fun ρ => by
    simp [restored_maskRect h.mask, restored_lumaSettings h.luma, restored_chromaSettings h.chroma]

theorem restored_mixEffect {x : MixEffect} (h : x.IsFinite) : Restored x := by
  have hkeyers : Restored x.keyers := .map fun keyer k hk => restored_upstreamKeyer (h.keyers keyer k hk)
  exact .record rfl (fun _ => rfl) (by decide) rfl fun ρ => by
    simp [restored_transition h.transition, hkeyers]

theorem restored_downstreamKeyer {x : DownstreamKeyer} (h : x.IsFinite) : Restored x :=
  .record rfl (fun _ => rfl) (by decide) rfl fun ρ => by
    simp [restored_lumaSettings h.luma, restored_maskRect h.mask]

theorem restored_superSource {x : SuperSource} (h : x.IsFinite) : Restored x := by
  have hboxes : Restored x.boxes := .map fun box b hb => restored_boxSettings (h.boxes box b hb)
  exact .record rfl (fun _ => rfl) (by decide) rfl fun ρ => by
    simp [restored_lumaSettings h.luma, restored_borderSettings h.border, hboxes]

theorem restored_videoTree {x : VideoTree} (h : x.IsFinite) : Restored x := by
  have hblocks : Restored x.mixEffects := .map fun block b hb => restored_mixEffect (h.mixEffects block b hb)
  have hkeyers : Restored x.downstreamKeyers :=
    .map fun keyer k hk => restored_downstreamKeyer (h.downstreamKeyers keyer k hk)
  have hsources : Restored x.superSources := .map fun index s hs => restored_superSource (h.superSources index s hs)
  exact .record rfl (fun _ => rfl) (by decide) rfl fun ρ => by
    simp [hblocks, hkeyers, hsources]

theorem restored_audioTree {x : AudioTree} (h : x.IsFinite) : Restored x := by
  have hmaster : ∀ m ∈ x.master, Restored m := fun m hm => restored_audioMaster (h.master m hm)
  have hinputs : Restored x.inputs := .map fun index s hs => restored_audioStrip (h.inputs index s hs)
  exact .record rfl (fun _ => rfl) (by decide) rfl fun ρ => by
    simp [ifPresent_arranged hmaster, hinputs]

theorem restored_deviceTree {x : DeviceTree} (h : x.IsFinite) : Restored x :=
  .record rfl (fun _ => rfl) (by decide) rfl fun ρ => by
    simp [single?_arranged, Restored.map_of_all, restored_videoTree h.video, restored_audioTree h.audio]

/-! ### Snapshots -/

/-- values that come back from one document are one value -/
theorem Restored.eq_of_arranged {α : Type} [Stored α] {a b : α} {ρ σ : Arrangement} (ha : Restored a) (hb : Restored b)
    (h : (store a : Document).arranged ρ = (store b).arranged σ) : a = b := by
  have hload := ha.load ρ
  rw [h, hb.load σ] at hload
  exact (Option.some.inj hload).symm

/-- **Snapshots survive.** A tree with finite numbers, as every tree made of commands that were read is, and any profile
come back from their documents, in whatever order the members stand; so documents that are alike are of one snapshot. The
members of a map have the decimal names of its ids, all different, and each name is read as its id. -/
theorem snapshots_survive :
    (∀ (t : DeviceTree) (ρ : Arrangement), t.IsFinite → load? ((store t : Document).arranged ρ) = some t) ∧
      (∀ (p : Profile) (ρ : Arrangement), load? ((store p : Document).arranged ρ) = some p) ∧
      (∀ acts, (∀ c, .apply c ∈ acts → ∃ a v r, Command.decode a v r = .ok c) → (DeviceTree.run acts).IsFinite) ∧
      (∀ (t u : DeviceTree) (ρ σ : Arrangement), t.IsFinite → u.IsFinite →
        (store t : Document).arranged ρ = (store u).arranged σ → t = u) ∧
      (∀ (p q : Profile) (ρ σ : Arrangement), (store p : Document).arranged ρ = (store q).arranged σ → p = q) ∧
      ∀ (κ α : Type) [Id κ] [Stored α] (m : IdMap κ α), ∃ members, (store m : Document) = .object members ∧
        members.map (·.1) = m.keys.map (fun k => toString (Id.toNat k)) ∧ (members.map (·.1)).Nodup ∧
        ∀ k : κ, Stored.idOfName? (toString (Id.toNat k)) = some k := by
  refine ⟨fun t ρ ht => (restored_deviceTree ht).load ρ, fun p ρ => (restored_profile p).load ρ,
    DeviceTree.isFinite_run, fun t u ρ σ ht hu => (restored_deviceTree ht).eq_of_arranged (restored_deviceTree hu),
    fun p q ρ σ => (restored_profile p).eq_of_arranged (restored_profile q), ?_⟩
  intro κ α _ _ m
  obtain ⟨members, hstore, hnames, hnodup⟩ := exists_members_store m
  refine ⟨members, hstore, hnames, hnodup, fun k => ?_⟩
  rw [Nat.toString_eq_repr, Nat.repr_eq_ofList_toDigits]
  exact idOfName?_nameOfId k

/-- a luma key on the last of eleven keyers, with every object the other way round, so that keyer 10 comes first; reported
again it leaves the same document, and so the same tree -/
theorem snapshots_survive_reversed :
    let reversed : Arrangement := ⟨List.reverse, fun _ => List.reverse_perm _⟩
    let keyers := Command.mixEffectConfig ⟨0, 11⟩
    let luma := Command.keyerLuma ⟨0, 10, ⟨true, 50, 25, false⟩⟩
    let t := DeviceTree.run [.apply keyers, .apply luma]
    let again := DeviceTree.run [.apply keyers, .apply luma, .apply luma]
    let p := Profile.ofBurst [keyers, luma]
    t.IsFinite ∧ load? ((store t : Document).arranged reversed) = some t ∧ t = again ∧
      load? ((store p : Document).arranged reversed) = some p := by
  intro reversed keyers luma t again p
  obtain ⟨htree, hprofile, hread, hsame, -⟩ := snapshots_survive
  have hkeyers : Command.decode .binary64 .v7_2 ⟨.ofChars '_' 'M' 'e' 'C', [0, 11, 0, 0]⟩ = .ok keyers := rfl
  have hluma : Command.decode .binary64 .v7_2 ⟨.ofChars 'K' 'e' 'L' 'm', [0, 10, 1, 0, 1, 244, 0, 250, 0, 0, 0, 0]⟩ =
      .ok luma := ok_of_toOption (by decide +kernel)
  have hfinite : ∀ acts : List DeviceTree.Act, (∀ a ∈ acts, a = .apply keyers ∨ a = .apply luma) →
      (DeviceTree.run acts).IsFinite := by
    intro acts hacts
    refine hread acts fun c hc => ?_
    rcases hacts _ hc with h | h <;> cases h
    · exact ⟨_, _, _, hkeyers⟩
    · exact ⟨_, _, _, hluma⟩
  have ht : t.IsFinite := hfinite _ (by simp)
  exact ⟨ht, htree t reversed ht, hsame t again reversed reversed ht (hfinite _ (by simp)) rfl, hprofile p reversed⟩

end VisionMixer
