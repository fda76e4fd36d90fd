/-
Every command is what its named values say.

For each kind of body `ofValues_toValues` reads a command back from the values it was taken apart into. Most follow by
looking up one name after another. The others need a fact of their own: the halves of a version make the version, masks
say which settings are present, verbs have distinct codes, and a super source before 8.0 is left out only if it is 0.
-/
import VisionMixer.Command.Basic
import VisionMixer.Proofs.Field.Values

namespace VisionMixer

/-! ### The device describes itself -/

/-- a version is its upper half above its lower half -/
theorem Version.ofParts_major_minor (v : Version) : ofParts v.major v.minor = v := by
  obtain ⟨value⟩ := v
  refine congrArg Version.mk (UInt32.toNat_inj.mp ?_)
  have hbound : value.toNat < 65536 * 65536 := value.toNat_lt
  have hupper : (value.toNat >>> 16 % 65536) <<< 16 % 4294967296 = (value.toNat / 65536) <<< 16 := by
    rw [Nat.shiftRight_eq_div_pow, Nat.shiftLeft_eq, Nat.shiftLeft_eq]
    omega
  calc (ofParts (major ⟨value⟩) (minor ⟨value⟩)).value.toNat
      = (value.toNat >>> 16 % 65536) <<< 16 % 4294967296 ||| value.toNat % 65536 := by
        simp [ofParts, major, minor]
    _ = (value.toNat / 65536) <<< 16 + value.toNat % 65536 := by
        rw [hupper, Nat.shiftLeft_add_eq_or_of_lt (Nat.mod_lt _ (by norm_num))]
    _ = value.toNat := by
        rw [Nat.shiftLeft_eq]
        omega

@[simp] theorem Version.ofValues_toValues (v : Version) : ofValues v.toValues = .ok v := by
  simp [ofValues, toValues, ofParts_major_minor]

@[simp] theorem Product.ofValues_toValues (c : Product) : ofValues c.toValues = .ok c := by
  obtain ⟨name, model⟩ := c
  cases model <;> simp [ofValues, toValues]

@[simp] theorem Topology.ofValues_toValues (c : Topology) : ofValues c.toValues = .ok c := by
  obtain ⟨_, _, _, _, _, _, _, _, _, _, _, multiviewers, talkbackChannels, cameraControl, advancedChromaKeyers⟩ := c
  cases multiviewers <;> cases talkbackChannels <;> cases cameraControl <;> cases advancedChromaKeyers <;>
    simp [ofValues, toValues]

@[simp] theorem MixEffectConfig.ofValues_toValues (c : MixEffectConfig) : ofValues c.toValues = .ok c := by
  simp [ofValues, toValues]

@[simp] theorem MediaPool.ofValues_toValues (c : MediaPool) : ofValues c.toValues = .ok c := by
  simp [ofValues, toValues]

@[simp] theorem MultiviewerConfig.ofValues_toValues (c : MultiviewerConfig) : ofValues c.toValues = .ok c := by
  obtain ⟨_, _, canRouteInputs, canSwapPreviewProgram, canToggleSafeArea⟩ := c
  cases canRouteInputs <;> cases canSwapPreviewProgram <;> cases canToggleSafeArea <;> simp [ofValues, toValues]

@[simp] theorem AudioMixerConfig.ofValues_toValues (c : AudioMixerConfig) : ofValues c.toValues = .ok c := by
  simp [ofValues, toValues]

@[simp] theorem InputProperties.ofValues_toValues (c : InputProperties) : ofValues c.toValues = .ok c := by
  simp [ofValues, toValues]

@[simp] theorem VideoMode.ofValues_toValues (m : VideoMode) : ofValues m.toValues = .ok m := by
  simp [ofValues, toValues]

/-! ### Mix-effect blocks -/

@[simp] theorem BusSource.ofValues_toValues (c : BusSource) : ofValues c.toValues = .ok c := by
  simp [ofValues, toValues]

@[simp] theorem PreviewSource.ofValues_toValues (c : PreviewSource) : ofValues c.toValues = .ok c := by
  obtain ⟨_, _, previewLive⟩ := c
  cases previewLive <;> simp [ofValues, toValues]

@[simp] theorem TransitionProperties.ofValues_toValues (c : TransitionProperties) : ofValues c.toValues = .ok c := by
  simp [ofValues, toValues]

@[simp] theorem TransitionPosition.ofValues_toValues (c : TransitionPosition) : ofValues c.toValues = .ok c := by
  simp [ofValues, toValues]

@[simp] theorem BlockRate.ofValues_toValues (c : BlockRate) : ofValues c.toValues = .ok c := by
  simp [ofValues, toValues]

@[simp] theorem TransitionDip.ofValues_toValues (c : TransitionDip) : ofValues c.toValues = .ok c := by
  simp [ofValues, toValues]

@[simp] theorem TransitionWipe.ofValues_toValues (c : TransitionWipe) : ofValues c.toValues = .ok c := by
  simp [ofValues, toValues]

@[simp] theorem FadeToBlackState.ofValues_toValues (c : FadeToBlackState) : ofValues c.toValues = .ok c := by
  simp [ofValues, toValues]

/-! ### Keyers -/

@[simp] theorem KeyerOnAir.ofValues_toValues (c : KeyerOnAir) : ofValues c.toValues = .ok c := by
  simp [ofValues, toValues]

@[simp] theorem KeyerBase.ofValues_toValues (c : KeyerBase) : ofValues c.toValues = .ok c := by
  simp [ofValues, toValues, MaskRect.ofValues, MaskRect.toValues]

@[simp] theorem KeyerLuma.ofValues_toValues (c : KeyerLuma) : ofValues c.toValues = .ok c := by
  simp [ofValues, toValues, LumaSettings.ofValues, LumaSettings.toValues]

@[simp] theorem KeyerChroma.ofValues_toValues (c : KeyerChroma) : ofValues c.toValues = .ok c := by
  simp [ofValues, toValues]

@[simp] theorem DskSources.ofValues_toValues (c : DskSources) : ofValues c.toValues = .ok c := by
  simp [ofValues, toValues]

@[simp] theorem DskProperties.ofValues_toValues (c : DskProperties) : ofValues c.toValues = .ok c := by
  simp [ofValues, toValues, LumaSettings.ofValues, LumaSettings.toValues, MaskRect.ofValues, MaskRect.toValues]

@[simp] theorem DskState.ofValues_toValues (c : DskState) : ofValues c.toValues = .ok c := by
  simp [ofValues, toValues]

@[simp] theorem SuperSourceArt.ofValues_toValues (c : SuperSourceArt) : ofValues c.toValues = .ok c := by
  simp [ofValues, toValues, LumaSettings.ofValues, LumaSettings.toValues]

/-- a body without the number is on super source 0 -/
theorem SuperSourceArt.ofValues_without (c : SuperSourceArt) (h : c.superSource = 0) :
    ofValues (c.toValues.without "super_source") = .ok c := by
  obtain ⟨superSource, _, _, _, _, _⟩ := c
  cases h
  simp [ofValues, toValues, LumaSettings.ofValues, LumaSettings.toValues, FieldValues.without]

@[simp] theorem SuperSourceBox.ofValues_toValues (c : SuperSourceBox) : ofValues c.toValues = .ok c := by
  simp [ofValues, toValues]

/-- a body without the number is on super source 0 -/
theorem SuperSourceBox.ofValues_without (c : SuperSourceBox) (h : c.superSource = 0) :
    ofValues (c.toValues.without "super_source") = .ok c := by
  obtain ⟨superSource, _, _⟩ := c
  cases h
  simp [ofValues, toValues, FieldValues.without]

/-! ### Facilities -/

@[simp] theorem AudioMixerInput.ofValues_toValues (c : AudioMixerInput) : ofValues c.toValues = .ok c := by
  simp [ofValues, toValues]

@[simp] theorem AudioMaster.ofValues_toValues (c : AudioMaster) : ofValues c.toValues = .ok c := by
  simp [ofValues, toValues]

@[simp] theorem MediaPlayerSource.ofValues_toValues (c : MediaPlayerSource) : ofValues c.toValues = .ok c := by
  simp [ofValues, toValues]

@[simp] theorem MultiviewerProperties.ofValues_toValues (c : MultiviewerProperties) : ofValues c.toValues = .ok c := by
  simp [ofValues, toValues]

@[simp] theorem MultiviewerWindow.ofValues_toValues (c : MultiviewerWindow) : ofValues c.toValues = .ok c := by
  obtain ⟨_, _, _, _, supportsSafeArea⟩ := c
  cases supportsSafeArea <;> simp [ofValues, toValues]

@[simp] theorem TallyByIndex.ofValues_toValues (c : TallyByIndex) : ofValues c.toValues = .ok c := by
  have hflags : (c.flags.map fun t => [("flags", Value.byte t.bits)]).mapM (fun entry : FieldValues =>
      (do return ⟨← entry.getU8 "flags"⟩ : Except Error TallyFlags)) = .ok c.flags := by
    rw [mapM_eq_ok, List.forall₂_map_left_iff, List.forall₂_same]
    intro t _
    simp
  rw [ofValues, toValues, FieldValues.getRecords_cons_self, ok_bind, hflags]
  rfl

@[simp] theorem TallyBySource.ofValues_toValues (c : TallyBySource) : ofValues c.toValues = .ok c := by
  have hentries : (c.entries.map fun e => [("source", Value.word e.1), ("flags", Value.byte e.2.bits)]).mapM
      (fun entry : FieldValues =>
        (do return (← entry.getU16 "source", ⟨← entry.getU8 "flags"⟩) : Except Error (UInt16 × TallyFlags))) =
      .ok c.entries := by
    rw [mapM_eq_ok, List.forall₂_map_left_iff, List.forall₂_same]
    intro t _
    simp
  rw [ofValues, toValues, FieldValues.getRecords_cons_self, ok_bind, hentries]
  rfl

@[simp] theorem MacroRunStatus.ofValues_toValues (c : MacroRunStatus) : ofValues c.toValues = .ok c := by
  obtain ⟨isRunning, isWaiting, _, _⟩ := c
  cases isRunning <;> cases isWaiting <;> simp +decide [ofValues, toValues, status]

/-! ### Requests -/

@[simp] theorem BlockOnly.ofValues_toValues (mixEffect : UInt8) : ofValues (toValues mixEffect) = .ok mixEffect := by
  simp [ofValues, toValues]

@[simp] theorem SetDskOnAir.ofValues_toValues (c : SetDskOnAir) : ofValues c.toValues = .ok c := by
  simp [ofValues, toValues]

@[simp] theorem SetDskFill.ofValues_toValues (c : SetDskFill) : ofValues c.toValues = .ok c := by
  simp [ofValues, toValues]

@[simp] theorem SetAudioMixerInput.ofValues_toValues (c : SetAudioMixerInput) : ofValues c.toValues = .ok c := by
  obtain ⟨_, mixOption, gain, balance⟩ := c
  cases mixOption <;> cases gain <;> cases balance <;> simp +decide [ofValues, toValues, mask]

@[simp] theorem SetMultiviewerProperties.ofValues_toValues (c : SetMultiviewerProperties) :
    ofValues c.toValues = .ok c := by
  obtain ⟨_, layout, programPreviewSwapped⟩ := c
  cases layout <;> cases programPreviewSwapped <;> simp +decide [ofValues, toValues, mask]

@[simp] theorem MacroAction.ofValues_toValues (c : MacroAction) : ofValues c.toValues = .ok c := by
  obtain ⟨_, verb⟩ := c
  cases verb <;> simp [ofValues, toValues, MacroVerb.code, MacroVerb.ofCode, MacroVerb.all]

end VisionMixer
