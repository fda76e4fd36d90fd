/-
Commands on ids without an entry.

`target?` is the entry that a command is about. A report is accepted exactly if that entry is there (`accepts_iff`), with
one exception: the report on a window asks for its multiviewer only, and makes the window. `entries_kept_iff`: a command
that is not part of the description leaves all ids as they are and is dropped when its own is missing, unless it is such
a report on a new window.
-/
import VisionMixer.Proofs.Device.Entries

namespace VisionMixer

open DeviceTree (EntryId)

namespace Command

/-- the command describes the device, or an entry as a whole -/
def isStructural : Command → Bool
  | .version _ | .product _ | .topology _ | .mixEffectConfig _ | .mediaPool _ | .multiviewerConfig _
  | .superSourceConfig _ | .audioMixerConfig _ | .macroPool _ | .inputProperties _ | .audioMixerInput _
  | .macroProperties _ => true
  | _ => false

/-- the command asks something of the device -/
def isRequest : Command → Bool
  | .setProgramInput _ | .setPreviewInput _ | .cut _ | .auto _ | .setKeyerOnAir _ | .setDskOnAir _ | .setDskFill _
  | .setVideoMode _ | .setAudioMixerInput _ | .setMultiviewerProperties _ | .macroAction _ => true
  | _ => false

/-- the entry that a report or a request is about; what it says of it may name other ids, as sources do -/
def target? : Command → Option EntryId
  | .programInput c | .setProgramInput c | .setPreviewInput c => some (.mixEffect c.mixEffect)
  | .previewInput c => some (.mixEffect c.mixEffect)
  | .transitionProperties c => some (.mixEffect c.mixEffect)
  | .transitionPosition c => some (.mixEffect c.mixEffect)
  | .transitionMix c | .fadeToBlackRate c => some (.mixEffect c.mixEffect)
  | .transitionDip c => some (.mixEffect c.mixEffect)
  | .transitionWipe c => some (.mixEffect c.mixEffect)
  | .fadeToBlackState c => some (.mixEffect c.mixEffect)
  | .cut block | .auto block => some (.mixEffect block)
  | .keyerOnAir c | .setKeyerOnAir c => some (.upstreamKeyer c.mixEffect c.keyer)
  | .keyerBase c => some (.upstreamKeyer c.mixEffect c.keyer)
  | .keyerLuma c => some (.upstreamKeyer c.mixEffect c.keyer)
  | .keyerChroma c => some (.upstreamKeyer c.mixEffect c.keyer)
  | .dskSources c => some (.downstreamKeyer c.keyer)
  | .dskProperties c => some (.downstreamKeyer c.keyer)
  | .dskState c => some (.downstreamKeyer c.keyer)
  | .setDskOnAir c => some (.downstreamKeyer c.keyer)
  | .setDskFill c => some (.downstreamKeyer c.keyer)
  | .setAudioMixerInput c => some (.audioInput c.index)
  | .mediaPlayerSource c => some (.mediaPlayer c.player)
  | .superSourceArt c => some (.superSource c.superSource)
  | .superSourceBox c => some (.box c.superSource c.index)
  | .multiviewerProperties c => some (.multiviewer c.multiviewer)
  | .setMultiviewerProperties c => some (.multiviewer c.multiviewer)
  | .multiviewerWindow c => some (.window c.multiviewer c.window)
  | .macroAction c => some (.macroSlot c.index)
  | _ => none

/-- the entry that must be there for a command to be accepted -/
def needs? : Command → Option EntryId
  | .multiviewerWindow c => some (.multiviewer c.multiviewer)
  | c => if c.isRequest then none else c.target?

end Command

namespace DeviceTree

variable {t : DeviceTree} {u : Update} {c : Command} {paths : List StatePath} {keys : List String}

/-- the command is not stale -/
def Accepts (t : DeviceTree) (c : Command) : Prop := ∃ u, t.update c = .ok u

/-! ### What each handler asks for -/

theorem onMixEffect_ok_iff {block : UInt8} {f : MixEffect → MixEffect} :
    (∃ u, t.onMixEffect block paths f = .ok u) ↔ t.has (.mixEffect block) := by
  simp only [onMixEffect, has, IdMap.contains]
  cases t.video.mixEffects.get? block <;> simp

theorem onUpstreamKeyer_ok_iff {block keyer : UInt8} {f : UpstreamKeyer → UpstreamKeyer} :
    (∃ u, t.onUpstreamKeyer block keyer keys f = .ok u) ↔ t.has (.upstreamKeyer block keyer) := by
  simp only [onUpstreamKeyer, has, IdMap.contains]
  cases t.video.mixEffects.get? block with
  | none => simp
  | some b => cases hk : b.keyers.get? keyer <;> simp [hk]

theorem onDownstreamKeyer_ok_iff {keyer : UInt8} {f : DownstreamKeyer → DownstreamKeyer} :
    (∃ u, t.onDownstreamKeyer keyer keys f = .ok u) ↔ t.has (.downstreamKeyer keyer) := by
  simp only [onDownstreamKeyer, has, IdMap.contains]
  cases t.video.downstreamKeyers.get? keyer <;> simp

theorem onSuperSource_ok_iff {index : UInt8} {f : SuperSource → SuperSource} :
    (∃ u, t.onSuperSource index keys f = .ok u) ↔ t.has (.superSource index) := by
  simp only [onSuperSource, has, IdMap.contains]
  cases t.video.superSources.get? index <;> simp

theorem setBox_ok_iff {index box : UInt8} {settings : BoxSettings} :
    (∃ u, t.setBox index box settings = .ok u) ↔ t.has (.box index box) := by
  simp only [setBox, has]
  cases t.video.superSources.get? index with
  | none => simp
  | some s => cases hb : s.boxes.contains box <;> simp [hb]

theorem setPlayer_ok_iff {player : UInt8} {source : MediaSource} :
    (∃ u, t.setPlayer player source = .ok u) ↔ t.has (.mediaPlayer player) := by
  simp only [setPlayer, has]
  cases t.players.contains player <;> simp

theorem applyMultiviewerProperties_ok_iff {c : MultiviewerProperties} :
    (∃ u, t.applyMultiviewerProperties c = .ok u) ↔ t.has (.multiviewer c.multiviewer) := by
  simp only [applyMultiviewerProperties, has, IdMap.contains]
  cases t.multiviewers.get? c.multiviewer with
  | none => simp
  | some m =>
    dsimp only
    refine iff_of_true ?_ rfl
    by_cases hswap : m.programPreviewSwapped ≠ c.programPreviewSwapped ∧ m.windows.contains 0 ∧ m.windows.contains 1
    · exact ⟨_, if_pos hswap⟩
    · exact ⟨_, if_neg hswap⟩

theorem applyWindow_ok_iff {c : MultiviewerWindow} :
    (∃ u, t.applyWindow c = .ok u) ↔ t.has (.multiviewer c.multiviewer) := by
  simp only [applyWindow, has, IdMap.contains]
  cases t.multiviewers.get? c.multiviewer <;> simp

/-! ### Every command -/

theorem accepts_of_needs {x : EntryId} (hneeds : c.needs? = some x) (h : (∃ u, t.update c = .ok u) ↔ t.has x) :
    t.Accepts c ↔ ∀ e, c.needs? = some e → t.has e := by
  rw [hneeds]
  simp only [Option.some.injEq, forall_eq']
  exact h

theorem accepts_of_free (hneeds : c.needs? = none) (h : ∃ u, t.update c = .ok u) :
    t.Accepts c ↔ ∀ e, c.needs? = some e → t.has e :=
  iff_of_true h fun _ he => nomatch hneeds.symm.trans he

/-- **A command is accepted if the entry it needs is there.** -/
theorem accepts_iff (t : DeviceTree) (c : Command) : t.Accepts c ↔ ∀ e, c.needs? = some e → t.has e := by
  cases c with
  | programInput c => exact accepts_of_needs rfl onMixEffect_ok_iff
  | previewInput c => exact accepts_of_needs rfl onMixEffect_ok_iff
  | transitionProperties c => exact accepts_of_needs rfl onMixEffect_ok_iff
  | transitionPosition c => exact accepts_of_needs rfl onMixEffect_ok_iff
  | transitionMix c => exact accepts_of_needs rfl onMixEffect_ok_iff
  | transitionDip c => exact accepts_of_needs rfl onMixEffect_ok_iff
  | transitionWipe c => exact accepts_of_needs rfl onMixEffect_ok_iff
  | fadeToBlackRate c => exact accepts_of_needs rfl onMixEffect_ok_iff
  | fadeToBlackState c => exact accepts_of_needs rfl onMixEffect_ok_iff
  | keyerOnAir c => exact accepts_of_needs rfl onUpstreamKeyer_ok_iff
  | keyerBase c => exact accepts_of_needs rfl onUpstreamKeyer_ok_iff
  | keyerLuma c => exact accepts_of_needs rfl onUpstreamKeyer_ok_iff
  | keyerChroma c => exact accepts_of_needs rfl onUpstreamKeyer_ok_iff
  | dskSources c => exact accepts_of_needs rfl onDownstreamKeyer_ok_iff
  | dskProperties c => exact accepts_of_needs rfl onDownstreamKeyer_ok_iff
  | dskState c => exact accepts_of_needs rfl onDownstreamKeyer_ok_iff
  | mediaPlayerSource c => exact accepts_of_needs rfl setPlayer_ok_iff
  | superSourceArt c => exact accepts_of_needs rfl onSuperSource_ok_iff
  | superSourceBox c => exact accepts_of_needs rfl setBox_ok_iff
  | multiviewerProperties c => exact accepts_of_needs rfl applyMultiviewerProperties_ok_iff
  | multiviewerWindow c => exact accepts_of_needs rfl applyWindow_ok_iff
  | _ => exact accepts_of_free rfl ⟨_, rfl⟩

/-- **Accepted commands stay accepted.** -/
theorem Accepts.applyAll (h : t.Accepts c) (commands : List Command) : (t.applyAll commands).Accepts c :=
  (accepts_iff _ c).2 fun e he => has_applyAll commands ((accepts_iff t c).1 h e he)

theorem apply_of_not_accepts (h : ¬ t.Accepts c) : t.apply c = (t, .empty) := by
  unfold DeviceTree.apply
  cases hu : t.update c with
  | error _ => rfl
  | ok u => exact absurd ⟨u, hu⟩ h

theorem apply_of_isRequest (h : c.isRequest) : t.apply c = (t, .empty) := by
  cases c <;> first | rfl | cases h

/-- what a command needs is what it is about, or the multiviewer of a window that it is about -/
theorem needs?_cases {x : EntryId} (hneeds : c.needs? = some x) :
    (∃ w, c = .multiviewerWindow w ∧ x = .multiviewer w.multiviewer) ∨ c.target? = some x := by
  unfold Command.needs? at hneeds
  split at hneeds
  · next w =>
    cases hneeds
    exact .inl ⟨w, rfl, rfl⟩
  · split at hneeds
    · cases hneeds
    · exact .inr hneeds

/-- what is not a request needs what it is about, but for windows -/
theorem eq_window_or_needs? (h : ¬ c.isRequest) : (∃ w, c = .multiviewerWindow w) ∨ c.needs? = c.target? := by
  unfold Command.needs?
  split
  · exact .inl ⟨_, rfl⟩
  · exact .inr (if_neg h)

theorem has_multiviewer_of_window {index window : UInt8} (h : t.has (.window index window)) :
    t.has (.multiviewer index) := by
  obtain ⟨m, hm, -⟩ := (Option.any_eq_true _ _).1 h
  exact Option.isSome_iff_exists.2 ⟨m, hm⟩

/-- **An entry that is there is not stale.** -/
theorem accepts_of_target {e : EntryId} (htarget : c.target? = some e) (he : t.has e) : t.Accepts c := by
  refine (accepts_iff t c).2 fun x hx => ?_
  rcases needs?_cases hx with ⟨w, rfl, rfl⟩ | hx
  · cases htarget
    exact has_multiviewer_of_window he
  · cases htarget.symm.trans hx
    exact he

/-! ### New windows -/

/-- the window that a report opens, on a multiviewer that is there -/
def opened? (t : DeviceTree) : Command → Option EntryId
  | .multiviewerWindow c =>
    if t.has (.multiviewer c.multiviewer) ∧ t.has (.window c.multiviewer c.window) = false then
      some (.window c.multiviewer c.window)
    else none
  | _ => none

theorem has_of_opened {e : EntryId} (h : t.opened? c = some e) : t.has e = false := by
  unfold opened? at h
  split at h
  · split at h
    · next hnew =>
      cases h
      exact hnew.2
    · cases h
  · cases h

theorem eq_window_of_opens (hc : c.isStructural = false) (ho : c.opens) : ∃ w, c = .multiviewerWindow w := by
  cases c with
  | multiviewerWindow w => exact ⟨w, rfl⟩
  | topology _ | mixEffectConfig _ | multiviewerConfig _ | superSourceConfig _ | macroPool _ | inputProperties _
  | audioMixerInput _ | macroProperties _ => cases hc
  | _ => cases ho

theorem has_apply_of_not_opens (ho : c.opens = false) (e : EntryId) : (t.apply c).1.has e = t.has e := by
  unfold apply
  cases hu : t.update c with
  | error _ => rfl
  | ok u => exact (alike_update ho hu).has e

theorem has_apply_window (w : MultiviewerWindow) (e : EntryId) :
    (t.apply (.multiviewerWindow w)).1.has e =
      (t.has e || decide (t.opened? (.multiviewerWindow w) = some e)) := by
  unfold apply
  cases hu : t.update (.multiviewerWindow w) with
  | error _ =>
    have hmissing : ¬ t.has (.multiviewer w.multiviewer) := fun hhas => by
      obtain ⟨u, hok⟩ := applyWindow_ok_iff.2 hhas
      cases hu.symm.trans hok
    simp [opened?, hmissing]
  | ok u =>
    have hhas := applyWindow_ok_iff.1 ⟨u, hu⟩
    refine (has_update hu e).trans ?_
    by_cases he : e = .window w.multiviewer w.window
    · subst he
      cases hold : t.has (.window w.multiviewer w.window) <;> simp [creates, opened?, hhas, hold]
    · have hcreates : t.creates (.multiviewerWindow w) e = false := by
        cases e with
        | window j k => simpa [creates] using he
        | _ => rfl
      have hopens : t.opened? (.multiviewerWindow w) ≠ some e := by
        simp [opened?, Ne.symm he]
      simp [hcreates, hopens]

/-- **A report creates a window or nothing.** -/
theorem has_apply_report (hc : c.isStructural = false) (e : EntryId) :
    (t.apply c).1.has e = (t.has e || decide (t.opened? c = some e)) := by
  by_cases ho : c.opens
  · obtain ⟨w, rfl⟩ := eq_window_of_opens hc ho
    exact has_apply_window w e
  · have hnone : t.opened? c = none := by
      cases c <;> first | rfl | exact absurd rfl ho
    rw [hnone, has_apply_of_not_opens (Bool.eq_false_iff.2 ho) e]
    simp

/-- what an accepted report is about is there afterwards -/
theorem has_target_of_accepts {e : EntryId} (h : t.Accepts c) (hc : c.isRequest = false) (htarget : c.target? = some e) :
    (t.apply c).1.has e := by
  have hthere := (accepts_iff t c).1 h
  rcases eq_window_or_needs? (Bool.eq_false_iff.1 hc) with ⟨w, rfl⟩ | hneeds
  · cases htarget
    rw [has_apply_window]
    cases hold : t.has (.window w.multiviewer w.window) with
    | true => rfl
    | false => simp [opened?, hthere _ rfl, hold]
  · exact has_apply c (hthere e (hneeds.trans htarget))

/-- **Reports on missing ids are dropped**, but for those that open a window. -/
theorem apply_of_missing {e : EntryId} (htarget : c.target? = some e) (he : t.has e = false)
    (hopened : t.opened? c = none) : t.apply c = (t, .empty) := by
  by_cases hr : c.isRequest
  · exact apply_of_isRequest hr
  refine apply_of_not_accepts fun haccepts => ?_
  have hthere := (accepts_iff t c).1 haccepts
  rcases eq_window_or_needs? hr with ⟨w, rfl⟩ | hneeds
  · cases htarget
    have hopens : t.opened? (.multiviewerWindow w) = some (.window w.multiviewer w.window) :=
      if_pos ⟨hthere _ rfl, he⟩
    cases hopened.symm.trans hopens
  · have hhas := hthere e (hneeds.trans htarget)
    rw [he] at hhas
    cases hhas

/-- **Only structural commands create entries, and windows.** -/
theorem entries_kept_iff (t : DeviceTree) (c : Command) (hc : c.isStructural = false) :
    (∀ e, (t.apply c).1.has e = (t.has e || decide (t.opened? c = some e))) ∧
      (((∀ e, (t.apply c).1.has e = t.has e) ∧
          ∀ e, c.target? = some e → t.has e = false → t.apply c = (t, .empty)) ↔
        t.opened? c = none) := by
  refine ⟨has_apply_report hc, fun ⟨hkept, _⟩ => ?_, fun hnone => ⟨fun e => ?_, fun e htarget he => ?_⟩⟩
  · by_contra hsome
    obtain ⟨e, he⟩ := Option.ne_none_iff_exists'.1 hsome
    have hafter := has_apply_report (t := t) hc e
    rw [hkept e, has_of_opened he, he] at hafter
    simp at hafter
  · rw [has_apply_report hc, hnone]
    simp
  · exact apply_of_missing htarget he hnone

/-- a report on window 5 of a multiviewer with two windows opens the window -/
theorem opens_window_five :
    let t := DeviceTree.empty.applyAll [.multiviewerConfig ⟨1, 2, none, none, none⟩]
    let c := Command.multiviewerWindow ⟨0, 5, 1000, true, none⟩
    c.isStructural = false ∧ t.has (.window 0 5) = false ∧ (t.apply c).1.has (.window 0 5) ∧
      ¬ ((∀ e, (t.apply c).1.has e = t.has e) ∧
        ∀ e, c.target? = some e → t.has e = false → t.apply c = (t, .empty)) := by
  intro t c
  obtain ⟨hafter, hkept⟩ := entries_kept_iff t c rfl
  have hnew : t.has (.window 0 5) = false := by decide
  have hopened : t.opened? c = some (.window 0 5) := by decide
  refine ⟨rfl, hnew, ?_, fun h => ?_⟩
  · rw [hafter, hopened]
    simp
  · cases (hkept.1 h).symm.trans hopened

end DeviceTree

end VisionMixer
