/-
The windows of a multiviewer and its swap.

Windows 0 and 1 of a multiviewer show program and preview, and the device may swap the two. It reports the swap as a flag,
again and again and among other reports, so what counts is whether the flag has changed. `Reworked` is all that one command
does to one multiviewer. `swapTo` shows the windows of a multiviewer under a setting of the swap; going to a setting and on
to another one is going there at once (`get?_swapTo_swapTo`), so as long as no report writes the two windows
themselves, they are those of the start under the setting of now (`Follows`).

`follows_reworked` is the step and `follows_applyAll` the run; `windows_follow_swap` reads the two windows off.
-/
import VisionMixer.Proofs.Device.Entries

namespace VisionMixer

/-- what a window shows; its safe area belongs to the place and not to the picture -/
def Window.picture (w : Window) : UInt16 × Bool := (w.source, w.supportsVuMeter)

namespace Command

/-- the multiviewer and the window that a command reports on -/
def window? : Command → Option (UInt8 × UInt8)
  | .multiviewerWindow c => some (c.multiviewer, c.window)
  | _ => none

/-- the swap that a command reports for a multiviewer -/
def swapOf? (index : UInt8) : Command → Option Bool
  | .multiviewerProperties c => if c.multiviewer = index then some c.programPreviewSwapped else none
  | _ => none

end Command

namespace Multiviewer

variable {m n : Multiviewer} {first second : Window} {window index : UInt8} {c : Command} {swapped : Bool}

/-- the multiviewer with the windows it has under a setting of the swap -/
def swapTo (m : Multiviewer) (swapped : Bool) : Multiviewer :=
  if m.programPreviewSwapped = swapped then m else m.exchanged

/-- what a command can do to a multiviewer that is there -/
inductive Reworked (index : UInt8) (c : Command) (m : Multiviewer) : Multiviewer → Prop
  | rest (hquiet : c.swapOf? index = none) : Reworked index c m m
  | opened (hquiet : c.swapOf? index = none) (count : Nat) : Reworked index c m (m.openWindows count)
  | arranged (layout : UInt8) (swapped : Bool) (htold : c.swapOf? index = some swapped) :
      Reworked index c m { m.swapTo swapped with layout, programPreviewSwapped := swapped }
  | reported (window : UInt8) (w : Window) (hwindow : c.window? = some (index, window)) :
      Reworked index c m { m with windows := m.windows.insert window w }

/-! ### The exchange -/

theorem exchanged_of_get? (hfirst : m.windows.get? 0 = some first) (hsecond : m.windows.get? 1 = some second) :
    m.exchanged =
      { m with windows := (m.windows.insert 0 (first.showing second)).insert 1 (second.showing first) } := by
  simp [exchanged, hfirst, hsecond]

theorem get?_zero_exchanged (hfirst : m.windows.get? 0 = some first) (hsecond : m.windows.get? 1 = some second) :
    m.exchanged.windows.get? 0 = some (first.showing second) := by
  rw [exchanged_of_get? hfirst hsecond, IdMap.get?_insert_of_ne (by decide), IdMap.get?_insert_self]

theorem get?_one_exchanged (hfirst : m.windows.get? 0 = some first) (hsecond : m.windows.get? 1 = some second) :
    m.exchanged.windows.get? 1 = some (second.showing first) := by
  rw [exchanged_of_get? hfirst hsecond, IdMap.get?_insert_self]

theorem get?_exchanged_of_ne (h0 : window ≠ 0) (h1 : window ≠ 1) :
    m.exchanged.windows.get? window = m.windows.get? window := by
  unfold exchanged
  split
  · rw [IdMap.get?_insert_of_ne h1.symm, IdMap.get?_insert_of_ne h0.symm]
  · rfl

/-- an exchange only looks at the windows that it exchanges -/
theorem get?_exchanged_congr (h0 : m.windows.get? 0 = n.windows.get? 0) (h1 : m.windows.get? 1 = n.windows.get? 1)
    (hwindow : m.windows.get? window = n.windows.get? window) :
    m.exchanged.windows.get? window = n.exchanged.windows.get? window := by
  unfold exchanged
  rw [h0, h1]
  split
  · simp only [IdMap.get?_insert, hwindow]
  · exact hwindow

/-- exchanged twice, every window shows what it showed at first -/
theorem get?_exchanged_exchanged (m : Multiviewer) (window : UInt8) :
    m.exchanged.exchanged.windows.get? window = m.windows.get? window := by
  cases hfirst : m.windows.get? 0 with
  | none => simp [exchanged, hfirst]
  | some first =>
    cases hsecond : m.windows.get? 1 with
    | none => simp [exchanged, hfirst, hsecond]
    | some second =>
      have h0 := get?_zero_exchanged hfirst hsecond
      have h1 := get?_one_exchanged hfirst hsecond
      by_cases hzero : window = 0
      · rw [hzero, get?_zero_exchanged h0 h1, hfirst]
        rfl
      · by_cases hone : window = 1
        · rw [hone, get?_one_exchanged h0 h1, hsecond]
          rfl
        · rw [get?_exchanged_of_ne hzero hone, get?_exchanged_of_ne hzero hone]

theorem swapTo_self (m : Multiviewer) : m.swapTo m.programPreviewSwapped = m := if_pos rfl

theorem get?_swapTo_congr (hflag : m.programPreviewSwapped = n.programPreviewSwapped)
    (h0 : m.windows.get? 0 = n.windows.get? 0) (h1 : m.windows.get? 1 = n.windows.get? 1)
    (hwindow : m.windows.get? window = n.windows.get? window) :
    (m.swapTo swapped).windows.get? window = (n.swapTo swapped).windows.get? window := by
  unfold swapTo
  rw [hflag]
  split
  · exact hwindow
  · exact get?_exchanged_congr h0 h1 hwindow

/-- where a swap has been set, another setting is reached as if it had not been -/
theorem get?_swapTo_arranged (m : Multiviewer) (layout : UInt8) (swapped swapped' : Bool) (window : UInt8) :
    (swapTo { m.swapTo swapped with layout, programPreviewSwapped := swapped } swapped').windows.get? window =
      (m.swapTo swapped').windows.get? window := by
  by_cases hback : swapped = swapped'
  · subst hback
    rw [swapTo, if_pos rfl]
  · rw [swapTo, if_neg hback]
    by_cases hset : m.programPreviewSwapped = swapped
    · have hother : m.programPreviewSwapped ≠ swapped' := fun h => hback (hset.symm.trans h)
      simp only [swapTo, if_pos hset, if_neg hother]
      exact get?_exchanged_congr rfl rfl rfl
    · -- of two settings that differ from a third one, both are the same
      have hother : m.programPreviewSwapped = swapped' := by
        revert hback hset
        cases m.programPreviewSwapped <;> cases swapped <;> cases swapped' <;> simp
      simp only [swapTo, if_neg hset, if_pos hother]
      rw [← get?_exchanged_exchanged m window]
      exact get?_exchanged_congr rfl rfl rfl

theorem contains_swapTo (m : Multiviewer) (swapped : Bool) (window : UInt8) :
    (m.swapTo swapped).windows.contains window = m.windows.contains window := by
  unfold swapTo
  split
  · rfl
  · exact DeviceTree.contains_exchanged m window

/-! ### What stays -/

/-- the kept windows are those of the start, under the setting of now -/
def Follows (kept : UInt8 → Prop) (start now : Multiviewer) : Prop :=
  ∀ window, kept window →
    now.windows.get? window = (start.swapTo now.programPreviewSwapped).windows.get? window

section

variable {kept : UInt8 → Prop} {start now next : Multiviewer}

theorem follows_self (kept : UInt8 → Prop) (start : Multiviewer) : Follows kept start start := by
  intro window _
  rw [swapTo_self]

/-- **One command.** The windows that it does not write follow the swap, if those that are exchanged are among them. -/
theorem follows_reworked (hthere : ∀ window, kept window → start.windows.contains window) (h0 : kept 0) (h1 : kept 1)
    (hfree : ∀ window, kept window → c.window? ≠ some (index, window)) (hreworked : Reworked index c now next)
    (hnow : Follows kept start now) : Follows kept start next := by
  intro window hkept
  cases hreworked with
  | rest => exact hnow window hkept
  | opened hquiet count =>
    have hold := hnow window hkept
    have hsome : ((start.swapTo now.programPreviewSwapped).windows.get? window).isSome := by
      have hcontains := hthere window hkept
      rwa [← contains_swapTo start now.programPreviewSwapped] at hcontains
    obtain ⟨w, hw⟩ := Option.isSome_iff_exists.1 hsome
    show (now.windows.fill count default).get? window = _
    rw [IdMap.get?_fill, hold]
    show Option.or ((start.swapTo now.programPreviewSwapped).windows.get? window) _ =
      (start.swapTo now.programPreviewSwapped).windows.get? window
    rw [hw, Option.some_or]
  | arranged layout swapped htold =>
    -- so far the windows are as if the swap of now had been set on the multiviewer of the start
    let set : Multiviewer :=
      { start.swapTo now.programPreviewSwapped with
        layout := now.layout
        programPreviewSwapped := now.programPreviewSwapped }
    calc (now.swapTo swapped).windows.get? window
        = (set.swapTo swapped).windows.get? window :=
          get?_swapTo_congr rfl (hnow 0 h0) (hnow 1 h1) (hnow window hkept)
      _ = (start.swapTo swapped).windows.get? window := get?_swapTo_arranged start _ _ swapped window
  | reported written w hwindow =>
    have hne : written ≠ window := fun h => hfree window hkept (h ▸ hwindow)
    show (now.windows.insert written w).get? window = _
    rw [IdMap.get?_insert_of_ne hne]
    exact hnow window hkept

/-- the setting is the one that was told, if one was -/
theorem swapped_of_reworked (hreworked : Reworked index c now next) :
    next.programPreviewSwapped = (c.swapOf? index).getD now.programPreviewSwapped := by
  cases hreworked with
  | rest hquiet => rw [hquiet, Option.getD_none]
  | opened hquiet count =>
    rw [hquiet, Option.getD_none]
    rfl
  | arranged layout swapped htold => rw [htold, Option.getD_some]
  | reported window w hwindow =>
    have hquiet : c.swapOf? index = none := by
      cases c <;> first | rfl | cases hwindow
    rw [hquiet, Option.getD_none]

end

end Multiviewer

namespace DeviceTree

open Multiviewer (Reworked Follows)

variable {t : DeviceTree} {u : Update} {c : Command} {index : UInt8} {m : Multiviewer}

/-! ### Every command -/

theorem reworked_applyMultiviewerProperties {r : MultiviewerProperties} (h : t.applyMultiviewerProperties r = .ok u)
    (hm : t.multiviewers.get? index = some m) :
    ∃ next, u.tree.multiviewers.get? index = some next ∧ Reworked index (.multiviewerProperties r) m next := by
  by_cases hindex : r.multiviewer = index
  · have htold : (Command.multiviewerProperties r).swapOf? index = some r.programPreviewSwapped := if_pos hindex
    refine ⟨_, ?_, .arranged r.layout _ htold⟩
    unfold applyMultiviewerProperties at h
    rw [hindex, hm] at h
    by_cases hset : m.programPreviewSwapped = r.programPreviewSwapped
    · rw [Multiviewer.swapTo, if_pos hset]
      simp only [hset, ne_eq, not_true, false_and, if_false, Except.ok.injEq] at h
      rw [← h, IdMap.get?_insert_self]
    · rw [Multiviewer.swapTo, if_neg hset]
      dsimp only at h
      split at h
      · cases h
        rw [IdMap.get?_insert_self]
      · next hfew =>
        -- a window to be exchanged is missing, so there is no exchange
        have hsame : m.exchanged = m := by
          unfold Multiviewer.exchanged
          split
          · next hfirst hsecond => exact absurd ⟨hset, by simp [IdMap.contains, hfirst, hsecond]⟩ hfew
          · rfl
        cases h
        rw [IdMap.get?_insert_self, hsame]
  · have hquiet : (Command.multiviewerProperties r).swapOf? index = none := if_neg hindex
    obtain ⟨n, n', windows, -, -, rfl⟩ := eq_of_applyMultiviewerProperties h
    exact ⟨m, (IdMap.get?_insert_of_ne hindex).trans hm, .rest hquiet⟩

theorem reworked_applyWindow {r : MultiviewerWindow} (h : t.applyWindow r = .ok u)
    (hm : t.multiviewers.get? index = some m) :
    ∃ next, u.tree.multiviewers.get? index = some next ∧ Reworked index (.multiviewerWindow r) m next := by
  obtain ⟨n, w, hn, rfl⟩ := eq_of_applyWindow h
  by_cases hindex : r.multiviewer = index
  · rw [hindex, hm] at hn
    cases hn
    refine ⟨_, ?_, .reported r.window w (by rw [← hindex]; rfl)⟩
    rw [hindex, IdMap.get?_insert_self]
  · exact ⟨m, (IdMap.get?_insert_of_ne hindex).trans hm, .rest rfl⟩

theorem reworked_applyMultiviewerConfig (r : MultiviewerConfig) (hm : t.multiviewers.get? index = some m) :
    ∃ next, (t.applyMultiviewerConfig r).tree.multiviewers.get? index = some next ∧
      Reworked index (.multiviewerConfig r) m next := by
  rw [get?_applyMultiviewerConfig, hm]
  by_cases hcounted : index.toNat < r.count.toNat
  · exact ⟨_, if_pos hcounted, .opened rfl _⟩
  · exact ⟨m, if_neg hcounted, .rest rfl⟩

/-- **One command does to a multiviewer one of four things.** -/
theorem reworked_update (h : t.update c = .ok u) (hm : t.multiviewers.get? index = some m) :
    ∃ next, u.tree.multiviewers.get? index = some next ∧ Reworked index c m next := by
  have hrest (hsame : u.tree.multiviewers = t.multiviewers) (hquiet : c.swapOf? index = none) :
      ∃ next, u.tree.multiviewers.get? index = some next ∧ Reworked index c m next :=
    ⟨m, hsame ▸ hm, .rest hquiet⟩
  cases c with
  | multiviewerProperties r => exact reworked_applyMultiviewerProperties h hm
  | multiviewerWindow r => exact reworked_applyWindow h hm
  | multiviewerConfig r =>
    cases h
    exact reworked_applyMultiviewerConfig r hm
  | topology r =>
    cases h
    refine ⟨m, ?_, .rest rfl⟩
    simp [applyTopology, IdMap.get?_fill, hm]
  | videoMode mode =>
    cases h
    refine hrest ?_ rfl
    simp only [applyVideoMode]
    split <;> rfl
  | keyerOnAir r | keyerBase r | keyerLuma r | keyerChroma r =>
    obtain ⟨b, k, -, -, rfl⟩ := eq_of_onUpstreamKeyer h
    exact hrest rfl rfl
  | dskSources r | dskProperties r | dskState r =>
    obtain ⟨k, -, rfl⟩ := eq_of_onDownstreamKeyer h
    exact hrest rfl rfl
  | programInput r | previewInput r | transitionProperties r | transitionPosition r | transitionMix r | transitionDip r
  | transitionWipe r | fadeToBlackRate r | fadeToBlackState r =>
    obtain ⟨b, -, rfl⟩ := eq_of_onMixEffect h
    exact hrest rfl rfl
  | superSourceArt r =>
    obtain ⟨s, -, rfl⟩ := eq_of_onSuperSource h
    exact hrest rfl rfl
  | superSourceBox r =>
    obtain ⟨s, old, -, -, rfl⟩ := eq_of_setBox h
    exact hrest rfl rfl
  | mediaPlayerSource r =>
    obtain ⟨old, -, rfl⟩ := eq_of_setPlayer h
    exact hrest rfl rfl
  | _ =>
    cases h
    exact hrest rfl rfl

/-- a stale command does nothing -/
theorem reworked_apply (c : Command) (hm : t.multiviewers.get? index = some m) :
    ∃ next, (t.apply c).1.multiviewers.get? index = some next ∧ Reworked index c m next := by
  unfold apply
  cases hu : t.update c with
  | ok u => exact reworked_update hu hm
  | error missing =>
    refine ⟨m, hm, .rest ?_⟩
    cases c with
    | multiviewerProperties r =>
      -- the multiviewer is there, so what is stale is a report on another one
      refine if_neg fun hindex => ?_
      simp only [update, applyMultiviewerProperties, hindex, hm] at hu
      split at hu <;> cases hu
    | _ => rfl

/-! ### Any run -/

/-- **After any run** the windows that it has not written follow the swap, and the swap is the one that was told last. -/
theorem follows_applyAll {kept : UInt8 → Prop} {start : Multiviewer}
    (hthere : ∀ window, kept window → start.windows.contains window) (h0 : kept 0) (h1 : kept 1)
    (commands : List Command) (hfree : ∀ c ∈ commands, ∀ window, kept window → c.window? ≠ some (index, window)) :
    ∀ (t : DeviceTree) (now : Multiviewer), t.multiviewers.get? index = some now → Follows kept start now →
      ∃ last, (t.applyAll commands).multiviewers.get? index = some last ∧ Follows kept start last ∧
        last.programPreviewSwapped =
          ((commands.filterMap (Command.swapOf? index)).getLast?).getD now.programPreviewSwapped := by
  induction commands with
  | nil => exact fun t now hnow hfollows => ⟨now, hnow, hfollows, rfl⟩
  | cons c commands ih =>
    intro t now hnow hfollows
    obtain ⟨next, hnext, hreworked⟩ := reworked_apply c hnow
    have hstep := Multiviewer.follows_reworked hthere h0 h1 (hfree c List.mem_cons_self) hreworked hfollows
    obtain ⟨last, hlast, hrun, hswapped⟩ :=
      ih (fun d hd => hfree d (List.mem_cons_of_mem c hd)) (t.apply c).1 next hnext hstep
    refine ⟨last, hlast, hrun, ?_⟩
    rw [hswapped, Multiviewer.swapped_of_reworked hreworked, List.filterMap_cons]
    cases c.swapOf? index with
    | none => rfl
    | some swapped => cases commands.filterMap (Command.swapOf? index) <;> simp [List.getLast?_cons]

/-- **Windows 0 and 1 follow the swap.** Whatever is applied to a multiviewer that has both, other than reports on the two:
in the end what they show is exchanged if the swap is another one than at the start, and what it was if it is the same.
Their safe areas stay, and so do all other windows that were there and were not reported. The swap is the one that was
told last. -/
theorem windows_follow_swap (t : DeviceTree) (index : UInt8) (commands : List Command) {start : Multiviewer}
    {first second : Window} (hstart : t.multiviewers.get? index = some start)
    (hfirst : start.windows.get? 0 = some first) (hsecond : start.windows.get? 1 = some second)
    (hfree : ∀ c ∈ commands, c.window? ≠ some (index, 0) ∧ c.window? ≠ some (index, 1)) :
    ∃ last first' second', (t.applyAll commands).multiviewers.get? index = some last ∧
      last.windows.get? 0 = some first' ∧ last.windows.get? 1 = some second' ∧
      last.programPreviewSwapped =
        ((commands.filterMap (Command.swapOf? index)).getLast?).getD start.programPreviewSwapped ∧
      (first'.picture, second'.picture) =
        (if last.programPreviewSwapped = start.programPreviewSwapped then (first.picture, second.picture)
          else (second.picture, first.picture)) ∧
      first'.supportsSafeArea = first.supportsSafeArea ∧ second'.supportsSafeArea = second.supportsSafeArea ∧
      ∀ window w, window ≠ 0 → window ≠ 1 → start.windows.get? window = some w →
        (∀ c ∈ commands, c.window? ≠ some (index, window)) → last.windows.get? window = some w := by
  let kept (window : UInt8) : Prop :=
    start.windows.contains window ∧ ∀ c ∈ commands, c.window? ≠ some (index, window)
  have h0 : kept 0 := ⟨by simp [IdMap.contains, hfirst], fun c hc => (hfree c hc).1⟩
  have h1 : kept 1 := ⟨by simp [IdMap.contains, hsecond], fun c hc => (hfree c hc).2⟩
  have hunreported : ∀ c ∈ commands, ∀ window, kept window → c.window? ≠ some (index, window) :=
    fun c hc _ h => h.2 c hc
  obtain ⟨last, hlast, hfollows, hswapped⟩ :=
    follows_applyAll (fun _ h => h.1) h0 h1 commands hunreported t start hstart (Multiviewer.follows_self kept start)
  by_cases hsame : last.programPreviewSwapped = start.programPreviewSwapped
  · have hkept (window : UInt8) (h : kept window) : last.windows.get? window = start.windows.get? window := by
      rw [hfollows window h, hsame, Multiviewer.swapTo_self]
    refine ⟨last, first, second, hlast, (hkept 0 h0).trans hfirst, (hkept 1 h1).trans hsecond, hswapped, ?_, rfl, rfl, ?_⟩
    · rw [if_pos hsame]
    · intro window w _ _ hw hunreported
      exact (hkept window ⟨by simp [IdMap.contains, hw], hunreported⟩).trans hw
  · have hkept (window : UInt8) (h : kept window) : last.windows.get? window = start.exchanged.windows.get? window := by
      rw [hfollows window h, Multiviewer.swapTo, if_neg (Ne.symm hsame)]
    refine ⟨last, first.showing second, second.showing first, hlast, ?_, ?_, hswapped, ?_, rfl, rfl, ?_⟩
    · exact (hkept 0 h0).trans (Multiviewer.get?_zero_exchanged hfirst hsecond)
    · exact (hkept 1 h1).trans (Multiviewer.get?_one_exchanged hfirst hsecond)
    · rw [if_neg hsame]
      rfl
    · intro window w hzero hone hw hunreported
      rw [hkept window ⟨by simp [IdMap.contains, hw], hunreported⟩, Multiviewer.get?_exchanged_of_ne hzero hone, hw]

/-- swapped, the same swap again with another layout, windows opened, swapped back and swapped once more, with a report on
a third window and a swap of another multiviewer in between -/
theorem windows_follow_swap_thrice :
    let t := empty.applyAll [.multiviewerConfig ⟨2, 4, none, none, none⟩, .multiviewerWindow ⟨0, 0, 10010, true, some true⟩,
      .multiviewerWindow ⟨0, 1, 10011, false, none⟩, .multiviewerWindow ⟨0, 2, 5, true, none⟩]
    let commands : List Command := [.multiviewerProperties ⟨0, 1, true⟩, .multiviewerProperties ⟨0, 3, true⟩,
      .multiviewerConfig ⟨2, 6, none, none, none⟩, .multiviewerProperties ⟨0, 3, false⟩,
      .multiviewerWindow ⟨0, 3, 7, false, none⟩, .multiviewerProperties ⟨1, 3, true⟩, .multiviewerProperties ⟨0, 2, true⟩]
    (∀ c ∈ commands, c.window? ≠ some (0, 0) ∧ c.window? ≠ some (0, 1)) ∧
      ∃ start last first' second', t.multiviewers.get? 0 = some start ∧ start.programPreviewSwapped = false ∧
        (t.applyAll commands).multiviewers.get? 0 = some last ∧ last.programPreviewSwapped = true ∧
        last.windows.get? 0 = some first' ∧ last.windows.get? 1 = some second' ∧
        first'.picture = (10011, false) ∧ first'.supportsSafeArea = some true ∧ second'.picture = (10010, true) ∧
        second'.supportsSafeArea = none ∧ last.windows.get? 2 = some ⟨5, true, none⟩ := by
  intro t commands
  have hfree : ∀ c ∈ commands, c.window? ≠ some (0, 0) ∧ c.window? ≠ some (0, 1) := by decide
  obtain ⟨last, first', second', hlast, hfirst, hsecond, hswapped, hpictures, hsafe, hsafe', hothers⟩ :=
    windows_follow_swap t 0 commands rfl rfl rfl hfree
  have htrue : last.programPreviewSwapped = true := hswapped
  rw [if_neg (by simp [htrue]; rfl), Prod.mk.injEq] at hpictures
  exact ⟨hfree, _, last, first', second', rfl, rfl, hlast, htrue, hfirst, hsecond, hpictures.1, hsafe, hpictures.2, hsafe',
    hothers 2 _ (by decide) (by decide) rfl (by decide)⟩

end DeviceTree

end VisionMixer
