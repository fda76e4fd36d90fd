/-
The description of the device is kept.

The tree starts empty, and commands come in any order, each as often as it likes. Whatever they have described by then
is there: `Kept` holds of the empty tree and every command preserves it, for what a command newly promises it creates
(`promises_update`), and what was promised before is not removed. `run_induction` makes of such a step what holds after
any run. So no id that is in the tree becomes stale, until the tree is cleared.
-/
import VisionMixer.Proofs.Device.Stale

namespace VisionMixer

namespace DeviceTree

/-- a change of the tree as a whole -/
inductive Act where
  | apply (c : Command)
  | clear

/-- the tree after an act -/
def step (t : DeviceTree) : Act → DeviceTree
  | .apply c => (t.apply c).1
  | .clear => t.clear

/-- the tree after acts on the empty one -/
def run (acts : List Act) : DeviceTree := acts.foldl step empty

/-- what every accepted command of some kind keeps holds after any run of such commands -/
theorem run_induction_of {p : DeviceTree → Prop} {q : Command → Prop} (hempty : p empty)
    (hupdate : ∀ {t c u}, p t → q c → t.update c = .ok u → p u.tree) (acts : List Act)
    (hacts : ∀ c, .apply c ∈ acts → q c) : p (run acts) := by
  have hstep : ∀ t, ∀ a ∈ acts, p t → p (t.step a) := by
    intro t a ha hp
    cases a with
    | clear => exact hempty
    | apply c =>
      show p (t.apply c).1
      unfold DeviceTree.apply
      cases hu : t.update c with
      | error _ => exact hp
      | ok u => exact hupdate hp (hacts c ha) hu
  clear hacts
  have hfold : ∀ t, p t → p (acts.foldl step t) := by
    induction acts with
    | nil => exact fun _ hp => hp
    | cons a acts ih =>
      intro t hp
      exact ih (fun t b hb => hstep t b (List.mem_cons_of_mem a hb)) _ (hstep t a List.mem_cons_self hp)
  exact hfold empty hempty

/-- **What every accepted command keeps holds after any run**, if it holds of the empty tree -/
theorem run_induction {p : DeviceTree → Prop} (hempty : p empty)
    (hupdate : ∀ {t c u}, p t → t.update c = .ok u → p u.tree) (acts : List Act) : p (run acts) :=
  run_induction_of (q := fun _ => True) hempty (fun hp _ hu => hupdate hp hu) acts fun _ _ => trivial

/-- what is promised is there -/
def Kept (t : DeviceTree) : Prop := ∀ e, t.promises e → t.has e

theorem Kept.empty : Kept empty := fun e he => by
  cases e <;> cases he

theorem Kept.update {t : DeviceTree} {c : Command} {u : Update} (hkept : Kept t) (hu : t.update c = .ok u) :
    Kept u.tree := by
  intro e he
  have hhas := has_update hu e
  rcases promises_update hu he with hold | hnew
  · rw [hhas, hkept e hold, Bool.true_or]
  · rw [hhas, hnew, Bool.or_true]

/-- **The tree has what the description promises**, and keeps it: an id that was accepted does not become stale. -/
theorem description_kept (acts : List Act) (commands : List Command) :
    (∀ e, (run acts).promises e → (run acts).has e) ∧
      (∀ e, (run acts).has e → ((run acts).applyAll commands).has e) ∧
      (∀ c, (run acts).Accepts c → ((run acts).applyAll commands).Accepts c) ∧
      ∀ e c d, c.isRequest = false → c.target? = some e → d.target? = some e → (run acts).Accepts c →
        (((run acts).apply c).1.applyAll commands).Accepts d :=
  ⟨run_induction Kept.empty Kept.update acts, fun _ he => has_applyAll commands he, fun _ h => h.applyAll commands,
    fun _ _ _ hc htarget hd h => accepts_of_target hd (has_applyAll commands (has_target_of_accepts h hc htarget))⟩

/-- boxes that were described before the super sources, which were then described again, fewer than before -/
theorem boxes_kept :
    let topology (superSources : UInt8) : Command :=
      .topology ⟨1, 0, 0, 0, 0, 0, 0, 0, 0, 0, superSources, none, none, none, none⟩
    let t := run [.apply (topology 2), .clear, .apply (.superSourceConfig 3), .apply (topology 2), .apply (topology 1)]
    let c := Command.programInput ⟨0, 1000⟩
    let d := Command.transitionMix ⟨0, 25⟩
    t.promises (.box 1 2) ∧ t.has (.box 1 2) ∧ (t.applyAll [topology 0]).has (.box 1 2) ∧
      (t.applyAll [topology 0]).Accepts c ∧ ((t.apply c).1.applyAll [topology 0]).Accepts d := by
  intro topology t c d
  obtain ⟨hthere, hstays, haccepts, hids⟩ := description_kept
    [.apply (topology 2), .clear, .apply (.superSourceConfig 3), .apply (topology 2), .apply (topology 1)] [topology 0]
  have hpromised : t.promises (.box 1 2) := by decide
  have hbox := hthere _ hpromised
  have hc : t.Accepts c := accepts_of_target rfl (by decide)
  exact ⟨hpromised, hbox, hstays _ hbox, haccepts c hc, hids _ c d rfl rfl rfl hc⟩

end DeviceTree

end VisionMixer
