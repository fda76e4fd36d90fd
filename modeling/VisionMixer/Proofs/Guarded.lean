/-
Steps with a known domain.

`Guarded kind p x` says that a step succeeds exactly if `p` holds, and that it fails with errors of one kind only. Chains
of such steps are such steps again: their domains are met one after another, for each element of a list, or along a fold
whose states all satisfy what its steps rely on. `Succeeds` and `FailsAs` are the two halves of it.
-/
import VisionMixer.Proofs.Fallible

namespace VisionMixer

/-- a step that succeeds exactly under a condition and otherwise fails with an error of a kind -/
structure Guarded {ε α : Type} (kind : ε → Prop) (p : Prop) (x : Except ε α) : Prop where
  ok_iff : (∃ y, x = .ok y) ↔ p
  kind_of_error : ∀ e, x = .error e → kind e

namespace Guarded

variable {ε α β σ : Type} {kind : ε → Prop} {p q c : Prop} {x y : Except ε α}

theorem ok (a : α) : Guarded kind True (.ok a : Except ε α) := ⟨⟨fun _ => trivial, fun _ => ⟨a, rfl⟩⟩, by simp⟩

theorem error {e : ε} (h : kind e) : Guarded kind False (.error e : Except ε α) :=
  ⟨⟨by simp, False.elim⟩, fun e' he => by cases he; exact h⟩

theorem congr (h : Guarded kind p x) (hpq : p ↔ q) : Guarded kind q x := ⟨h.ok_iff.trans hpq, h.kind_of_error⟩

/-- a condition is checked before a step -/
theorem check [Decidable c] {e : ε} (he : kind e) (h : ¬c → Guarded kind p x) :
    Guarded kind (¬c ∧ p) (if c then .error e else x) := by
  split
  · next hc => exact (error he).congr ⟨False.elim, fun h => h.1 hc⟩
  · next hc => exact (h hc).congr ⟨fun hp => ⟨hc, hp⟩, And.right⟩

theorem bind {f : α → Except ε β} (hx : Guarded kind p x) (hf : ∀ a, x = .ok a → Guarded kind q (f a)) :
    Guarded kind (p ∧ q) (x >>= f) := by
  cases hx' : x with
  | error e =>
    have hp : ¬p := fun hp => by
      obtain ⟨a, ha⟩ := hx.ok_iff.mpr hp
      exact nomatch hx'.symm.trans ha
    exact (error (hx.kind_of_error e hx')).congr ⟨False.elim, fun h => hp h.1⟩
  | ok a =>
    have hp : p := hx.ok_iff.mp ⟨a, hx'⟩
    rw [ok_bind]
    exact (hf a hx').congr ⟨fun hq => ⟨hp, hq⟩, And.right⟩

theorem map {f : α → β} (hx : Guarded kind p x) : Guarded kind p (f <$> x) := by
  cases x with
  | error e => exact (error (hx.kind_of_error e rfl)).congr ⟨False.elim, fun hp => nomatch hx.ok_iff.mpr hp⟩
  | ok a => exact (ok (f a)).congr ⟨fun _ => hx.ok_iff.mp ⟨a, rfl⟩, fun _ => trivial⟩

/-- errors take another wording -/
theorem mapError {kind' : ε → Prop} {f : ε → ε} (hx : Guarded kind p x) (hf : ∀ e, kind e → kind' (f e)) :
    Guarded kind' p (x.mapError f) := by
  cases x with
  | error e =>
    exact (error (hf e (hx.kind_of_error e rfl))).congr ⟨False.elim, fun hp => nomatch hx.ok_iff.mpr hp⟩
  | ok a => exact (ok a).congr ⟨fun _ => hx.ok_iff.mp ⟨a, rfl⟩, fun _ => trivial⟩

/-- one step for each element -/
theorem mapM {f : α → Except ε β} {dom : α → Prop} {xs : List α} (h : ∀ a ∈ xs, Guarded kind (dom a) (f a)) :
    Guarded kind (∀ a ∈ xs, dom a) (xs.mapM f) := by
  induction xs with
  | nil =>
    rw [List.mapM_nil]
    exact (ok []).congr ⟨fun _ => List.forall_mem_nil _, fun _ => trivial⟩
  | cons a xs ih =>
    rw [List.mapM_cons]
    refine ((h a List.mem_cons_self).bind fun b _ =>
      (ih fun a' ha' => h a' (List.mem_cons_of_mem a ha')).bind fun bs _ => ok (b :: bs)).congr ?_
    rw [and_true, List.forall_mem_cons]

/-- a fold whose states all satisfy what its steps rely on -/
theorem foldlM (keep : σ → Prop) (dom : α → Prop) {step : σ → α → Except ε σ} {xs : List α} {s : σ}
    (h : ∀ a ∈ xs, ∀ s, keep s → Guarded kind (dom a) (step s a) ∧ ∀ s', step s a = .ok s' → keep s') (hs : keep s) :
    Guarded kind (∀ a ∈ xs, dom a) (xs.foldlM step s) := by
  induction xs generalizing s with
  | nil =>
    rw [List.foldlM_nil]
    exact (ok s).congr ⟨fun _ => List.forall_mem_nil _, fun _ => trivial⟩
  | cons a xs ih =>
    obtain ⟨hfirst, hkeep⟩ := h a List.mem_cons_self s hs
    rw [List.foldlM_cons]
    refine (hfirst.bind fun s' hs' => ih (fun a' ha' => h a' (List.mem_cons_of_mem a ha')) (hkeep s' hs')).congr ?_
    rw [List.forall_mem_cons]

end Guarded

/-! ### Steps that succeed -/

/-- a step that succeeds -/
def Succeeds {ε α : Type} (x : Except ε α) : Prop := ∃ y, x = .ok y

namespace Succeeds

variable {ε α β : Type} {x y : Except ε α}

theorem ok (a : α) : Succeeds (.ok a : Except ε α) := ⟨a, rfl⟩

theorem pure (a : α) : Succeeds (Pure.pure a : Except ε α) := ⟨a, rfl⟩

theorem bind {f : α → Except ε β} (hx : Succeeds x) (hf : ∀ a, Succeeds (f a)) : Succeeds (x >>= f) := by
  obtain ⟨a, rfl⟩ := hx
  exact hf a

theorem map {f : α → β} (hx : Succeeds x) : Succeeds (f <$> x) := by
  obtain ⟨a, rfl⟩ := hx
  exact ⟨f a, rfl⟩

theorem ite {c : Prop} [Decidable c] (hx : Succeeds x) (hy : Succeeds y) : Succeeds (if c then x else y) := by
  split
  · exact hx
  · exact hy

theorem mapM {f : α → Except ε β} {xs : List α} (h : ∀ a ∈ xs, Succeeds (f a)) : Succeeds (xs.mapM f) := by
  induction xs with
  | nil => exact ⟨[], rfl⟩
  | cons a xs ih =>
    rw [List.mapM_cons]
    exact (h a List.mem_cons_self).bind fun b => (ih fun a' ha' => h a' (List.mem_cons_of_mem a ha')).bind fun bs =>
      ok (b :: bs)

theorem guarded {kind : ε → Prop} (h : Succeeds x) : Guarded kind True x := by
  obtain ⟨a, rfl⟩ := h
  exact .ok a

end Succeeds

/-! ### Steps that fail in one way -/

/-- every error of a step is of a kind -/
def FailsAs {ε α : Type} (kind : ε → Prop) (x : Except ε α) : Prop := ∀ e, x = .error e → kind e

namespace FailsAs

variable {ε α β σ : Type} {kind : ε → Prop} {x y : Except ε α}

theorem of_guarded {p : Prop} (h : Guarded kind p x) : FailsAs kind x := h.kind_of_error

theorem of_succeeds (h : Succeeds x) : FailsAs kind x := .of_guarded h.guarded

theorem ok (a : α) : FailsAs kind (.ok a) := .of_succeeds (.ok a)

theorem error {e : ε} (h : kind e) : FailsAs kind (.error e : Except ε α) := .of_guarded (.error h)

theorem ite {c : Prop} [Decidable c] (hx : c → FailsAs kind x) (hy : ¬c → FailsAs kind y) :
    FailsAs kind (if c then x else y) := by
  split
  · next hc => exact hx hc
  · next hc => exact hy hc

theorem bind {f : α → Except ε β} (hx : FailsAs kind x) (hf : ∀ a, x = .ok a → FailsAs kind (f a)) :
    FailsAs kind (x >>= f) := by
  cases hx' : x with
  | error e => exact error (hx e hx')
  | ok a => exact hf a hx'

theorem mapM {f : α → Except ε β} {xs : List α} (h : ∀ a ∈ xs, FailsAs kind (f a)) : FailsAs kind (xs.mapM f) := by
  induction xs with
  | nil => exact ok []
  | cons a xs ih =>
    rw [List.mapM_cons]
    refine (h a List.mem_cons_self).bind fun b _ => ?_
    exact (ih fun a' ha' => h a' (List.mem_cons_of_mem a ha')).bind fun bs _ => ok (b :: bs)

/-- a fold whose states all satisfy what its steps rely on -/
theorem foldlM (keep : σ → Prop) {step : σ → α → Except ε σ} {xs : List α} {s : σ}
    (h : ∀ a ∈ xs, ∀ s, keep s → FailsAs kind (step s a) ∧ ∀ s', step s a = .ok s' → keep s') (hs : keep s) :
    FailsAs kind (xs.foldlM step s) := by
  induction xs generalizing s with
  | nil => exact ok s
  | cons a xs ih =>
    obtain ⟨hfirst, hkeep⟩ := h a List.mem_cons_self s hs
    rw [List.foldlM_cons]
    exact hfirst.bind fun s' hs' => ih (fun a' ha' => h a' (List.mem_cons_of_mem a ha')) (hkeep s' hs')

/-- a step gives a value, or an error of the kind -/
theorem ok_or_error (h : FailsAs kind x) : Succeeds x ∨ ∃ e, x = .error e ∧ kind e := by
  cases x with
  | ok a => exact .inl (.ok a)
  | error e => exact .inr ⟨e, rfl, h e rfl⟩

end FailsAs

end VisionMixer
