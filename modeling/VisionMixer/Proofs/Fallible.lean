/-
Chains of steps that may fail.

A chain succeeds exactly if each of its steps does, each on what the step before it gave. The lemmas take the three
kinds of chain apart: a sequence of two steps, one step for each element of a list, and a fold.
-/
import Mathlib.Tactic

namespace VisionMixer

variable {ε α β σ : Type}

/-- a step after one that succeeded -/
@[simp] theorem ok_bind (x : α) (f : α → Except ε β) : (Except.ok x >>= f) = f x := rfl

theorem pure_eq_ok {x y : α} : (pure x : Except ε α) = .ok y ↔ x = y := Except.ok.injEq x y ▸ Iff.rfl

theorem bind_eq_ok {x : Except ε α} {f : α → Except ε β} {y : β} :
    x >>= f = .ok y ↔ ∃ z, x = .ok z ∧ f z = .ok y := by
  cases x with
  | error e =>
    constructor
    · intro h
      exact nomatch h
    · rintro ⟨z, h, -⟩
      exact nomatch h
  | ok z =>
    constructor
    · intro h
      exact ⟨z, rfl, h⟩
    · rintro ⟨z, h, hz⟩
      cases h
      exact hz

theorem map_eq_ok {f : α → β} {x : Except ε α} {y : β} : f <$> x = .ok y ↔ ∃ z, x = .ok z ∧ f z = y := by
  cases x with
  | error e => simp
  | ok z => simp

/-- what is left of a success when the error is forgotten -/
theorem ok_of_toOption {x : Except ε α} {y : α} (h : x.toOption = some y) : x = .ok y := by
  cases x with
  | error e => cases h
  | ok z =>
    cases h
    rfl

/-- a choice between two first steps -/
theorem ite_bind {p : Prop} [Decidable p] {x y : Except ε α} {f : α → Except ε β} :
    (if p then x >>= f else y >>= f) = (if p then x else y) >>= f := by
  split <;> rfl

/-! ### One step for each element -/

theorem mapM_eq_ok {f : α → Except ε β} {xs : List α} {ys : List β} :
    xs.mapM f = .ok ys ↔ List.Forall₂ (fun x y => f x = .ok y) xs ys := by
  induction xs generalizing ys with
  | nil =>
    rw [List.mapM_nil, List.forall₂_nil_left_iff]
    exact ⟨fun h => by cases h; rfl, fun h => by rw [h]; rfl⟩
  | cons x xs ih =>
    simp only [List.mapM_cons, bind_eq_ok, ih, List.forall₂_cons_left_iff]
    constructor
    · rintro ⟨y, hy, ys', hys, h⟩
      cases h
      exact ⟨y, ys', hy, hys, rfl⟩
    · rintro ⟨y, ys', hy, hys, rfl⟩
      exact ⟨y, hy, ys', hys, rfl⟩

theorem mem_of_mapM {f : α → Except ε β} {xs : List α} {ys : List β} {y : β} (h : xs.mapM f = .ok ys) (hy : y ∈ ys) :
    ∃ x ∈ xs, f x = .ok y := by
  have hpairs := mapM_eq_ok.mp h
  clear h
  induction hpairs with
  | nil => exact nomatch hy
  | @cons x z xs zs hz _ ih =>
    rcases List.mem_cons.mp hy with rfl | hy
    · exact ⟨x, List.mem_cons_self, hz⟩
    · obtain ⟨w, hw, hwy⟩ := ih hy
      exact ⟨w, List.mem_cons_of_mem x hw, hwy⟩

theorem ok_of_mapM {f : α → Except ε β} {xs : List α} {ys : List β} {x : α} (h : xs.mapM f = .ok ys) (hx : x ∈ xs) :
    ∃ y, f x = .ok y := by
  have hpairs := mapM_eq_ok.mp h
  clear h
  induction hpairs with
  | nil => exact nomatch hx
  | @cons w z xs zs hz _ ih =>
    rcases List.mem_cons.mp hx with rfl | hx
    · exact ⟨z, hz⟩
    · exact ih hx

/-- steps that read back what other steps made -/
theorem mapM_back {γ : Type} {f : α → Except ε β} {g : β → Except ε γ} {k : α → γ} {xs : List α} {ys : List β}
    (hback : ∀ x y, f x = .ok y → g y = .ok (k x)) (h : xs.mapM f = .ok ys) : ys.mapM g = .ok (xs.map k) := by
  rw [mapM_eq_ok, List.forall₂_map_right_iff]
  exact ((mapM_eq_ok.mp h).imp hback).flip

/-- two steps for each element are a run of the first steps and one of the second -/
theorem mapM_bind_eq_ok {γ : Type} {f : α → Except ε β} {g : β → Except ε γ} {xs : List α} {zs : List γ}
    (h : xs.mapM (fun x => f x >>= g) = .ok zs) : ∃ ys, xs.mapM f = .ok ys ∧ ys.mapM g = .ok zs := by
  simp only [mapM_eq_ok] at h ⊢
  induction h with
  | nil => exact ⟨[], .nil, .nil⟩
  | cons hfirst _ ih =>
    obtain ⟨y, hy, hz⟩ := bind_eq_ok.mp hfirst
    obtain ⟨ys, hys, hzs⟩ := ih
    exact ⟨y :: ys, .cons hy hys, .cons hz hzs⟩

/-! ### Folds -/

variable {step step' : σ → α → Except ε σ} {s s' : σ}

theorem foldlM_cons_eq_ok {x : α} {xs : List α} :
    (x :: xs).foldlM step s = .ok s' ↔ ∃ t, step s x = .ok t ∧ xs.foldlM step t = .ok s' := by
  rw [List.foldlM_cons, bind_eq_ok]

/-- a fold passes every element in a state of its own -/
theorem foldlM_split {pre post : List α} {x : α} (h : (pre ++ x :: post).foldlM step s = .ok s') :
    ∃ t u, pre.foldlM step s = .ok t ∧ step t x = .ok u ∧ post.foldlM step u = .ok s' := by
  rw [List.foldlM_append, bind_eq_ok] at h
  obtain ⟨t, ht, hrest⟩ := h
  obtain ⟨u, hu, hpost⟩ := foldlM_cons_eq_ok.mp hrest
  exact ⟨t, u, ht, hu, hpost⟩

/-- a fold that succeeds does so with any steps that agree on its successes -/
theorem foldlM_of_imp {xs : List α} (himp : ∀ x ∈ xs, ∀ t u, step t x = .ok u → step' t x = .ok u)
    (h : xs.foldlM step s = .ok s') : xs.foldlM step' s = .ok s' := by
  induction xs generalizing s with
  | nil => exact h
  | cons x xs ih =>
    obtain ⟨t, ht, hrest⟩ := foldlM_cons_eq_ok.mp h
    refine foldlM_cons_eq_ok.mpr ⟨t, himp x List.mem_cons_self s t ht, ?_⟩
    exact ih (fun y hy => himp y (List.mem_cons_of_mem x hy)) hrest

end VisionMixer
