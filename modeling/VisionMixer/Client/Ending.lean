/-
The end of a session as its listeners hear it.

The reason is recorded once, and a second one is dropped. Whoever registers before that hears the reason when it is
recorded, whoever registers later hears it at once. Main statements: `waiting_register` and `waiting_record`, by which
those who still wait and those who were told account for every registration.
-/
import VisionMixer.Session.Phase

namespace VisionMixer

/-- a listener told why the session ended -/
structure Notice where
  /-- the number under which the listener registered -/
  listener : Nat
  reason : EndReason
  deriving DecidableEq

/-- why a session ended, and who waits to hear it -/
structure Ending where
  /-- known once the session has ended -/
  reason : Option EndReason
  /-- listeners in the order of their registration -/
  waiting : List Nat
  deriving DecidableEq

namespace Ending

/-- no end yet, and nobody waits for it -/
def awaited : Ending := ⟨none, []⟩

/-- one more listener -/
def register (e : Ending) (listener : Nat) : Ending × List Notice :=
  match e.reason with
  | some reason => (e, [⟨listener, reason⟩])
  | none => ({ e with waiting := e.waiting ++ [listener] }, [])

/-- the session has ended -/
def record (e : Ending) (reason : EndReason) : Ending × List Notice :=
  match e.reason with
  | some _ => (e, [])
  | none => (⟨some reason, []⟩, e.waiting.map (⟨·, reason⟩))

theorem waiting_register (e : Ending) (listener : Nat) :
    (e.register listener).1.waiting ++ (e.register listener).2.map Notice.listener = e.waiting ++ [listener] := by
  unfold register
  split <;> simp

theorem waiting_record (e : Ending) (reason : EndReason) :
    (e.record reason).2.map Notice.listener ++ (e.record reason).1.waiting = e.waiting := by
  unfold record
  split <;> simp [Function.comp_def]

theorem reason_record (e : Ending) (reason : EndReason) :
    (e.record reason).1.reason = some (e.reason.getD reason) := by
  unfold record
  split <;> simp_all

end Ending

end VisionMixer
