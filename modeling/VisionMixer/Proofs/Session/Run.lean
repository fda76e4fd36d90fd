/-
Histories of a session: `run` taken apart at any point, and what its actions deliver.
-/
import VisionMixer.Session.Handle

namespace VisionMixer

theorem Step.next_assoc (s : Step) (f g : Session → Step) : (s.next f).next g = s.next fun m => (f m).next g := by
  simp [Step.next]

theorem Step.next_still (s : Step) : s.next Session.still = s := by
  simp [Step.next, Session.still]

/-- the record lists that actions deliver, in order -/
def deliveries (actions : List SessionAction) : List (List Record) :=
  actions.filterMap fun
    | .deliver records => some records
    | _ => none

@[simp] theorem deliveries_nil : deliveries [] = [] := rfl

@[simp] theorem deliveries_append (a b : List SessionAction) : deliveries (a ++ b) = deliveries a ++ deliveries b :=
  List.filterMap_append

namespace Session

theorem foldl_step (s : Step) (events : List (SessionEvent × Instant)) :
    events.foldl (fun s e => s.next fun m => m.step e) s = s.next fun m => m.run events := by
  induction events generalizing s with
  | nil => exact s.next_still.symm
  | cons e events ih =>
    have hrun : ∀ m : Session, m.run (e :: events) = (m.step e).next fun m => m.run events := by
      intro m
      rw [run, List.foldl_cons, ih]
      simp [Step.next, still]
    rw [List.foldl_cons, ih, Step.next_assoc]
    simp only [hrun]

theorem run_nil (m : Session) : m.run [] = m.still := rfl

theorem run_append (m : Session) (before after : List (SessionEvent × Instant)) :
    m.run (before ++ after) = (m.run before).next fun m => m.run after := by
  rw [run, List.foldl_append]
  exact foldl_step _ after

theorem run_singleton (m : Session) (e : SessionEvent × Instant) : m.run [e] = m.step e := by
  simp [run, Step.next, still]

theorem run_cons (m : Session) (e : SessionEvent × Instant) (events : List (SessionEvent × Instant)) :
    m.run (e :: events) = (m.step e).next fun m => m.run events := by
  rw [← List.singleton_append, run_append, run_singleton]

/-- what every event keeps is kept by every history -/
theorem run_keeps {P : Session → Prop} (hstep : ∀ m e, P m → P (m.step e).1) {m : Session} (hm : P m)
    (events : List (SessionEvent × Instant)) : P (m.run events).1 := by
  induction events generalizing m with
  | nil => exact hm
  | cons e events ih =>
    rw [run_cons]
    exact ih (hstep m e hm)

end Session

end VisionMixer
