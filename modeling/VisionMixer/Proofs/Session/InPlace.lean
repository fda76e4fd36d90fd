/-
Events that change a session in place.

`handle` makes another session of the one it is given, or says why not. `drive` is a program for one session that is kept,
with the actions it has queued: it reads fields, checks what may be refused, and overwrites fields and queues actions one
after another. What it has done by the time it fails stays done (`Driving`).

`run_drive`: the program does what `handle` says, and if it fails, session and queue are those it found. A driver that
feeds it a whole history and shrugs at refusals ends where `run` does (`run_driveAll`).
-/
import VisionMixer.Proofs.Session.Run

namespace VisionMixer.Session

/-- a program that may fail, on a session and its queue of actions; what it has done by then stays -/
abbrev Driving := EStateM Error Step

namespace Driving

/-- fields overwritten -/
def write (f : Session → Session) : Driving Unit := modify fun s => (f s.1, s.2)

/-- actions queued -/
def queue (actions : List SessionAction) : Driving Unit := modify fun s => (s.1, s.2 ++ actions)

/-- something that must have a result -/
def require {α : Type} : Except Error α → Driving α
  | .ok x => pure x
  | .error error => throw error

/-- a condition under which nothing is done -/
def refuse (c : Prop) [Decidable c] (error : Error) : Driving Unit := if c then throw error else pure ()

/-- a program whose failure is nobody's concern -/
def shrug {α : Type} (x : Driving α) : Driving Unit := fun s =>
  match x s with
  | .ok _ t | .error _ t => .ok () t

/-- a step that cannot fail -/
def whole (f : Session → Step) : Driving (Option PacketId) := do
  modify fun s => s.next f
  return none

end Driving

open Driving

/-- the first connect request -/
def driveConnect (now : Instant) : Driving (Option PacketId) := do
  let m := (← get).1
  refuse m.startedAt.isSome (.transport .alreadyStarted)
  write fun m => { m with startedAt := some now }
  whole (·.sayHello now)

/-- a payload sent under the next id -/
def driveSend (payload : Bytes) (now : Instant) : Driving (Option PacketId) := do
  let m := (← get).1
  refuse m.phase.isTerminal .disconnected
  refuse (m.phase ≠ .live) (.transport (.notLive m.phase))
  let sessionId ← require (m.sessionId.elim (.error (.transport .noSessionId)) .ok)
  let id := m.nextLocalId
  let packet := Packet.data sessionId id payload
  let datagram ← require packet.encode
  write fun m => { m with nextLocalId := PacketId.next id }
  queue [.transmit datagram]
  write fun m => { m with inFlight := m.inFlight ++ [{ id, packet, sentAt := now, retransmits := 0 }] }
  return some id

/-- one event -/
def drive (e : SessionEvent) (now : Instant) : Driving (Option PacketId) :=
  match e with
  | .connect => driveConnect now
  | .datagram bytes => whole (·.receive bytes now)
  | .tick => whole (·.tick now)
  | .send payload => driveSend payload now
  | .initComplete => whole (·.initComplete)
  | .close => whole (·.close)
  | .socketFailed message => whole (·.terminate (.socketFailed message))

/-- a history; what is refused is left at that -/
def driveAll : List (SessionEvent × Instant) → Driving Unit
  | [] => pure ()
  | e :: events => do
    shrug (drive e.1 e.2)
    driveAll events

/-- how a program comes out that does what a reaction says, or fails before it has done anything -/
def driven (s : Step) : Except Error Reaction → EStateM.Result Error Step (Option PacketId)
  | .ok r => .ok r.id (r.session, s.2 ++ r.actions)
  | .error error => .error error s

/-! ### One event -/

section

variable {α β : Type} {s : Step} {c : Prop} [Decidable c] {error : Error} {f : α → Driving β}

theorem run_get {f : Step → Driving β} : ((get : Driving Step) >>= f).run s = (f s).run s := rfl

theorem run_refuse {f : Unit → Driving β} (hc : ¬c) : (refuse c error >>= f).run s = (f ()).run s := by
  rw [refuse, if_neg hc]
  rfl

theorem run_refused {f : Unit → Driving β} (hc : c) : (refuse c error >>= f).run s = .error error s := by
  rw [refuse, if_pos hc]
  rfl

theorem run_require {x : α} : (require (.ok x) >>= f).run s = (f x).run s := rfl

end

theorem run_driveConnect (s : Step) (now : Instant) : (driveConnect now).run s = driven s (s.1.connect now) := by
  obtain ⟨m, queued⟩ := s
  rw [driveConnect, run_get, connect]
  cases hs : m.startedAt with
  | none =>
    rw [run_refuse (by rw [hs]; decide)]
    rfl
  | some _ =>
    rw [run_refused (by rw [hs]; rfl)]
    rfl

theorem run_driveSend (s : Step) (payload : Bytes) (now : Instant) :
    (driveSend payload now).run s = driven s (s.1.send payload now) := by
  obtain ⟨m, queued⟩ := s
  rw [driveSend, run_get, send]
  by_cases hended : m.phase.isTerminal = true
  · rw [if_pos hended, run_refused hended]
    rfl
  by_cases hlive : m.phase ≠ .live
  · rw [if_neg hended, if_pos hlive, run_refuse hended, run_refused hlive]
    rfl
  rw [if_neg hended, if_neg hlive, run_refuse hended, run_refuse hlive]
  cases hs : m.sessionId with
  | none => rfl
  | some sessionId =>
    dsimp only [Option.elim]
    rw [run_require]
    cases hd : (Packet.data sessionId m.nextLocalId payload).encode with
    | error error => rfl
    | ok datagram =>
      rw [← hs]
      rfl

/-- **One event.** -/
theorem run_drive (s : Step) (e : SessionEvent) (now : Instant) : (drive e now).run s = driven s (s.1.handle e now) := by
  cases e with
  | connect => exact run_driveConnect s now
  | send payload => exact run_driveSend s payload now
  | _ => rfl

/-! ### A history -/

/-- an event after which a driver goes on, refused or not -/
theorem run_shrug (s : Step) (e : SessionEvent × Instant) :
    (shrug (drive e.1 e.2)).run s = .ok () (s.next fun m => m.step e) := by
  have hrun : drive e.1 e.2 s = driven s (s.1.handle e.1 e.2) := run_drive s e.1 e.2
  rw [EStateM.run, shrug, hrun]
  cases hh : s.1.handle e.1 e.2 with
  | ok r => simp only [driven, Step.next, step, hh]
  | error error => simp only [driven, Step.next, step, hh, still, List.append_nil]

/-- **A history in place.** A driver that goes on after a refusal ends with the session and the actions of the history. -/
theorem run_driveAll (s : Step) (events : List (SessionEvent × Instant)) :
    (driveAll events).run s = .ok () (s.next fun m => m.run events) := by
  induction events generalizing s with
  | nil => exact congrArg (EStateM.Result.ok ()) s.next_still.symm
  | cons e events ih =>
    have hfirst := run_shrug s e
    simp only [EStateM.run] at hfirst
    calc (driveAll (e :: events)).run s
        = (driveAll events).run (s.next fun m => m.step e) := by
          simp only [driveAll, EStateM.run, bind, EStateM.bind, hfirst]
      _ = .ok () ((s.next fun m => m.step e).next fun m => m.run events) := ih _
      _ = .ok () (s.next fun m => m.run (e :: events)) := by simp only [Step.next_assoc, run_cons]

end VisionMixer.Session
