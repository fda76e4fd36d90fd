/-
What a session does after its end.

An ended session answers no event, with one exception (`Turn.of_ended`): a session that ended before it was started can
still be started, and then says hello. `run_of_ended_started` and `run_of_ended_unstarted` are the two kinds of history.
`silent_after_end_iff_started`: after the end the phase, the deadlines and the answer to sends stay what they are, and
nothing is said but that hello.
-/
import VisionMixer.Proofs.Session.Turn

namespace VisionMixer

/-- the request to start a session -/
def SessionEvent.isConnect : SessionEvent → Bool
  | .connect => true
  | _ => false

/-- a history asks to start the session -/
def connects (events : List (SessionEvent × Instant)) : Bool := events.any (·.1.isConnect)

namespace Session

variable {m : Session} {e : SessionEvent × Instant} {id : Option PacketId} {s : Step}

/-! ### One event -/

/-- an ended session rests, unless it is only now started -/
theorem Turn.of_ended (h : Turn m e id s) (hp : m.phase.isTerminal = true) :
    s = m.still ∨ e.1 = .connect ∧ m.startedAt = none ∧ s = { m with startedAt := some e.2 }.sayHello e.2 := by
  cases h with
  | starts he hs => exact .inr ⟨he, hs, rfl⟩
  | goes _ hrest _ => exact .inl (hrest hp)
  | advances _ h _ => exact absurd (hp.symm.trans h) (by simp)
  | sends _ h _ =>
    rw [h] at hp
    exact absurd hp (by decide)
  | ends h _ _ => exact absurd (hp.symm.trans h) (by simp)

theorem step_of_unstarted (hs : m.startedAt = none) (he : e.1 = .connect) :
    m.step e = { m with startedAt := some e.2 }.sayHello e.2 := by
  unfold step handle connect
  rw [he]
  dsimp only
  rw [hs]
  rfl

/-- the start of a session is on record from the first request on -/
theorem isSome_startedAt_step (m : Session) (e : SessionEvent × Instant) :
    (m.step e).1.startedAt.isSome = (m.startedAt.isSome || e.1.isConnect) := by
  by_cases hfirst : m.startedAt = none ∧ e.1 = .connect
  · obtain ⟨hs, he⟩ := hfirst
    rw [step_of_unstarted hs he, he]
    simp [sayHello, SessionEvent.isConnect]
  · have hsame : (m.startedAt.isSome || e.1.isConnect) = m.startedAt.isSome := by
      cases hs : m.startedAt with
      | some _ => rfl
      | none =>
        cases he : e.1 with
        | connect => exact absurd ⟨hs, he⟩ hfirst
        | _ => rfl
    rw [hsame]
    have h := turn m e
    generalize m.id? e = id, m.step e = s at h
    cases h with
    | starts he hs => exact absurd ⟨hs, he⟩ hfirst
    | goes h _ _ => rw [h.started]
    | advances h _ _ => rw [h.started]
    | sends _ _ _ => rfl
    | ends _ _ h => rw [h.started]

theorem Turn.helloId_eq (h : Turn m e id s) : s.1.helloId = m.helloId := by
  cases h with
  | starts _ _ => rfl
  | goes h _ _ => exact h.hello
  | advances h _ _ => exact h.hello
  | sends _ _ _ => rfl
  | ends _ _ h => exact h.hello

theorem deadline_of_ended (hp : m.phase.isTerminal = true) : m.deadline = none := if_pos hp

theorem send_of_ended (hp : m.phase.isTerminal = true) (payload : Bytes) (now : Instant) :
    m.handle (.send payload) now = .error .disconnected := if_pos hp

/-! ### A history -/

theorem isSome_startedAt_run (m : Session) (events : List (SessionEvent × Instant)) :
    (m.run events).1.startedAt.isSome = (m.startedAt.isSome || connects events) := by
  induction events generalizing m with
  | nil => exact (Bool.or_false _).symm
  | cons e events ih =>
    rw [run_cons]
    exact (ih (m.step e).1).trans (by rw [isSome_startedAt_step, Bool.or_assoc, connects, connects, List.any_cons])

theorem helloId_run (m : Session) (events : List (SessionEvent × Instant)) : (m.run events).1.helloId = m.helloId :=
  run_keeps (fun m' e h => (turn m' e).helloId_eq.trans h) rfl events

theorem next_of_still {f : Session → Step} (h : f m = m.still) : m.still.next f = m.still := by
  rw [Step.next, show m.still.1 = m from rfl, h]
  rfl

/-- an ended session that was started takes no notice of anything -/
theorem run_of_ended_started (hp : m.phase.isTerminal = true) (hs : m.startedAt.isSome = true)
    (events : List (SessionEvent × Instant)) : m.run events = m.still := by
  induction events with
  | nil => rfl
  | cons e events ih =>
    rcases (turn m e).of_ended hp with hstill | ⟨-, hnone, -⟩
    · rw [run_cons, hstill]
      exact next_of_still ih
    · rw [hnone] at hs
      cases hs

/-- an ended session that was never started says hello when it is, and takes no notice of anything else -/
theorem run_of_ended_unstarted (hp : m.phase.isTerminal = true) (hs : m.startedAt = none)
    (events : List (SessionEvent × Instant)) :
    if connects events then ∃ now, m.run events = { m with startedAt := some now }.sayHello now
    else m.run events = m.still := by
  induction events with
  | nil => rfl
  | cons e events ih =>
    have hcons : connects (e :: events) = (e.1.isConnect || connects events) := rfl
    rw [run_cons, hcons]
    cases he : e.1.isConnect with
    | true =>
      have he : e.1 = .connect := by
        cases h : e.1 <;> rw [h] at he <;> first | rfl | cases he
      rw [step_of_unstarted hs he]
      refine ⟨e.2, ?_⟩
      -- saying hello puts the start on record, and from then on the session is one that was started
      have hrest := run_of_ended_started (m := ({ m with startedAt := some e.2 }.sayHello e.2).1) hp rfl events
      rw [Step.next, hrest]
      exact congrArg (Prod.mk _) (List.append_nil _)
    | false =>
      rcases (turn m e).of_ended hp with hstill | ⟨hc, -, -⟩
      · rw [hstill, Bool.false_or]
        have hsame : m.still.next (fun m => m.run events) = m.run events := by
          simp [Step.next, still]
        rw [hsame]
        exact ih
      · rw [hc] at he
        cases he

/-- **After the end.** A session that was started before it ended is silent for good. One that ended before it was
started says hello if it is started after all, once, and nothing else. In any case the session stays as ended as it is:
it keeps its phase, needs no tick and refuses every payload. -/
theorem silent_after_end_iff_started (config : SessionConfig) (helloId : UInt16)
    {before : List (SessionEvent × Instant)} (h : ((initial config helloId).run before).1.phase = .disconnected)
    (after : List (SessionEvent × Instant)) :
    let m := ((initial config helloId).run before).1
    let s := m.run after
    s.1.phase = .disconnected ∧ s.1.deadline = m.deadline ∧
      (∀ payload now, s.1.handle (.send payload) now = .error .disconnected) ∧
      s.2 = if connects before || !connects after then [] else sending (.hello helloId .request) := by
  set m := ((initial config helloId).run before).1 with hm
  have hp : m.phase.isTerminal = true := by rw [h]; rfl
  have hstarted : m.startedAt.isSome = connects before := isSome_startedAt_run (initial config helloId) before
  have hhello : m.helloId = helloId := helloId_run (initial config helloId) before
  -- whatever is said, the phase is the old one
  suffices hs : (m.run after).1.phase = m.phase ∧
      (m.run after).2 = if connects before || !connects after then [] else sending (.hello helloId .request) by
    obtain ⟨hphase, hactions⟩ := hs
    have hp' : (m.run after).1.phase.isTerminal = true := by rw [hphase]; exact hp
    exact ⟨hphase.trans h, by rw [deadline_of_ended hp, deadline_of_ended hp'], send_of_ended hp', hactions⟩
  cases hb : connects before with
  | true =>
    rw [run_of_ended_started hp (hstarted.trans hb)]
    exact ⟨rfl, rfl⟩
  | false =>
    have hnone : m.startedAt = none := by
      rw [hb] at hstarted
      exact Option.not_isSome_iff_eq_none.1 (by rw [hstarted]; decide)
    have hrun := run_of_ended_unstarted hp hnone after
    cases ha : connects after with
    | true =>
      rw [if_pos ha] at hrun
      obtain ⟨now, hrun⟩ := hrun
      rw [hrun, ← hhello]
      exact ⟨rfl, rfl⟩
    | false =>
      rw [if_neg (by rw [ha]; decide)] at hrun
      rw [hrun]
      exact ⟨rfl, rfl⟩

/-- a session that is closed before it is started says hello when it is -/
theorem hello_after_early_close :
    ((initial default 5).run [(.close, 0)]).1.phase = .disconnected ∧
      (((initial default 5).run [(.close, 0)]).1.run [(.tick, 1), (.connect, 2), (.connect, 3)]).2 =
        [.transmit [0x10, 0x14, 0, 5, 0, 0, 0, 0, 0, 0, 0, 0, 1, 0, 0, 0, 0, 0, 0, 0]] := by
  have h : ((initial default 5).run [(.close, 0)]).1.phase = .disconnected := by decide
  exact ⟨h, (silent_after_end_iff_started default 5 h [(.tick, 1), (.connect, 2), (.connect, 3)]).2.2.2⟩

end Session

end VisionMixer
