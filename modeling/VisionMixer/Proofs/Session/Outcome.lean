/-
Every packet that a session sends has one outcome, in the order of sending.

`sentIds` are the ids under which the payloads of a history were sent. `Turn.conserves` is one event: what was in flight,
with the packet just sent, is what got an outcome followed by what is in flight now. `run_conserves` is the induction over
a history. `one_outcome_per_send`: the ids sent are those that were acknowledged or have failed, in that order, followed
by those in flight; they are 1, 2, 3, … in the id space; a send that is refused, by the program that sends in place, has
changed nothing; and after the end nothing is in flight, so that each packet has had its outcome.
-/
import VisionMixer.Proofs.Session.Delivery
import VisionMixer.Proofs.Session.InPlace
import VisionMixer.Proofs.Session.Turn

namespace VisionMixer.Session

open PacketId (wrap)

/-- the ids under which the payloads of a history were sent, in order -/
def sentIds (m : Session) : List (SessionEvent × Instant) → List PacketId
  | [] => []
  | e :: events => (m.id? e).toList ++ (m.step e).1.sentIds events

/-- the ids of the packets in flight, from the front on -/
def flying (m : Session) : List PacketId := m.inFlight.map (·.id)

/-! ### One event -/

variable {m : Session} {e : SessionEvent × Instant} {id : Option PacketId} {s : Step}

/-- packets in flight, and one that is sent, stay in flight or have their outcome, in order -/
theorem Turn.conserves (h : Turn m e id s) : m.flying ++ id.toList = outcomes s.2 ++ s.1.flying := by
  cases h with
  | starts _ _ =>
    have hout := (onlySends_sending (.hello m.helloId .request)).outcomes_eq
    rw [sayHello, hout]
    exact List.append_nil _
  | goes h _ _ => exact (List.append_nil _).trans h.kept.symm
  | advances h _ _ =>
    obtain ⟨sent, hsent, hactions⟩ := h.actions
    rw [hactions, outcomes_append, hsent.outcomes_eq, flying, flying, h.inFlight]
    exact List.append_nil _
  | sends _ _ _ =>
    rw [flying, flying, List.map_append]
    rfl
  | ends _ _ h =>
    obtain ⟨sent, hsent, hactions⟩ := h.actions
    have hlast : ∀ reason, outcomes (m.lastActions reason) = m.flying := by
      intro reason
      simp only [lastActions, outcomes, flying, List.filterMap_append, List.filterMap_cons, List.filterMap_map,
        List.filterMap_nil, SessionAction.outcome?, List.append_nil]
      exact congrFun List.filterMap_eq_map m.inFlight
    rw [hactions, outcomes_append, hsent.outcomes_eq, hlast, flying, flying, h.inFlight]
    rfl

/-- the counter moves on by the packet that is sent -/
theorem Turn.numbers (h : Turn m e id s) {n : Nat} (hn : m.nextLocalId = wrap n) :
    id.toList = (List.range' n id.toList.length).map wrap ∧ s.1.nextLocalId = wrap (n + id.toList.length) := by
  cases h with
  | starts _ _ => exact ⟨rfl, hn⟩
  | goes h _ _ => exact ⟨rfl, h.counter.trans hn⟩
  | advances h _ _ => exact ⟨rfl, h.counter.trans hn⟩
  | sends _ _ _ =>
    rw [hn, PacketId.next_wrap]
    exact ⟨rfl, rfl⟩
  | ends _ _ h => exact ⟨rfl, h.counter.trans hn⟩

/-- an ended session has nothing in flight -/
def Settled (m : Session) : Prop := m.phase.isTerminal = true → m.inFlight = []

theorem Turn.settled (h : Turn m e id s) (hm : Settled m) : Settled s.1 := by
  cases h with
  | starts _ _ => exact hm
  | goes h _ _ =>
    intro hp
    rw [h.phase] at hp
    have hk := h.kept
    rw [hm hp] at hk
    exact List.map_eq_nil_iff.1 (List.append_eq_nil_iff.1 hk).2
  | advances h _ _ => exact fun hp => absurd (h.lasting.symm.trans hp) (by simp)
  | sends _ hp _ =>
    intro ht
    have ht : m.phase.isTerminal = true := ht
    rw [hp] at ht
    exact absurd ht (by decide)
  | ends _ _ h => exact fun _ => h.inFlight

/-- a payload that can be sent now: the session is live and knows its id, and the payload fits into a datagram -/
structure Sendable (m : Session) (payload : Bytes) : Prop where
  live : m.phase = .live
  met : m.sessionId.isSome = true
  fits : Fits payload

theorem encode_ok_iff (p : Packet) : (∃ datagram, p.encode = .ok datagram) ↔ Fits p.payload := by
  unfold Packet.encode Fits
  dsimp only
  split_ifs with h
  · exact ⟨fun ⟨_, hd⟩ => absurd hd (by simp), fun hf => absurd hf (Nat.not_le.2 h)⟩
  · exact ⟨fun _ => Nat.not_lt.1 h, fun _ => ⟨_, rfl⟩⟩

theorem send_ok_iff (m : Session) (payload : Bytes) (now : Instant) :
    (∃ r, m.handle (.send payload) now = .ok r) ↔ Sendable m payload := by
  constructor
  · rintro ⟨r, hr⟩
    obtain ⟨sessionId, datagram, hlive, hmet, hd, -⟩ := send_eq hr
    exact ⟨hlive, by rw [hmet]; rfl, (encode_ok_iff _).1 ⟨datagram, hd⟩⟩
  · rintro ⟨hlive, hmet, hfits⟩
    obtain ⟨sessionId, hs⟩ := Option.isSome_iff_exists.1 hmet
    obtain ⟨datagram, hd⟩ := (encode_ok_iff (.data sessionId m.nextLocalId payload)).2 hfits
    have hp : ¬m.phase.isTerminal = true := by
      rw [hlive]
      decide
    show ∃ r, m.send payload now = .ok r
    unfold send
    rw [if_neg hp, if_neg (not_not.2 hlive), hs]
    dsimp only
    rw [hd]
    exact ⟨_, rfl⟩

/-! ### A history -/

theorem run_conserves (m : Session) (events : List (SessionEvent × Instant)) :
    m.flying ++ m.sentIds events = outcomes (m.run events).2 ++ (m.run events).1.flying := by
  induction events generalizing m with
  | nil => exact List.append_nil _
  | cons e events ih =>
    rw [run_cons]
    -- the packet that `e` sends joins those in flight before the rest of the history is counted
    calc m.flying ++ m.sentIds (e :: events)
        = (m.flying ++ (m.id? e).toList) ++ (m.step e).1.sentIds events := (List.append_assoc _ _ _).symm
      _ = outcomes (m.step e).2 ++ ((m.step e).1.flying ++ (m.step e).1.sentIds events) := by
          rw [(turn m e).conserves, List.append_assoc]
      _ = outcomes (m.step e).2 ++ (outcomes ((m.step e).1.run events).2 ++ ((m.step e).1.run events).1.flying) := by
          rw [ih]
      _ = outcomes ((m.step e).next fun m => m.run events).2 ++ ((m.step e).next fun m => m.run events).1.flying := by
          rw [Step.next, outcomes_append, List.append_assoc]

theorem run_numbers {m : Session} {n : Nat} (hn : m.nextLocalId = wrap n) (events : List (SessionEvent × Instant)) :
    m.sentIds events = (List.range' n (m.sentIds events).length).map wrap ∧
      (m.run events).1.nextLocalId = wrap (n + (m.sentIds events).length) := by
  induction events generalizing m n with
  | nil => exact ⟨rfl, hn⟩
  | cons e events ih =>
    obtain ⟨hid, hnext⟩ := (turn m e).numbers hn
    obtain ⟨hids, hlast⟩ := ih hnext
    rw [run_cons, sentIds, List.length_append]
    refine ⟨?_, ?_⟩
    · rw [← List.range'_append_1, List.map_append, ← hid, ← hids]
    · rw [Step.next, hlast, Nat.add_assoc]

/-- **One outcome for each packet.** After every history the packets sent so far are those with an outcome, in the order
in which the outcomes were told, followed by those in flight; their ids count up from 1 in the id space. A payload is
sent under the next id or, when it cannot be sent, changes nothing: the program that sends in place fails with the session
and the queue that it found. An ended session has nothing in flight. -/
theorem one_outcome_per_send (config : SessionConfig) (helloId : UInt16) (events : List (SessionEvent × Instant)) :
    let ids := (initial config helloId).sentIds events
    let s := (initial config helloId).run events
    ids = outcomes s.2 ++ s.1.flying ∧ ids = (List.range' 1 ids.length).map wrap ∧
      (∀ payload now, Sendable s.1 payload →
        ∃ r, s.1.handle (.send payload) now = .ok r ∧ r.id = some (wrap (ids.length + 1)) ∧
          (drive (.send payload) now).run s = .ok r.id (r.session, s.2 ++ r.actions)) ∧
      (∀ payload now, ¬Sendable s.1 payload →
        ∃ error, s.1.handle (.send payload) now = .error error ∧ s.1.step (.send payload, now) = s.1.still ∧
          (drive (.send payload) now).run s = .error error s) ∧
      (s.1.phase.isTerminal = true → s.1.inFlight = []) := by
  have hn : (initial config helloId).nextLocalId = wrap 1 := rfl
  have hsettled : Settled ((initial config helloId).run events).1 :=
    run_keeps (fun m e => (turn m e).settled) (fun _ => rfl) events
  obtain ⟨hids, hnext⟩ := run_numbers hn events
  refine ⟨run_conserves (initial config helloId) events, hids, ?_, ?_, hsettled⟩
  · intro payload now h
    obtain ⟨r, hr⟩ := (send_ok_iff _ payload now).2 h
    have hdrive := run_drive ((initial config helloId).run events) (.send payload) now
    rw [hr] at hdrive
    obtain ⟨sessionId, datagram, -, -, -, rfl⟩ := send_eq hr
    refine ⟨_, hr, ?_, hdrive⟩
    rw [hnext, Nat.add_comm]
  · intro payload now h
    cases hr : ((initial config helloId).run events).1.handle (.send payload) now with
    | ok r => exact absurd ((send_ok_iff _ payload now).1 ⟨r, hr⟩) h
    | error error =>
      have hdrive := run_drive ((initial config helloId).run events) (.send payload) now
      rw [hr] at hdrive
      exact ⟨error, rfl, (step_error hr).2, hdrive⟩

/-- three packets are sent and the first two acknowledged at once -/
def talk : List (SessionEvent × Instant) := [
  (.connect, 0), (.datagram (wire (.hello 5 .accepted)), 1), (.datagram (wire (.data 9 1 [])), 2), (.initComplete, 3),
  (.send [], 4), (.send [], 5), (.send [], 6), (.datagram (wire (.ack 9 2)), 7)]

theorem one_outcome_per_send_talk :
    let m := initial default 5
    (∃ r, (m.run talk).1.handle (.send []) 8 = .ok r ∧ r.id = some 4 ∧
        (drive (.send []) 8).run (m.run talk) = .ok r.id (r.session, (m.run talk).2 ++ r.actions)) ∧
      outcomes (m.run talk).2 = [1, 2] ∧ (m.run talk).1.flying = [3] ∧
      m.sentIds (talk ++ [(.close, 8)]) = [1, 2, 3] ∧ outcomes (m.run (talk ++ [(.close, 8)])).2 = [1, 2, 3] ∧
      (m.run (talk ++ [(.close, 8)])).1.inFlight = [] := by
  obtain ⟨-, -, hsend, -, -⟩ := one_outcome_per_send default 5 talk
  obtain ⟨-, -, -, -, hrest⟩ := one_outcome_per_send default 5 (talk ++ [(.close, 8)])
  have hfits : Fits [] := Nat.le_of_ble_eq_true rfl
  exact ⟨hsend [] 8 ⟨by decide, by decide, hfits⟩, by decide, by decide, by decide, by decide, hrest (by decide)⟩

end VisionMixer.Session
