/-
What a session makes of datagrams that are not its own.

A datagram is `Foreign` to a session if it cannot be read, or names neither the id of the session nor that of its hello
exchange. Packets of data are held against the session id (`receive_data_of_foreign`), hello packets are not
(`receiveHello_of_met`). `foreign_ignored_iff`: once a session knows its id, a foreign datagram is ignored unless it is of
the hello exchange and asks for a disconnect, which ends the session, or, in the handshake, accepts it once more, which
is acknowledged.
-/
import VisionMixer.Proofs.Session.Delivery
import VisionMixer.Proofs.Session.Turn

namespace VisionMixer.Session

/-- a datagram that cannot be read, or is neither of a session nor of its hello exchange -/
def Foreign (m : Session) (bytes : Bytes) : Prop :=
  ∀ p, Packet.decode bytes = .ok p → m.sessionId ≠ some p.header.sessionId ∧ m.helloId ≠ p.header.sessionId

/-! ### When the session id is known -/

/-- a session that still waits to be accepted does not know its id -/
def Unmet (m : Session) : Prop := m.phase = .connecting → m.sessionId = none

theorem Turn.unmet {m : Session} {e : SessionEvent × Instant} {id : Option PacketId} {s : Step} (h : Turn m e id s)
    (hm : Unmet m) : Unmet s.1 := by
  cases h with
  | starts _ _ => exact hm
  | goes h _ _ =>
    intro hp
    have hp : m.phase = .connecting := h.phase.symm.trans hp
    exact (h.unmet hp).trans (hm hp)
  | advances h _ _ =>
    intro hp
    have hlater := h.later
    rw [hp] at hlater
    exact absurd hlater (Nat.not_lt_zero _)
  | sends _ hlive _ => exact fun hp => absurd (hlive.symm.trans hp) (by decide)
  | ends _ _ h => exact fun hp => absurd (h.phase.symm.trans hp) (by decide)

/-! ### One datagram -/

/-- once accepted, a session heeds two kinds of hello packets, whatever session they name -/
theorem receiveHello_of_met {m : Session} (h : m.phase ≠ .connecting) (p : Packet) (now : Instant) :
    m.receiveHello p now =
      if p.connectCode? = some .disconnect then m.terminate .remoteClosed
      else if p.connectCode? = some .accepted ∧ m.phase = .handshaking then (m, sending (.ack p.header.sessionId 0))
      else m.still := by
  unfold receiveHello
  split
  case h_1 hphase _ => exact absurd hphase h
  case h_2 hphase hcode => rw [if_neg (by rw [hcode]; decide), if_pos ⟨hcode, hphase⟩]
  case h_3 hphase _ => exact absurd hphase h
  case h_4 hcode => rw [if_pos hcode]
  case h_5 hdisconnect _ haccepted _ => rw [if_neg hdisconnect, if_neg fun h => haccepted h.2 h.1]

/-- packets of data are only heeded under the id of the session -/
theorem receive_data_of_foreign {m : Session} {sessionId : UInt16} (hs : m.sessionId = some sessionId) {bytes : Bytes}
    {p : Packet} (hd : Packet.decode bytes = .ok p) (hf : p.header.flags.contains .hello = false)
    (hne : sessionId ≠ p.header.sessionId) (now : Instant) : m.receive bytes now = m.still := by
  have hr : m.recognize? p.header = none := by
    rw [recognize?, hs]
    exact if_neg fun he => hne he.symm
  unfold receive
  rw [hd]
  dsimp only
  rw [hf, hr]
  exact ite_self _

theorem receive_of_undecodable {m : Session} {bytes : Bytes} {error : Error} (hd : Packet.decode bytes = .error error)
    (now : Instant) : m.receive bytes now = m.still := by
  unfold receive
  rw [hd]
  exact ite_self _

/-- a foreign datagram does what its connect code asks for, if it has one -/
theorem receive_of_foreign {m : Session} (hmet : m.sessionId.isSome = true) (hunmet : Unmet m)
    (hp : m.phase.isTerminal = false) {bytes : Bytes} (hf : Foreign m bytes) (now : Instant) :
    ∃ sessionId, m.receive bytes now =
      if helloCode? bytes = some .disconnect then m.terminate .remoteClosed
      else if helloCode? bytes = some .accepted ∧ m.phase = .handshaking then (m, sending (.ack sessionId 0))
      else m.still := by
  obtain ⟨sessionId, hs⟩ := Option.isSome_iff_exists.1 hmet
  have hphase : m.phase ≠ .connecting := fun hc => by
    rw [hunmet hc] at hs
    cases hs
  cases hd : Packet.decode bytes with
  | error error =>
    have hcode : helloCode? bytes = none := by rw [helloCode?, hd]; rfl
    refine ⟨0, ?_⟩
    rw [receive_of_undecodable hd, hcode]
    rfl
  | ok p =>
    have hcode := helloCode?_eq hd
    refine ⟨p.header.sessionId, ?_⟩
    cases hflag : p.header.flags.contains .hello with
    | true =>
      have hr : m.receive bytes now = m.receiveHello p now := by
        simp only [receive, hp, hd, hflag, if_true, Bool.false_eq_true, if_false]
      rw [hr, hcode, receiveHello_of_met hphase]
    | false =>
      have hcode : helloCode? bytes = none := by
        rw [hcode, Packet.connectCode?, if_neg (by rw [hflag]; decide)]
      have hne : sessionId ≠ p.header.sessionId := fun he => (hf p hd).1 (hs.trans (congrArg some he))
      rw [receive_data_of_foreign hs hd hflag hne, hcode]
      rfl

/-- **Foreign datagrams.** A session knows its id and lasts. Of the datagrams that are foreign to it, it ignores all but
two kinds of hello packets: one asks for a disconnect and ends the session; the other accepts it in the handshake, and
gets an acknowledgement from a session that stays as it is. -/
theorem foreign_ignored_iff (config : SessionConfig) (helloId : UInt16) (events : List (SessionEvent × Instant))
    (hmet : ((initial config helloId).run events).1.sessionId.isSome = true)
    (hp : ((initial config helloId).run events).1.phase.isTerminal = false) {bytes : Bytes}
    (hf : Foreign ((initial config helloId).run events).1 bytes) (now : Instant) :
    let m := ((initial config helloId).run events).1
    (m.step (.datagram bytes, now) = m.still ↔
      helloCode? bytes ≠ some .disconnect ∧ ¬(helloCode? bytes = some .accepted ∧ m.phase = .handshaking)) ∧
    (helloCode? bytes ≠ some .disconnect →
      (m.step (.datagram bytes, now)).1 = m ∧ OnlySends (m.step (.datagram bytes, now)).2) ∧
    (helloCode? bytes = some .disconnect → m.step (.datagram bytes, now) = m.terminate .remoteClosed) := by
  have hunmet : Unmet ((initial config helloId).run events).1 :=
    run_keeps (fun m e => (turn m e).unmet) (fun _ => rfl) events
  obtain ⟨sessionId, hr⟩ := receive_of_foreign hmet hunmet hp hf now
  set m := ((initial config helloId).run events).1 with hm
  have hstep : m.step (.datagram bytes, now) = m.receive bytes now := rfl
  have hends : m.terminate .remoteClosed ≠ m.still := fun he => by
    have hphase := (ends_terminate hp .remoteClosed).phase
    rw [he] at hphase
    have hphase : m.phase = .disconnected := hphase
    rw [hphase] at hp
    cases hp
  have hanswers : (m, sending (.ack sessionId 0)) ≠ m.still := fun he => List.cons_ne_nil _ _ (congrArg Prod.snd he)
  dsimp only
  rw [hstep, hr]
  refine ⟨?_, fun hno => ?_, fun hyes => if_pos hyes⟩
  · split_ifs with hd ha
    · exact ⟨fun he => absurd he hends, fun h => absurd hd h.1⟩
    · exact ⟨fun he => absurd he hanswers, fun h => absurd ha h.2⟩
    · exact ⟨fun _ => ⟨hd, ha⟩, fun _ => rfl⟩
  · rw [if_neg hno]
    split_ifs
    · exact ⟨rfl, onlySends_sending (.ack sessionId 0)⟩
    · exact ⟨rfl, .nil⟩

/-- a live session with id 9 and a hello exchange under id 5 -/
def lively : List (SessionEvent × Instant) := [
  (.connect, 0), (.datagram (wire (.hello 5 .accepted)), 1), (.datagram (wire (.data 9 1 [])), 2), (.initComplete, 3)]

/-- a disconnect in the name of session 66 ends it, an acknowledgement in that name is ignored -/
theorem foreign_disconnect_ends :
    let m := ((initial default 5).run lively).1
    m.sessionId = some 9 ∧ m.phase = .live ∧
      m.step (.datagram (wire (.hello 66 .disconnect)), 4) = m.terminate .remoteClosed ∧
      m.step (.datagram (wire (.ack 66 0)), 4) = m.still := by
  have hforeign (q : Packet) (hq : (Packet.decode (wire q)).toOption.map (·.header.sessionId) = some 66) :
      Foreign ((initial default 5).run lively).1 (wire q) := by
    intro p hp
    rw [hp] at hq
    have hid : p.header.sessionId = 66 := Option.some.inj hq
    rw [hid]
    exact ⟨by decide, by decide⟩
  obtain ⟨-, -, hends⟩ := foreign_ignored_iff default 5 lively (by decide) (by decide)
    (hforeign (.hello 66 .disconnect) (by decide)) 4
  obtain ⟨hignored, -, -⟩ := foreign_ignored_iff default 5 lively (by decide) (by decide)
    (hforeign (.ack 66 0) (by decide)) 4
  exact ⟨by decide, by decide, hends (by decide), hignored.2 ⟨by decide, by decide⟩⟩

end VisionMixer.Session
