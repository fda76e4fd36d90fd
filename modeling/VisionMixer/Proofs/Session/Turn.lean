/-
What one event can do to the life of a session and to the packets it has in flight.

`Turn` lists the possibilities and `turn` says that there are no others: the session is started, goes on as it was
(`Steady`), reaches a later phase (`Advances`), sends a packet, or ends (`Ends`). `trigger?` is the cause, if an event is
one, for which a session that has not ended ends; it is said without the handlers. The theory of whole histories (their
outcomes, their one end, the silence after it) follows from `turn` and opens no handler again.
-/
import VisionMixer.Proofs.Session.Quiet
import VisionMixer.Proofs.Session.Report

namespace VisionMixer

/-- the place of a phase in a life -/
def Phase.rank (p : Phase) : Nat := Phase.all.idxOf p

/-- the connect code of a datagram of the hello exchange -/
def helloCode? (bytes : Bytes) : Option ConnectCode := (Packet.decode bytes).toOption.bind Packet.connectCode?

namespace Session

/-- the id under which an event has sent a payload -/
def id? (m : Session) (e : SessionEvent × Instant) : Option PacketId := (m.handle e.1 e.2).toOption.bind (·.id)

/-- the reason for which an instant ends a session whose handshake is not late -/
def lapse? (m : Session) (now : Instant) : Option EndReason :=
  if isDue now m.keepaliveDeadline then some .keepaliveTimeout
  else if m.isExhausted now then some .retransmitExhausted
  else none

/-- the reason for which an event ends a session that has not ended yet -/
def trigger? (m : Session) (e : SessionEvent × Instant) : Option EndReason :=
  match e.1 with
  | .close => some .closed
  | .socketFailed message => some (.socketFailed message)
  | .datagram bytes =>
    if helloCode? bytes = some .disconnect then some .remoteClosed
    else if helloCode? bytes = some .refused ∧ m.phase = .connecting then some .refused
    else none
  | .tick => if isDue e.2 m.handshakeDeadline then some .handshakeTimeout else m.lapse? e.2
  | .connect | .send _ | .initComplete => none

/-- what a session says as it ends: what is in flight has failed, then the reason -/
def lastActions (m : Session) (reason : EndReason) : List SessionAction :=
  .phaseChanged .disconnecting :: m.inFlight.map (.sendFailed ·.id) ++ [.disconnected reason, .phaseChanged .disconnected]

/-- a session that says hello as before, was started as before and numbers its packets as before; before the handshake
it learns no id -/
structure Continues (m : Session) (s : Step) : Prop where
  hello : s.1.helloId = m.helloId
  started : s.1.startedAt = m.startedAt
  counter : s.1.nextLocalId = m.nextLocalId
  unmet : m.phase = .connecting → s.1.sessionId = m.sessionId

/-- a step in the middle of a life: what leaves the packets in flight is acknowledged, from the front on -/
structure Steady (m : Session) (s : Step) : Prop extends Continues m s where
  phase : s.1.phase = m.phase
  routine : ∀ a ∈ s.2, a.isRoutine = true
  kept : outcomes s.2 ++ s.1.inFlight.map (·.id) = m.inFlight.map (·.id)

/-- a step to a later phase, which is not yet the end -/
structure Advances (m : Session) (s : Step) : Prop extends Continues m s where
  later : m.phase.rank < s.1.phase.rank
  lasting : s.1.phase.isTerminal = false
  inFlight : s.1.inFlight = m.inFlight
  actions : ∃ sent, OnlySends sent ∧ s.2 = sent ++ [.phaseChanged s.1.phase]

/-- the step that ends a session, perhaps after a word to the device -/
structure Ends (m : Session) (reason : EndReason) (s : Step) : Prop extends Continues m s where
  phase : s.1.phase = .disconnected
  inFlight : s.1.inFlight = []
  actions : ∃ sent, OnlySends sent ∧ s.2 = sent ++ m.lastActions reason

theorem Continues.refl (m : Session) (actions : List SessionAction) : Continues m (m, actions) :=
  ⟨rfl, rfl, rfl, fun _ => rfl⟩

/-! ### Steady steps -/

/-- actions that only send, without any change that counts -/
theorem Steady.of_sent {m : Session} {s : Step} (h : Continues m s) (hp : s.1.phase = m.phase)
    (hf : s.1.inFlight.map (·.id) = m.inFlight.map (·.id)) (hs : OnlySends s.2) : Steady m s where
  toContinues := h
  phase := hp
  routine := hs.routine
  kept := by rw [hs.outcomes_eq, List.nil_append, hf]

theorem Steady.still (m : Session) : Steady m m.still := .of_sent (.refl m []) rfl rfl .nil

theorem Steady.then {m : Session} {s : Step} {f : Session → Step} (h : Steady m s) (hf : Steady s.1 (f s.1)) :
    Steady m (s.next f) where
  hello := hf.hello.trans h.hello
  started := hf.started.trans h.started
  counter := hf.counter.trans h.counter
  unmet := fun hm => (hf.unmet (h.phase.trans hm)).trans (h.unmet hm)
  phase := hf.phase.trans h.phase
  routine := by
    intro a ha
    rcases List.mem_append.1 ha with ha | ha
    · exact h.routine a ha
    · exact hf.routine a ha
  kept := by
    dsimp only [Step.next]
    rw [outcomes_append, List.append_assoc, hf.kept, h.kept]

theorem Steady.when {m : Session} {s : Step} (h : Steady m s) (c : Prop) [Decidable c] :
    Steady m (if c then s else m.still) := by
  split
  · exact h
  · exact .still m

theorem outcomes_acknowledged (packets : List InFlight) :
    outcomes (packets.map (.acknowledged ·.id)) = packets.map (·.id) := by
  rw [outcomes, List.filterMap_map]
  exact congrFun List.filterMap_eq_map packets

theorem steady_acknowledge (m : Session) (id : PacketId) : Steady m (m.acknowledge id) where
  toContinues := ⟨rfl, rfl, rfl, fun _ => rfl⟩
  phase := rfl
  routine := by
    intro a ha
    obtain ⟨p, -, rfl⟩ := List.mem_map.1 ha
    rfl
  kept := by
    dsimp only [acknowledge]
    rw [outcomes_acknowledged, ← List.map_append, List.takeWhile_append_dropWhile]

theorem steady_resendFrom (m : Session) (id : PacketId) (now : Instant) : Steady m (m.resendFrom id now) := by
  refine .of_sent ⟨rfl, rfl, rfl, fun _ => rfl⟩ rfl ?_ (onlySends_sendingAll _)
  dsimp only [resendFrom]
  rw [List.map_map]
  refine List.map_congr_left fun p _ => ?_
  dsimp only [Function.comp]
  split <;> rfl

theorem steady_resendDue (m : Session) (now : Instant) : Steady m (m.resendDue now) := by
  refine .of_sent ⟨rfl, rfl, rfl, fun _ => rfl⟩ rfl ?_ (onlySends_sendingAll _)
  dsimp only [resendDue]
  rw [List.map_map]
  refine List.map_congr_left fun p _ => ?_
  dsimp only [Function.comp]
  split <;> rfl

theorem steady_heed (m : Session) (p : Packet) (now : Instant) : Steady m (m.heed p now) :=
  ((steady_acknowledge m _).when _).then ((steady_resendFrom _ _ now).when _)

theorem isRoutine_of_mem_delivery {payload : Bytes} {a : SessionAction} (h : a ∈ delivery payload) :
    a.isRoutine = true := by
  unfold delivery at h
  split_ifs at h
  · cases h
  · split at h
    · rw [List.mem_singleton.1 h]
      rfl
    · cases h

theorem outcomes_delivery (payload : Bytes) : outcomes (delivery payload) = [] := by
  unfold delivery
  split_ifs
  · rfl
  · split <;> rfl

theorem steady_take (m : Session) (payload : Bytes) : Steady m (m.take payload) where
  toContinues := ⟨rfl, rfl, rfl, fun _ => rfl⟩
  phase := rfl
  routine := fun _ ha => isRoutine_of_mem_delivery ha
  kept := by
    dsimp only [take]
    rw [outcomes_delivery, List.nil_append]

theorem steady_drain (fuel : Nat) (m : Session) : Steady m (drain fuel m) := by
  induction fuel generalizing m with
  | zero => exact .still m
  | succ fuel ih =>
    unfold drain
    split
    · exact .still m
    · rename_i payload _
      have h := steady_take { m with reorder := m.reorder.erase m.nextRemoteId } payload
      exact Steady.then ⟨⟨h.hello, h.started, h.counter, h.unmet⟩, h.phase, h.routine, h.kept⟩ (ih _)

theorem onlySends_acknowledgement (m : Session) : OnlySends m.acknowledgement := by
  unfold acknowledgement
  split
  · exact onlySends_sending _
  · exact .nil

theorem onlySends_complaint (m : Session) : OnlySends m.complaint := by
  unfold complaint
  split
  · exact onlySends_sending _
  · exact .nil

/-- a packet that is held, or not, changes nothing else -/
theorem hold_eq (m : Session) (id : PacketId) (payload : Bytes) :
    ∃ reorder, m.hold id payload = { m with reorder } := by
  unfold hold
  split
  · exact ⟨_, rfl⟩
  · exact ⟨m.reorder, rfl⟩

theorem steady_sequence (m : Session) (id : PacketId) (payload : Bytes) : Steady m (m.sequence id payload) := by
  unfold sequence
  split_ifs
  · refine ((steady_take m payload).then (steady_drain _ _)).then ?_
    exact .of_sent (.refl _ _) rfl rfl (onlySends_acknowledgement _)
  · exact .of_sent (.refl _ _) rfl rfl (onlySends_acknowledgement m)
  · obtain ⟨reorder, h⟩ := hold_eq m id payload
    rw [h]
    exact .of_sent ⟨rfl, rfl, rfl, fun _ => rfl⟩ rfl rfl (onlySends_complaint m)

/-- data of a session of its own; the id is learnt in the handshake -/
theorem steady_receiveData {m m' : Session} {p : Packet} (hm : m.recognize? p.header = some m') (now : Instant) :
    Steady m (m'.receiveData p now) := by
  -- only a handshake learns the id, so before it `recognize?` changes nothing
  have hunmet : m.phase = .connecting → m'.sessionId = m.sessionId := by
    intro hphase
    unfold recognize? at hm
    split at hm
    · split_ifs at hm
      cases hm
      rfl
    · rw [if_neg (by rw [hphase]; decide)] at hm
      cases hm
  have h : Steady { m' with lastReceived := some now } (m'.receiveData p now) := by
    rw [receiveData_eq]
    exact (steady_heed _ p now).then ((steady_sequence _ _ _).when _)
  have hm' := recognize_eq hm
  rw [hm'] at h hunmet ⊢
  exact ⟨⟨h.hello, h.started, h.counter, fun hp => (h.unmet hp).trans (hunmet hp)⟩, h.phase, h.routine, h.kept⟩

/-! ### The end -/

theorem ends_terminate {m : Session} (h : m.phase.isTerminal = false) (reason : EndReason) :
    Ends m reason (m.terminate reason) := by
  unfold terminate
  rw [if_neg (by rw [h]; decide)]
  exact ⟨⟨rfl, rfl, rfl, fun _ => rfl⟩, rfl, rfl, [], .nil, rfl⟩

/-- a word to the device before the end -/
theorem Ends.after {m : Session} {s : Step} {reason : EndReason} {f : Session → Step} (h : Steady m s)
    (hs : OnlySends s.2) (hf : s.1.inFlight = m.inFlight) (he : Ends s.1 reason (f s.1)) :
    Ends m reason (s.next f) where
  hello := he.hello.trans h.hello
  started := he.started.trans h.started
  counter := he.counter.trans h.counter
  unmet := fun hm => (he.unmet (h.phase.trans hm)).trans (h.unmet hm)
  phase := he.phase
  inFlight := he.inFlight
  actions := by
    obtain ⟨sent, hsent, hactions⟩ := he.actions
    refine ⟨s.2 ++ sent, hs.append hsent, ?_⟩
    dsimp only [Step.next]
    rw [hactions, List.append_assoc, lastActions, lastActions, hf]

theorem ends_close {m : Session} (h : m.phase.isTerminal = false) : Ends m .closed m.close := by
  have hsent : OnlySends
      (if m.startedAt.isSome then sending (.hello (m.sessionId.getD m.helloId) .disconnect) else []) := by
    split_ifs
    · exact onlySends_sending _
    · exact .nil
  unfold close
  rw [if_neg (by rw [h]; decide)]
  exact Ends.after (.of_sent (.refl m _) rfl rfl hsent) hsent rfl (ends_terminate h .closed)

/-! ### One event -/

/-- what an event can do to a session, and the id under which it sends -/
inductive Turn (m : Session) (e : SessionEvent × Instant) : Option PacketId → Step → Prop
  /-- the session is started and says hello -/
  | starts (he : e.1 = .connect) (hs : m.startedAt = none) :
    Turn m e none ({ m with startedAt := some e.2 }.sayHello e.2)
  /-- life goes on, or nothing happens after the end -/
  | goes {s : Step} (h : Steady m s) (hrest : m.phase.isTerminal = true → s = m.still)
    (ht : m.phase.isTerminal = false → m.trigger? e = none) : Turn m e none s
  /-- a later phase is reached -/
  | advances {s : Step} (h : Advances m s) (hp : m.phase.isTerminal = false) (ht : m.trigger? e = none) : Turn m e none s
  /-- a packet is sent and in flight -/
  | sends {payload datagram : Bytes} {packet : Packet} (he : e.1 = .send payload) (hp : m.phase = .live)
    (ht : m.trigger? e = none) :
    Turn m e (some m.nextLocalId)
      ({ m with
        nextLocalId := PacketId.next m.nextLocalId
        inFlight := m.inFlight ++ [⟨m.nextLocalId, packet, e.2, 0⟩] }, [.transmit datagram])
  /-- the session ends -/
  | ends {s : Step} {reason : EndReason} (hp : m.phase.isTerminal = false) (ht : m.trigger? e = some reason)
    (h : Ends m reason s) : Turn m e none s

/-- a session that has ended rests -/
theorem Turn.rest {m : Session} {e : SessionEvent × Instant} (hp : m.phase.isTerminal = true) : Turn m e none m.still :=
  .goes (.still m) (fun _ => rfl) fun h => absurd (hp.symm.trans h) (by simp)

/-- an event that is nothing to a session -/
theorem Turn.idle {m : Session} {e : SessionEvent × Instant} (ht : m.trigger? e = none) : Turn m e none m.still :=
  .goes (.still m) (fun _ => rfl) fun _ => ht

/-- a step in the middle of a life -/
theorem Turn.of_steady {m : Session} {e : SessionEvent × Instant} {s : Step} (hp : m.phase.isTerminal = false)
    (ht : m.trigger? e = none) (h : Steady m s) : Turn m e none s :=
  .goes h (fun hterm => absurd (hp.symm.trans hterm) (by simp)) fun _ => ht

/-- a step that ends a session for the reason of its event, unless it has ended -/
theorem turn_of_ends {m : Session} {e : SessionEvent × Instant} {reason : EndReason} {s : Step}
    (ht : m.trigger? e = some reason) (hstill : m.phase.isTerminal = true → s = m.still)
    (h : m.phase.isTerminal = false → Ends m reason s) : Turn m e none s := by
  cases hp : m.phase.isTerminal with
  | true =>
    rw [hstill hp]
    exact .rest hp
  | false => exact .ends hp ht (h hp)

theorem terminate_of_isTerminal {m : Session} (h : m.phase.isTerminal = true) (reason : EndReason) :
    m.terminate reason = m.still := if_pos h

theorem step_ok {m : Session} {e : SessionEvent × Instant} {r : Reaction} (h : m.handle e.1 e.2 = .ok r) :
    m.id? e = r.id ∧ m.step e = (r.session, r.actions) := by
  rw [id?, step, h]
  exact ⟨rfl, rfl⟩

theorem step_error {m : Session} {e : SessionEvent × Instant} {error : Error} (h : m.handle e.1 e.2 = .error error) :
    m.id? e = none ∧ m.step e = m.still := by
  rw [id?, step, h]
  exact ⟨rfl, rfl⟩

theorem turn_connect (m : Session) (now : Instant) :
    Turn m (.connect, now) (m.id? (.connect, now)) (m.step (.connect, now)) := by
  have ht : m.trigger? (.connect, now) = none := rfl
  unfold id? step handle connect
  cases hs : m.startedAt with
  | none => exact .starts rfl hs
  | some _ => exact .idle ht

theorem turn_send (m : Session) (payload : Bytes) (now : Instant) :
    Turn m (.send payload, now) (m.id? (.send payload, now)) (m.step (.send payload, now)) := by
  have ht : m.trigger? (.send payload, now) = none := rfl
  cases hr : m.handle (.send payload) now with
  | error error =>
    obtain ⟨hid, hstep⟩ := step_error (e := (.send payload, now)) hr
    rw [hid, hstep]
    exact .idle ht
  | ok r =>
    obtain ⟨hid, hstep⟩ := step_ok (e := (.send payload, now)) hr
    obtain ⟨sessionId, datagram, hlive, -, -, rfl⟩ := send_eq hr
    rw [hid, hstep]
    exact .sends rfl hlive ht

theorem turn_initComplete (m : Session) (now : Instant) : Turn m (.initComplete, now) none m.initComplete := by
  have ht : m.trigger? (.initComplete, now) = none := rfl
  unfold initComplete
  split_ifs with hp
  · have henter : m.enter .live = ({ m with phase := .live }, [.phaseChanged .live]) := if_neg (by rw [hp]; decide)
    have hlater : m.phase.rank < Phase.live.rank := by
      rw [hp]
      decide
    rw [henter]
    exact .advances ⟨⟨rfl, rfl, rfl, fun _ => rfl⟩, hlater, rfl, rfl, [], .nil, rfl⟩ (by rw [hp]; rfl) ht
  · exact .idle ht

theorem helloCode?_eq {bytes : Bytes} {p : Packet} (h : Packet.decode bytes = .ok p) :
    helloCode? bytes = p.connectCode? := by
  rw [helloCode?, h]
  rfl

theorem turn_receiveHello {m : Session} (hp : m.phase.isTerminal = false) {bytes : Bytes} {p : Packet}
    (h : Packet.decode bytes = .ok p) (now : Instant) :
    Turn m (.datagram bytes, now) none (m.receiveHello p now) := by
  have hcode := helloCode?_eq h
  unfold receiveHello
  split
  case h_1 hphase hc =>
    have ht : m.trigger? (.datagram bytes, now) = none := by simp [trigger?, hcode, hc]
    have hlater : m.phase.rank < Phase.handshaking.rank := by
      rw [hphase]
      decide
    exact .advances ⟨⟨rfl, rfl, rfl, fun _ => rfl⟩, hlater, rfl, rfl, _, onlySends_sending _, rfl⟩ hp ht
  case h_2 hc =>
    have ht : m.trigger? (.datagram bytes, now) = none := by simp [trigger?, hcode, hc]
    exact .of_steady hp ht (.of_sent (.refl m _) rfl rfl (onlySends_sending (.ack p.header.sessionId 0)))
  case h_3 hphase hc =>
    have ht : m.trigger? (.datagram bytes, now) = some .refused := by simp [trigger?, hcode, hc, hphase]
    exact .ends hp ht (ends_terminate hp .refused)
  case h_4 hc =>
    have ht : m.trigger? (.datagram bytes, now) = some .remoteClosed := by simp [trigger?, hcode, hc]
    exact .ends hp ht (ends_terminate hp .remoteClosed)
  case h_5 hdisconnect _ _ hrefused =>
    have ht : m.trigger? (.datagram bytes, now) = none := by
      simp only [trigger?, hcode]
      rw [if_neg hdisconnect, if_neg fun h => hrefused h.2 h.1]
    exact .idle ht

theorem turn_datagram (m : Session) (bytes : Bytes) (now : Instant) :
    Turn m (.datagram bytes, now) none (m.receive bytes now) := by
  have hnone (h : helloCode? bytes = none) : m.trigger? (.datagram bytes, now) = none := by simp [trigger?, h]
  unfold receive
  split_ifs with hp
  · exact .rest hp
  · have hp : m.phase.isTerminal = false := by simpa using hp
    split
    case h_1 hd => exact .idle (hnone (by rw [helloCode?, hd]; rfl))
    case h_2 p hd =>
      split_ifs with hf
      · exact turn_receiveHello hp hd now
      · have ht := hnone (by rw [helloCode?_eq hd, Packet.connectCode?, if_neg hf])
        split
        · exact .idle ht
        case h_2 m' hm' => exact .of_steady hp ht (steady_receiveData hm' now)

theorem catchUp_eq (m : Session) (now : Instant) :
    m.catchUp now =
      match m.lapse? now with
      | some reason => m.terminate reason
      | none => m.resendDue now := by
  unfold catchUp lapse?
  split_ifs <;> rfl

/-- saying hello again writes to the wire and sets the time for the next hello -/
theorem greetAgain_eq (m : Session) (now : Instant) :
    ∃ nextHello sent, OnlySends sent ∧ m.greetAgain now = ({ m with nextHello }, sent) := by
  unfold greetAgain
  split_ifs
  · exact ⟨_, _, onlySends_sending _, rfl⟩
  · exact ⟨m.nextHello, [], .nil, rfl⟩

theorem turn_tick (m : Session) (now : Instant) : Turn m (.tick, now) none (m.tick now) := by
  rw [tick_eq]
  split_ifs with hp hd
  · exact .rest hp
  · have hp : m.phase.isTerminal = false := by simpa using hp
    exact .ends hp (if_pos hd) (ends_terminate hp _)
  · have hp : m.phase.isTerminal = false := by simpa using hp
    have ht : m.trigger? (.tick, now) = m.lapse? now := if_neg hd
    obtain ⟨nextHello, sent, hsent, hg⟩ := greetAgain_eq m now
    -- what lapses does not depend on the time of the next hello, so the cause is read off the session before the tick
    have hsteady : Steady m ({ m with nextHello }, sent) := .of_sent ⟨rfl, rfl, rfl, fun _ => rfl⟩ rfl rfl hsent
    have hlapse : lapse? { m with nextHello } now = m.lapse? now := rfl
    rw [hg]
    cases hl : m.lapse? now with
    | none =>
      refine .of_steady hp (ht.trans hl) (hsteady.then ?_)
      rw [catchUp_eq, hlapse, hl]
      exact steady_resendDue _ now
    | some reason =>
      refine .ends hp (ht.trans hl) (.after hsteady hsent rfl ?_)
      rw [catchUp_eq, hlapse, hl]
      exact ends_terminate (m := { m with nextHello }) hp reason

/-- **One event.** Whatever happens to a session, it is one of the turns. -/
theorem turn (m : Session) (e : SessionEvent × Instant) : Turn m e (m.id? e) (m.step e) := by
  obtain ⟨e, now⟩ := e
  cases e with
  | connect => exact turn_connect m now
  | datagram bytes => exact turn_datagram m bytes now
  | tick => exact turn_tick m now
  | send payload => exact turn_send m payload now
  | initComplete => exact turn_initComplete m now
  | close => exact turn_of_ends rfl (fun hp => if_pos hp) ends_close
  | socketFailed message =>
    exact turn_of_ends rfl (fun hp => terminate_of_isTerminal hp _) fun hp => ends_terminate hp _

end Session

end VisionMixer
