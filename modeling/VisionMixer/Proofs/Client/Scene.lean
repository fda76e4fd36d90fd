/-
The owner of a session and those who listen for its end, each a step at a time.

A `Scene` is a client whose owner has actions of the session left to carry out and listeners left to tell, while others
register or are told by themselves. A `Move` is one step of any of them: the owner carries out one action or tells one
listener, a listener registers or tells itself, the link changes, or something happens to the client once the owner has
nothing left to do. Any list of moves is an interleaving; a move that is not possible changes nothing.

What the owner does is told by small lemmas: what the session hears meanwhile (`step_hears`), the phase that callers see
(`published_carryOut`), what listeners are told (`ending_carryOut`) and what is read (`reads_carryOut`).
-/
import VisionMixer.Proofs.Client.Answer
import VisionMixer.Proofs.Client.Fold
import VisionMixer.Proofs.Session.Order

namespace VisionMixer

/-- the listener that a report is about -/
def Report.notice? : Report → Option Notice
  | .told notice => some notice
  | .sent _ | .changed _ | .completed _ _ => none

/-- the notices among reports, in order -/
def notices (reports : List Report) : List Notice := reports.filterMap Report.notice?

theorem notices_append (a b : List Report) : notices (a ++ b) = notices a ++ notices b := List.filterMap_append

theorem notices_map_told (told : List Notice) : notices (told.map .told) = told := by
  rw [notices, List.filterMap_map]
  exact List.filterMap_some

/-- other reports are about no listener -/
theorem notices_map_of_none {α : Type} {report : α → Report} (h : ∀ x, (report x).notice? = none) (l : List α) :
    notices (l.map report) = [] := by
  rw [notices, List.filterMap_map]
  exact List.filterMap_eq_nil_iff.2 fun x _ => h x

namespace Client

/-- what the session hears when one of its actions is carried out -/
def hears? (c : Client) : SessionAction → Option SessionEvent
  | .transmit _ => c.link.write.1.bind fun f => c.event? (.arrival (.fault f))
  | .deliver records =>
    match c.codec.decodePayload records with
    | .ok (commands, _) => if (c.observe commands).2 then some .initComplete else none
    | .error _ => none
  | _ => none

/-- what the session hears of an input; after the end it hears nothing -/
def hearsOf? (c : Client) (i : Input) : Option SessionEvent := if c.hasEnded then none else c.event? i

/-- a client about to hand an input to its session: the link or the inbox has changed, or somebody waits for an
acknowledgement -/
def prepared (c : Client) (i : Input × Instant) : Client := { c with
  link := match i.1 with
    | .relink link => link
    | _ => c.link
  inbox := c.inboxAt i.1
  pending := (c.accepts i).elim c.pending fun p => c.pending.insert p.1 p.2 }

end Client

/-- a client in the middle of what it does, and those who listen for the end of its session -/
structure Scene where
  client : Client
  /-- actions of the session that are left to be carried out -/
  queue : List SessionAction
  /-- listeners whom the owner is about to tell, one after another -/
  calling : List Notice
  /-- listeners who registered after the end and are about to tell themselves -/
  late : List Notice
  /-- listeners who were told -/
  called : List Notice
  /-- what the session has heard -/
  heard : List (SessionEvent × Instant)
  /-- the actions of the session that have been carried out -/
  done : List SessionAction

/-- one step of anybody -/
inductive Move where
  /-- a listener registers -/
  | register (listener : Nat)
  /-- the owner carries out the next action -/
  | carry (now : Instant)
  /-- the owner tells the next listener -/
  | call
  /-- one of the listeners who came after the end is told -/
  | answer (i : Nat)
  /-- something happens to the client -/
  | input (i : Client.Input × Instant)
  /-- the link changes, as the network and the other end please -/
  | relink (link : Link)

namespace Move

/-- the listener that a move registers -/
def listener? : Move → Option Nat
  | .register listener => some listener
  | _ => none

/-- a move that finishes something which has begun -/
def isOwn : Move → Bool
  | .carry _ | .call | .answer _ => true
  | .register _ | .input _ | .relink _ => false

end Move

/-- the listeners that moves register, in order -/
def registrations (moves : List Move) : List Nat := moves.filterMap Move.listener?

theorem registrations_cons (move : Move) (moves : List Move) :
    registrations (move :: moves) = move.listener?.toList ++ registrations moves := by
  unfold registrations
  cases hl : move.listener? with
  | none => rw [List.filterMap_cons_none hl]; rfl
  | some listener => rw [List.filterMap_cons_some hl]; rfl

namespace Scene

/-- a client that has been told to connect -/
def opening (link : Link) (config : SessionConfig) (helloId : UInt16) (start : Instant) : Scene :=
  let s := (Session.initial config helloId).step (.connect, start)
  { client := (Client.initial link config helloId).withSession s.1
    queue := s.2
    calling := []
    late := []
    called := []
    heard := [(.connect, start)]
    done := [] }

/-- the scene after a listener has registered -/
def register (s : Scene) (listener : Nat) : Scene :=
  let r := s.client.listen listener
  { s with client := r.1, late := s.late ++ notices r.2 }

/-- the scene after the owner has carried out one action -/
def carryOut (s : Scene) (now : Instant) (a : SessionAction) (queue : List SessionAction) : Scene :=
  let t := s.client.carryOut a
  { s with
    client := t.client
    queue := queue ++ t.queued
    calling := notices t.reports
    heard := s.heard ++ (s.client.hears? a).toList.map (·, now)
    done := s.done ++ [a] }

/-- the scene after something has happened to the client -/
def hear (s : Scene) (i : Client.Input × Instant) : Scene :=
  let t := s.client.stepAt i
  { s with
    client := (s.client.prepared i).withSession t.1
    queue := t.2
    heard := s.heard ++ (s.client.hearsOf? i.1).toList.map (·, i.2) }

/-- the scene after a move; one that is not possible changes nothing -/
def move (s : Scene) : Move → Scene
  | .register listener => s.register listener
  | .carry now =>
    match s.calling, s.queue with
    | [], a :: queue => s.carryOut now a queue
    | _, _ => s
  | .call =>
    match s.calling with
    | n :: calling => { s with calling, called := s.called ++ [n] }
    | [] => s
  | .answer i =>
    match s.late[i]? with
    | some n => { s with late := s.late.eraseIdx i, called := s.called ++ [n] }
    | none => s
  | .input i => if s.calling = [] ∧ s.queue = [] then s.hear i else s
  | .relink link => { s with client := { s.client with link } }

/-- the scene after moves -/
def run (s : Scene) (moves : List Move) : Scene := moves.foldl move s

/-- a move is possible -/
def can (s : Scene) : Move → Bool
  | .carry _ => s.calling.isEmpty && !s.queue.isEmpty
  | .call => !s.calling.isEmpty
  | .answer i => i < s.late.length
  | .input _ => s.calling.isEmpty && s.queue.isEmpty
  | .register _ | .relink _ => true

/-- how much is left to be done until every listener has been told -/
def rest (s : Scene) : Nat := s.queue.length + s.calling.length + s.late.length + s.client.ending.waiting.length

/-- listeners who were told or are about to be -/
def informed (s : Scene) : List Notice := s.called ++ s.calling ++ s.late

variable {s : Scene} {m : Session}

theorem run_cons (s : Scene) (move : Move) (moves : List Move) : s.run (move :: moves) = (s.move move).run moves := rfl

theorem run_append (s : Scene) (before after : List Move) : s.run (before ++ after) = (s.run before).run after :=
  List.foldl_append

/-- a move is one of six kinds, or changes nothing -/
theorem move_cases {P : Scene → Prop} (still : P s) (register : ∀ listener, P (s.register listener))
    (carry : ∀ now a queue, s.calling = [] → s.queue = a :: queue → P (s.carryOut now a queue))
    (call : ∀ n calling, s.calling = n :: calling → P { s with calling, called := s.called ++ [n] })
    (answer : ∀ i n, s.late[i]? = some n → P { s with late := s.late.eraseIdx i, called := s.called ++ [n] })
    (hear : ∀ i, s.calling = [] → s.queue = [] → P (s.hear i))
    (relink : ∀ link, P { s with client := { s.client with link } }) (move : Move) : P (s.move move) := by
  cases move with
  | register listener => exact register listener
  | carry now =>
    simp only [Scene.move]
    split
    case h_1 hc hq => exact carry now _ _ hc hq
    case h_2 => exact still
  | call =>
    simp only [Scene.move]
    split
    case h_1 hc => exact call _ _ hc
    case h_2 => exact still
  | answer i =>
    simp only [Scene.move]
    split
    case h_1 n hn => exact answer i n hn
    case h_2 => exact still
  | input i =>
    simp only [Scene.move]
    split
    case isTrue h => exact hear i h.1 h.2
    case isFalse => exact still
  | relink link => exact relink link

end Scene

/-! ### What the owner does -/

namespace Client

variable {c : Client} {said : List Command} {a : SessionAction}

/-- something that shows neither in the phase that callers see nor in what listeners are told -/
structure Unseen (c : Client) (t : Turn) : Prop where
  published : t.client.published = c.published
  ending : t.client.ending = c.ending
  notices : notices t.reports = []

/-- something that has nothing to do with what was delivered -/
structure Unread (c c' : Client) : Prop where
  tree : c'.tree = c.tree
  codec : c'.codec = c.codec
  burst : c'.burst = c.burst
  profile : c'.profile = c.profile

theorem unseen_write (c : Client) (datagram : Bytes) : Unseen c (c.write datagram) := by
  unfold write
  split
  · exact ⟨rfl, rfl, rfl⟩
  · unfold fail
    split
    · exact ⟨rfl, rfl, rfl⟩
    · exact ⟨rfl, rfl, rfl⟩

theorem unread_write (c : Client) (datagram : Bytes) : Unread c (c.write datagram).client := by
  unfold write
  split
  · exact ⟨rfl, rfl, rfl, rfl⟩
  · unfold fail
    split
    · exact ⟨rfl, rfl, rfl, rfl⟩
    · exact ⟨rfl, rfl, rfl, rfl⟩

theorem observe_frame (c : Client) (commands : List Command) :
    ∃ burst profile, (c.observe commands).1 = { c with burst, profile } := by
  unfold observe
  split
  · exact ⟨_, _, rfl⟩
  · split
    · exact ⟨_, _, rfl⟩
    · exact ⟨_, _, rfl⟩

/-- whether commands end the handshake does not depend on the version -/
theorem observe_codec (c : Client) (codec : Codec) (commands : List Command) :
    (observe { c with codec } commands).2 = (c.observe commands).2 := by
  unfold observe
  dsimp only
  split
  · rfl
  · split
    · rfl
    · rfl

theorem unseen_deliver (c : Client) (records : List Record) : Unseen c (c.deliver records) := by
  unfold deliver
  split
  · exact ⟨rfl, rfl, rfl⟩
  · rename_i commands codec _
    obtain ⟨burst, profile, hobserve⟩ := observe_frame { c with codec } commands
    dsimp only
    rw [hobserve]
    exact ⟨rfl, rfl, notices_map_of_none (fun _ => rfl) _⟩

theorem unseen_complete (c : Client) (id : PacketId) (outcome : Except Error Unit) :
    Unseen c (c.complete id outcome) := by
  unfold complete
  split
  · exact ⟨rfl, rfl, rfl⟩
  · exact ⟨rfl, rfl, rfl⟩

theorem unread_complete (c : Client) (id : PacketId) (outcome : Except Error Unit) :
    Unread c (c.complete id outcome).client := by
  unfold complete
  split
  · exact ⟨rfl, rfl, rfl, rfl⟩
  · exact ⟨rfl, rfl, rfl, rfl⟩

theorem unseen_carryOut (c : Client) (hphase : a.phase? = none) (hending : a.ending? = none) :
    Unseen c (c.carryOut a) := by
  cases a with
  | transmit datagram => exact c.unseen_write datagram
  | deliver records => exact c.unseen_deliver records
  | acknowledged id => exact c.unseen_complete id _
  | sendFailed id => exact c.unseen_complete id _
  | phaseChanged phase => cases hphase
  | disconnected reason => cases hending

/-- the phase that callers see is the last one reported -/
theorem published_carryOut (c : Client) (a : SessionAction) :
    (c.carryOut a).client.published = a.phase?.getD c.published := by
  cases a with
  | phaseChanged phase => rfl
  | disconnected reason => rfl
  | _ => exact (c.unseen_carryOut rfl rfl).published

/-- the end is recorded when the session gives the reason, and listeners are told of nothing else -/
theorem ending_carryOut (c : Client) (a : SessionAction) :
    ((c.carryOut a).client.ending, notices (c.carryOut a).reports) =
      a.ending?.elim (c.ending, []) c.ending.record := by
  cases a with
  | phaseChanged phase => rfl
  | disconnected reason => exact Prod.ext rfl (notices_map_told _)
  | _ => exact Prod.ext (c.unseen_carryOut rfl rfl).ending (c.unseen_carryOut rfl rfl).notices

theorem Reads.of_unread {c' : Client} (h : Reads c said) (hc : Unread c c') : Reads c' said :=
  ⟨hc.tree.trans h.tree, hc.codec.trans h.codec, hc.burst.trans h.burst, hc.profile.trans h.profile⟩

/-- a client reads what is delivered to it, and nothing else -/
theorem reads_carryOut {packets : List (List Record)} (h : Reads c (spoken packets)) (a : SessionAction) :
    Reads (c.carryOut a).client (spoken (packets ++ deliveries [a])) := by
  have hunread (ha : deliveries [a] = []) (hc : Unread c (c.carryOut a).client) :
      Reads (c.carryOut a).client (spoken (packets ++ deliveries [a])) := by
    rw [ha, List.append_nil]
    exact h.of_unread hc
  cases a with
  | transmit datagram => exact hunread rfl (c.unread_write datagram)
  | deliver records =>
    obtain ⟨hread, -, -⟩ := reads_deliveries h [records]
    have hspoken : spoken (packets ++ [records]) = spoken packets ++ (c.codec.sift [records]).flatten := by
      rw [spoken_append, ← h.codec]
    show Reads (c.carryOut (.deliver records)).client (spoken (packets ++ [records]))
    rw [hspoken]
    exact hread
  | acknowledged id => exact hunread rfl (c.unread_complete id _)
  | sendFailed id => exact hunread rfl (c.unread_complete id _)
  | phaseChanged phase => exact hunread rfl ⟨rfl, rfl, rfl, rfl⟩
  | disconnected reason => exact hunread rfl ⟨rfl, rfl, rfl, rfl⟩

theorem run_toList (m : Session) (e? : Option SessionEvent) (now : Instant) :
    m.run (e?.toList.map (·, now)) = e?.elim m.still fun e => m.step (e, now) := by
  cases e? with
  | none => rfl
  | some e => exact m.run_singleton (e, now)

/-- what the session does while one of its actions is carried out is what it does with what it hears -/
theorem step_hears (c : Client) (a : SessionAction) (now : Instant) :
    ((c.carryOut a).client.session, (c.carryOut a).queued) = c.session.run ((c.hears? a).toList.map (·, now)) := by
  rw [run_toList]
  cases a with
  | transmit datagram =>
    show ((c.write datagram).client.session, (c.write datagram).queued) = _
    unfold write hears?
    cases hw : c.link.write with
    | mk fault link =>
      cases fault with
      | none => rfl
      | some f =>
        have hsame : isTransient { c with link } f = c.isTransient f := rfl
        simp only [fail, hsame, Option.bind_some, event?]
        split
        · rfl
        · rfl
  | deliver records =>
    show ((c.deliver records).client.session, (c.deliver records).queued) = _
    unfold deliver hears?
    dsimp only
    cases hd : c.codec.decodePayload records with
    | error e => rfl
    | ok r =>
      obtain ⟨commands, codec⟩ := r
      obtain ⟨burst, profile, hobserve⟩ := observe_frame { c with codec } commands
      dsimp only
      rw [hobserve, observe_codec]
      split
      · rfl
      · rfl
  | acknowledged id =>
    show ((c.complete id (.ok ())).client.session, (c.complete id (.ok ())).queued) = _
    unfold complete
    split
    · rfl
    · rfl
  | sendFailed id =>
    show ((c.complete id (.error .disconnected)).client.session, (c.complete id (.error .disconnected)).queued) = _
    unfold complete
    split
    · rfl
    · rfl
  | phaseChanged phase => rfl
  | disconnected reason => rfl

theorem stepAt_eq_run (c : Client) (i : Input × Instant) :
    c.stepAt i = c.session.run ((c.hearsOf? i.1).toList.map (·, i.2)) := by
  rw [run_toList]
  unfold stepAt hearsOf?
  split
  · rfl
  · cases c.event? i.1 with
    | none => rfl
    | some e => rfl

theorem eq_of_event?_fault {f : SocketFault} {e : SessionEvent} (h : c.event? (.arrival (.fault f)) = some e) :
    e = .socketFailed f.message := by
  unfold event? at h
  dsimp only at h
  split_ifs at h
  exact (Option.some.inj h).symm

/-- what the session hears from its owner is that the handshake is over or that the socket has failed -/
theorem hears?_cases {e : SessionEvent} (h : c.hears? a = some e) :
    e = .initComplete ∨ ∃ message, e = .socketFailed message := by
  cases a with
  | transmit datagram =>
    obtain ⟨f, -, hevent⟩ := Option.bind_eq_some_iff.1 h
    exact .inr ⟨f.message, eq_of_event?_fault hevent⟩
  | deliver records =>
    simp only [hears?] at h
    split at h
    · split_ifs at h
      exact .inl (Option.some.inj h).symm
    · cases h
  | _ => cases h

/-- no input is the end of the handshake -/
theorem event?_ne_initComplete (c : Client) (i : Input) : c.event? i ≠ some .initComplete := by
  intro h
  cases i with
  | serve =>
    obtain ⟨⟨r, inbox⟩, -, hr⟩ := Option.map_eq_some_iff.1 h
    cases r <;> cases hr
  | arrival a =>
    cases a with
    | datagram bytes => cases h
    | fault f => cases eq_of_event?_fault h
  | _ => cases h

theorem hearsOf?_ne_initComplete (c : Client) (i : Input) : c.hearsOf? i ≠ some .initComplete := by
  unfold hearsOf?
  split
  · exact (Option.some_ne_none _).symm
  · exact c.event?_ne_initComplete i

theorem burst_observe {commands : List Command} (h : (c.observe commands).2 = true) :
    (c.observe commands).1.burst = none := by
  unfold observe at h ⊢
  split at h
  · cases h
  · split at h
    case isTrue hany => simp only [hany, if_true]
    case isFalse => cases h

/-- the session hears of the end of the handshake with the packet that completes the profile -/
theorem burst_of_hears (h : c.hears? a = some .initComplete) : (c.carryOut a).client.burst = none := by
  cases a with
  | transmit datagram =>
    obtain ⟨f, -, hevent⟩ := Option.bind_eq_some_iff.1 h
    exact absurd hevent (c.event?_ne_initComplete _)
  | deliver records =>
    show (c.deliver records).client.burst = none
    simp only [hears?] at h
    unfold deliver
    cases hd : c.codec.decodePayload records with
    | error e =>
      rw [hd] at h
      cases h
    | ok r =>
      obtain ⟨commands, codec⟩ := r
      simp only [hd] at h
      split at h
      case isTrue hcomplete => exact burst_observe (c := { c with codec }) (by rw [observe_codec]; exact hcomplete)
      case isFalse => cases h
  | _ => cases h

end Client

end VisionMixer
