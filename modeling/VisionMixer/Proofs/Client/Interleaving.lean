/-
The end of a session as everybody sees it, however their steps interleave.

`Truthful` says of a scene that every registration is kept, that whoever is told hears the reason of the event that ended
the session, that this reason is known before callers see that the session is over, and that the profile and the tree are
complete before they see that it is live. `Finishes` says of a scene whose session has ended that what is left to be done
is counted: each step of the owner or of a listener takes one off, a registration adds one, some step is possible as long
as anything is left, and when nothing is left every registration has been told once. `told_once_and_truthfully`: both hold
of every scene after every list of moves, and a caller who waits for the session hears of a profile or of this reason.
-/
import VisionMixer.Proofs.Client.Listening

namespace VisionMixer.Scene

open Client (Reads spoken)
open VisionMixer.Session (EndsAt wire)

variable {s : Scene} {m : Session} {registered : List Nat}

/-! ### What callers see -/

/-- the reason recorded is that of the first event that ends the session -/
theorem endedBy_of_reason (h : Recorded m s) (hm : m.phase.isTerminal = false) {reason : EndReason}
    (hreason : s.client.ending.reason = some reason) : m.endedBy? s.heard = some reason := by
  have hall := Session.endings_run hm s.heard
  rw [h.history, endings_append] at hall
  rw [h.reason] at hreason
  obtain ⟨later, hdone⟩ := List.head?_eq_some_iff.1 hreason
  rw [hdone, List.cons_append] at hall
  cases hend : m.endedBy? s.heard with
  | none =>
    rw [hend] at hall
    cases hall
  | some reason' =>
    rw [hend, Option.toList_some] at hall
    rw [(List.cons.inj hall).1]

/-- the reason is recorded once everything has been carried out -/
theorem reason_of_carried (h : Recorded m s) (hm : m.phase.isTerminal = false) (hq : s.queue = []) :
    s.client.ending.reason = m.endedBy? s.heard := by
  have hall := Session.endings_run hm s.heard
  rw [h.history, hq, List.append_nil] at hall
  rw [h.reason, show endings s.done = _ from hall]
  cases m.endedBy? s.heard <;> rfl

/-- callers see that the session is over once everything has been carried out -/
theorem published_of_carried (h : Recorded m s) (hm : m.phase.isTerminal = false) (hq : s.queue = [])
    (he : s.client.hasEnded = true) : s.client.published = .disconnected := by
  have hphase : (m.run s.heard).1.phase = .disconnected := by
    rw [h.history]
    exact of_decide_eq_true he
  have hlast := Session.getLast?_phases_run hm hphase
  rw [h.history, hq, List.append_nil] at hlast
  rw [h.published, show (phases s.done).getLast? = _ from hlast]
  rfl

/-- a phase that callers see was reported, unless it is the first -/
theorem mem_phases_of_published (h : Recorded m s) (hp : s.client.published ≠ .connecting) :
    s.client.published ∈ phases s.done := by
  have hpublished := h.published
  cases hlast : (phases s.done).getLast? with
  | none =>
    rw [hlast] at hpublished
    exact absurd hpublished hp
  | some phase =>
    rw [hlast, Option.getD_some] at hpublished
    rw [hpublished]
    exact List.mem_of_getLast? hlast

/-- whoever sees that the session is over can know why -/
theorem reason_of_disconnected (h : Recorded m s) (hm : m.phase.isTerminal = false)
    (hp : s.client.published = .disconnected) :
    ∃ reason, s.client.ending.reason = some reason ∧ m.endedBy? s.heard = some reason := by
  have hmem := mem_phases_of_published h (by rw [hp]; decide)
  rw [hp] at hmem
  obtain ⟨reason, hendings, hend⟩ :=
    Session.ending_before_disconnected hm (congrArg Prod.snd h.history) hmem
  exact ⟨reason, by rw [h.reason, hendings]; rfl, hend⟩

/-- whoever sees that the session is live finds the end of the handshake read -/
theorem marked_of_live (h : Recorded m s) (hp : s.client.published = .live) :
    (spoken (deliveries s.done)).any Command.isInitComplete = true := by
  have hmem := mem_phases_of_published h (by rw [hp]; decide)
  rw [hp] at hmem
  have hlive : .live ∈ phases (m.run s.heard).2 := by
    rw [h.history, phases_append]
    exact List.mem_append_left _ hmem
  obtain ⟨now, hheard⟩ := Session.initComplete_of_live hlive
  exact h.marked now hheard

/-- once the end of the handshake has been read there is a profile, and it stays -/
theorem profile_of_marked {s' : Scene} (h : Recorded m s) (h' : Recorded m s') (hgrows : Grows s s')
    (hmarked : (spoken (deliveries s.done)).any Command.isInitComplete = true) :
    s.client.profile.isSome = true ∧ s'.client.profile = s.client.profile := by
  obtain ⟨more, hdone⟩ := hgrows.done
  constructor
  · rw [h.reads.profile, handshake?, if_pos hmarked]
    rfl
  · rw [h'.reads.profile, h.reads.profile, ← hdone, deliveries_append, Client.spoken_append,
      handshake?_append_of_ended hmarked]

/-- a reason once recorded stays -/
theorem reason_of_grows {s' : Scene} (h : Recorded m s) (h' : Recorded m s') (hgrows : Grows s s') {reason : EndReason}
    (hreason : s.client.ending.reason = some reason) : s'.client.ending.reason = some reason := by
  obtain ⟨more, hdone⟩ := hgrows.done
  rw [h.reason] at hreason
  rw [h'.reason, ← hdone, endings_append, List.head?_append, hreason]
  rfl

/-! ### What is left to be done -/

/-- the moves of a list by which the owner or a listener does something -/
def steps (s : Scene) : List Move → Nat
  | [] => 0
  | move :: moves => (if move.isOwn && s.can move then 1 else 0) + (s.move move).steps moves

/-- carrying out what is left of an ended session asks for nothing more -/
theorem carryOut_of_ended (he : s.client.hasEnded = true) (a : SessionAction) :
    (s.client.carryOut a).client.session = s.client.session ∧ (s.client.carryOut a).queued = [] := by
  have hphase : s.client.session.phase = .disconnected := of_decide_eq_true he
  have hterminal : s.client.session.phase.isTerminal = true := by rw [hphase]; rfl
  have hstep := s.client.step_hears a 0
  rw [Client.run_toList] at hstep
  cases hh : s.client.hears? a with
  | none =>
    rw [hh] at hstep
    exact Prod.mk.inj hstep
  | some e =>
    rw [hh] at hstep
    refine Prod.mk.inj (hstep.trans ?_)
    -- an ended session rests, unless it is only now started
    rcases (Session.turn s.client.session (e, 0)).of_ended hterminal with hrest | ⟨hconnect, -⟩
    · exact hrest
    · rcases Client.hears?_cases hh with rfl | ⟨_, rfl⟩ <;> cases hconnect

theorem rest_register (s : Scene) (listener : Nat) : (s.register listener).rest = s.rest + 1 := by
  have htold : notices (s.client.listen listener).2 = (s.client.ending.register listener).2 := notices_map_told _
  have hlength := congrArg List.length (s.client.ending.waiting_register listener)
  simp only [List.length_append, List.length_map, List.length_singleton] at hlength
  show s.queue.length + s.calling.length + (s.late ++ notices (s.client.listen listener).2).length +
    (s.client.ending.register listener).1.waiting.length = s.rest + 1
  rw [htold, List.length_append, rest]
  omega

theorem rest_carryOut (he : s.client.hasEnded = true) (hc : s.calling = []) {a : SessionAction}
    {queue : List SessionAction} (hq : s.queue = a :: queue) (now : Instant) :
    (s.carryOut now a queue).rest + 1 = s.rest := by
  have hlength := congrArg List.length (s.client.waiting_carryOut a)
  simp only [List.length_append, List.length_map] at hlength
  show (queue ++ (s.client.carryOut a).queued).length + (notices (s.client.carryOut a).reports).length +
    s.late.length + (s.client.carryOut a).client.ending.waiting.length + 1 = s.rest
  rw [(carryOut_of_ended he a).2, List.append_nil, rest, hc, hq, List.length_nil, List.length_cons]
  omega

/-- **One move after the end.** A step of the owner or of a listener takes one off what is left, a registration adds one,
and nothing else counts. -/
theorem rest_move (he : s.client.hasEnded = true) (move : Move) :
    (s.move move).client.hasEnded = true ∧
      (s.move move).rest + (if move.isOwn && s.can move then 1 else 0) = s.rest + move.listener?.toList.length := by
  cases move with
  | register listener => exact ⟨he, s.rest_register listener⟩
  | carry now =>
    cases hc : s.calling with
    | cons n calling => simp [Scene.move, can, Move.isOwn, Move.listener?, hc, he]
    | nil =>
      cases hq : s.queue with
      | nil => simp [Scene.move, can, Move.isOwn, Move.listener?, hc, hq, he]
      | cons a queue =>
        have hmove : s.move (.carry now) = s.carryOut now a queue := by simp only [Scene.move, hc, hq]
        have hcan : s.can (.carry now) = true := by simp [can, hc, hq]
        have hkept : (s.carryOut now a queue).client.hasEnded = true := by
          show decide ((s.client.carryOut a).client.session.phase = .disconnected) = true
          rw [(carryOut_of_ended he a).1]
          exact he
        rw [hmove, hcan]
        exact ⟨hkept, rest_carryOut he hc hq now⟩
  | call =>
    cases hc : s.calling with
    | nil => simp [Scene.move, can, Move.isOwn, Move.listener?, hc, he]
    | cons n calling =>
      have hmove : s.move .call = { s with calling, called := s.called ++ [n] } := by simp only [Scene.move, hc]
      have hcan : s.can .call = true := by simp [can, hc]
      rw [hmove, hcan]
      refine ⟨he, ?_⟩
      show s.queue.length + calling.length + s.late.length + s.client.ending.waiting.length + 1 = s.rest
      rw [rest, hc, List.length_cons]
      omega
  | answer i =>
    by_cases hi : i < s.late.length
    · have hmove : s.move (.answer i) = { s with late := s.late.eraseIdx i, called := s.called ++ [s.late[i]] } := by
        simp only [Scene.move, List.getElem?_eq_getElem hi]
      have hcan : s.can (.answer i) = true := decide_eq_true hi
      have herase : (s.late.eraseIdx i).length + 1 = s.late.length := by
        rw [List.length_eraseIdx_of_lt hi]
        omega
      rw [hmove, hcan]
      refine ⟨he, ?_⟩
      show s.queue.length + s.calling.length + (s.late.eraseIdx i).length + s.client.ending.waiting.length + 1 = s.rest
      rw [rest, ← herase]
      omega
    · simp [Scene.move, can, Move.isOwn, Move.listener?, he, hi]
  | input i =>
    refine ⟨?_, ?_⟩
    · simp only [Scene.move]
      split
      · show decide ((s.client.stepAt i).1.phase = .disconnected) = true
        rw [Client.stepAt_of_ended he]
        exact he
      · exact he
    · simp only [Scene.move]
      split
      case isTrue h =>
        show (s.client.stepAt i).2.length + s.calling.length + s.late.length + s.client.ending.waiting.length + 0 = _
        rw [Client.stepAt_of_ended he, rest, h.2]
        rfl
      case isFalse => rfl
  | relink link => exact ⟨he, rfl⟩

theorem rest_run (he : s.client.hasEnded = true) (moves : List Move) :
    (s.run moves).rest + s.steps moves = s.rest + (registrations moves).length := by
  induction moves generalizing s with
  | nil => rfl
  | cons move moves ih =>
    obtain ⟨hkept, hone⟩ := rest_move he move
    have hrun := ih hkept
    rw [registrations_cons, List.length_append, run_cons, steps]
    omega

/-- as long as anything is left after the end, somebody can go on -/
theorem exists_own_of_rest (hr : Recorded m s) (ha : Accounted registered s) (hm : m.phase.isTerminal = false)
    (he : s.client.hasEnded = true) (hrest : s.rest ≠ 0) : ∃ move : Move, move.isOwn = true ∧ s.can move = true := by
  by_cases hc : s.calling = []
  · by_cases hq : s.queue = []
    · by_cases hl : s.late = []
      · -- the reason has been carried out, so nobody waits
        have hreason := reason_of_carried hr hm hq
        have hended : (m.endedBy? s.heard).isSome = true := (Session.isSome_endedBy?_iff hm).2 (by
          rw [hr.history]
          exact of_decide_eq_true he)
        rw [← hreason] at hended
        have hnobody := ha.nobody hended
        refine absurd ?_ hrest
        rw [rest, hc, hq, hl, hnobody]
        rfl
      · exact ⟨.answer 0, rfl, decide_eq_true (List.length_pos_iff.2 hl)⟩
    · exact ⟨.carry 0, rfl, by simp [can, hc, hq]⟩
  · exact ⟨.call, rfl, by simp [can, hc]⟩

/-! ### Everybody -/

/-- what a caller who waits for a client to connect hears: it sees a phase, and looks for the reason later -/
def waited? (seen : Phase) (c : Client) : Option (Except Error Unit) := { c with published := seen }.connected?

/-- what a scene shows of a session that was `m`, to the listeners registered so far and to callers -/
structure Truthful (m : Session) (registered : List Nat) (s : Scene) : Prop where
  /-- the session has heard what was heard, and what it asked for was carried out or waits to be -/
  history : m.run s.heard = (s.client.session, s.done ++ s.queue)
  /-- a registration is one listener who was told, is about to be told or waits -/
  once : (s.informed.map Notice.listener ++ s.client.ending.waiting).Perm registered
  /-- whoever is told hears the reason of the first event that ended the session -/
  reason : ∀ n ∈ s.informed, s.client.ending.reason = some n.reason ∧
    ∃ before e after, s.heard = before ++ e :: after ∧ EndsAt m before e after n.reason
  /-- from the moment at which the reason is recorded nobody waits, and who registers is told at once -/
  atOnce : ∀ reason, s.client.ending.reason = some reason → s.client.ending.waiting = [] ∧
    ∀ listener, (s.register listener).late = s.late ++ [⟨listener, reason⟩]
  /-- when callers see that the session is over its reason is recorded -/
  ended : s.client.published = .disconnected →
    ∃ reason, s.client.ending.reason = some reason ∧ m.endedBy? s.heard = some reason
  /-- the client has read what was delivered to it -/
  reads : Reads s.client (spoken (deliveries s.done))
  /-- when callers see that the session is live there is a profile, and the end of the handshake has been read -/
  live : s.client.published = .live →
    s.client.profile.isSome = true ∧ (spoken (deliveries s.done)).any Command.isInitComplete = true

/-- how the telling comes to its end when a session has ended -/
structure Finishes (registered : List Nat) (s : Scene) : Prop where
  /-- as long as anything is left, the owner or a listener can go on -/
  goesOn : s.rest ≠ 0 → ∃ move : Move, move.isOwn = true ∧ s.can move = true
  /-- each time one of them does there is one thing less to be done, and a registration adds one -/
  counted : ∀ later : List Move, (s.run later).rest + s.steps later = s.rest + (registrations later).length
  /-- when nothing is left each registration was told once, and callers see that the session is over -/
  told : s.rest = 0 → (s.called.map Notice.listener).Perm registered ∧ s.client.published = .disconnected

theorem truthful_of_recorded (hr : Recorded m s) (ha : Accounted registered s) (hm : m.phase.isTerminal = false) :
    Truthful m registered s where
  history := hr.history
  once := ha.once
  reason := fun n hn => ⟨ha.reason n hn, Session.exists_endsAt hm (endedBy_of_reason hr hm (ha.reason n hn))⟩
  atOnce := by
    intro reason hreason
    refine ⟨ha.nobody (by rw [hreason]; rfl), fun listener => ?_⟩
    have htold : notices (s.client.listen listener).2 = (s.client.ending.register listener).2 := notices_map_told _
    show s.late ++ notices (s.client.listen listener).2 = _
    rw [htold]
    simp only [Ending.register, hreason]
  ended := reason_of_disconnected hr hm
  reads := hr.reads
  live := by
    intro hp
    have hmarked := marked_of_live hr hp
    exact ⟨(profile_of_marked hr hr (grows_of_same rfl rfl) hmarked).1, hmarked⟩

theorem finishes_of_ended (hr : Recorded m s) (ha : Accounted registered s) (hm : m.phase.isTerminal = false)
    (he : s.client.hasEnded = true) : Finishes registered s where
  goesOn := exists_own_of_rest hr ha hm he
  counted := rest_run he
  told := by
    intro hrest
    have hnil : s.queue = [] ∧ s.calling = [] ∧ s.late = [] ∧ s.client.ending.waiting = [] := by
      unfold rest at hrest
      refine ⟨?_, ?_, ?_, ?_⟩ <;> exact List.length_eq_zero_iff.1 (by omega)
    obtain ⟨hq, hc, hl, hw⟩ := hnil
    constructor
    · have honce := ha.once
      rw [informed, hc, hl, hw, List.append_nil, List.append_nil, List.append_nil] at honce
      exact honce
    · exact published_of_carried hr hm hq he

/-- what a caller who waits is told when it sees the phase in one scene and looks for the reason in a later one -/
structure Answers (m : Session) (s s' : Scene) : Prop where
  ok : waited? s.client.published s'.client = some (.ok ()) →
    s.client.profile.isSome = true ∧ s'.client.profile = s.client.profile
  error : ∀ e, waited? s.client.published s'.client = some (.error e) →
    ∃ reason, m.endedBy? s.heard = some reason ∧ e = reason.toError

theorem live_of_waited {seen : Phase} {c : Client} (h : waited? seen c = some (.ok ())) : seen = .live := by
  cases seen <;> first | rfl | cases h

theorem disconnected_of_waited {seen : Phase} {c : Client} {e : Error} (h : waited? seen c = some (.error e)) :
    seen = .disconnected ∧ e = (c.ending.reason.map EndReason.toError).getD .disconnected := by
  cases seen with
  | disconnected =>
    cases h
    exact ⟨rfl, rfl⟩
  | _ => cases h

theorem answers_of_recorded {s' : Scene} (hr : Recorded m s) (hr' : Recorded m s') (hgrows : Grows s s')
    (hm : m.phase.isTerminal = false) : Answers m s s' where
  ok := fun h => profile_of_marked hr hr' hgrows (marked_of_live hr (live_of_waited h))
  error := by
    intro e h
    obtain ⟨hp, he⟩ := disconnected_of_waited h
    obtain ⟨reason, hreason, hend⟩ := reason_of_disconnected hr hm hp
    refine ⟨reason, hend, ?_⟩
    rw [he, reason_of_grows hr hr' hgrows hreason]
    rfl

/-- **Told once, and truthfully.** A client connects over any link, its owner works, listeners register and are told, the
link changes and things happen, in any order whatever. What anybody sees is true: every registration is kept and no other
made up, whoever is told hears the reason of the first event that ended the session, callers see that it is over only when
this reason is recorded, and that it is live only with the profile and the whole handshake in the tree. A caller who waits
hears of success only with a profile, which stays, and else of that reason. And once the session has ended every
registration, earlier or later, is told exactly once, after so many steps of the owner and the listeners as are left. -/
theorem told_once_and_truthfully (link : Link) (config : SessionConfig) (helloId : UInt16) (start : Instant)
    (moves : List Move) :
    let m := Session.initial config helloId
    let s := (opening link config helloId start).run moves
    Truthful m (registrations moves) s ∧ (s.client.hasEnded = true → Finishes (registrations moves) s) ∧
      (s.client.hasEnded = true ↔ (m.endedBy? s.heard).isSome = true) ∧ ∀ later, Answers m s (s.run later) := by
  have hm : (Session.initial config helloId).phase.isTerminal = false := rfl
  have hr := recorded_run (recorded_opening link config helloId start) moves
  have ha := accounted_run (accounted_opening link config helloId start) moves
  rw [List.nil_append] at ha
  refine ⟨truthful_of_recorded hr ha hm, finishes_of_ended hr ha hm, ?_, fun later => ?_⟩
  · rw [Session.isSome_endedBy?_iff hm, hr.history]
    exact decide_eq_true_iff
  · exact answers_of_recorded hr (recorded_run hr later) (grows_run _ later) hm

/-- a session goes live and is closed; a listener registers first, one when it is live, one while it ends and one
afterwards, who is told between the others -/
def rush : List Move := [
  .register 1, .carry 0, .input (.arrival (.datagram (wire (.hello 5 .accepted))), 1), .carry 1, .carry 1,
  .input (.arrival (.datagram (wire (.data 9 1 [0, 12, 0, 0, 0x49, 0x6E, 0x43, 0x6D, 0, 0, 0, 0]))), 2),
  .carry 2, .carry 2, .carry 2, .register 2, .input (.request .close, 3), .input (.serve, 3),
  .carry 3, .carry 3, .register 3, .carry 3, .register 4, .call, .answer 0, .call, .call, .carry 3]

theorem told_once_and_truthfully_rush :
    let m := Session.initial default 5
    let live := (opening default default 5 0).run (rush.take 9)
    let s := (opening default default 5 0).run rush
    live.client.published = .live ∧ live.client.profile.isSome = true ∧
      waited? live.client.published s.client = some (.ok ()) ∧ s.client.profile = live.client.profile ∧
      s.called = [⟨1, .closed⟩, ⟨4, .closed⟩, ⟨2, .closed⟩, ⟨3, .closed⟩] ∧
      (s.called.map Notice.listener).Perm [1, 2, 3, 4] ∧ s.client.published = .disconnected ∧
      ∃ before e after, s.heard = before ++ e :: after ∧ EndsAt m before e after .closed := by
  obtain ⟨hlive, -, -, hanswers⟩ := told_once_and_truthfully default default 5 0 (rush.take 9)
  obtain ⟨htruthful, hfinishes, -, -⟩ := told_once_and_truthfully default default 5 0 rush
  have hlater : ((opening default default 5 0).run (rush.take 9)).run (rush.drop 9) =
      (opening default default 5 0).run rush := by rw [← run_append, List.take_append_drop]
  have hpublished : ((opening default default 5 0).run (rush.take 9)).client.published = .live := by decide
  have hwaited : waited? ((opening default default 5 0).run (rush.take 9)).client.published
      ((opening default default 5 0).run rush).client = some (.ok ()) := by
    rw [hpublished]
    rfl
  have hprofile := (hanswers (rush.drop 9)).ok (by rw [hlater]; exact hwaited)
  rw [hlater] at hprofile
  have hcalled : ((opening default default 5 0).run rush).called =
      [⟨1, .closed⟩, ⟨4, .closed⟩, ⟨2, .closed⟩, ⟨3, .closed⟩] := by decide
  have htold := (hfinishes (by decide)).told (by decide)
  refine ⟨hpublished, (hlive.live hpublished).1, hwaited, hprofile.2, hcalled, htold.1, htold.2, ?_⟩
  have hfirst : (⟨1, .closed⟩ : Notice) ∈ ((opening default default 5 0).run rush).informed := by
    refine List.mem_append_left _ (List.mem_append_left _ ?_)
    rw [hcalled]
    exact List.mem_cons_self ..
  exact (htruthful.reason _ hfirst).2

end VisionMixer.Scene
