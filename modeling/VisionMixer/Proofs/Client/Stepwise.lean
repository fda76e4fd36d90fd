/-
The owner of a session by itself.

When nobody registers and nothing happens, the moves of the owner carry out one action after another and tell whoever is
to be told (`exists_moves_carryOutAll`). They come to what a flush gives (`exists_moves_flush`), and after an input to what
the client makes of it (`exists_moves_handle`): a scene is the client with its steps taken apart.
-/
import VisionMixer.Proofs.Client.Scene

namespace VisionMixer

namespace Scene

variable {s s' : Scene}

/-- the owner has carried out actions, with others queued behind them, and has told whoever was to be told -/
structure Carried (s : Scene) (t : Turn) (behind : List SessionAction) (s' : Scene) : Prop where
  client : s'.client = t.client
  queue : s'.queue = behind ++ t.queued
  calling : s'.calling = []
  late : s'.late = s.late
  called : s'.called = s.called ++ notices t.reports

theorem run_calls (s : Scene) :
    s.run (List.replicate s.calling.length .call) = { s with calling := [], called := s.called ++ s.calling } := by
  obtain ⟨client, queue, calling, late, called, heard, done⟩ := s
  induction calling generalizing called with
  | nil =>
    rw [List.append_nil]
    rfl
  | cons n calling ih =>
    refine (ih (called ++ [n])).trans ?_
    rw [List.append_assoc, List.singleton_append]

/-- one action carried out, and all told who are to be told of it -/
theorem exists_moves_carryOut (hc : s.calling = []) {a : SessionAction} {queue : List SessionAction}
    (hq : s.queue = a :: queue) :
    ∃ moves : List Move, (∀ move ∈ moves, move.isOwn = true) ∧
      Carried s (s.client.carryOut a) queue (s.run moves) := by
  have hmove : s.move (.carry 0) = s.carryOut 0 a queue := by simp only [Scene.move, hc, hq]
  refine ⟨.carry 0 :: List.replicate (s.carryOut 0 a queue).calling.length .call, ?_, ?_⟩
  · rw [List.forall_mem_cons]
    refine ⟨rfl, fun move hmem => ?_⟩
    rw [List.eq_of_mem_replicate hmem]
    rfl
  · rw [run_cons, hmove, run_calls]
    exact ⟨rfl, rfl, rfl, rfl, rfl⟩

theorem exists_moves_carryOutAll {actions behind : List SessionAction} (hc : s.calling = [])
    (hq : s.queue = actions ++ behind) :
    ∃ moves : List Move, (∀ move ∈ moves, move.isOwn = true) ∧
      Carried s (s.client.carryOutAll actions) behind (s.run moves) := by
  -- what an action queues goes behind everything, so the induction is for any actions behind
  induction actions generalizing s behind with
  | nil =>
    refine ⟨[], by simp, rfl, ?_, hc, rfl, (List.append_nil _).symm⟩
    exact hq.trans (List.append_nil _).symm
  | cons a actions ih =>
    obtain ⟨first, hfirst, hone⟩ := exists_moves_carryOut hc hq
    obtain ⟨moves, hown, hrest⟩ := ih hone.calling (hone.queue.trans (List.append_assoc ..))
    refine ⟨first ++ moves, List.forall_mem_append.2 ⟨hfirst, hown⟩, ?_⟩
    rw [run_append, Client.carryOutAll_cons]
    refine ⟨?_, ?_, hrest.calling, hrest.late.trans hone.late, ?_⟩
    · rw [hrest.client, hone.client]
      rfl
    · rw [hrest.queue, hone.client, List.append_assoc]
      rfl
    · rw [hrest.called, hone.called, hone.client, List.append_assoc, ← notices_append]
      rfl

/-- **A flush.** The owner by itself, a step at a time, comes to what a flush gives. -/
theorem exists_moves_flush (hc : s.calling = []) :
    ∃ moves : List Move, (∀ move ∈ moves, move.isOwn = true) ∧
      Carried s ⟨(s.client.flush s.queue).1, (s.client.flush s.queue).2, []⟩ [] (s.run moves) := by
  obtain ⟨first, hfirst, hcarried⟩ := exists_moves_carryOutAll hc (List.append_nil s.queue).symm
  have hqueue := hcarried.queue
  rw [List.nil_append, ← List.append_nil (s.client.carryOutAll s.queue).queued] at hqueue
  obtain ⟨second, hsecond, hcarried'⟩ := exists_moves_carryOutAll hcarried.calling hqueue
  have hnone := hcarried'.queue
  rw [Client.queued_of_allPassive (s.client.passive_carryOutAll s.queue)] at hnone
  refine ⟨first ++ second, List.forall_mem_append.2 ⟨hfirst, hsecond⟩, ?_⟩
  rw [run_append]
  refine ⟨?_, hnone, hcarried'.calling, hcarried'.late.trans hcarried.late, ?_⟩
  · rw [hcarried'.client, hcarried.client]
    rfl
  · rw [hcarried'.called, hcarried.called, hcarried.client, List.append_assoc, ← notices_append]
    rfl

end Scene

namespace Client

variable {c : Client}

theorem notices_settle (c : Client) (reports : List Report) :
    (c.settle reports).1 = (c.settle []).1 ∧ notices (c.settle reports).2 = notices reports := by
  unfold settle
  split
  · exact ⟨rfl, by rw [notices_append, notices_map_of_none fun _ => rfl, List.append_nil]⟩
  · exact ⟨rfl, rfl⟩

/-- a client has come to what a flush gives, with the same word to its listeners -/
def Amounts (r flushed : Client × List Report) : Prop :=
  r.1 = (flushed.1.settle []).1 ∧ notices r.2 = notices flushed.2

theorem amounts_perform (c : Client) (s : Step) : Amounts (c.perform s) ((c.withSession s.1).flush s.2) :=
  notices_settle _ _

/-- a client to which nothing happens -/
theorem amounts_still {reports : List Report} (he : ¬c.hasEnded = true) (hr : notices reports = []) :
    Amounts (c, reports) ((c.withSession c.session.still.1).flush c.session.still.2) := by
  refine ⟨?_, hr⟩
  show c = (c.settle []).1
  rw [settle, if_neg he]

/-- what an input makes of a client is a step of its session carried out to the end -/
def AmountsAt (c : Client) (i : Input × Instant) : Prop :=
  Amounts (c.handle i.2 i.1) (((c.prepared i).withSession (c.stepAt i).1).flush (c.stepAt i).2)

/-- a client that is prepared for an input and goes on without its session -/
theorem amounts_aside (he : ¬c.hasEnded = true) {i : Input × Instant} (hstep : c.stepAt i = c.session.still)
    (hhandle : (c.handle i.2 i.1).1 = c.prepared i) (htold : notices (c.handle i.2 i.1).2 = []) : AmountsAt c i := by
  have hstill : Amounts (c.prepared i, (c.handle i.2 i.1).2)
      (((c.prepared i).withSession (c.prepared i).session.still.1).flush (c.prepared i).session.still.2) :=
    amounts_still he htold
  rw [AmountsAt, hstep]
  refine ⟨hhandle.trans hstill.1, hstill.2⟩

theorem amounts_event (he : ¬c.hasEnded = true) {i : Input × Instant} {e : SessionEvent}
    (hevent : c.event? i.1 = some e) (hhandle : c.handle i.2 i.1 = (c.prepared i).perform (c.session.step (e, i.2))) :
    AmountsAt c i := by
  rw [AmountsAt, stepAt_of_event he hevent, hhandle]
  exact amounts_perform _ _

theorem amounts_request (he : ¬c.hasEnded = true) (r : Request) (now : Instant) :
    AmountsAt c (.request r, now) := by
  refine amounts_aside he (stepAt_of_no_event rfl) (c.ask_eq r) ?_
  show notices (c.ask r).2 = []
  unfold ask
  split
  · rfl
  · exact notices_map_of_none (fun _ => rfl) _

theorem amounts_send (he : ¬c.hasEnded = true) {payload : Bytes} {ticket : Nat} {inbox : Inbox}
    (hnext : c.inbox.next? = some (.send payload ticket, inbox)) (now : Instant) : AmountsAt c (.serve, now) := by
  have hstep : c.stepAt (.serve, now) = c.session.step (.send payload, now) := stepAt_of_event he (event?_serve hnext)
  have haccepts : c.accepts (.serve, now) = (c.session.id? (.send payload, now)).map (·, ticket) := by
    rw [accepts, offers_serve_send he hnext]
    rfl
  cases hs : c.session.send payload now with
  | error e =>
    obtain ⟨hid, hstill⟩ := Session.step_error (e := (.send payload, now)) hs
    have hrefused := handle_serve_error he hnext hs
    refine amounts_aside he (hstep.trans hstill) ?_ ?_
    · dsimp only
      rw [hrefused, prepared, haccepts, hid, inboxAt_serve he hnext]
      rfl
    · dsimp only
      rw [hrefused]
      rfl
  | ok r =>
    obtain ⟨hid, hok⟩ := Session.step_ok (e := (.send payload, now)) hs
    obtain ⟨_, _, -, -, -, hr⟩ := Session.send_eq hs
    have hrid : r.id = some c.session.nextLocalId := by rw [hr]
    have hprepared : c.prepared (.serve, now) = c.taking inbox ticket := by
      rw [prepared, haccepts, hid, hrid, inboxAt_serve he hnext]
      rfl
    obtain ⟨hclient, htold⟩ := amounts_perform (c.taking inbox ticket) (r.session, r.actions)
    rw [AmountsAt, hstep, hok, hprepared]
    dsimp only
    rw [handle_serve_ok he hnext hs]
    refine ⟨hclient, ?_⟩
    rw [notices_append, notices_map_of_none fun _ => rfl, List.nil_append]
    exact htold

theorem amounts_serve (he : ¬c.hasEnded = true) (now : Instant) : AmountsAt c (.serve, now) := by
  cases hnext : c.inbox.next? with
  | none =>
    have hevent : c.event? .serve = none := by
      rw [event?, hnext]
      rfl
    have hoffer : c.offers .serve = none := by simp only [offers, hnext]
    have hhandle : c.handle now .serve = (c, []) := by simp only [handle, if_neg he, hnext]
    refine amounts_aside he (stepAt_of_no_event hevent) ?_ ?_
    · dsimp only
      rw [hhandle, prepared, accepts_of_no_offer hoffer, inboxAt, if_neg he, hnext]
      rfl
    · dsimp only
      rw [hhandle]
      rfl
  | some served =>
    obtain ⟨r, inbox⟩ := served
    cases r with
    | send payload ticket => exact amounts_send he hnext now
    | close =>
      refine amounts_event he (event?_serve hnext) ?_
      dsimp only
      rw [handle_serve he hnext, prepared, accepts_of_no_offer (offers_serve_close hnext), inboxAt_serve he hnext]
      rfl

theorem amounts_fault (he : ¬c.hasEnded = true) (f : SocketFault) (now : Instant) :
    AmountsAt c (.arrival (.fault f), now) := by
  have hhandle : c.handle now (.arrival (.fault f)) =
      (c.fail f).client.perform ((c.fail f).client.session, (c.fail f).queued) := if_neg he
  by_cases hf : c.isTransient f = true
  · have hfail : c.fail f = c.still := if_pos hf
    have hnone : c.handle now (.arrival (.fault f)) = (c, []) := by
      rw [hhandle, hfail]
      exact perform_still he
    refine amounts_aside he (stepAt_of_no_event (if_pos hf)) ?_ ?_
    · exact congrArg Prod.fst hnone
    · exact congrArg (fun r : Client × List Report => notices r.2) hnone
  · have hfail : c.fail f =
        ⟨c.withSession (c.session.terminate (.socketFailed f.message)).1, [],
          (c.session.terminate (.socketFailed f.message)).2⟩ := if_neg hf
    rw [hfail] at hhandle
    exact amounts_event he (e := .socketFailed f.message) (if_neg hf) hhandle

/-- what an input makes of a client that has not ended is a step of its session carried out to the end -/
theorem amounts_handle (he : ¬c.hasEnded = true) (i : Input × Instant) : AmountsAt c i := by
  obtain ⟨input, now⟩ := i
  cases input with
  | request r => exact amounts_request he r now
  | abandon => exact amounts_aside he (stepAt_of_no_event rfl) rfl rfl
  | serve => exact amounts_serve he now
  | arrival a =>
    cases a with
    | datagram bytes => exact amounts_event he (e := .datagram bytes) rfl (if_neg he)
    | fault f => exact amounts_fault he f now
  | tick => exact amounts_event he (e := .tick) rfl (if_neg he)
  | relink link => exact amounts_aside he (stepAt_of_no_event rfl) rfl rfl

end Client

namespace Scene

variable {s : Scene}

/-- **An input.** Something happens to a client that has nothing left to do; the owner by itself, a step at a time, comes
to what the client makes of it. -/
theorem exists_moves_handle (hc : s.calling = []) (hq : s.queue = []) (he : ¬s.client.hasEnded = true)
    (i : Client.Input × Instant) :
    ∃ moves : List Move, (∀ move ∈ moves, move.isOwn = true) ∧
      let s' := s.run (.input i :: moves)
      (s'.client.settle []).1 = (s.client.handle i.2 i.1).1 ∧ s'.queue = [] ∧ s'.calling = [] ∧
        s'.called = s.called ++ notices (s.client.handle i.2 i.1).2 := by
  have hmove : s.move (.input i) = s.hear i := if_pos ⟨hc, hq⟩
  obtain ⟨moves, hown, hcarried⟩ := exists_moves_flush (s := s.hear i) hc
  obtain ⟨hclient, htold⟩ := Client.amounts_handle he i
  refine ⟨moves, hown, ?_⟩
  rw [run_cons, hmove]
  refine ⟨?_, hcarried.queue, hcarried.calling, ?_⟩
  · rw [hcarried.client, hclient]
    rfl
  · rw [hcarried.called, htold]
    rfl

end Scene

end VisionMixer
