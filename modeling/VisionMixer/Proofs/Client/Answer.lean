/-
What becomes of those who ask a client for something, at one input.

`askedAt` is all that the session asks for at an input, `accepts` the id under which it takes the payload of the request
that is served, and `refusals` are the requests that come too late, those that the session refuses and those in the inbox
of a client that stops. An input answers the refusals at once, puts the ticket of a payload that is taken at the end of the
line, and serves those in front as far as there are outcomes (`answered_handle`). The other tickets stay in the inbox
(`perm_handle`), where none is left once the client has stopped (`stopped_handle`).
-/
import VisionMixer.Client.Handle
import VisionMixer.Proofs.Client.Flush
import VisionMixer.Proofs.Session.Delivery

namespace VisionMixer

/-- what a request is to the session that serves it -/
def Request.event : Request → SessionEvent
  | .send payload _ => .send payload
  | .close => .close

namespace Client

open Session (Settled Numbered)

/-- what an input is to the session, if it concerns it -/
def event? (c : Client) : Input → Option SessionEvent
  | .serve => c.inbox.next?.map (·.1.event)
  | .arrival (.datagram bytes) => some (.datagram bytes)
  | .arrival (.fault f) => if c.isTransient f then none else some (.socketFailed f.message)
  | .tick => some .tick
  | .request _ | .abandon | .relink _ => none

/-- the step of the session that an input leads to; after the end there is none -/
def stepAt (c : Client) (i : Input × Instant) : Step :=
  if c.hasEnded then c.session.still
  else
    match c.event? i.1 with
    | some e => c.session.step (e, i.2)
    | none => c.session.still

/-- all that the session asks for at an input, until nothing is left to be carried out -/
def askedAt (c : Client) (i : Input × Instant) : List SessionAction :=
  (c.withSession (c.stepAt i).1).flushed (c.stepAt i).2

/-- the payload that an input has the session send, and its ticket -/
def offers (c : Client) (i : Input) : Option (Bytes × Nat) :=
  match i, c.inbox.next? with
  | .serve, some (.send payload ticket, _) => if c.hasEnded then none else some (payload, ticket)
  | _, _ => none

/-- the id under which an input has a payload sent, and its ticket -/
def accepts (c : Client) (i : Input × Instant) : Option (PacketId × Nat) :=
  (c.offers i.1).bind fun p => (c.session.id? (.send p.1, i.2)).map (·, p.2)

/-- the ticket of a payload that an input fails to have sent, and why -/
def refuses (c : Client) (i : Input × Instant) : Option (Nat × Error) :=
  (c.offers i.1).bind fun p =>
    match c.session.send p.1 i.2 with
    | .error e => some (p.2, e)
    | .ok _ => none

/-- the inbox of a client after an input at which it goes on -/
def inboxAt (c : Client) : Input → Inbox
  | .request r => (c.inbox.push? r).getD c.inbox
  | .abandon => c.inbox.abandon
  | .serve => if c.hasEnded then c.inbox else (c.inbox.next?.map (·.2)).getD c.inbox
  | .arrival _ | .tick | .relink _ => c.inbox

/-- the ticket of a request that comes too late -/
def turnsAway (c : Client) : Input → Option Nat
  | .request r => if c.inbox.isClosed then r.ticket? else none
  | _ => none

/-- an input ends the session -/
def stopsAt (c : Client) (i : Input × Instant) : Bool := !c.hasEnded && (c.handle i.2 i.1).1.hasEnded

/-- the tickets in the inbox of a client that stops at an input -/
def strands (c : Client) (i : Input × Instant) : List Nat := if c.stopsAt i then (c.inboxAt i.1).tickets else []

/-- the tickets of requests that an input leaves without a packet for ever, and why -/
def refusals (c : Client) (i : Input × Instant) : List (Nat × Error) :=
  (c.refuses i).toList ++ ((c.turnsAway i.1).toList ++ c.strands i).map (·, .disconnected)

variable {c : Client} {waiting : List (PacketId × Nat)}

/-! ### One input -/

/-- those who wait need the session and their tickets, and nothing else of a client -/
theorem Aligned.frame {queue : List SessionAction} {c' : Client} (h : Aligned waiting queue c)
    (hsession : c'.session = c.session) (hpending : c'.pending = c.pending) : Aligned waiting queue c' := by
  constructor
  · rw [hsession]
    exact h.settled
  · rw [hsession]
    exact h.numbered
  · rw [hsession]
    exact h.ids
  · exact h.nodup
  · rw [hpending]
    exact h.pending

/-- nobody waits for an ended session -/
theorem nobody_of_ended (h : Aligned waiting [] c) (he : c.hasEnded = true) : waiting = [] ∧ c.pending = ∅ := by
  have hphase : c.session.phase = .disconnected := of_decide_eq_true he
  have hflight : c.session.inFlight = [] := h.settled (by rw [hphase]; rfl)
  have hids := h.ids
  rw [Session.flying, hflight] at hids
  have hnobody : waiting = [] := List.map_eq_nil_iff.1 hids
  refine ⟨hnobody, IdMap.ext fun id => ?_⟩
  rw [IdMap.get?_empty, Option.eq_none_iff_forall_ne_some]
  intro ticket hget
  have hmem := (h.pending id ticket).1 hget
  rw [hnobody] at hmem
  cases hmem

/-- tickets that have failed one by one -/
theorem completions_map {α : Type} (f : α → Nat × Except Error Unit) (l : List α) :
    completions (l.map fun x => .completed (f x).1 (f x).2) = l.map f := by
  rw [completions, List.filterMap_map]
  exact congrFun List.filterMap_eq_map l

theorem hasEnded_settle (c : Client) (reports : List Report) : (c.settle reports).1.hasEnded = c.hasEnded := by
  unfold settle
  split
  · rfl
  · rfl

theorem inbox_settle (c : Client) (reports : List Report) :
    (c.settle reports).1.inbox = if c.hasEnded then c.inbox.close else c.inbox := by
  unfold settle
  split_ifs
  · rfl
  · rfl

/-- a client that stops tells those in its inbox, as nobody else waits any more -/
theorem settle_of_aligned (h : Aligned waiting [] c) (reports : List Report) :
    Aligned waiting [] (c.settle reports).1 ∧ completions (c.settle reports).2 =
      completions reports ++ (if c.hasEnded then c.inbox.tickets else []).map (·, .error .disconnected) := by
  unfold settle
  split_ifs with he
  · -- whoever waited for an acknowledgement when the session ended has been told so by it
    obtain ⟨-, hpending⟩ := nobody_of_ended h he
    have hentries : c.pending.entries = [] := by
      rw [hpending]
      rfl
    refine ⟨h.frame rfl hpending.symm, ?_⟩
    rw [completions_append, hentries, List.map_nil, List.nil_append]
    exact congrArg _ (completions_map (fun ticket : Nat => (ticket, .error .disconnected)) _)
  · exact ⟨h, (List.append_nil _).symm⟩

theorem perform_eq (c : Client) (s : Step) :
    c.perform s = ((c.withSession s.1).flush s.2).1.settle ((c.withSession s.1).flush s.2).2 := rfl

/-- nothing happens to a client that goes on -/
theorem perform_still (he : ¬c.hasEnded = true) : c.perform c.session.still = (c, []) := if_neg he

theorem inbox_perform (c : Client) (s : Step) :
    (c.perform s).1.inbox = if (c.perform s).1.hasEnded then c.inbox.close else c.inbox := by
  rw [perform_eq, hasEnded_settle, inbox_settle, inbox_flush]
  rfl

/-- inputs have been answered: some payloads were refused, others taken and their tickets put in line, and those in front
were told what became of their packets -/
structure Answered (waiting taken : List (PacketId × Nat)) (refused : List (Nat × Error)) (asked : List SessionAction)
    (c : Client) (reports : List Report) : Prop where
  aligned : Aligned ((waiting ++ taken).drop (verdicts asked).length) [] c
  ids : (waiting ++ taken).map (·.1) =
    outcomes asked ++ ((waiting ++ taken).drop (verdicts asked).length).map (·.1)
  completions : (completions reports).Perm
    (refused.map (fun r => (r.1, .error r.2)) ++ told (waiting ++ taken) (verdicts asked))

/-- one input has been answered -/
def AnsweredAt (waiting : List (PacketId × Nat)) (c : Client) (i : Input × Instant) : Prop :=
  Answered waiting (c.accepts i).toList (c.refusals i) (c.askedAt i) (c.handle i.2 i.1).1 (c.handle i.2 i.1).2

/-- nothing asked of the session: a payload is refused, or nothing happens -/
theorem answered_refused (h : Aligned waiting [] c) (refused : List (Nat × Error)) :
    Answered waiting [] refused [] c (refused.map fun r => .completed r.1 (.error r.2)) where
  aligned := by
    rw [List.append_nil]
    exact h
  ids := rfl
  completions := by
    rw [completions_map fun r : Nat × Error => (r.1, .error r.2), show verdicts [] = [] from rfl, told_nil,
      List.append_nil]

/-- a step of the session carried out to the end -/
theorem answered_perform {s : Step} {taken : List (PacketId × Nat)}
    (h : Aligned (waiting ++ taken) s.2 (c.withSession s.1)) :
    Answered waiting taken ((if (c.perform s).1.hasEnded then c.inbox.tickets else []).map (·, .disconnected))
      ((c.withSession s.1).flushed s.2) (c.perform s).1 (c.perform s).2 := by
  have hserved := served_flush h
  obtain ⟨haligned, hcompletions⟩ := settle_of_aligned hserved.aligned ((c.withSession s.1).flush s.2).2
  have hinbox : ((c.withSession s.1).flush s.2).1.inbox = c.inbox := inbox_flush _ _
  rw [perform_eq, hasEnded_settle]
  refine ⟨haligned, hserved.ids, ?_⟩
  rw [hcompletions, hserved.completions, hinbox, List.map_map]
  exact List.perm_append_comm

/-- an event under which nothing is sent leaves those who wait in line -/
theorem aligned_step (h : Aligned waiting [] c) {e : SessionEvent × Instant} (hid : c.session.id? e = none) :
    Aligned (waiting ++ []) (c.session.step e).2 (c.withSession (c.session.step e).1) where
  settled := (Session.turn c.session e).settled h.settled
  numbered := (Session.turn c.session e).numbered h.numbered
  ids := by
    have hconserves := (Session.turn c.session e).conserves
    rw [hid, Option.toList_none, List.append_nil] at hconserves
    rw [List.append_nil, h.ids]
    exact hconserves
  nodup := by
    rw [List.append_nil]
    exact h.nodup
  pending := by
    rw [List.append_nil]
    exact h.pending

/-- with room left nobody waits for the next id -/
theorem get?_nextLocalId (h : Aligned waiting [] c) (hroom : c.session.inFlight.length < 0x8000) :
    c.pending.get? c.session.nextLocalId = none := by
  rw [Option.eq_none_iff_forall_ne_some]
  intro ticket hget
  have hmem := List.mem_map_of_mem (f := (·.1)) ((h.pending _ ticket).1 hget)
  have hids : waiting.map (·.1) = c.session.flying := h.ids
  rw [hids] at hmem
  exact Session.nextLocalId_not_mem h.numbered hroom hmem

/-- an event under which a payload is sent puts its ticket at the end of the line -/
theorem aligned_sent (h : Aligned waiting [] c) (hroom : c.session.inFlight.length < 0x8000)
    {e : SessionEvent × Instant} (hid : c.session.id? e = some c.session.nextLocalId) (ticket : Nat) :
    Aligned (waiting ++ [(c.session.nextLocalId, ticket)]) (c.session.step e).2
      ({ c with pending := c.pending.insert c.session.nextLocalId ticket }.withSession (c.session.step e).1) := by
  have hconserves := (Session.turn c.session e).conserves
  rw [hid] at hconserves
  have hids : waiting.map (·.1) = c.session.flying := h.ids
  have hfresh : c.session.nextLocalId ∉ waiting.map (·.1) := by
    rw [hids]
    exact Session.nextLocalId_not_mem h.numbered hroom
  refine ⟨(Session.turn c.session e).settled h.settled, (Session.turn c.session e).numbered h.numbered, ?_, ?_, ?_⟩
  · rw [List.map_append, hids]
    exact hconserves
  · rw [List.map_append, List.nodup_append]
    refine ⟨h.nodup, List.nodup_singleton _, fun id hid id' hid' heq => hfresh ?_⟩
    rw [heq, List.mem_singleton.1 hid'] at hid
    exact hid
  · intro id ticket'
    show (c.pending.insert c.session.nextLocalId ticket).get? id = some ticket' ↔ _
    rw [IdMap.get?_insert, List.mem_append, List.mem_singleton, ← h.pending]
    split_ifs with heq
    · have heq := Id.toNat_inj heq
      have hnone : c.pending.get? id = none := by
        rw [← heq]
        exact get?_nextLocalId h hroom
      simp [hnone, heq, eq_comm]
    · have hne : id ≠ c.session.nextLocalId := fun he => heq (by rw [he])
      simp [hne]

theorem stepAt_of_ended (he : c.hasEnded = true) (i : Input × Instant) : c.stepAt i = c.session.still := if_pos he

theorem stepAt_of_event (he : ¬c.hasEnded = true) {i : Input × Instant} {e : SessionEvent} (h : c.event? i.1 = some e) :
    c.stepAt i = c.session.step (e, i.2) := by
  rw [stepAt, if_neg he, h]

theorem stepAt_of_no_event {i : Input × Instant} (h : c.event? i.1 = none) : c.stepAt i = c.session.still := by
  rw [stepAt, h]
  split_ifs <;> rfl

theorem askedAt_of_still {i : Input × Instant} (hs : c.stepAt i = c.session.still) : c.askedAt i = [] := by
  rw [askedAt, hs]
  rfl

section Served

variable {r : Request} {inbox : Inbox}

theorem inboxAt_serve (he : ¬c.hasEnded = true) (hnext : c.inbox.next? = some (r, inbox)) :
    c.inboxAt .serve = inbox := by
  rw [inboxAt, if_neg he, hnext]
  rfl

theorem event?_serve (hnext : c.inbox.next? = some (r, inbox)) : c.event? .serve = some r.event := by
  rw [event?, hnext]
  rfl

theorem handle_serve (he : ¬c.hasEnded = true) (hnext : c.inbox.next? = some (r, inbox)) (now : Instant) :
    c.handle now .serve = (c.withInbox inbox).grant now r := by
  rw [handle, if_neg he, hnext]
  rfl

theorem offers_serve_send {payload : Bytes} {ticket : Nat} (he : ¬c.hasEnded = true)
    (hnext : c.inbox.next? = some (.send payload ticket, inbox)) : c.offers .serve = some (payload, ticket) := by
  simp only [offers, hnext, if_neg he]

theorem accepts_serve_send {payload : Bytes} {ticket : Nat} (he : ¬c.hasEnded = true)
    (hnext : c.inbox.next? = some (.send payload ticket, inbox)) (now : Instant) :
    c.accepts (.serve, now) = (c.session.id? (.send payload, now)).map (·, ticket) := by
  rw [accepts, offers_serve_send he hnext]
  rfl

theorem stepAt_serve_send {payload : Bytes} {ticket : Nat} (he : ¬c.hasEnded = true)
    (hnext : c.inbox.next? = some (.send payload ticket, inbox)) (now : Instant) :
    c.stepAt (.serve, now) = c.session.step (.send payload, now) := stepAt_of_event he (event?_serve hnext)

theorem offers_serve_close (hnext : c.inbox.next? = some (.close, inbox)) : c.offers .serve = none := by
  simp only [offers, hnext]

/-- a request to send is served without its packet -/
theorem handle_serve_error {payload : Bytes} {ticket : Nat} {now : Instant} {e : Error} (he : ¬c.hasEnded = true)
    (hnext : c.inbox.next? = some (.send payload ticket, inbox)) (hs : c.session.send payload now = .error e) :
    c.handle now .serve = (c.withInbox inbox, [.completed ticket (.error e)]) := by
  have hsession : (c.withInbox inbox).session = c.session := rfl
  rw [handle_serve he hnext, grant, sendPayload]
  simp only [hsession, hs]

/-- a client that has taken a payload, before its session goes on -/
def taking (c : Client) (inbox : Inbox) (ticket : Nat) : Client :=
  { c with inbox, pending := c.pending.insert c.session.nextLocalId ticket }

/-- a request to send is served -/
theorem handle_serve_ok {payload : Bytes} {ticket : Nat} {now : Instant} {r : Reaction} (he : ¬c.hasEnded = true)
    (hnext : c.inbox.next? = some (.send payload ticket, inbox)) (hs : c.session.send payload now = .ok r) :
    c.handle now .serve =
      let lost := (c.pending.get? c.session.nextLocalId).toList.map fun old => .completed old (.error .disconnected)
      let performed := (c.taking inbox ticket).perform (r.session, r.actions)
      (performed.1, lost ++ performed.2) := by
  obtain ⟨_, _, -, -, -, hr⟩ := Session.send_eq hs
  have hrid : r.id = some c.session.nextLocalId := by rw [hr]
  have hsession : (c.withInbox inbox).session = c.session := rfl
  rw [handle_serve he hnext, grant, sendPayload]
  simp only [hsession, hs, hrid]
  rfl

end Served

/-- what a write makes the session ask for does not depend on who waits -/
theorem queued_write_congr (c c' : Client) (hlink : c.link = c'.link) (hsession : c.session = c'.session)
    (datagram : Bytes) : (c.write datagram).queued = (c'.write datagram).queued := by
  unfold write
  rw [hlink]
  split
  · rfl
  · unfold fail isTransient
    dsimp only
    rw [hsession]
    split_ifs <;> rfl

theorem flushed_withInbox (c : Client) (b : Inbox) (actions : List SessionAction) :
    (c.withInbox b).flushed actions = c.flushed actions := by
  rw [flushed, carryOutAll_withInbox]
  rfl

theorem stopsAt_of_hasEnded_eq {i : Input × Instant} (h : (c.handle i.2 i.1).1.hasEnded = c.hasEnded) :
    c.stopsAt i = false := by
  rw [stopsAt, h, Bool.not_and_self]

theorem strands_of_hasEnded_eq {i : Input × Instant} (h : (c.handle i.2 i.1).1.hasEnded = c.hasEnded) :
    c.strands i = [] := by
  rw [strands, stopsAt_of_hasEnded_eq h]
  rfl

theorem offers_of_ended (he : c.hasEnded = true) (i : Input) : c.offers i = none := by
  unfold offers
  split
  · exact if_pos he
  · rfl

theorem accepts_of_no_offer {i : Input × Instant} (h : c.offers i.1 = none) : c.accepts i = none := by
  rw [accepts, h, Option.bind_none]

theorem refuses_of_no_offer {i : Input × Instant} (h : c.offers i.1 = none) : c.refuses i = none := by
  rw [refuses, h, Option.bind_none]

/-- nothing is asked of the session, and whoever comes too late is turned away -/
theorem answered_aside (h : Aligned waiting [] c) {i : Input × Instant} (hoffer : c.offers i.1 = none)
    (hstep : c.stepAt i = c.session.still) (hsession : (c.handle i.2 i.1).1.session = c.session)
    (hpending : (c.handle i.2 i.1).1.pending = c.pending)
    (hreports : (c.handle i.2 i.1).2 = (c.turnsAway i.1).toList.map (.completed · (.error .disconnected))) :
    AnsweredAt waiting c i := by
  have hended : (c.handle i.2 i.1).1.hasEnded = c.hasEnded := by rw [hasEnded, hasEnded, hsession]
  have hanswered := answered_refused (h.frame hsession hpending) ((c.turnsAway i.1).toList.map (·, .disconnected))
  rw [List.map_map] at hanswered
  rw [AnsweredAt, accepts_of_no_offer hoffer, refusals, refuses_of_no_offer hoffer, strands_of_hasEnded_eq hended,
    askedAt_of_still hstep, hreports, List.append_nil]
  exact hanswered

/-- an input at which the session takes a step that sends nothing -/
theorem answered_event (h : Aligned waiting [] c) (he : ¬c.hasEnded = true) {input : Input} {now : Instant}
    {e : SessionEvent} (hevent : c.event? input = some e) (hid : c.session.id? (e, now) = none)
    (hoffer : c.offers input = none) (haway : c.turnsAway input = none)
    (hhandle : c.handle now input = (c.withInbox (c.inboxAt input)).perform (c.session.step (e, now))) :
    AnsweredAt waiting c (input, now) := by
  have halign : Aligned (waiting ++ []) (c.session.step (e, now)).2
      ((c.withInbox (c.inboxAt input)).withSession (c.session.step (e, now)).1) := (aligned_step h hid).frame rfl rfl
  have hanswered := answered_perform halign
  have hflushed : ((c.withInbox (c.inboxAt input)).withSession (c.session.step (e, now)).1).flushed
      (c.session.step (e, now)).2 = c.askedAt (input, now) := by
    rw [askedAt, stepAt_of_event he hevent]
    exact flushed_withInbox (c.withSession _) _ _
  have hrefusals : c.refusals (input, now) =
      (if ((c.withInbox (c.inboxAt input)).perform (c.session.step (e, now))).1.hasEnded then
        (c.withInbox (c.inboxAt input)).inbox.tickets else []).map (·, .disconnected) := by
    rw [refusals, refuses_of_no_offer hoffer, haway, strands, stopsAt, hhandle, Bool.eq_false_of_not_eq_true he]
    rfl
  rw [AnsweredAt, accepts_of_no_offer hoffer, hrefusals, ← hflushed]
  dsimp only
  rw [hhandle]
  exact hanswered

/-- an input that passes without a trace -/
theorem answered_still (h : Aligned waiting [] c) {i : Input × Instant} (hoffer : c.offers i.1 = none)
    (haway : c.turnsAway i.1 = none) (hstep : c.stepAt i = c.session.still) (hhandle : c.handle i.2 i.1 = (c, [])) :
    AnsweredAt waiting c i := by
  refine answered_aside h hoffer hstep ?_ ?_ ?_
  · rw [hhandle]
  · rw [hhandle]
  · rw [hhandle, haway]
    rfl

theorem answered_request (h : Aligned waiting [] c) (r : Request) (now : Instant) :
    AnsweredAt waiting c (.request r, now) := by
  have hhandle : c.handle now (.request r) = c.ask r := rfl
  have hask : (c.ask r).1.session = c.session ∧ (c.ask r).1.pending = c.pending ∧
      (c.ask r).2 = (c.turnsAway (.request r)).toList.map (.completed · (.error .disconnected)) := by
    unfold ask turnsAway Inbox.push?
    cases c.inbox.isClosed with
    | true => exact ⟨rfl, rfl, rfl⟩
    | false => exact ⟨rfl, rfl, rfl⟩
  exact answered_aside h rfl (stepAt_of_no_event rfl) hask.1 hask.2.1 hask.2.2

/-- a fault of the link passes, or ends the session -/
theorem answered_fault (h : Aligned waiting [] c) (he : ¬c.hasEnded = true) (f : SocketFault) (now : Instant) :
    AnsweredAt waiting c (.arrival (.fault f), now) := by
  have hhandle : c.handle now (.arrival (.fault f)) =
      (c.fail f).client.perform ((c.fail f).client.session, (c.fail f).queued) := if_neg he
  by_cases hf : c.isTransient f = true
  · have hfail : c.fail f = c.still := if_pos hf
    refine answered_still h rfl rfl (stepAt_of_no_event (if_pos hf)) ?_
    rw [hhandle, hfail]
    exact perform_still he
  · have hfail : c.fail f =
        ⟨c.withSession (c.session.terminate (.socketFailed f.message)).1, [],
          (c.session.terminate (.socketFailed f.message)).2⟩ := if_neg hf
    rw [hfail] at hhandle
    exact answered_event h he (e := .socketFailed f.message) (if_neg hf) rfl rfl rfl hhandle

/-- the session refuses a payload -/
theorem answered_send_error (h : Aligned waiting [] c) (he : ¬c.hasEnded = true) {payload : Bytes} {ticket : Nat}
    {inbox : Inbox} (hnext : c.inbox.next? = some (.send payload ticket, inbox)) {now : Instant} {e : Error}
    (hs : c.session.send payload now = .error e) : AnsweredAt waiting c (.serve, now) := by
  obtain ⟨hid, hstill⟩ := Session.step_error (e := (.send payload, now)) hs
  have hrefused := handle_serve_error he hnext hs
  have hended : (c.handle now .serve).1.hasEnded = c.hasEnded := by
    rw [hrefused]
    rfl
  have hrefusals : c.refusals (.serve, now) = [(ticket, e)] := by
    rw [refusals, strands_of_hasEnded_eq (i := (.serve, now)) hended, refuses, offers_serve_send he hnext,
      Option.bind_some, hs]
    rfl
  rw [AnsweredAt, accepts_serve_send he hnext, hid, hrefusals,
    askedAt_of_still ((stepAt_serve_send he hnext now).trans hstill)]
  dsimp only
  rw [hrefused]
  exact answered_refused (c := c.withInbox inbox) (h.frame rfl rfl) [(ticket, e)]

/-- the session takes a payload, and its ticket joins the line -/
theorem answered_send_ok (h : Aligned waiting [] c) (hroom : c.session.inFlight.length < 0x8000)
    (he : ¬c.hasEnded = true) {payload : Bytes} {ticket : Nat} {inbox : Inbox}
    (hnext : c.inbox.next? = some (.send payload ticket, inbox)) {now : Instant} {r : Reaction}
    (hs : c.session.send payload now = .ok r) : AnsweredAt waiting c (.serve, now) := by
  obtain ⟨hid, hok⟩ := Session.step_ok (e := (.send payload, now)) hs
  obtain ⟨sessionId, datagram, -, -, -, hr⟩ := Session.send_eq hs
  have hrid : r.id = some c.session.nextLocalId := by rw [hr]
  have htaken : c.handle now .serve = (c.taking inbox ticket).perform (r.session, r.actions) := by
    rw [handle_serve_ok he hnext hs, get?_nextLocalId h hroom]
    rfl
  have hsent := aligned_sent h hroom (hid.trans hrid) ticket
  rw [hok] at hsent
  have hanswered := answered_perform (c := c.taking inbox ticket) (s := (r.session, r.actions)) (hsent.frame rfl rfl)
  have hasked : c.askedAt (.serve, now) = ((c.taking inbox ticket).withSession r.session).flushed r.actions := by
    have hactions : r.actions = [.transmit datagram] := by rw [hr]
    have hqueued := queued_write_congr (c.withSession r.session) ((c.taking inbox ticket).withSession r.session)
      rfl rfl datagram
    rw [askedAt, stepAt_serve_send he hnext, hok, hactions]
    exact congrArg ([SessionAction.transmit datagram] ++ ·) hqueued
  have hrefusals : c.refusals (.serve, now) =
      (if ((c.taking inbox ticket).perform (r.session, r.actions)).1.hasEnded then
        (c.taking inbox ticket).inbox.tickets else []).map (·, .disconnected) := by
    rw [refusals, refuses, offers_serve_send he hnext, Option.bind_some, hs, strands, stopsAt,
      Bool.eq_false_of_not_eq_true he, inboxAt_serve he hnext]
    dsimp only
    rw [htaken]
    rfl
  rw [AnsweredAt, accepts_serve_send he hnext, hid, hrid, hrefusals, hasked]
  dsimp only
  rw [htaken]
  exact hanswered

/-- the request in front is served -/
theorem answered_serve (h : Aligned waiting [] c) (hroom : c.session.inFlight.length < 0x8000)
    (he : ¬c.hasEnded = true) (now : Instant) : AnsweredAt waiting c (.serve, now) := by
  cases hnext : c.inbox.next? with
  | none =>
    have hevent : c.event? .serve = none := by
      rw [event?, hnext]
      rfl
    refine answered_still h ?_ rfl (stepAt_of_no_event hevent) ?_
    · simp only [offers, hnext]
    · simp only [handle, if_neg he, hnext]
  | some served =>
    obtain ⟨r, inbox⟩ := served
    cases r with
    | send payload ticket =>
      cases hs : c.session.send payload now with
      | error e => exact answered_send_error h he hnext hs
      | ok r => exact answered_send_ok h hroom he hnext hs
    | close =>
      refine answered_event h he (event?_serve hnext) rfl (offers_serve_close hnext) rfl ?_
      rw [handle_serve he hnext, inboxAt_serve he hnext]
      rfl

theorem answered_handle_of_ended (h : Aligned waiting [] c) (he : c.hasEnded = true) (i : Input × Instant) :
    AnsweredAt waiting c i := by
  have hstill (hoffer : c.offers i.1 = none) (haway : c.turnsAway i.1 = none)
      (hhandle : c.handle i.2 i.1 = (c, [])) : AnsweredAt waiting c i :=
    answered_still h hoffer haway (stepAt_of_ended he i) hhandle
  obtain ⟨input, now⟩ := i
  cases input with
  | request r => exact answered_request h r now
  | abandon => exact answered_aside h rfl (stepAt_of_no_event rfl) rfl rfl rfl
  | serve => exact hstill (offers_of_ended he _) rfl (if_pos he)
  | arrival a =>
    cases a with
    | datagram bytes => exact hstill rfl rfl (if_pos he)
    | fault f => exact hstill rfl rfl (if_pos he)
  | tick => exact hstill rfl rfl (if_pos he)
  | relink link => exact answered_aside h rfl (stepAt_of_no_event rfl) rfl rfl rfl

/-- **One input.** A request is refused, put into the inbox or served, and then its ticket joins the line; then those in
front are told what became of their packets. -/
theorem answered_handle (h : Aligned waiting [] c) (hroom : c.session.inFlight.length < 0x8000) (i : Input × Instant) :
    AnsweredAt waiting c i := by
  by_cases he : c.hasEnded = true
  · exact answered_handle_of_ended h he i
  · obtain ⟨input, now⟩ := i
    cases input with
    | request r => exact answered_request h r now
    | abandon => exact answered_aside h rfl (stepAt_of_no_event rfl) rfl rfl rfl
    | serve => exact answered_serve h hroom he now
    | arrival a =>
      cases a with
      | datagram bytes => exact answered_event h he (e := .datagram bytes) rfl rfl rfl rfl (if_neg he)
      | fault f => exact answered_fault h he f now
    | tick => exact answered_event h he (e := .tick) rfl rfl rfl rfl (if_neg he)
    | relink link => exact answered_aside h rfl (stepAt_of_no_event rfl) rfl rfl rfl

/-! ### The inbox -/

/-- the ticket that an input adds to those who want an answer -/
def ticket? (i : Input × Instant) : Option Nat :=
  match i.1 with
  | .request r => r.ticket?
  | _ => none

/-- a payload that is served is refused or taken -/
theorem map_offers (c : Client) (i : Input × Instant) :
    (c.offers i.1).toList.map (·.2) = (c.refuses i).toList.map (·.1) ++ (c.accepts i).toList.map (·.2) := by
  cases hoffer : c.offers i.1 with
  | none =>
    rw [refuses_of_no_offer hoffer, accepts_of_no_offer hoffer]
    rfl
  | some p =>
    obtain ⟨payload, ticket⟩ := p
    rw [refuses, accepts, hoffer, Option.bind_some, Option.bind_some]
    cases hs : c.session.send payload i.2 with
    | error e =>
      obtain ⟨hid, -⟩ := Session.step_error (e := (.send payload, i.2)) hs
      rw [hid]
      rfl
    | ok r =>
      obtain ⟨hid, -⟩ := Session.step_ok (e := (.send payload, i.2)) hs
      obtain ⟨_, _, -, -, -, hr⟩ := Session.send_eq hs
      rw [hid, hr]
      rfl

/-- whoever asks is turned away or joins the inbox, and whoever is served leaves it -/
theorem perm_inboxAt (c : Client) (i : Input × Instant) :
    ((c.turnsAway i.1).toList ++ (c.offers i.1).toList.map (·.2) ++ (c.inboxAt i.1).tickets).Perm
      (c.inbox.tickets ++ (ticket? i).toList) := by
  obtain ⟨input, now⟩ := i
  cases input with
  | request r =>
    have hoffer : c.offers (.request r) = none := rfl
    have hticket : ticket? (.request r, now) = r.ticket? := rfl
    rw [hoffer, hticket, Option.toList_none, List.map_nil, List.append_nil]
    by_cases hclosed : c.inbox.isClosed = true
    · have hpush : c.inbox.push? r = none := if_pos hclosed
      rw [turnsAway, if_pos hclosed, inboxAt, hpush]
      exact List.perm_append_comm
    · have hpush : c.inbox.push? r = some { c.inbox with requests := c.inbox.requests ++ [r] } := if_neg hclosed
      rw [turnsAway, if_neg hclosed, inboxAt, hpush, Option.getD_some, Inbox.tickets_push? hpush]
      exact .refl _
  | abandon =>
    rw [inboxAt, Inbox.tickets_abandon]
    exact .of_eq (List.append_nil _).symm
  | serve =>
    refine .of_eq ?_
    rw [show ticket? (.serve, now) = none from rfl, Option.toList_none, List.append_nil, inboxAt]
    by_cases he : c.hasEnded = true
    · rw [offers_of_ended he, if_pos he]
      rfl
    · rw [if_neg he]
      cases hnext : c.inbox.next? with
      | none =>
        have hoffer : c.offers .serve = none := by simp only [offers, hnext]
        rw [hoffer]
        rfl
      | some served =>
        obtain ⟨r, inbox⟩ := served
        have hoffer : (c.offers .serve).toList.map (·.2) = r.ticket?.toList := by
          cases r with
          | send payload ticket =>
            rw [offers_serve_send he hnext]
            rfl
          | close =>
            rw [offers_serve_close hnext]
            rfl
        rw [hoffer, Inbox.tickets_next? hnext]
        rfl
  | arrival a => exact .of_eq (List.append_nil _).symm
  | tick => exact .of_eq (List.append_nil _).symm
  | relink link => exact .of_eq (List.append_nil _).symm

theorem ask_eq (c : Client) (r : Request) : (c.ask r).1 = c.withInbox (c.inboxAt (.request r)) := by
  rw [ask, inboxAt]
  cases c.inbox.push? r with
  | none => rfl
  | some inbox => rfl

/-- a step carried out to the end closes the inbox if it ends the session, and leaves it alone otherwise -/
theorem inbox_of_perform (he : ¬c.hasEnded = true) {i : Input × Instant} {d : Client} {s : Step}
    (hinbox : d.inbox = c.inboxAt i.1) (hhandle : (c.handle i.2 i.1).1 = (d.perform s).1) :
    (c.handle i.2 i.1).1.inbox = if c.stopsAt i then (c.inboxAt i.1).close else c.inboxAt i.1 := by
  have hstops : c.stopsAt i = (d.perform s).1.hasEnded := by
    rw [stopsAt, hhandle, Bool.eq_false_of_not_eq_true he]
    rfl
  rw [hstops, hhandle, inbox_perform, hinbox]

/-- an input at which the client goes on, or has stopped before -/
theorem inbox_of_hasEnded_eq {i : Input × Instant} (hended : (c.handle i.2 i.1).1.hasEnded = c.hasEnded)
    (hinbox : (c.handle i.2 i.1).1.inbox = c.inboxAt i.1) :
    (c.handle i.2 i.1).1.inbox = if c.stopsAt i then (c.inboxAt i.1).close else c.inboxAt i.1 := by
  rw [stopsAt_of_hasEnded_eq hended, hinbox]
  rfl

theorem inbox_of_still {i : Input × Instant} (hhandle : c.handle i.2 i.1 = (c, [])) (hinbox : c.inbox = c.inboxAt i.1) :
    (c.handle i.2 i.1).1.inbox = if c.stopsAt i then (c.inboxAt i.1).close else c.inboxAt i.1 := by
  refine inbox_of_hasEnded_eq ?_ ?_
  · rw [hhandle]
  · rw [hhandle, hinbox]

theorem inbox_serve (he : ¬c.hasEnded = true) (now : Instant) :
    (c.handle now .serve).1.inbox = if c.stopsAt (.serve, now) then (c.inboxAt .serve).close else c.inboxAt .serve := by
  cases hnext : c.inbox.next? with
  | none =>
    have hhandle : c.handle now .serve = (c, []) := by simp only [handle, if_neg he, hnext]
    refine inbox_of_still (i := (.serve, now)) hhandle ?_
    rw [inboxAt, if_neg he, hnext]
    rfl
  | some served =>
    obtain ⟨r, inbox⟩ := served
    have hinbox := inboxAt_serve he hnext
    cases r with
    | close =>
      refine inbox_of_perform (i := (.serve, now)) (d := c.withInbox inbox) (s := c.session.close) he hinbox.symm ?_
      rw [handle_serve he hnext]
      rfl
    | send payload ticket =>
      cases hs : c.session.send payload now with
      | error e =>
        have hrefused := handle_serve_error he hnext hs
        refine inbox_of_hasEnded_eq (i := (.serve, now)) ?_ ?_
        · rw [hrefused]
          rfl
        · rw [hrefused, hinbox]
          rfl
      | ok r =>
        refine inbox_of_perform (i := (.serve, now)) (d := c.taking inbox ticket) (s := (r.session, r.actions)) he
          hinbox.symm ?_
        rw [handle_serve_ok he hnext hs]

theorem inbox_fail (c : Client) (f : SocketFault) : (c.fail f).client.inbox = c.inbox := by
  unfold fail
  split
  · rfl
  · rfl

theorem inbox_arrival (he : ¬c.hasEnded = true) (a : Arrival) (now : Instant) :
    (c.handle now (.arrival a)).1.inbox =
      if c.stopsAt (.arrival a, now) then (c.inboxAt (.arrival a)).close else c.inboxAt (.arrival a) := by
  cases a with
  | datagram bytes =>
    have hhandle : c.handle now (.arrival (.datagram bytes)) = c.perform (c.session.receive bytes now) := if_neg he
    exact inbox_of_perform (i := (.arrival (.datagram bytes), now)) he rfl (congrArg Prod.fst hhandle)
  | fault f =>
    have hhandle : c.handle now (.arrival (.fault f)) =
        (c.fail f).client.perform ((c.fail f).client.session, (c.fail f).queued) := if_neg he
    exact inbox_of_perform (i := (.arrival (.fault f), now)) he (c.inbox_fail f) (congrArg Prod.fst hhandle)

/-- a client that stops gives up whoever is in its inbox, and no other input takes anybody out of it but to be served -/
theorem inbox_handle (c : Client) (i : Input × Instant) :
    (c.handle i.2 i.1).1.inbox = if c.stopsAt i then (c.inboxAt i.1).close else c.inboxAt i.1 := by
  obtain ⟨input, now⟩ := i
  cases input with
  | request r =>
    have hhandle : (c.handle now (.request r)).1 = c.withInbox (c.inboxAt (.request r)) := c.ask_eq r
    refine inbox_of_hasEnded_eq (i := (.request r, now)) ?_ ?_
    · rw [hhandle]
      rfl
    · rw [hhandle]
      rfl
  | abandon => exact inbox_of_hasEnded_eq (i := (.abandon, now)) rfl rfl
  | relink link => exact inbox_of_hasEnded_eq (i := (.relink link, now)) rfl rfl
  | serve =>
    by_cases he : c.hasEnded = true
    · exact inbox_of_still (i := (.serve, now)) (if_pos he) (if_pos he).symm
    · exact inbox_serve he now
  | arrival a =>
    by_cases he : c.hasEnded = true
    · refine inbox_of_still (i := (.arrival a, now)) ?_ rfl
      cases a with
      | datagram bytes => exact if_pos he
      | fault f => exact if_pos he
    · exact inbox_arrival he a now
  | tick =>
    by_cases he : c.hasEnded = true
    · exact inbox_of_still (i := (.tick, now)) (if_pos he) rfl
    · have hhandle : c.handle now .tick = c.perform (c.session.tick now) := if_neg he
      exact inbox_of_perform (i := (.tick, now)) he rfl (congrArg Prod.fst hhandle)

/-- a client that has stopped has an empty inbox, and takes no more -/
def Stopped (c : Client) : Prop := c.hasEnded = true → c.inbox.isClosed = true ∧ c.inbox.requests = []

theorem stopped_perform (c : Client) (s : Step) : Stopped (c.perform s).1 := by
  intro he
  rw [inbox_perform, if_pos he]
  exact ⟨rfl, rfl⟩

/-- once closed and empty, an inbox stays so -/
theorem inboxAt_of_stopped (h : Stopped c) (he : c.hasEnded = true) (i : Input) :
    (c.inboxAt i).isClosed = true ∧ (c.inboxAt i).requests = [] := by
  obtain ⟨hclosed, hrequests⟩ := h he
  have hpush (r : Request) : c.inbox.push? r = none := if_pos hclosed
  cases i with
  | request r =>
    rw [inboxAt, hpush]
    exact ⟨hclosed, hrequests⟩
  | abandon =>
    rw [inboxAt, Inbox.abandon, hpush]
    exact ⟨hclosed, hrequests⟩
  | serve =>
    rw [inboxAt, if_pos he]
    exact ⟨hclosed, hrequests⟩
  | _ => exact ⟨hclosed, hrequests⟩

/-- **Nobody is left in the inbox** of a client that has stopped. -/
theorem stopped_handle (h : Stopped c) (i : Input × Instant) : Stopped (c.handle i.2 i.1).1 := by
  intro he'
  rw [inbox_handle]
  by_cases he : c.hasEnded = true
  · have hstops : c.stopsAt i = false := by
      rw [stopsAt, he]
      rfl
    rw [hstops]
    exact inboxAt_of_stopped h he i.1
  · have hstops : c.stopsAt i = true := by
      rw [stopsAt, he', Bool.eq_false_of_not_eq_true he]
      rfl
    rw [hstops]
    exact ⟨rfl, rfl⟩

theorem strands_append (c : Client) (i : Input × Instant) :
    c.strands i ++ (c.handle i.2 i.1).1.inbox.tickets = (c.inboxAt i.1).tickets := by
  rw [inbox_handle, strands]
  split
  · exact List.append_nil _
  · rfl

/-- **The tickets of an input.** Whoever was in the inbox or asks now is refused, taken or still in the inbox. -/
theorem perm_handle (c : Client) (i : Input × Instant) :
    ((c.refusals i).map (·.1) ++ (c.accepts i).toList.map (·.2) ++ (c.handle i.2 i.1).1.inbox.tickets).Perm
      (c.inbox.tickets ++ (ticket? i).toList) := by
  refine .trans ?_ (c.perm_inboxAt i)
  rw [map_offers, ← strands_append, refusals, List.map_append, List.map_map]
  simp only [List.perm_iff_count, List.count_append, List.map_id', Function.comp_def]
  intro ticket
  omega

end VisionMixer.Client
