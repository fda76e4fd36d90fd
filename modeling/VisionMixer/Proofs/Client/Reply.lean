/-
Every send is answered once, and truthfully.

`asked`, `accepted` and `refused` are what the inputs of a history amount to, one after another. `answered_run` is the
induction over a history in which fewer packets are in flight than there are ids, and `perm_tickets` the one by which no
ticket is lost on the way. `answers_once`: the tickets that a client keeps are those of the packets in flight and those in
its inbox, every other has been answered once, with what the session said of the packet that was sent for it, and after
the end nobody waits.
-/
import VisionMixer.Proofs.Client.Answer

namespace VisionMixer.Client

open Session (Settled Numbered)
open scoped List

variable {c : Client} {waiting : List (PacketId × Nat)}

/-- the payloads of a history that are sent, each with its id and its ticket -/
def accepted (c : Client) : List (Input × Instant) → List (PacketId × Nat)
  | [] => []
  | i :: history => (c.accepts i).toList ++ (c.handle i.2 i.1).1.accepted history

/-- the tickets of the requests of a history that are left without a packet for ever, and why -/
def refused (c : Client) : List (Input × Instant) → List (Nat × Error)
  | [] => []
  | i :: history => c.refusals i ++ (c.handle i.2 i.1).1.refused history

/-- all that the session asks for over a history, in the order in which it is carried out -/
def asked (c : Client) : List (Input × Instant) → List SessionAction
  | [] => []
  | i :: history => c.askedAt i ++ (c.handle i.2 i.1).1.asked history

theorem foldl_handle (r : Client × List Report) (history : List (Input × Instant)) :
    history.foldl (fun r i => ((r.1.handle i.2 i.1).1, r.2 ++ (r.1.handle i.2 i.1).2)) r =
      ((r.1.run history).1, r.2 ++ (r.1.run history).2) := by
  induction history generalizing r with
  | nil => exact Prod.ext rfl (List.append_nil _).symm
  | cons i history ih =>
    have hcons (c : Client) : c.run (i :: history) =
        (((c.handle i.2 i.1).1.run history).1, (c.handle i.2 i.1).2 ++ ((c.handle i.2 i.1).1.run history).2) := by
      show history.foldl (fun (r : Client × List Report) i => ((r.1.handle i.2 i.1).1, r.2 ++ (r.1.handle i.2 i.1).2))
        (c.handle i.2 i.1) = _
      rw [ih]
    rw [List.foldl_cons, ih, hcons, List.append_assoc]

theorem run_cons (c : Client) (i : Input × Instant) (history : List (Input × Instant)) :
    c.run (i :: history) =
      (((c.handle i.2 i.1).1.run history).1, (c.handle i.2 i.1).2 ++ ((c.handle i.2 i.1).1.run history).2) :=
  foldl_handle (c.handle i.2 i.1) history

theorem perm_interchange {α : Type} (a b c d : List α) : ((a ++ b) ++ (c ++ d)).Perm ((a ++ c) ++ (b ++ d)) := by
  rw [List.append_assoc, List.append_assoc]
  exact (List.perm_append_comm_assoc b c d).append_left a

/-- more who wait at the back do not change what is told to those in front -/
theorem told_append_left {waiting : List (PacketId × Nat)} {verdicts : List (PacketId × Except Error Unit)}
    (h : verdicts.length ≤ waiting.length) (more : List (PacketId × Nat)) :
    told (waiting ++ more) verdicts = told waiting verdicts := by
  induction verdicts generalizing waiting with
  | nil => rw [told_nil, told_nil]
  | cons v verdicts ih =>
    cases waiting with
    | nil => cases h
    | cons w waiting => exact congrArg (List.cons _) (ih (Nat.le_of_succ_le_succ h))

theorem map_told (waiting : List (PacketId × Nat)) (verdicts : List (PacketId × Except Error Unit)) :
    (told waiting verdicts).map (·.1) = (waiting.take verdicts.length).map (·.2) := by
  induction verdicts generalizing waiting with
  | nil => rw [told_nil, List.length_nil, List.take_zero, List.map_nil, List.map_nil]
  | cons v verdicts ih =>
    cases waiting with
    | nil => rfl
    | cons w waiting => exact congrArg (List.cons _) (ih waiting)

theorem Answered.then {taken taken' : List (PacketId × Nat)} {refused refused' : List (Nat × Error)}
    {asked asked' : List SessionAction} {reports reports' : List Report} {c' : Client}
    (h : Answered waiting taken refused asked c reports)
    (h' : Answered ((waiting ++ taken).drop (verdicts asked).length) taken' refused' asked' c' reports') :
    Answered waiting (taken ++ taken') (refused ++ refused') (asked ++ asked') c' (reports ++ reports') := by
  have hle := length_verdicts_le h.ids
  have hdrop : ((waiting ++ taken) ++ taken').drop (verdicts asked).length =
      (waiting ++ taken).drop (verdicts asked).length ++ taken' := List.drop_append_of_le_length hle
  refine ⟨?_, ?_, ?_⟩
  · rw [← List.append_assoc, verdicts_append, List.length_append, ← List.drop_drop, hdrop]
    exact h'.aligned
  · rw [← List.append_assoc, verdicts_append, List.length_append, ← List.drop_drop, hdrop, outcomes_append,
      List.append_assoc (outcomes asked), ← h'.ids, List.map_append, h.ids, List.map_append, List.append_assoc]
  · rw [completions_append, ← List.append_assoc, verdicts_append, told_append, hdrop, told_append_left hle,
      List.map_append]
    exact (h.completions.append h'.completions).trans (perm_interchange _ _ _ _)

/-- **A history.** While fewer packets are in flight than there are ids, every payload is refused at once or its ticket
waits its turn. -/
theorem answered_run {history : List (Input × Instant)} (h : Aligned waiting [] c)
    (hroom : ∀ n ≤ history.length, (c.run (history.take n)).1.session.inFlight.length < 0x8000) :
    Answered waiting (c.accepted history) (c.refused history) (c.asked history) (c.run history).1 (c.run history).2 := by
  induction history generalizing c waiting with
  | nil => exact answered_refused h []
  | cons i history ih =>
    have hfirst := answered_handle h (hroom 0 (Nat.zero_le _)) i
    rw [run_cons]
    exact hfirst.then (ih hfirst.aligned fun n hn => by
      have hnext := hroom (n + 1) (Nat.succ_le_succ hn)
      rwa [List.take_succ_cons, run_cons] at hnext)

/-- **No ticket is lost.** Whoever was in the inbox or has asked since is refused, taken or still in the inbox. -/
theorem perm_tickets (c : Client) (history : List (Input × Instant)) :
    ((c.refused history).map (·.1) ++ (c.accepted history).map (·.2) ++ (c.run history).1.inbox.tickets).Perm
      (c.inbox.tickets ++ history.filterMap ticket?) := by
  induction history generalizing c with
  | nil => exact .of_eq (List.append_nil _).symm
  | cons i history ih =>
    have hone := c.perm_handle i
    have hrest := ih (c.handle i.2 i.1).1
    have hticket : (i :: history).filterMap ticket? = (ticket? i).toList ++ history.filterMap ticket? := by
      cases h : ticket? i <;> simp [h]
    rw [List.perm_iff_count] at hone hrest ⊢
    intro ticket
    have hone := hone ticket
    have hrest := hrest ticket
    rw [run_cons, refused, accepted, hticket]
    simp only [List.map_append, List.count_append] at hone hrest ⊢
    omega

theorem stopped_run {history : List (Input × Instant)} (h : Stopped c) : Stopped (c.run history).1 := by
  induction history generalizing c with
  | nil => exact h
  | cons i history ih =>
    rw [run_cons]
    exact ih (stopped_handle h i)

/-- a client that has said its first hello -/
def opened (link : Link) (config : SessionConfig) (helloId : UInt16) (start : Instant) : Client :=
  ((initial link config helloId).perform ((Session.initial config helloId).step (.connect, start))).1

theorem aligned_opened (link : Link) (config : SessionConfig) (helloId : UInt16) (start : Instant) :
    Aligned [] [] (opened link config helloId start) := by
  have hfresh : Aligned [] [] (initial link config helloId) := by
    refine ⟨fun _ => rfl, ⟨1, rfl, rfl⟩, rfl, List.nodup_nil, fun id ticket => ?_⟩
    show (∅ : IdMap PacketId Nat).get? id = some ticket ↔ _
    simp
  have hopened := (answered_perform (aligned_step hfresh (e := (.connect, start)) rfl)).aligned
  rw [List.nil_append, List.drop_nil] at hopened
  exact hopened

theorem tickets_opened (link : Link) (config : SessionConfig) (helloId : UInt16) (start : Instant) :
    (opened link config helloId start).inbox.tickets = [] := by
  rw [opened, inbox_perform]
  split
  · rfl
  · rfl

/-- **One true answer.** Whatever happens to a client, as long as fewer packets are in flight than there are ids: the
packets sent are those on which the session has given its verdict, in order, and those in flight. Each request that comes
too late, that the session refuses or that is in the inbox when the client stops has been answered with an error, and each
of the first packets sent with the verdict on it; the tickets that the client keeps are those of the others, which are the
packets in flight. So each ticket has been answered once, is kept or is in the inbox, and when the session has ended none
is left. -/
theorem answers_once (link : Link) (config : SessionConfig) (helloId : UInt16) (start : Instant)
    (history : List (Input × Instant))
    (hroom : ∀ n ≤ history.length,
      ((opened link config helloId start).run (history.take n)).1.session.inFlight.length < 0x8000) :
    let c := opened link config helloId start
    let r := c.run history
    let given := verdicts (c.asked history)
    let waiting := (c.accepted history).drop given.length
    (c.accepted history).map (·.1) = given.map (·.1) ++ r.1.session.flying ∧
      (completions r.2).Perm
        ((c.refused history).map (fun r => (r.1, .error r.2)) ++ told (c.accepted history) given) ∧
      ((completions r.2).map (·.1) ++ waiting.map (·.2) ++ r.1.inbox.tickets).Perm (history.filterMap ticket?) ∧
      (∀ id ticket, r.1.pending.get? id = some ticket ↔ (id, ticket) ∈ waiting) ∧
      (∀ id, r.1.pending.contains id = true ↔ id ∈ r.1.session.flying) ∧
      (r.1.hasEnded = true → waiting = [] ∧ r.1.pending = ∅ ∧ r.1.inbox.requests = []) := by
  have h := answered_run (aligned_opened link config helloId start) hroom
  have htickets := perm_tickets (opened link config helloId start) history
  have hstopped : Stopped ((opened link config helloId start).run history).1 := stopped_run (stopped_perform _ _)
  rw [tickets_opened, List.nil_append] at htickets
  set c := opened link config helloId start with hc
  have hwaiting : ((c.accepted history).drop (verdicts (c.asked history)).length).map (·.1) =
      (c.run history).1.session.flying := h.aligned.ids
  refine ⟨?_, h.completions, ?_, h.aligned.pending, fun id => ?_, fun he => ?_⟩
  · rw [map_verdicts, ← hwaiting]
    exact h.ids
  · have htold := h.completions.map (·.1)
    rw [List.nil_append, List.map_append, List.map_map, map_told] at htold
    generalize (verdicts (c.asked history)).length = n at htold ⊢
    calc (completions (c.run history).2).map (·.1) ++ ((c.accepted history).drop n).map (·.2) ++
          (c.run history).1.inbox.tickets
      _ ~ (c.refused history).map (·.1) ++ ((c.accepted history).take n).map (·.2) ++
          ((c.accepted history).drop n).map (·.2) ++ (c.run history).1.inbox.tickets :=
        (htold.append_right _).append_right _
      _ = (c.refused history).map (·.1) ++ (c.accepted history).map (·.2) ++ (c.run history).1.inbox.tickets := by
        rw [List.append_assoc ((c.refused history).map _), ← List.map_append, List.take_append_drop]
      _ ~ history.filterMap ticket? := htickets
  · have hpending := h.aligned.pending id
    rw [← hwaiting, List.mem_map, IdMap.contains, Option.isSome_iff_exists]
    constructor
    · rintro ⟨ticket, hget⟩
      exact ⟨_, (hpending ticket).1 hget, rfl⟩
    · rintro ⟨⟨id, ticket⟩, hmem, rfl⟩
      exact ⟨ticket, (hpending ticket).2 hmem⟩
  · obtain ⟨hnobody, hempty⟩ := nobody_of_ended h.aligned he
    exact ⟨hnobody, hempty, (hstopped he).2⟩

open Session (wire greeting)

/-- three payloads are sent, the first is acknowledged, and a fourth waits in the inbox. The device asks for the other two
again: one gets through, but writing the next fails, which ends the session. A fifth payload comes too late. -/
def correspondence : List (Input × Instant) := [
  (.arrival (.datagram (wire (.hello 5 .accepted))), 1), (.arrival (.datagram (wire (.data 9 1 (greeting 1)))), 2),
  (.arrival (.datagram (wire (.data 9 2 (greeting 2)))), 3), (.request (.send [] 70), 4), (.serve, 4),
  (.request (.send [] 71), 5), (.request (.send [] 72), 5), (.serve, 5), (.serve, 5),
  (.arrival (.datagram (wire (.ack 9 1))), 6), (.request (.send [] 73), 7),
  (.relink { Link.fresh with writes := [none, some ⟨false, "gone"⟩] }, 7),
  (.arrival (.datagram (wire (.retransmitRequest 9 2))), 8), (.request (.send [] 74), 9)]

theorem answers_once_correspondence :
    let c := opened default default 5 0
    let r := c.run correspondence
    c.accepted correspondence = [(1, 70), (2, 71), (3, 72)] ∧ r.1.session.flying = [] ∧
      (verdicts (c.asked correspondence)).map (fun v => (v.1, v.2.isOk)) = [(1, true), (2, false), (3, false)] ∧
      (c.refused correspondence).map (·.1) = [73, 74] ∧
      ((completions r.2).map (·.1)).Perm [70, 71, 72, 73, 74] ∧ r.1.pending = ∅ ∧ r.1.inbox.requests = [] := by
  have hroom : ∀ n ≤ correspondence.length,
      ((opened default default 5 0).run (correspondence.take n)).1.session.inFlight.length < 0x8000 := by decide
  obtain ⟨-, -, htickets, -, -, hended⟩ := answers_once default default 5 0 correspondence hroom
  obtain ⟨hwaiting, hpending, hrequests⟩ := hended (by decide)
  rw [hwaiting, List.map_nil, List.append_nil, Inbox.tickets, hrequests, List.filterMap_nil, List.append_nil] at htickets
  exact ⟨by decide, by decide, by decide, by decide, htickets, hpending, hrequests⟩

end VisionMixer.Client
