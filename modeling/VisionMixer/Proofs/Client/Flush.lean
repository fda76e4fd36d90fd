/-
Whoever waits for an acknowledgement while the actions of a session are carried out.

The ids in flight are consecutive (`Numbered`), so with room left a new packet gets an id of its own. `Aligned` says who
waits, in the order of sending: one ticket for each outcome still to be carried out and for each packet in flight, and
these are the tickets that the client keeps. Carrying out an action keeps this and tells the ticket in front what became
of its packet, if the action is an outcome (`served_carryOut`); that the session may end on the way only adds outcomes at
the back. What a flush queues meanwhile asks for nothing more, so that after it those who wait are those in flight
(`served_flush`).
-/
import VisionMixer.Proofs.Client.Turn
import VisionMixer.Proofs.Session.Outcome

namespace VisionMixer

open PacketId (wrap)

namespace SessionAction

/-- what an action says became of a packet -/
def verdict? : SessionAction → Option (PacketId × Except Error Unit)
  | .acknowledged id => some (id, .ok ())
  | .sendFailed id => some (id, .error .disconnected)
  | _ => none

/-- an action that may lead to others -/
def isActive : SessionAction → Bool
  | .transmit _ | .deliver _ => true
  | .acknowledged _ | .sendFailed _ | .phaseChanged _ | .disconnected _ => false

end SessionAction

/-- what actions say became of packets, in order -/
def verdicts (actions : List SessionAction) : List (PacketId × Except Error Unit) :=
  actions.filterMap SessionAction.verdict?

theorem verdicts_append (a b : List SessionAction) : verdicts (a ++ b) = verdicts a ++ verdicts b :=
  List.filterMap_append

/-- there is a verdict on a packet wherever it has its outcome -/
theorem map_verdicts (actions : List SessionAction) : (verdicts actions).map (·.1) = outcomes actions := by
  rw [verdicts, outcomes, List.map_filterMap]
  refine List.filterMap_congr fun a _ => ?_
  cases a <;> rfl

/-- the outcomes of sends among the reports of a client, by their tickets -/
def completions (reports : List Report) : List (Nat × Except Error Unit) :=
  reports.filterMap fun
    | .completed ticket outcome => some (ticket, outcome)
    | _ => none

theorem completions_append (a b : List Report) : completions (a ++ b) = completions a ++ completions b :=
  List.filterMap_append

namespace Session

variable {m : Session} {e : SessionEvent × Instant} {id : Option PacketId} {s : Step}

/-- the ids in flight follow one another, and the next id follows them -/
def Numbered (m : Session) : Prop :=
  ∃ n, m.flying = (List.range' n m.flying.length).map wrap ∧ m.nextLocalId = wrap (n + m.flying.length)

theorem Turn.numbered (h : Turn m e id s) (hm : Numbered m) : Numbered s.1 := by
  obtain ⟨n, hids, hnext⟩ := hm
  obtain ⟨hid, hnext'⟩ := h.numbers hnext
  have hall : outcomes s.2 ++ s.1.flying = (List.range' n (m.flying.length + id.toList.length)).map wrap := by
    rw [← h.conserves, ← List.range'_append_1, List.map_append, ← hid, ← hids]
  have hlength := congrArg List.length hall
  simp only [List.length_append, List.length_map, List.length_range'] at hlength
  refine ⟨n + (outcomes s.2).length, ?_, ?_⟩
  · have hdrop := congrArg (List.drop (outcomes s.2).length) hall
    rw [List.drop_left, ← List.map_drop, List.drop_range'] at hdrop
    rw [hdrop, List.length_map, List.length_range', Nat.mul_one, ← hlength, Nat.add_sub_cancel_left]
  · rw [hnext', Nat.add_assoc, Nat.add_assoc, hlength]

/-- with room left the next id is not in flight -/
theorem nextLocalId_not_mem (hm : Numbered m) (hroom : m.inFlight.length < 0x8000) : m.nextLocalId ∉ m.flying := by
  obtain ⟨n, hids, hnext⟩ := hm
  have hlength : m.flying.length = m.inFlight.length := List.length_map _
  have hmem : ∀ id ∈ m.flying, ∃ k, n ≤ k ∧ k < n + m.flying.length ∧ wrap k = id := by
    intro id h
    rw [hids] at h
    obtain ⟨k, hk, heq⟩ := List.mem_map.1 h
    obtain ⟨hle, hlt⟩ := List.mem_range'_1.1 hk
    exact ⟨k, hle, hlt, heq⟩
  rw [hnext]
  intro h
  obtain ⟨k, hle, hlt, heq⟩ := hmem _ h
  have := PacketId.wrap_inj heq
  omega

/-- what the carrying out of an action does to a session: packets in flight stay or have their outcome, and what it asks
for leads to nothing more -/
structure Minds (m : Session) (s : Step) : Prop where
  settled : Settled m → Settled s.1
  numbered : Numbered m → Numbered s.1
  conserves : m.flying = outcomes s.2 ++ s.1.flying
  passive : ∀ a ∈ s.2, a.isActive = false

theorem Minds.still (m : Session) : Minds m m.still := ⟨fun h => h, fun h => h, rfl, by simp [Session.still]⟩

theorem minds_step (hid : m.id? e = none) (hpassive : ∀ a ∈ (m.step e).2, a.isActive = false) : Minds m (m.step e) where
  settled := (turn m e).settled
  numbered := (turn m e).numbered
  conserves := by
    have h := (turn m e).conserves
    rw [hid, Option.toList_none, List.append_nil] at h
    exact h
  passive := hpassive

theorem minds_initComplete (m : Session) : Minds m m.initComplete := by
  refine minds_step (e := (.initComplete, 0)) rfl ?_
  show ∀ a ∈ m.initComplete.2, a.isActive = false
  unfold initComplete enter
  split_ifs <;> simp [Session.still, SessionAction.isActive]

theorem minds_socketFailed (m : Session) (message : String) : Minds m (m.terminate (.socketFailed message)) := by
  refine minds_step (e := (.socketFailed message, 0)) rfl ?_
  show ∀ a ∈ (m.terminate (.socketFailed message)).2, a.isActive = false
  unfold terminate
  split_ifs
  · simp [Session.still]
  · simp only [List.cons_append, List.mem_cons, List.mem_append, List.mem_map, List.not_mem_nil, or_false]
    rintro a (rfl | ⟨_, -, rfl⟩ | rfl | rfl) <;> rfl

end Session

namespace Client

open Session (Settled Numbered Minds)

/-- who waits, in the order of sending: a ticket for each outcome to be carried out and for each packet in flight -/
structure Aligned (waiting : List (PacketId × Nat)) (queue : List SessionAction) (c : Client) : Prop where
  settled : Settled c.session
  numbered : Numbered c.session
  ids : waiting.map (·.1) = outcomes queue ++ c.session.flying
  nodup : (waiting.map (·.1)).Nodup
  pending : ∀ id ticket, c.pending.get? id = some ticket ↔ (id, ticket) ∈ waiting

/-- what is told to those in front, one verdict each -/
def told (waiting : List (PacketId × Nat)) (verdicts : List (PacketId × Except Error Unit)) :
    List (Nat × Except Error Unit) :=
  List.zipWith (fun w v => (w.2, v.2)) waiting verdicts

/-- actions have been carried out, with others queued behind them: those in front were told what became of their packets,
and the others wait on -/
structure Served (waiting : List (PacketId × Nat)) (carried behind : List SessionAction) (c : Client)
    (reports : List Report) : Prop where
  aligned : Aligned (waiting.drop (verdicts carried).length) behind c
  ids : waiting.map (·.1) = outcomes carried ++ (waiting.drop (verdicts carried).length).map (·.1)
  completions : completions reports = told waiting (verdicts carried)

variable {c c' : Client} {waiting : List (PacketId × Nat)} {queue : List SessionAction} {a : SessionAction}

/-! ### Being served -/

@[simp] theorem told_nil (waiting : List (PacketId × Nat)) : told waiting [] = [] := List.zipWith_nil_right

/-- those in front are told first -/
theorem told_append (waiting : List (PacketId × Nat)) (a b : List (PacketId × Except Error Unit)) :
    told waiting (a ++ b) = told waiting a ++ told (waiting.drop a.length) b := by
  induction a generalizing waiting with
  | nil => rw [List.nil_append, told_nil, List.length_nil, List.drop_zero, List.nil_append]
  | cons v a ih =>
    cases waiting with
    | nil => simp [told]
    | cons w waiting => exact congrArg (List.cons _) (ih waiting)

theorem length_verdicts (actions : List SessionAction) : (verdicts actions).length = (outcomes actions).length := by
  rw [← map_verdicts, List.length_map]

/-- nothing carried out -/
theorem served_nil (h : Aligned waiting queue c) : Served waiting [] queue c [] := ⟨h, rfl, (told_nil waiting).symm⟩

theorem Served.then {carried carried' behind behind' : List SessionAction} {reports reports' : List Report}
    (h : Served waiting carried behind c reports)
    (h' : Served (waiting.drop (verdicts carried).length) carried' behind' c' reports') :
    Served waiting (carried ++ carried') behind' c' (reports ++ reports') where
  aligned := by
    rw [verdicts_append, List.length_append, ← List.drop_drop]
    exact h'.aligned
  ids := by
    rw [verdicts_append, List.length_append, ← List.drop_drop, outcomes_append, List.append_assoc, ← h'.ids, ← h.ids]
  completions := by rw [completions_append, verdicts_append, told_append, h.completions, h'.completions]

/-- there is somebody in line for each outcome -/
theorem length_verdicts_le {carried : List SessionAction}
    (h : waiting.map (·.1) = outcomes carried ++ (waiting.drop (verdicts carried).length).map (·.1)) :
    (verdicts carried).length ≤ waiting.length := by
  have hlength := congrArg List.length h
  rw [List.length_append, List.length_map, List.length_map, List.length_drop, ← length_verdicts] at hlength
  omega

/-! ### One action -/

/-- something that a client does on behalf of its session without a word to those who wait -/
structure Wordless (c : Client) (t : Turn) : Prop where
  minds : Minds c.session (t.client.session, t.queued)
  pending : t.client.pending = c.pending
  completions : completions t.reports = []

theorem wordless_still (c : Client) : Wordless c c.still := ⟨.still _, rfl, rfl⟩

theorem wordless_fail (c : Client) (f : SocketFault) : Wordless c (c.fail f) := by
  unfold fail
  split_ifs
  · exact wordless_still c
  · exact ⟨Session.minds_socketFailed _ _, rfl, rfl⟩

theorem wordless_write (c : Client) (datagram : Bytes) : Wordless c (c.write datagram) := by
  unfold write
  split
  · exact ⟨.still _, rfl, rfl⟩
  · rename_i link _
    have h := wordless_fail { c with link } ‹_›
    exact ⟨h.minds, h.pending, h.completions⟩

theorem wordless_deliver (c : Client) (records : List Record) : Wordless c (c.deliver records) := by
  have hchanges (changes : List StateChange) : VisionMixer.completions (changes.map .changed) = [] :=
    List.filterMap_eq_nil_iff.2 (by simp)
  unfold deliver
  cases c.codec.decodePayload records with
  | error e => exact wordless_still c
  | ok r =>
    obtain ⟨commands, codec⟩ := r
    have hobserve : (observe { c with codec } commands).1.session = c.session ∧
        (observe { c with codec } commands).1.pending = c.pending := by
      unfold observe
      split
      · exact ⟨rfl, rfl⟩
      · split_ifs <;> exact ⟨rfl, rfl⟩
    obtain ⟨hsession, hpending⟩ := hobserve
    dsimp only
    rw [hsession]
    split_ifs
    · exact ⟨Session.minds_initComplete _, hpending, hchanges _⟩
    · exact ⟨.still _, hpending, hchanges _⟩

theorem wordless_disconnected (c : Client) (reason : EndReason) : Wordless c (c.carryOut (.disconnected reason)) := by
  refine ⟨.still _, rfl, ?_⟩
  show VisionMixer.completions ((c.ending.record reason).2.map .told) = []
  exact List.filterMap_eq_nil_iff.2 (by simp)

theorem wordless_carryOut (c : Client) (hv : a.verdict? = none) : Wordless c (c.carryOut a) := by
  cases a with
  | transmit datagram => exact wordless_write c datagram
  | deliver records => exact wordless_deliver c records
  | acknowledged id => cases hv
  | sendFailed id => cases hv
  | phaseChanged phase => exact ⟨.still _, rfl, rfl⟩
  | disconnected reason => exact wordless_disconnected c reason

/-- what is no outcome leaves those who wait alone -/
theorem aligned_of_wordless {t : Turn} (h : Aligned waiting queue c) (ht : Wordless c t) :
    Aligned waiting (queue ++ t.queued) t.client where
  settled := ht.minds.settled h.settled
  numbered := ht.minds.numbered h.numbered
  ids := by rw [h.ids, ht.minds.conserves, outcomes_append, List.append_assoc]
  nodup := h.nodup
  pending := by
    rw [ht.pending]
    exact h.pending

/-- an outcome is told to whoever waits in front -/
theorem aligned_complete {id : PacketId} (outcome : Except Error Unit) (h : Aligned waiting queue c)
    {later : List SessionAction} (hq : outcomes queue = id :: outcomes later) :
    ∃ ticket, waiting.head? = some (id, ticket) ∧ Aligned waiting.tail later (c.complete id outcome).client ∧
      (c.complete id outcome).reports = [.completed ticket outcome] ∧ (c.complete id outcome).queued = [] := by
  have hids := h.ids
  rw [hq, List.cons_append] at hids
  obtain ⟨⟨id', ticket⟩, rest, rfl, rfl, hrest⟩ := List.map_eq_cons_iff.1 hids
  have hget : c.pending.get? id' = some ticket := (h.pending id' ticket).2 (List.mem_cons_self ..)
  have hnodup := List.nodup_cons.1 h.nodup
  refine ⟨ticket, rfl, ?_⟩
  unfold complete
  rw [hget]
  refine ⟨⟨h.settled, h.numbered, hrest, hnodup.2, fun id ticket' => ?_⟩, rfl, rfl⟩
  have hold := h.pending id ticket'
  rw [IdMap.get?_erase]
  split_ifs with heq
  · -- the id in front has no other ticket
    rw [Id.toNat_inj heq]
    exact ⟨fun hn => (by cases hn), fun hmem => absurd (List.mem_map_of_mem hmem) hnodup.1⟩
  · rw [hold, List.mem_cons]
    refine ⟨fun hmem => hmem.resolve_left fun he => heq ?_, .inr⟩
    rw [(Prod.mk.inj he).1]

theorem served_outcome {id : PacketId} {outcome : Except Error Unit} (ha : a.verdict? = some (id, outcome))
    (hc : c.carryOut a = c.complete id outcome) (h : Aligned waiting (a :: queue) c) :
    Served waiting [a] (queue ++ (c.carryOut a).queued) (c.carryOut a).client (c.carryOut a).reports := by
  have hverdicts : verdicts [a] = [(id, outcome)] := by rw [verdicts, List.filterMap_cons_some ha, List.filterMap_nil]
  have hout (queue : List SessionAction) : outcomes (a :: queue) = id :: outcomes queue := by
    rw [← map_verdicts, verdicts, List.filterMap_cons_some ha, List.map_cons, ← verdicts, map_verdicts]
  obtain ⟨ticket, hhead, hkept, hreports, hqueued⟩ := aligned_complete outcome h (hout queue)
  obtain ⟨rest, rfl⟩ := List.head?_eq_some_iff.1 hhead
  rw [hc, hreports, hqueued, List.append_nil]
  refine ⟨?_, ?_, ?_⟩
  · rw [hverdicts]
    exact hkept
  · rw [hverdicts, hout]
    rfl
  · rw [hverdicts, told, List.zipWith_cons_cons, List.zipWith_nil_right]
    rfl

/-- **One action.** Carrying out an action tells the ticket in front what became of its packet, if the action is an
outcome, and nobody anything otherwise. -/
theorem served_carryOut (h : Aligned waiting (a :: queue) c) :
    Served waiting [a] (queue ++ (c.carryOut a).queued) (c.carryOut a).client (c.carryOut a).reports := by
  cases hv : a.verdict? with
  | none =>
    have hs := wordless_carryOut c hv
    have hverdicts : verdicts [a] = [] := by rw [verdicts, List.filterMap_cons_none hv, List.filterMap_nil]
    have hout (queue : List SessionAction) : outcomes (a :: queue) = outcomes queue := by
      rw [← map_verdicts, verdicts, List.filterMap_cons_none hv, ← verdicts, map_verdicts]
    have h' : Aligned waiting queue c := ⟨h.settled, h.numbered, by rw [h.ids, hout], h.nodup, h.pending⟩
    refine ⟨?_, ?_, ?_⟩
    · rw [hverdicts]
      exact aligned_of_wordless h' hs
    · rw [hverdicts, hout]
      rfl
    · rw [hverdicts, hs.completions, told_nil]
  | some v =>
    cases a with
    | acknowledged id => exact served_outcome rfl rfl h
    | sendFailed id => exact served_outcome rfl rfl h
    | _ => cases hv

/-! ### A flush -/

/-- actions carried out one after another, with others already queued behind them -/
theorem served_carryOutAll {actions behind : List SessionAction} (h : Aligned waiting (actions ++ behind) c) :
    Served waiting actions (behind ++ (c.carryOutAll actions).queued) (c.carryOutAll actions).client
      (c.carryOutAll actions).reports := by
  induction actions generalizing c waiting behind with
  | nil =>
    rw [carryOutAll_nil, show c.still.queued = [] from rfl, List.append_nil]
    exact served_nil h
  | cons a actions ih =>
    rw [List.cons_append] at h
    have hfirst := served_carryOut h
    have halign := hfirst.aligned
    rw [List.append_assoc] at halign
    have hrest := ih halign
    rw [List.append_assoc] at hrest
    rw [carryOutAll_cons]
    exact hfirst.then hrest

/-- an action that is not active leads to no other -/
theorem queued_of_passive (ha : a.isActive = false) : (c.carryOut a).queued = [] := by
  cases a with
  | transmit datagram => cases ha
  | deliver records => cases ha
  | acknowledged id =>
    show (c.complete id (.ok ())).queued = []
    unfold complete
    split <;> rfl
  | sendFailed id =>
    show (c.complete id (.error .disconnected)).queued = []
    unfold complete
    split <;> rfl
  | phaseChanged phase => rfl
  | disconnected reason => rfl

theorem queued_of_allPassive {actions : List SessionAction} (ha : ∀ a ∈ actions, a.isActive = false) :
    (c.carryOutAll actions).queued = [] := by
  induction actions generalizing c with
  | nil => rfl
  | cons a actions ih =>
    rw [carryOutAll_cons, Turn.next, queued_of_passive (ha a (List.mem_cons_self ..)),
      ih fun a' h => ha a' (List.mem_cons_of_mem _ h)]
    rfl

/-- what is queued while actions are carried out is not active -/
theorem passive_carryOut (c : Client) (a : SessionAction) : ∀ a' ∈ (c.carryOut a).queued, a'.isActive = false := by
  cases hv : a.verdict? with
  | none => exact (wordless_carryOut c hv).minds.passive
  | some v =>
    have hpassive : a.isActive = false := by cases a <;> first | rfl | cases hv
    rw [queued_of_passive hpassive]
    simp

theorem passive_carryOutAll (c : Client) (actions : List SessionAction) :
    ∀ a ∈ (c.carryOutAll actions).queued, a.isActive = false := by
  induction actions generalizing c with
  | nil => simp [carryOutAll_nil, still]
  | cons a actions ih =>
    intro a' h
    rw [carryOutAll_cons] at h
    rcases List.mem_append.1 h with h | h
    · exact passive_carryOut c a a' h
    · exact ih _ a' h

/-- all that a session asks for in a flush, in the order in which it is carried out -/
def flushed (c : Client) (actions : List SessionAction) : List SessionAction :=
  actions ++ (c.carryOutAll actions).queued

/-- **A flush.** Everything that the session asks for is carried out, and then those who wait are those in flight. -/
theorem served_flush {actions : List SessionAction} (h : Aligned waiting actions c) :
    Served waiting (c.flushed actions) [] (c.flush actions).1 (c.flush actions).2 := by
  rw [← List.append_nil actions] at h
  have hfirst := served_carryOutAll h
  have halign := hfirst.aligned
  rw [List.nil_append, ← List.append_nil (c.carryOutAll actions).queued] at halign
  have hsecond := served_carryOutAll halign
  rw [queued_of_allPassive (passive_carryOutAll c actions)] at hsecond
  exact hfirst.then hsecond

end Client

end VisionMixer
