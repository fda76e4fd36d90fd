/-
An account of the packets of data on the wire.

`Accounts` is what a list of numbers for each event of a history has to be if it is to say of every packet of data on the
wire which send it belongs to: those of an event go out in the order of their sends, none that has had its outcome, one
just sent as it is and any other marked as sent before. It looks at what the session does and never at what it keeps.
Every history has such an account (`accounts_run`), and while fewer packets are in flight than ids differ it has no other
(`accounts_unique`), as no two packets that may go out have one id.

`departures` and `tries` read off an account when the packet of a send went out last and how often the ticks have sent it
again. These are the instant and the count that the session keeps with it (`sentAt_run`, `tries_account`).
-/
import VisionMixer.Proofs.Session.Resend

namespace VisionMixer

/-- time passes -/
def SessionEvent.isTick : SessionEvent → Bool
  | .tick => true
  | _ => false

namespace Session

open PacketId (wrap)

/-- a packet on the wire is that of a send that has no outcome: `mail` was sent before, and `mail'` is with what was just
sent -/
def Names (mail mail' : List Packet) (done i : Nat) (q : Packet) : Prop :=
  done ≤ i ∧ ∃ p, mail'[i]? = some p ∧ q = if i < mail.length then p.resent else p

/-- lists of numbers, one for each event, that say which sends the packets of data on the wire belong to; `mail` and
`done` are the packets sent before and how many of them have had their outcome -/
inductive Accounts : Session → List Packet → Nat → List (SessionEvent × Instant) → List (List Nat) → Prop
  | nil {m : Session} {mail : List Packet} {done : Nat} : Accounts m mail done [] []
  | cons {m : Session} {mail : List Packet} {done : Nat} {e : SessionEvent × Instant}
      {events : List (SessionEvent × Instant)} {numbers : List Nat} {account : List (List Nat)}
      (wire : List.Forall₂ (Names mail (mail ++ m.mail [e]) (done + (outcomes (m.step e).2).length)) numbers
        (dataOf (m.step e).2))
      (inOrder : numbers.Pairwise (· < ·))
      (rest : Accounts (m.step e).1 (mail ++ m.mail [e]) (done + (outcomes (m.step e).2).length) events account) :
      Accounts m mail done (e :: events) (numbers :: account)

/-- the numbers of the packets that an event puts on the wire, after so many outcomes and sends -/
def numbers (m : Session) (done sent : Nat) (e : SessionEvent × Instant) : List Nat :=
  if (m.id? e).isSome then [sent] else m.again done e

/-- the numbers of the packets that the events of a history put on the wire -/
def account (m : Session) (done sent : Nat) : List (SessionEvent × Instant) → List (List Nat)
  | [] => []
  | e :: events =>
    m.numbers done sent e ::
      (m.step e).1.account (done + (outcomes (m.step e).2).length) (sent + (m.mail [e]).length) events

/-- the instants at which the packet of a number went out -/
def departures (events : List (SessionEvent × Instant)) (account : List (List Nat)) (i : Nat) : List Instant :=
  ((events.zip account).filter fun x => x.2.contains i).map (·.1.2)

/-- how often ticks have sent the packet of a number again -/
def tries (events : List (SessionEvent × Instant)) (account : List (List Nat)) (i : Nat) : Nat :=
  (events.zip account).countP fun x => x.1.1.isTick && x.2.contains i

variable {m : Session} {e : SessionEvent × Instant} {mail : List Packet} {tried : List Nat} {n : Nat}

/-! ### The account of a history -/

/-- what goes out at an event is what its numbers say -/
theorem numbers_spec (h : Tallied mail tried n m) (e : SessionEvent × Instant) :
    List.Forall₂ (Names mail (mail ++ m.mail [e]) (n + (outcomes (m.step e).2).length)) (m.numbers n mail.length e)
        (dataOf (m.step e).2) ∧
      (m.numbers n mail.length e).Pairwise (· < ·) := by
  have hlength := h.length
  have hout := outcomes_length_le m e
  cases hid : m.id? e with
  | some id =>
    -- the packet just sent is the last of the mail
    obtain ⟨p, hposted, hstep⟩ := step_of_id hid
    have hsome : (m.id? e).isSome = true := by rw [hid]; rfl
    have hnew : m.mail [e] = [p.packet.filled] := by rw [mail_singleton h.numbered e, hposted]; rfl
    have hdata : dataOf (m.step e).2 = m.mail [e] := by rw [Session.mail, if_pos hsome, Session.mail, List.append_nil]
    rw [numbers, if_pos hsome, hdata, hnew]
    refine ⟨.cons ⟨by omega, p.packet.filled, ?_, ?_⟩ .nil, List.pairwise_singleton _ _⟩
    · rw [List.getElem?_append_right (Nat.le_refl _), Nat.sub_self]
      rfl
    · rw [if_neg (Nat.lt_irrefl _)]
  | none =>
    have hnone : ¬(m.id? e).isSome = true := by
      rw [hid]
      decide
    rw [numbers, if_neg hnone]
    have hbounds : ∀ i ∈ m.again n e, n + (outcomes (m.step e).2).length ≤ i := by
      intro i hi
      obtain ⟨j, p, -, -, rfl⟩ := mem_again.1 hi
      exact Nat.le_add_right _ _
    refine ⟨((List.forall₂_and_left _ _).2 ⟨hbounds, again_spec h hid⟩).imp ?_, pairwise_places _ _ _⟩
    rintro i q ⟨hle, p, hp, rfl⟩
    obtain ⟨hlt, -⟩ := List.getElem?_eq_some_iff.1 hp
    refine ⟨hle, p, ?_, (if_pos hlt).symm⟩
    rw [List.getElem?_append_left hlt, hp]

/-- **Every packet on the wire belongs to a send.** -/
theorem accounts_of_tallied (h : Tallied mail tried n m) (events : List (SessionEvent × Instant)) :
    Accounts m mail n events (m.account n mail.length events) := by
  induction events generalizing m mail tried n with
  | nil => exact .nil
  | cons e events ih =>
    obtain ⟨hwire, horder⟩ := numbers_spec h e
    have hrest := ih (tallied_step h e)
    rw [List.length_append] at hrest
    exact .cons hwire horder hrest

theorem accounts_run (config : SessionConfig) (helloId : UInt16) (events : List (SessionEvent × Instant)) :
    let m := initial config helloId
    Accounts m [] 0 events (m.account 0 0 events) :=
  accounts_of_tallied (tallied_run config helloId []) events

/-! ### No other account -/

/-- the ids of the mail count up from 1, and the next id goes on -/
structure Addressed (mail : List Packet) (m : Session) : Prop where
  ids : mail.map (·.header.packetId) = (List.range' 1 mail.length).map wrap
  next : m.nextLocalId = wrap (1 + mail.length)

theorem addressed_step (h : Addressed mail m) (hn : Numbered m) (e : SessionEvent × Instant) :
    Addressed (mail ++ m.mail [e]) (m.step e).1 := by
  obtain ⟨hids, hnext⟩ := (turn m e).numbers h.next
  obtain ⟨hmail, -⟩ := mail_spec hn [e]
  rw [sentIds, sentIds, List.append_nil] at hmail
  have hlength : (m.id? e).toList.length = (m.mail [e]).length := by rw [← hmail, List.length_map]
  rw [hlength] at hids hnext
  refine ⟨?_, ?_⟩
  · rw [List.map_append, h.ids, hmail, hids, ← List.map_append, List.length_append, List.range'_append_1]
  · rw [hnext, List.length_append, Nat.add_assoc]

/-- a packet of the mail has the id of its number -/
theorem Addressed.id_eq (h : Addressed mail m) {i : Nat} {p : Packet} (hp : mail[i]? = some p) :
    p.header.packetId = wrap (1 + i) := by
  have hid : (mail.map (·.header.packetId))[i]? = some p.header.packetId := by rw [List.getElem?_map, hp]; rfl
  rw [h.ids, List.getElem?_map, Option.map_eq_some_iff] at hid
  obtain ⟨x, hx, hid⟩ := hid
  obtain ⟨hlt, rfl⟩ := List.getElem?_eq_some_iff.1 hx
  rw [← hid, List.getElem_range', Nat.one_mul]

/-- a packet that goes out has the id of one send only, if no more are without an outcome than ids differ -/
theorem names_unique {mail' : List Packet} {done : Nat} (h : Addressed mail' m) (hroom : mail'.length ≤ done + 0x8000) :
    Relator.LeftUnique (Names mail mail' done) := by
  rintro i j q ⟨hi, p, hp, hq⟩ ⟨hj, p', hp', hq'⟩
  have hid : q.header.packetId = wrap (1 + i) := by
    rw [← h.id_eq hp, hq]
    split_ifs <;> rfl
  have hid' : q.header.packetId = wrap (1 + j) := by
    rw [← h.id_eq hp', hq']
    split_ifs <;> rfl
  obtain ⟨hlt, -⟩ := List.getElem?_eq_some_iff.1 hp
  obtain ⟨hlt', -⟩ := List.getElem?_eq_some_iff.1 hp'
  have := PacketId.wrap_inj (hid.symm.trans hid')
  omega

/-- **No other account.** While no more packets are in flight than ids differ, two accounts of a history are the same. -/
theorem accounts_unique_of_tallied (h : Tallied mail tried n m) (ha : Addressed mail m)
    {events : List (SessionEvent × Instant)}
    (hroom : ∀ k ≤ events.length, (m.run (events.take k)).1.inFlight.length ≤ 0x8000) {a b : List (List Nat)}
    (hone : Accounts m mail n events a) (hother : Accounts m mail n events b) : a = b := by
  induction events generalizing m mail tried n a b with
  | nil =>
    cases hone
    cases hother
    rfl
  | cons e events ih =>
    have hstep := tallied_step h e
    have haddressed := addressed_step ha h.numbered e
    have hfirst : (m.step e).1.inFlight.length ≤ 0x8000 := by
      have := hroom 1 (by simp)
      rwa [List.take_succ_cons, List.take_zero, run_singleton] at this
    cases hone with
    | cons wire _ rest =>
      cases hother with
      | cons wire' _ rest' =>
        have hmany := hstep.length
        have hunique : Relator.LeftUnique (Names mail (mail ++ m.mail [e]) (n + (outcomes (m.step e).2).length)) :=
          names_unique haddressed (by omega)
        rw [List.left_unique_forall₂' hunique wire wire', ih hstep haddressed ?_ rest rest']
        intro k hk
        have := hroom (k + 1) (by simpa using hk)
        rwa [List.take_succ_cons, run_cons] at this

theorem accounts_unique {config : SessionConfig} {helloId : UInt16} {events : List (SessionEvent × Instant)}
    (hroom : ∀ k ≤ events.length, ((initial config helloId).run (events.take k)).1.inFlight.length ≤ 0x8000)
    {a : List (List Nat)} (h : Accounts (initial config helloId) [] 0 events a) :
    a = (initial config helloId).account 0 0 events :=
  accounts_unique_of_tallied (tallied_run config helloId []) ⟨rfl, rfl⟩ hroom h (accounts_run config helloId events)

/-! ### What an account tells of a packet -/

theorem length_account (m : Session) (done sent : Nat) (events : List (SessionEvent × Instant)) :
    (m.account done sent events).length = events.length := by
  induction events generalizing m done sent with
  | nil => rfl
  | cons e events ih => rw [account, List.length_cons, List.length_cons, ih]

theorem account_append (m : Session) (done sent : Nat) (before after : List (SessionEvent × Instant)) :
    m.account done sent (before ++ after) = m.account done sent before ++
      (m.run before).1.account (done + (outcomes (m.run before).2).length) (sent + (m.mail before).length) after := by
  induction before generalizing m done sent with
  | nil => rfl
  | cons e before ih =>
    have hmail : m.mail (e :: before) = m.mail [e] ++ (m.step e).1.mail before := by
      rw [← List.singleton_append, mail_append, run_singleton]
    rw [List.cons_append, account, ih, account, run_cons, Step.next, hmail, List.cons_append, outcomes_append,
      List.length_append, List.length_append, Nat.add_assoc, Nat.add_assoc]

/-- one more event, at which the packet of a number may go out once more -/
theorem departures_concat {events : List (SessionEvent × Instant)} {account : List (List Nat)}
    (h : account.length = events.length) (e : SessionEvent × Instant) (numbers : List Nat) (i : Nat) :
    departures (events ++ [e]) (account ++ [numbers]) i =
      departures events account i ++ if i ∈ numbers then [e.2] else [] := by
  rw [departures, List.zip_append h.symm, List.filter_append, List.map_append]
  congr 1
  by_cases hi : i ∈ numbers
  · simp [hi]
  · simp [hi]

theorem departures_sublist {events : List (SessionEvent × Instant)} {account : List (List Nat)}
    (h : account.length = events.length) (i : Nat) : (departures events account i).Sublist (events.map (·.2)) := by
  have hall : events.map (·.2) = (events.zip account).map (·.1.2) := by
    conv_lhs => rw [← List.map_fst_zip (Nat.le_of_eq h.symm), List.map_map]
    rfl
  rw [hall]
  exact List.filter_sublist.map _

/-- what is sent again is nothing new -/
theorem resends_of_id {id : PacketId} (hid : m.id? e = some id) (p : InFlight) : m.resends e p = false := by
  obtain ⟨e, now⟩ := e
  cases e with
  | send payload => rfl
  | _ =>
    rw [id?_eq_none (by simp)] at hid
    cases hid

/-- a packet that stays in flight goes out with an event just when the event sends it again -/
theorem mem_numbers (h : Tallied mail tried n m) {j : Nat} {p : InFlight}
    (hp : (m.remaining e m.inFlight)[j]? = some p) :
    n + (outcomes (m.step e).2).length + j ∈ m.numbers n mail.length e ↔ m.resends e p = true := by
  obtain ⟨hlt, -⟩ := List.getElem?_eq_some_iff.1 hp
  have hlength := h.length
  have hout := outcomes_length_le m e
  rw [remaining, List.length_drop] at hlt
  cases hid : m.id? e with
  | some id =>
    rw [resends_of_id hid, numbers, hid]
    simp
    omega
  | none =>
    rw [numbers, hid]
    show _ ∈ m.again n e ↔ _
    rw [mem_again]
    constructor
    · rintro ⟨j', p', hp', hr, heq⟩
      obtain rfl : j = j' := by omega
      cases hp.symm.trans hp'
      exact hr
    · exact fun hr => ⟨j, p, hp, hr, rfl⟩

/-- the clock of each packet in flight was set when it went out last -/
def Clocked (events : List (SessionEvent × Instant)) (account : List (List Nat)) (n : Nat) (m : Session) : Prop :=
  ∀ j p, m.inFlight[j]? = some p → (departures events account (n + j)).getLast? = some p.sentAt

theorem clocked_step (h : Tallied mail tried n m) {events : List (SessionEvent × Instant)} {account : List (List Nat)}
    (hlength : account.length = events.length) (hclock : Clocked events account n m) (e : SessionEvent × Instant) :
    Clocked (events ++ [e]) (account ++ [m.numbers n mail.length e]) (n + (outcomes (m.step e).2).length)
      (m.step e).1 := by
  intro j p hp
  rw [departures_concat hlength, List.getLast?_append]
  rw [inFlight_step h.settled e, post, List.getElem?_append, List.length_map] at hp
  split_ifs at hp with hj
  · -- a packet that stays
    rw [List.getElem?_map, Option.map_eq_some_iff] at hp
    obtain ⟨q, hq, rfl⟩ := hp
    have hbefore := hq
    rw [remaining, List.getElem?_drop] at hbefore
    have hold := hclock _ q hbefore
    rw [← Nat.add_assoc] at hold
    rw [sentAt_revise]
    by_cases hr : m.resends e q = true
    · rw [if_pos ((mem_numbers h hq).2 hr), if_pos hr]
      rfl
    · rw [if_neg (mt (mem_numbers h hq).1 hr), if_neg hr, hold]
      rfl
  · -- the packet just sent
    have hposted := List.mem_of_getElem? hp
    rw [Option.mem_toList] at hposted
    have hid := id_of_posted? hposted
    have hlast : n + (outcomes (m.step e).2).length + j = mail.length := by
      obtain ⟨hone, -⟩ := List.getElem?_eq_some_iff.1 hp
      have htotal := h.length
      have hout := outcomes_length_le m e
      rw [hposted] at hone
      rw [remaining, List.length_drop] at hj hone
      rw [Option.toList_some, List.length_singleton] at hone
      omega
    rw [hlast, numbers, hid, sentAt_of_posted? hposted]
    simp

/-- how often an account has a number at ticks is how often it is among the attempts of the ticks -/
theorem tries_account (m : Session) (done sent : Nat) (events : List (SessionEvent × Instant)) (i : Nat) :
    tries events (m.account done sent events) i = (m.attempts done events).count i := by
  induction events generalizing m done sent with
  | nil => rfl
  | cons e events ih =>
    have hfirst : (if (e.1.isTick && (m.numbers done sent e).contains i) = true then 1 else 0) =
        (m.tried done e).count i := by
      obtain ⟨e, now⟩ := e
      cases e with
      | tick =>
        have hnodup : (m.again done (.tick, now)).Nodup := (pairwise_places _ _ _).imp fun h => Nat.ne_of_lt h
        show _ = (m.again done (.tick, now)).count i
        rw [hnodup.count]
        exact if_congr List.contains_iff_mem rfl rfl
      | _ => rfl
    rw [account, attempts, List.count_append, ← hfirst, ← ih _ _ (sent + (m.mail [e]).length)]
    exact List.countP_cons.trans (Nat.add_comm _ _)

/-- **The clocks of a history.** -/
theorem sentAt_run (config : SessionConfig) (helloId : UInt16) (events : List (SessionEvent × Instant)) :
    let m := initial config helloId
    Clocked events (m.account 0 0 events) (outcomes (m.run events).2).length (m.run events).1 := by
  dsimp only
  induction events using List.reverseRecOn with
  | nil =>
    intro j p hp
    cases hp
  | append_singleton events e ih =>
    have hstep := clocked_step (tallied_run config helloId events) (length_account _ _ _ _) ih e
    rw [account_append, run_append, Step.next, run_singleton, outcomes_append, List.length_append, account, account,
      Nat.zero_add, Nat.zero_add]
    exact hstep

end Session

end VisionMixer
