/-
Actions of a session carried out one after another.

`Turn.next` is one thing that a client does and then another; `carryOutAll` is a chain of it, which can be taken apart at
any action (`carryOutAll_cons`, `carryOutAll_append`). Nobody looks at the inbox meanwhile (`flush_withInbox`), so whoever
asks for something while actions are carried out might as well have asked before.
-/
import VisionMixer.Client.Basic

namespace VisionMixer

/-- one thing that a client does and then another -/
def Turn.next (t : Turn) (f : Client → Turn) : Turn :=
  ⟨(f t.client).client, t.reports ++ (f t.client).reports, t.queued ++ (f t.client).queued⟩

theorem Turn.next_assoc (t : Turn) (f g : Client → Turn) : (t.next f).next g = t.next fun c => (f c).next g := by
  simp only [Turn.next, List.append_assoc]

theorem Turn.next_still (t : Turn) : t.next Client.still = t := by
  simp only [Turn.next, Client.still, List.append_nil]

/-- a client with another session -/
def Client.withSession (c : Client) (m : Session) : Client := { c with session := m }

/-- a client with another inbox -/
def Client.withInbox (c : Client) (b : Inbox) : Client := { c with inbox := b }

/-- what a client does, with another inbox -/
def Turn.withInbox (t : Turn) (b : Inbox) : Turn := { t with client := t.client.withInbox b }

namespace Client

theorem still_next (c : Client) (f : Client → Turn) : c.still.next f = f c := rfl

theorem carryOutAll_nil (c : Client) : c.carryOutAll [] = c.still := rfl

theorem foldl_carryOut (t : Turn) (actions : List SessionAction) :
    actions.foldl (fun t a => t.next fun c => c.carryOut a) t = t.next fun c => c.carryOutAll actions := by
  induction actions generalizing t with
  | nil => exact t.next_still.symm
  | cons a actions ih =>
    have hcons (c : Client) : c.carryOutAll (a :: actions) = (c.carryOut a).next fun c => c.carryOutAll actions := by
      show actions.foldl (fun (t : Turn) a => t.next fun c => c.carryOut a) (c.still.next fun c => c.carryOut a) = _
      rw [ih, still_next]
    rw [List.foldl_cons, ih, Turn.next_assoc]
    simp only [hcons]

theorem carryOutAll_append (c : Client) (before after : List SessionAction) :
    c.carryOutAll (before ++ after) = (c.carryOutAll before).next fun c => c.carryOutAll after := by
  show (before ++ after).foldl (fun (t : Turn) a => t.next fun c => c.carryOut a) c.still = _
  rw [List.foldl_append]
  exact foldl_carryOut _ after

theorem carryOutAll_singleton (c : Client) (a : SessionAction) : c.carryOutAll [a] = c.carryOut a := rfl

theorem carryOutAll_cons (c : Client) (a : SessionAction) (actions : List SessionAction) :
    c.carryOutAll (a :: actions) = (c.carryOut a).next fun c => c.carryOutAll actions := by
  rw [← List.singleton_append, carryOutAll_append, carryOutAll_singleton]

/-! ### The inbox meanwhile -/

theorem fail_withInbox (c : Client) (b : Inbox) (f : SocketFault) :
    (c.withInbox b).fail f = (c.fail f).withInbox b := by
  have hsame : (c.withInbox b).isTransient f = c.isTransient f := rfl
  unfold fail
  rw [hsame]
  split
  · rfl
  · rfl

theorem write_withInbox (c : Client) (b : Inbox) (datagram : Bytes) :
    (c.withInbox b).write datagram = (c.write datagram).withInbox b := by
  have hlink : (c.withInbox b).link = c.link := rfl
  unfold write
  rw [hlink]
  split
  · rfl
  · exact fail_withInbox { c with link := _ } b _

theorem observe_withInbox (c : Client) (b : Inbox) (commands : List Command) :
    (c.withInbox b).observe commands = ((c.observe commands).1.withInbox b, (c.observe commands).2) := by
  have hburst : (c.withInbox b).burst = c.burst := rfl
  unfold observe
  rw [hburst]
  split
  · rfl
  · split
    · rfl
    · rfl

theorem deliver_withInbox (c : Client) (b : Inbox) (records : List Record) :
    (c.withInbox b).deliver records = (c.deliver records).withInbox b := by
  have hcodec : (c.withInbox b).codec = c.codec := rfl
  unfold deliver
  rw [hcodec]
  split
  · rfl
  · rename_i commands codec _
    have hobserve := observe_withInbox { c with codec } b commands
    rw [withInbox] at hobserve
    dsimp only [withInbox]
    rw [hobserve]
    rfl

theorem complete_withInbox (c : Client) (b : Inbox) (id : PacketId) (outcome : Except Error Unit) :
    (c.withInbox b).complete id outcome = (c.complete id outcome).withInbox b := by
  have hpending : (c.withInbox b).pending = c.pending := rfl
  unfold complete
  rw [hpending]
  split
  · rfl
  · rfl

/-- an action is carried out whatever is in the inbox, and leaves it there -/
theorem carryOut_withInbox (c : Client) (b : Inbox) (a : SessionAction) :
    (c.withInbox b).carryOut a = (c.carryOut a).withInbox b := by
  cases a with
  | transmit datagram => exact c.write_withInbox b datagram
  | deliver records => exact c.deliver_withInbox b records
  | acknowledged id => exact c.complete_withInbox b id _
  | sendFailed id => exact c.complete_withInbox b id _
  | phaseChanged phase => rfl
  | disconnected reason => rfl

theorem carryOutAll_withInbox (c : Client) (b : Inbox) (actions : List SessionAction) :
    (c.withInbox b).carryOutAll actions = (c.carryOutAll actions).withInbox b := by
  induction actions generalizing c with
  | nil => rfl
  | cons a actions ih =>
    rw [carryOutAll_cons, carryOutAll_cons, Turn.next, Turn.next, carryOut_withInbox, Turn.withInbox, ih]
    rfl

/-- **Whoever asks meanwhile.** Everything that the session asks for is carried out whatever is in the inbox, which stays
as it is. -/
theorem flush_withInbox (c : Client) (b : Inbox) (actions : List SessionAction) :
    (c.withInbox b).flush actions = ((c.flush actions).1.withInbox b, (c.flush actions).2) := by
  simp only [flush, carryOutAll_withInbox, Turn.withInbox]

theorem inbox_flush (c : Client) (actions : List SessionAction) : (c.flush actions).1.inbox = c.inbox :=
  congrArg (fun r : Client × List Report => r.1.inbox) (c.flush_withInbox c.inbox actions)

end Client

end VisionMixer
