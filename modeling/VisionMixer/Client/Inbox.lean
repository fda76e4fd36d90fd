/-
What those who hold a session ask its owner for.

Requests wait in an `Inbox` in the order in which they were made. Once nobody holds the session any more, an empty inbox
asks for it to be closed, again and again. An owner that has stopped closes its inbox: it takes no more, and what still
waits is given up.

The bound of the queue is left out. Whoever finds it full waits for room, and has asked when there is some.
-/
import VisionMixer.Bytes

namespace VisionMixer

/-- what the owner of a session is asked for -/
inductive Request where
  /-- a payload to be sent, and the ticket under which its outcome is told -/
  | send (payload : Bytes) (ticket : Nat)
  | close

/-- the ticket of whoever waits for the outcome of a request -/
def Request.ticket? : Request → Option Nat
  | .send _ ticket => some ticket
  | .close => none

/-- the requests that an owner has not served yet -/
structure Inbox where
  /-- in the order in which they were made -/
  requests : List Request
  /-- nobody holds the session any more -/
  isAbandoned : Bool
  /-- the owner has stopped -/
  isClosed : Bool

namespace Inbox

/-- nobody has asked for anything -/
def empty : Inbox := ⟨[], false, false⟩

/-- one more request, unless the owner has stopped -/
def push? (b : Inbox) (r : Request) : Option Inbox :=
  if b.isClosed then none else some { b with requests := b.requests ++ [r] }

/-- the request to be served next, and the inbox without it -/
def next? (b : Inbox) : Option (Request × Inbox) :=
  match b.requests with
  | r :: rest => some (r, { b with requests := rest })
  | [] => if b.isAbandoned then some (.close, b) else none

/-- the session is let go of, with a last request to close it -/
def abandon (b : Inbox) : Inbox := { (b.push? .close).getD b with isAbandoned := true }

/-- the owner has stopped -/
def close (b : Inbox) : Inbox := { b with requests := [], isClosed := true }

/-- the tickets of those whose requests wait -/
def tickets (b : Inbox) : List Nat := b.requests.filterMap Request.ticket?

@[simp] theorem tickets_close (b : Inbox) : b.close.tickets = [] := rfl

theorem tickets_push? {b b' : Inbox} {r : Request} (h : b.push? r = some b') :
    b'.tickets = b.tickets ++ r.ticket?.toList := by
  unfold push? at h
  split at h
  case isTrue => cases h
  case isFalse =>
    cases h
    rw [tickets, List.filterMap_append]
    cases r <;> rfl

/-- whoever is served has been in front -/
theorem tickets_next? {b b' : Inbox} {r : Request} (h : b.next? = some (r, b')) :
    b.tickets = r.ticket?.toList ++ b'.tickets := by
  unfold next? at h
  split at h
  case h_1 r rest hrequests =>
    cases h
    rw [tickets, hrequests]
    cases r <;> rfl
  case h_2 =>
    split at h
    case isTrue =>
      cases h
      rfl
    case isFalse => cases h

/-- letting go of a session leaves nobody to be answered -/
theorem tickets_abandon (b : Inbox) : b.abandon.tickets = b.tickets := by
  unfold abandon
  cases h : b.push? .close with
  | none => rfl
  | some b' =>
    rw [Option.getD_some]
    exact (tickets_push? h).trans (List.append_nil _)

end Inbox

end VisionMixer
