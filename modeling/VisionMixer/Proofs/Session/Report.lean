/-
What a list of actions reports: outcomes of packets, phases and ends, each in order.

`OnlySends` says of a list that it only writes to the wire; such a list reports nothing. Everything that a session sends
is of that kind.
-/
import VisionMixer.Session.Machine

namespace VisionMixer

namespace SessionAction

/-- the packet whose outcome an action reports -/
def outcome? : SessionAction → Option PacketId
  | .acknowledged id | .sendFailed id => some id
  | _ => none

/-- the phase that an action reports -/
def phase? : SessionAction → Option Phase
  | .phaseChanged phase => some phase
  | _ => none

/-- the end that an action reports -/
def ending? : SessionAction → Option EndReason
  | .disconnected reason => some reason
  | _ => none

/-- an action that only writes to the wire -/
def isTransmit : SessionAction → Bool
  | .transmit _ => true
  | _ => false

/-- an action of a session in the middle of its life -/
def isRoutine : SessionAction → Bool
  | .transmit _ | .deliver _ | .acknowledged _ => true
  | .sendFailed _ | .phaseChanged _ | .disconnected _ => false

/-- an action that speaks of the end -/
def isFinal : SessionAction → Bool
  | .sendFailed _ | .disconnected _ => true
  | .phaseChanged phase => phase.isTerminal
  | .transmit _ | .deliver _ | .acknowledged _ => false

theorem isRoutine_of_isTransmit {a : SessionAction} (h : a.isTransmit = true) : a.isRoutine = true := by
  cases a <;> first | rfl | cases h

theorem isFinal_of_isRoutine {a : SessionAction} (h : a.isRoutine = true) : a.isFinal = false := by
  cases a <;> first | rfl | cases h

end SessionAction

open SessionAction

/-- the outcomes that actions report, in order -/
def outcomes (actions : List SessionAction) : List PacketId := actions.filterMap outcome?

/-- the phases that actions report, in order -/
def phases (actions : List SessionAction) : List Phase := actions.filterMap phase?

/-- the ends that actions report, in order -/
def endings (actions : List SessionAction) : List EndReason := actions.filterMap ending?

@[simp] theorem outcomes_append (a b : List SessionAction) : outcomes (a ++ b) = outcomes a ++ outcomes b :=
  List.filterMap_append

@[simp] theorem phases_append (a b : List SessionAction) : phases (a ++ b) = phases a ++ phases b :=
  List.filterMap_append

@[simp] theorem endings_append (a b : List SessionAction) : endings (a ++ b) = endings a ++ endings b :=
  List.filterMap_append

/-- actions that do nothing but write to the wire -/
def OnlySends (actions : List SessionAction) : Prop := ∀ a ∈ actions, a.isTransmit = true

theorem OnlySends.nil : OnlySends [] := by
  intro a h
  cases h

theorem OnlySends.append {a b : List SessionAction} (ha : OnlySends a) (hb : OnlySends b) : OnlySends (a ++ b) := by
  intro x h
  rcases List.mem_append.1 h with h | h
  · exact ha x h
  · exact hb x h

section

variable {actions : List SessionAction}

theorem phases_of_isRoutine (h : ∀ a ∈ actions, a.isRoutine = true) : phases actions = [] := by
  refine List.filterMap_eq_nil_iff.2 fun a ha => ?_
  cases a <;> first | rfl | cases h _ ha

theorem endings_of_isFinal_false (h : ∀ a ∈ actions, a.isFinal = false) : endings actions = [] := by
  refine List.filterMap_eq_nil_iff.2 fun a ha => ?_
  cases a <;> first | rfl | cases h _ ha

namespace OnlySends

theorem routine (h : OnlySends actions) : ∀ a ∈ actions, a.isRoutine = true := by
  intro a ha
  exact isRoutine_of_isTransmit (h a ha)

theorem not_final (h : OnlySends actions) : ∀ a ∈ actions, a.isFinal = false := by
  intro a ha
  exact isFinal_of_isRoutine (h.routine a ha)

theorem outcomes_eq (h : OnlySends actions) : outcomes actions = [] := by
  refine List.filterMap_eq_nil_iff.2 fun a ha => ?_
  cases a <;> first | rfl | cases h _ ha

theorem phases_eq (h : OnlySends actions) : phases actions = [] := phases_of_isRoutine h.routine

theorem endings_eq (h : OnlySends actions) : endings actions = [] := endings_of_isFinal_false h.not_final

end OnlySends

end

namespace Session

theorem onlySends_sending (p : Packet) : OnlySends (sending p) := by
  intro a h
  unfold sending at h
  split at h
  · rw [List.mem_singleton.1 h]
    rfl
  · cases h

theorem onlySends_sendingAll (packets : List Packet) : OnlySends (sendingAll packets) := by
  intro a h
  obtain ⟨p, -, hp⟩ := List.mem_flatMap.1 h
  exact onlySends_sending p a hp

end Session

end VisionMixer
