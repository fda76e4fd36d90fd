/-
What the order of its actions tells the owner of a session.

A session says why it ended before it says that it has (`ending_before_disconnected`), and goes live only when its owner
has seen the end of the handshake (`initComplete_of_live`). Both are facts about every history, and the first holds of any
part of the actions from the front on, so whoever carries them out in order sees no other.
-/
import VisionMixer.Proofs.Session.Life
import VisionMixer.Proofs.Session.Flight

namespace VisionMixer

/-- wherever actions report that a session is over, they have said why -/
def SaysWhyFirst (actions : List SessionAction) : Prop :=
  ∀ before after, actions = before ++ .phaseChanged .disconnected :: after → endings before ≠ []

theorem saysWhyFirst_of_not_mem {actions : List SessionAction} (h : .phaseChanged .disconnected ∉ actions) :
    SaysWhyFirst actions := by
  rintro before after rfl
  exact absurd (List.mem_append_right _ (List.mem_cons_self ..)) h

/-- what comes after the reason may say anything -/
theorem saysWhyFirst_append {actions : List SessionAction} (h : .phaseChanged .disconnected ∉ actions)
    (reason : EndReason) (later : List SessionAction) : SaysWhyFirst (actions ++ .disconnected reason :: later) := by
  intro before after heq
  rcases List.append_eq_append_iff.1 heq with ⟨between, rfl, hrest⟩ | ⟨between, rfl, hrest⟩
  · -- the report comes after the reason
    cases between with
    | nil => cases hrest
    | cons a between =>
      obtain ⟨rfl, -⟩ := List.cons.inj hrest
      rw [endings_append]
      exact List.append_ne_nil_of_right_ne_nil _ (List.cons_ne_nil reason _)
  · -- the report would come before it
    cases between with
    | nil => cases hrest
    | cons a between =>
      obtain ⟨rfl, -⟩ := List.cons.inj hrest
      exact absurd (List.mem_append_right _ (List.mem_cons_self ..)) h

/-- from the front on, actions that report that a session is over have said why -/
theorem SaysWhyFirst.endings_ne_nil {before after : List SessionAction} (h : SaysWhyFirst (before ++ after))
    (hover : .disconnected ∈ phases before) : endings before ≠ [] := by
  obtain ⟨a, ha, hphase⟩ := List.mem_filterMap.1 hover
  have ha' : a = .phaseChanged .disconnected := by
    cases a with
    | phaseChanged phase =>
      cases hphase
      rfl
    | _ => cases hphase
  obtain ⟨front, back, rfl⟩ := List.append_of_mem ha
  subst ha'
  have hfront := h front (back ++ after) (by rw [List.append_assoc, List.cons_append])
  rw [endings_append]
  exact List.append_ne_nil_of_left_ne_nil hfront _

namespace Session

variable {m : Session} {e : SessionEvent × Instant}

theorem not_mem_of_not_final {actions : List SessionAction} (h : ∀ a ∈ actions, a.isFinal = false) :
    .phaseChanged .disconnected ∉ actions := by
  intro hmem
  cases h _ hmem

theorem saysWhyFirst_run (hp : m.phase.isTerminal = false) (events : List (SessionEvent × Instant)) :
    SaysWhyFirst (m.run events).2 := by
  cases h : m.endedBy? events with
  | none => exact saysWhyFirst_of_not_mem (not_mem_of_not_final (lasting_run hp h).2)
  | some reason =>
    obtain ⟨before, e, after, rfl, hend⟩ := exists_endsAt hp h
    obtain ⟨sent, later, hsent, -, hstep, hactions⟩ := hend.actions
    have hsplit : (m.run (before ++ e :: after)).2 =
        ((m.run before).2 ++ sent ++ .phaseChanged .disconnecting :: (m.run before).1.inFlight.map (.sendFailed ·.id)) ++
          .disconnected reason :: (.phaseChanged .disconnected :: later) := by
      rw [hactions, hstep, lastActions]
      simp only [List.append_assoc, List.cons_append, List.nil_append]
    rw [hsplit]
    refine saysWhyFirst_append ?_ reason _
    simp only [List.mem_append, List.mem_cons, List.mem_map, not_or]
    refine ⟨⟨not_mem_of_not_final hend.quiet, not_mem_of_not_final hsent.not_final⟩, ?_, ?_⟩
    · intro h
      cases h
    · rintro ⟨p, -, h⟩
      cases h

/-- **The reason comes first.** Over any history of a session, whoever has carried out a first part of its actions and has
seen that it is over has also seen why: for the reason of the first event that ends it. -/
theorem ending_before_disconnected (hp : m.phase.isTerminal = false) {events : List (SessionEvent × Instant)}
    {before after : List SessionAction} (h : (m.run events).2 = before ++ after)
    (hover : .disconnected ∈ phases before) :
    ∃ reason, endings before = [reason] ∧ m.endedBy? events = some reason := by
  have hne := (h ▸ saysWhyFirst_run hp events : SaysWhyFirst (before ++ after)).endings_ne_nil hover
  have hall := endings_run hp events
  rw [h, endings_append] at hall
  cases hb : endings before with
  | nil => exact absurd hb hne
  | cons reason more =>
    rw [hb] at hall
    cases hend : m.endedBy? events with
    | none =>
      rw [hend] at hall
      cases hall
    | some reason' =>
      rw [hend, Option.toList_some, List.cons_append] at hall
      obtain ⟨rfl, hnone⟩ := List.cons.inj hall
      rw [(List.append_eq_nil_iff.1 hnone).1]
      exact ⟨reason, rfl, rfl⟩

theorem phase_step_of_ended (h : m.phase = .disconnected) : (m.step e).1.phase = .disconnected := by
  rcases (turn m e).of_ended (by rw [h]; rfl) with hstill | ⟨-, -, hstart⟩
  · rw [hstill]
    exact h
  · rw [hstart]
    exact h

/-- a session is over just when an event has ended it -/
theorem isSome_endedBy?_iff (hp : m.phase.isTerminal = false) {events : List (SessionEvent × Instant)} :
    (m.endedBy? events).isSome = true ↔ (m.run events).1.phase = .disconnected := by
  constructor
  · intro h
    obtain ⟨reason, h⟩ := Option.isSome_iff_exists.1 h
    obtain ⟨before, e, after, rfl, hend⟩ := exists_endsAt hp h
    rw [run_append]
    show ((m.run before).1.run (e :: after)).1.phase = .disconnected
    rw [run_cons]
    exact run_keeps (P := fun m => m.phase = .disconnected) (fun _ _ => phase_step_of_ended) hend.ended after
  · intro h
    rw [← Option.ne_none_iff_isSome]
    intro hnone
    have hlasting := (lasting_run hp hnone).1
    rw [h] at hlasting
    cases hlasting

/-- that a session is over is the last phase it reports -/
theorem getLast?_phases_run (hp : m.phase.isTerminal = false) {events : List (SessionEvent × Instant)}
    (h : (m.run events).1.phase = .disconnected) : (phases (m.run events).2).getLast? = some .disconnected := by
  obtain ⟨reason, h⟩ := Option.isSome_iff_exists.1 ((isSome_endedBy?_iff hp).2 h)
  obtain ⟨before, e, after, rfl, hend⟩ := exists_endsAt hp h
  obtain ⟨sent, later, hsent, hlater, hstep, hactions⟩ := hend.actions
  rw [hactions, hstep, phases_append, phases_append, phases_append, hlater.phases_eq, phases_lastActions, List.append_nil]
  simp

/-! ### Going live -/

theorem live_of_terminate {reason : EndReason} (h : (m.terminate reason).1.phase = .live) : m.phase = .live := by
  unfold terminate at h
  split at h
  · exact h
  · cases h

theorem live_of_receiveHello {p : Packet} {now : Instant} (h : (m.receiveHello p now).1.phase = .live) :
    m.phase = .live := by
  unfold receiveHello at h
  split at h
  · cases h
  · exact h
  · exact live_of_terminate h
  · exact live_of_terminate h
  · exact h

theorem live_of_receive {bytes : Bytes} {now : Instant} (h : (m.receive bytes now).1.phase = .live) :
    m.phase = .live := by
  cases hp : m.phase.isTerminal with
  | true =>
    rw [receive, if_pos hp] at h
    exact h
  | false =>
    cases reading hp bytes now with
    | hello _ _ hr => exact live_of_receiveHello (hr ▸ h)
    | own _ _ hm hr =>
      rw [hr, (steady_receiveData hm now).phase] at h
      exact h
    | dropped _ hr =>
      rw [hr] at h
      exact h

theorem live_of_tick {now : Instant} (h : (m.tick now).1.phase = .live) : m.phase = .live := by
  cases hp : m.phase.isTerminal with
  | true =>
    rw [tick, if_pos hp] at h
    exact h
  | false =>
    cases ht : m.trigger? (.tick, now) with
    | none =>
      rw [tick_session hp ht] at h
      exact h
    | some reason =>
      have hover : (m.tick now).1.phase = .disconnected := ((turn m (.tick, now)).ended hp ht).phase
      rw [hover] at h
      cases h

theorem live_of_send {payload : Bytes} {now : Instant} (h : (m.step (.send payload, now)).1.phase = .live) :
    m.phase = .live := by
  cases hs : m.send payload now with
  | error error =>
    rw [(step_error (e := (.send payload, now)) hs).2] at h
    exact h
  | ok r =>
    obtain ⟨_, _, hlive, -⟩ := send_eq hs
    exact hlive

theorem live_of_close (h : m.close.1.phase = .live) : m.phase = .live := by
  cases hp : m.phase.isTerminal with
  | true =>
    rw [close, if_pos hp] at h
    exact h
  | false =>
    rw [(ends_close hp).phase] at h
    cases h

/-- nothing but the end of the handshake takes a session live -/
theorem live_of_step (h : (m.step e).1.phase = .live) : m.phase = .live ∨ e.1 = .initComplete := by
  obtain ⟨e, now⟩ := e
  cases e with
  | connect =>
    refine .inl ?_
    unfold step handle connect at h
    cases hs : m.startedAt <;> rw [hs] at h <;> exact h
  | datagram bytes => exact .inl (live_of_receive h)
  | tick => exact .inl (live_of_tick h)
  | send payload => exact .inl (live_of_send h)
  | initComplete => exact .inr rfl
  | close => exact .inl (live_of_close h)
  | socketFailed message => exact .inl (live_of_terminate h)

/-- **Live by the handshake.** A session that reports to be live has heard that the handshake is over. -/
theorem initComplete_of_live {events : List (SessionEvent × Instant)} (h : .live ∈ phases (m.run events).2) :
    ∃ now, (.initComplete, now) ∈ events := by
  rw [phases_run] at h
  induction events generalizing m with
  | nil => cases h
  | cons e events ih =>
    rcases List.mem_append.1 h with hfirst | hrest
    · have hlive : m.phase ≠ .live ∧ (m.step e).1.phase = .live := by
        unfold Phase.passed at hfirst
        split_ifs at hfirst with hsame hend
        · cases hfirst
        · simp at hfirst
        · have hlive := (List.mem_singleton.1 hfirst).symm
          exact ⟨fun hm => hsame (hlive.trans hm.symm), hlive⟩
      have he := (live_of_step hlive.2).resolve_left hlive.1
      exact ⟨e.2, List.mem_cons.2 (.inl (Prod.ext he.symm rfl))⟩
    · obtain ⟨now, hmem⟩ := ih hrest
      exact ⟨now, List.mem_cons_of_mem _ hmem⟩

end Session

end VisionMixer
