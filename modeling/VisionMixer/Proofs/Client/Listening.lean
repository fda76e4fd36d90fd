/-
What holds in every scene.

What a scene shows is what the session said (`Recorded`): the session has heard what was heard, and callers see what the
actions carried out so far amount to. Those who listen are accounted for (`Accounted`): each registration is a listener
who was told, is about to be told or waits, all hear the reason that is recorded, and once it is recorded nobody waits.
Both hold at first and are kept by every move (`recorded_move`, `accounted_move`), hence by every interleaving
(`recorded_run`, `accounted_run`). What has been heard and carried out only grows (`grows_run`).
-/
import VisionMixer.Proofs.Client.Scene

namespace VisionMixer

namespace Ending

/-- what becomes of the end of a session: a reason once recorded stays, whoever is told hears it, and once it is recorded
nobody waits -/
structure Informs (e e' : Ending) (told : List Notice) : Prop where
  kept : ∀ reason, e.reason = some reason → e'.reason = some reason
  reason : ∀ n ∈ told, e'.reason = some n.reason
  nobody : (e.reason.isSome = true → e.waiting = []) → e'.reason.isSome = true → e'.waiting = []

theorem informs_nobody (e : Ending) : Informs e e [] := ⟨fun _ h => h, by simp, fun h => h⟩

theorem informs_register (e : Ending) (listener : Nat) : Informs e (e.register listener).1 (e.register listener).2 := by
  cases hr : e.reason with
  | some reason =>
    have hregister : e.register listener = (e, [⟨listener, reason⟩]) := by simp only [register, hr]
    rw [hregister]
    exact ⟨fun _ h => h, by simp [hr], fun h => h⟩
  | none =>
    have hregister : e.register listener = ({ e with waiting := e.waiting ++ [listener] }, []) := by
      simp only [register, hr]
    rw [hregister]
    refine ⟨fun _ h => h, by simp, fun _ h => ?_⟩
    rw [show Ending.reason _ = none from hr] at h
    cases h

theorem informs_record (e : Ending) (reason : EndReason) : Informs e (e.record reason).1 (e.record reason).2 := by
  cases hr : e.reason with
  | some reason' =>
    have hrecord : e.record reason = (e, []) := by simp only [record, hr]
    rw [hrecord]
    exact informs_nobody e
  | none =>
    have hrecord : e.record reason = (⟨some reason, []⟩, e.waiting.map (⟨·, reason⟩)) := by simp only [record, hr]
    rw [hrecord]
    refine ⟨fun _ h => ?_, by simp, fun _ _ => rfl⟩
    rw [hr] at h
    cases h

theorem reason_register (e : Ending) (listener : Nat) : (e.register listener).1.reason = e.reason := by
  unfold register
  split
  · rfl
  · rfl

end Ending

namespace Client

theorem informs_carryOut (c : Client) (a : SessionAction) :
    c.ending.Informs (c.carryOut a).client.ending (notices (c.carryOut a).reports) := by
  have hending := c.ending_carryOut a
  obtain ⟨hending, htold⟩ := Prod.mk.inj (hending.trans (Prod.eta _).symm)
  rw [hending, htold]
  cases a.ending? with
  | none => exact c.ending.informs_nobody
  | some reason => exact c.ending.informs_record reason

/-- those who are told have waited, and the others wait on -/
theorem waiting_carryOut (c : Client) (a : SessionAction) :
    (notices (c.carryOut a).reports).map Notice.listener ++ (c.carryOut a).client.ending.waiting = c.ending.waiting := by
  have hending := c.ending_carryOut a
  obtain ⟨hending, htold⟩ := Prod.mk.inj (hending.trans (Prod.eta _).symm)
  rw [hending, htold]
  cases a.ending? with
  | none => rfl
  | some reason => exact c.ending.waiting_record reason

theorem reason_carryOut (c : Client) (a : SessionAction) :
    (c.carryOut a).client.ending.reason = c.ending.reason.or a.ending? := by
  have hending := congrArg Prod.fst (c.ending_carryOut a)
  rw [show (c.carryOut a).client.ending = _ from hending]
  cases a.ending? with
  | none => exact (Option.or_none).symm
  | some reason =>
    show (c.ending.record reason).1.reason = _
    rw [Ending.reason_record]
    cases c.ending.reason <;> rfl

end Client

namespace Scene

open Client (Reads Unread spoken)

variable {s : Scene} {m : Session} {registered : List Nat}

/-! ### What a scene shows -/

/-- a scene shows what its session said: the actions of the session, hearing what was heard, have been carried out or
wait to be, and callers see what those carried out amount to -/
structure Recorded (m : Session) (s : Scene) : Prop where
  history : m.run s.heard = (s.client.session, s.done ++ s.queue)
  published : s.client.published = (phases s.done).getLast?.getD .connecting
  reason : s.client.ending.reason = (endings s.done).head?
  reads : Reads s.client (spoken (deliveries s.done))
  marked : ∀ now, (.initComplete, now) ∈ s.heard → (spoken (deliveries s.done)).any Command.isInitComplete = true

/-- a scene whose client differs in nothing that is shown -/
theorem Recorded.of_same {s' : Scene} (h : Recorded m s) (hsession : s'.client.session = s.client.session)
    (hpublished : s'.client.published = s.client.published)
    (hreason : s'.client.ending.reason = s.client.ending.reason) (hread : Unread s.client s'.client)
    (hqueue : s'.queue = s.queue) (hheard : s'.heard = s.heard) (hdone : s'.done = s.done) : Recorded m s' where
  history := by rw [hheard, h.history, hsession, hdone, hqueue]
  published := by rw [hpublished, h.published, hdone]
  reason := by rw [hreason, h.reason, hdone]
  reads := by
    rw [hdone]
    exact h.reads.of_unread hread
  marked := by
    rw [hheard, hdone]
    exact h.marked

theorem recorded_register (h : Recorded m s) (listener : Nat) : Recorded m (s.register listener) :=
  h.of_same rfl rfl (s.client.ending.reason_register listener) ⟨rfl, rfl, rfl, rfl⟩ rfl rfl rfl

theorem recorded_carryOut (h : Recorded m s) {a : SessionAction} {queue : List SessionAction}
    (hq : s.queue = a :: queue) (now : Instant) : Recorded m (s.carryOut now a queue) where
  history := by
    show m.run (s.heard ++ (s.client.hears? a).toList.map (·, now)) = _
    have hhistory := h.history
    rw [hq] at hhistory
    rw [Session.run_append, Step.next, hhistory, ← s.client.step_hears a now]
    simp only [carryOut, List.append_assoc, List.cons_append, List.nil_append]
  published := by
    show (s.client.carryOut a).client.published = (phases (s.done ++ [a])).getLast?.getD .connecting
    rw [s.client.published_carryOut a, h.published, phases_append]
    cases hp : a.phase? with
    | none =>
      have hnone : phases [a] = [] := by rw [phases, List.filterMap_cons_none hp, List.filterMap_nil]
      rw [hnone, List.append_nil, Option.getD_none]
    | some phase =>
      have hone : phases [a] = [phase] := by rw [phases, List.filterMap_cons_some hp, List.filterMap_nil]
      rw [hone, List.getLast?_concat, Option.getD_some, Option.getD_some]
  reason := by
    show (s.client.carryOut a).client.ending.reason = (endings (s.done ++ [a])).head?
    rw [s.client.reason_carryOut a, h.reason, endings_append, List.head?_append]
    cases he : a.ending? with
    | none => rw [endings, endings, List.filterMap_cons_none he, List.filterMap_nil]; rfl
    | some reason => rw [endings, endings, List.filterMap_cons_some he, List.filterMap_nil]; rfl
  reads := by
    show Reads (s.client.carryOut a).client (spoken (deliveries (s.done ++ [a])))
    rw [deliveries_append]
    exact Client.reads_carryOut h.reads a
  marked := by
    have hread := Client.reads_carryOut h.reads a
    rw [← deliveries_append] at hread
    intro instant hmem
    rcases List.mem_append.1 hmem with hold | hnew
    · have hany := h.marked instant hold
      show (spoken (deliveries (s.done ++ [a]))).any Command.isInitComplete = true
      rw [deliveries_append, Client.spoken_append, List.any_append, hany, Bool.true_or]
    · -- the packet has completed the profile, so it had the end of the handshake in it
      obtain ⟨e, he, heq⟩ := List.mem_map.1 hnew
      obtain ⟨rfl, -⟩ := Prod.mk.inj heq
      have hburst := hread.burst
      rw [Client.burst_of_hears (Option.mem_toList.1 he)] at hburst
      show (spoken (deliveries (s.done ++ [a]))).any Command.isInitComplete = true
      by_contra hnone
      rw [if_neg hnone] at hburst
      cases hburst

theorem recorded_hear (h : Recorded m s) (hq : s.queue = []) (i : Client.Input × Instant) : Recorded m (s.hear i) where
  history := by
    show m.run (s.heard ++ (s.client.hearsOf? i.1).toList.map (·, i.2)) =
      ((s.client.stepAt i).1, s.done ++ (s.client.stepAt i).2)
    rw [Session.run_append, Step.next, h.history, ← s.client.stepAt_eq_run i, hq, List.append_nil]
  published := h.published
  reason := h.reason
  reads := h.reads.of_unread ⟨rfl, rfl, rfl, rfl⟩
  marked := by
    intro instant hmem
    rcases List.mem_append.1 hmem with hold | hnew
    · exact h.marked instant hold
    · obtain ⟨e, he, heq⟩ := List.mem_map.1 hnew
      obtain ⟨rfl, -⟩ := Prod.mk.inj heq
      exact absurd (Option.mem_toList.1 he) (s.client.hearsOf?_ne_initComplete i.1)

/-- **One move.** Whatever anybody does next, the scene shows what its session said. -/
theorem recorded_move (h : Recorded m s) (move : Move) : Recorded m (s.move move) := by
  have hread : Unread s.client s.client := ⟨rfl, rfl, rfl, rfl⟩
  refine move_cases h (recorded_register h) (fun now a queue _ hq => recorded_carryOut h hq now) (fun n calling _ => ?_)
    (fun i n _ => ?_) (fun i _ hq => recorded_hear h hq i) (fun link => ?_) move
  · exact h.of_same rfl rfl rfl hread rfl rfl rfl
  · exact h.of_same rfl rfl rfl hread rfl rfl rfl
  · exact h.of_same rfl rfl rfl ⟨rfl, rfl, rfl, rfl⟩ rfl rfl rfl

theorem recorded_run (h : Recorded m s) (moves : List Move) : Recorded m (s.run moves) := by
  induction moves generalizing s with
  | nil => exact h
  | cons move moves ih => exact ih (recorded_move h move)

theorem recorded_opening (link : Link) (config : SessionConfig) (helloId : UInt16) (start : Instant) :
    Recorded (.initial config helloId) (opening link config helloId start) where
  history := Session.run_singleton _ _
  published := rfl
  reason := rfl
  reads := Client.reads_initial link config helloId _
  marked := by
    intro now h
    cases List.mem_singleton.1 h

/-! ### Those who listen -/

/-- every registration is a listener who was told, is about to be told or waits; those told hear the reason recorded, and
once it is recorded nobody waits -/
structure Accounted (registered : List Nat) (s : Scene) : Prop where
  once : (s.informed.map Notice.listener ++ s.client.ending.waiting).Perm registered
  reason : ∀ n ∈ s.informed, s.client.ending.reason = some n.reason
  nobody : s.client.ending.reason.isSome = true → s.client.ending.waiting = []

/-- listeners who need not wait any more join those who are informed, and whoever is new joins the others -/
theorem accounted_of_informs {s' : Scene} {told : List Notice} {new : List Nat} (h : Accounted registered s)
    (hinformed : s'.informed.Perm (s.informed ++ told)) (hinforms : s.client.ending.Informs s'.client.ending told)
    (hwaiting : (told.map Notice.listener ++ s'.client.ending.waiting).Perm (s.client.ending.waiting ++ new)) :
    Accounted (registered ++ new) s' where
  once := by
    have hall := (hinformed.map Notice.listener).append_right s'.client.ending.waiting
    rw [List.map_append, List.append_assoc] at hall
    refine (hall.trans (hwaiting.append_left _)).trans ?_
    rw [← List.append_assoc]
    exact h.once.append_right new
  reason := by
    intro n hn
    rcases List.mem_append.1 (hinformed.mem_iff.1 hn) with hold | hnew
    · exact hinforms.kept _ (h.reason n hold)
    · exact hinforms.reason n hnew
  nobody := hinforms.nobody h.nobody

theorem accounted_register (h : Accounted registered s) (listener : Nat) :
    Accounted (registered ++ [listener]) (s.register listener) := by
  have htold : notices (s.client.listen listener).2 = (s.client.ending.register listener).2 := notices_map_told _
  refine accounted_of_informs h ?_ (s.client.ending.informs_register listener) ?_
  · show (s.called ++ s.calling ++ (s.late ++ notices (s.client.listen listener).2)).Perm _
    rw [htold, ← List.append_assoc]
    exact .refl _
  · exact List.perm_append_comm.trans (.of_eq (s.client.ending.waiting_register listener))

theorem accounted_carryOut (h : Accounted registered s) (hc : s.calling = []) (now : Instant) (a : SessionAction)
    (queue : List SessionAction) : Accounted registered (s.carryOut now a queue) := by
  rw [← List.append_nil registered]
  refine accounted_of_informs h ?_ (s.client.informs_carryOut a) ?_
  · show (s.called ++ notices (s.client.carryOut a).reports ++ s.late).Perm (s.called ++ s.calling ++ s.late ++ _)
    rw [hc, List.append_nil, List.append_assoc, List.append_assoc]
    exact List.perm_append_comm.append_left _
  · rw [List.append_nil]
    exact .of_eq (s.client.waiting_carryOut a)

/-- **One move.** A move adds the listener it registers, and leaves everybody accounted for. -/
theorem accounted_move (h : Accounted registered s) (move : Move) :
    Accounted (registered ++ move.listener?.toList) (s.move move) := by
  have hsame {s' : Scene} (hinformed : s'.informed.Perm s.informed) (he : s'.client.ending = s.client.ending) :
      Accounted (registered ++ []) s' := by
    refine accounted_of_informs h (hinformed.trans (.of_eq (List.append_nil _).symm)) ?_ ?_
    · rw [he]
      exact Ending.informs_nobody _
    · rw [he, List.append_nil]
      exact .refl _
  cases move with
  | register listener => exact accounted_register h listener
  | carry now =>
    show Accounted (registered ++ []) _
    simp only [Scene.move]
    split
    case h_1 hc _ =>
      rw [List.append_nil]
      exact accounted_carryOut h hc now _ _
    case h_2 => exact hsame (.refl _) rfl
  | call =>
    show Accounted (registered ++ []) _
    simp only [Scene.move]
    split
    case h_1 n calling hc =>
      refine hsame ?_ rfl
      show (s.called ++ [n] ++ calling ++ s.late).Perm (s.called ++ s.calling ++ s.late)
      rw [hc, List.append_assoc s.called, List.singleton_append]
    case h_2 => exact hsame (.refl _) rfl
  | answer i =>
    show Accounted (registered ++ []) _
    simp only [Scene.move]
    split
    case h_1 n hn =>
      refine hsame ?_ rfl
      obtain ⟨hi, rfl⟩ := List.getElem?_eq_some_iff.1 hn
      show (s.called ++ [s.late[i]] ++ s.calling ++ s.late.eraseIdx i).Perm (s.called ++ s.calling ++ s.late)
      rw [List.append_assoc, List.append_assoc, List.append_assoc]
      refine List.Perm.append_left _ ?_
      refine (List.perm_append_comm_assoc _ _ _).trans (List.Perm.append_left _ ?_)
      exact List.getElem_cons_eraseIdx_perm hi
    case h_2 => exact hsame (.refl _) rfl
  | input i =>
    show Accounted (registered ++ []) _
    simp only [Scene.move]
    split
    · exact hsame (.refl _) rfl
    · exact hsame (.refl _) rfl
  | relink link => exact hsame (.refl _) rfl

theorem accounted_run (h : Accounted registered s) (moves : List Move) :
    Accounted (registered ++ registrations moves) (s.run moves) := by
  induction moves generalizing s registered with
  | nil =>
    rw [registrations, List.filterMap_nil, List.append_nil]
    exact h
  | cons move moves ih =>
    rw [registrations_cons, ← List.append_assoc]
    exact ih (accounted_move h move)

theorem accounted_opening (link : Link) (config : SessionConfig) (helloId : UInt16) (start : Instant) :
    Accounted [] (opening link config helloId start) where
  once := .refl _
  reason := by
    intro n hn
    cases hn
  nobody := fun _ => rfl

/-! ### As time goes by -/

/-- more has been heard and carried out -/
structure Grows (s s' : Scene) : Prop where
  heard : s.heard <+: s'.heard
  done : s.done <+: s'.done

theorem grows_of_same {s' : Scene} (hheard : s'.heard = s.heard) (hdone : s'.done = s.done) : Grows s s' where
  heard := by rw [hheard]
  done := by rw [hdone]

theorem Grows.trans {s s' s'' : Scene} (h : Grows s s') (h' : Grows s' s'') : Grows s s'' :=
  ⟨h.heard.trans h'.heard, h.done.trans h'.done⟩

theorem grows_move (s : Scene) (move : Move) : Grows s (s.move move) := by
  refine move_cases (grows_of_same rfl rfl) (fun _ => grows_of_same rfl rfl) (fun _ _ _ _ _ => ?_)
    (fun _ _ _ => grows_of_same rfl rfl) (fun _ _ _ => grows_of_same rfl rfl) (fun _ _ _ => ?_)
    (fun _ => grows_of_same rfl rfl) move
  · exact ⟨List.prefix_append _ _, List.prefix_append _ _⟩
  · exact ⟨List.prefix_append _ _, List.prefix_refl _⟩

theorem grows_run (s : Scene) (moves : List Move) : Grows s (s.run moves) := by
  induction moves generalizing s with
  | nil => exact grows_of_same rfl rfl
  | cons move moves ih => exact (s.grows_move move).trans (ih _)

end Scene

end VisionMixer
