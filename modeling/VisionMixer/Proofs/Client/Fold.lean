/-
What a client makes of the packets delivered to it is a plain fold.

`Codec.sift` keeps the packets that can be decoded. `Reads` says that a client has read a list of commands: its tree, its
codec and its profile are what these commands make of fresh ones, and the profile is drawn up from those up to the end of
the handshake. One packet adds its commands to what was read, or nothing (`reads_deliver`, `deliver_of_error`), and so do
many (`reads_deliveries`). `folds_deliveries`: over any packets a fresh client reads the commands of the good ones, tells
each change they make, and lets its session go live once, with the packet that ends the handshake.
-/
import Mathlib.Data.List.Infix
import Mathlib.Tactic
import VisionMixer.Proofs.Client.Turn

namespace VisionMixer

namespace Codec

/-- the commands of each packet that can be decoded at the version which those before it have left -/
def sift (k : Codec) : List (List Record) → List (List Command)
  | [] => []
  | records :: packets =>
    match k.decodePayload records with
    | .error _ => k.sift packets
    | .ok (commands, k) => commands :: k.sift packets

variable {k k' : Codec} {records : List Record} {commands : List Command}

theorem decodePayload_codec (h : k.decodePayload records = .ok (commands, k')) : k' = commands.foldl after k := by
  induction records generalizing k k' commands with
  | nil =>
    cases h
    rfl
  | cons r rest ih =>
    unfold decodePayload at h
    cases hc : Command.decode k.arithmetic k.version r with
    | error e =>
      rw [hc] at h
      cases h
    | ok c =>
      rw [hc] at h
      cases hrest : (k.after c).decodePayload rest with
      | error e =>
        simp only [bind, Except.bind, hrest] at h
        cases h
      | ok p =>
        obtain ⟨more, k''⟩ := p
        simp only [bind, Except.bind, hrest, pure, Except.pure] at h
        cases h
        rw [List.foldl_cons]
        exact ih hrest

theorem sift_append (k : Codec) (before after : List (List Record)) :
    k.sift (before ++ after) = k.sift before ++ ((k.sift before).flatten.foldl Codec.after k).sift after := by
  induction before generalizing k with
  | nil => rfl
  | cons records before ih =>
    rw [List.cons_append, sift, sift]
    cases hd : k.decodePayload records with
    | error e => exact ih k
    | ok r =>
      obtain ⟨commands, k'⟩ := r
      dsimp only
      rw [ih, List.flatten_cons, List.foldl_append, ← decodePayload_codec hd, List.cons_append]

end Codec

/-- what was said up to the end of the handshake, and this end; none if the handshake has not ended -/
def handshake? (said : List Command) : Option (List Command) :=
  if said.any Command.isInitComplete then some (said.take (said.findIdx Command.isInitComplete + 1)) else none

/-- after the end of the handshake no more belongs to it -/
theorem handshake?_append_of_ended {said : List Command} (h : said.any Command.isInitComplete = true)
    (commands : List Command) : handshake? (said ++ commands) = handshake? said := by
  have hlt : said.findIdx Command.isInitComplete < said.length := List.findIdx_lt_length.2 (List.any_eq_true.1 h)
  rw [handshake?, handshake?, if_pos h, if_pos (by rw [List.any_append, h, Bool.true_or]), List.findIdx_append,
    if_pos hlt, List.take_append_of_le_length hlt]

/-- the commands that end the handshake count up to the end -/
theorem handshake?_append_of_lasting {said commands : List Command} (h : said.any Command.isInitComplete = false)
    (hc : commands.any Command.isInitComplete = true) :
    ∃ c, c.isInitComplete = true ∧
      handshake? (said ++ commands) = some (said ++ commands.takeWhile (!·.isInitComplete) ++ [c]) := by
  have hlt : commands.findIdx Command.isInitComplete < commands.length :=
    List.findIdx_lt_length.2 (List.any_eq_true.1 hc)
  have hnone : ¬said.findIdx Command.isInitComplete < said.length := by
    rw [List.findIdx_lt_length, ← List.any_eq_true, h]
    decide
  have htake : commands.takeWhile (!·.isInitComplete) = commands.take (commands.findIdx Command.isInitComplete) := by
    simp [List.takeWhile_eq_take_findIdx_not]
  refine ⟨commands[commands.findIdx Command.isInitComplete], List.findIdx_getElem, ?_⟩
  rw [handshake?, if_pos (by rw [List.any_append, hc, Bool.or_true]), List.findIdx_append, if_neg hnone, htake,
    Nat.add_right_comm, Nat.add_comm _ said.length, List.take_length_add_append, List.append_assoc,
    List.take_succ_eq_append_getElem hlt]

namespace Profile

/-- the end of the handshake tells nothing of what a device can do -/
theorem ofBurst_concat (burst : List Command) {c : Command} (hc : c.isInitComplete = true) :
    ofBurst (burst ++ [c]) = ofBurst burst := by
  have hc : c = .initComplete := by
    cases c <;> first | rfl | cases hc
  subst hc
  have hfilter {α : Type} (said : Command → Option α) (h : said .initComplete = none) :
      (burst ++ [Command.initComplete]).filterMap said = burst.filterMap said := by
    rw [List.filterMap_append, List.filterMap_cons_none h, List.filterMap_nil, List.append_nil]
  have hlast {α : Type} {said : Command → Option α} (h : said .initComplete = none) :
      last? (burst ++ [.initComplete]) said = last? burst said := by rw [last?, last?, hfilter said h]
  have hmentioned {κ : Type} [Id κ] (id : Command → Option κ) (h : id .initComplete = none) :
      mentioned (burst ++ [.initComplete]) id = mentioned burst id := by
    rw [mentioned, mentioned, hfilter id h]
  have hcount {κ : Type} [Id κ] (id : Command → Option κ) (h : id .initComplete = none) :
      count (burst ++ [.initComplete]) id = count burst id := by rw [count, count, hmentioned id h]
  have hkeyers (block : UInt8) : keyersOn (burst ++ [.initComplete]) block = keyersOn burst block := by
    rw [keyersOn, keyersOn, hlast rfl, hcount _ rfl]
  have haudio : AudioMixerKind.ofBurst (burst ++ [.initComplete]) = AudioMixerKind.ofBurst burst := by
    rw [AudioMixerKind.ofBurst, AudioMixerKind.ofBurst, hfilter _ rfl]
  unfold ofBurst
  simp (disch := rfl) only [hlast, hcount Command.downstreamKeyer? rfl, hcount Command.multiviewer? rfl,
    hcount Command.box? rfl, hcount Command.mediaPlayer? rfl, hcount Command.macroSlot? rfl, hcount Command.input? rfl,
    hmentioned Command.mixEffect? rfl, hfilter Command.unrecognized? rfl, hkeyers, haudio, List.any_append,
    List.any_cons, List.any_nil, Bool.or_false]

end Profile

namespace DeviceTree

/-- the change that a command makes to a tree, if it lists any path -/
def change? (t : DeviceTree) (c : Command) : Option StateChange :=
  if (t.apply c).2.isEmpty then none else some ⟨c.tag.text, (t.apply c).2⟩

/-- the changes that commands make one after another, each to the tree that those before it have left -/
def changes (t : DeviceTree) (commands : List Command) : List StateChange :=
  (commands.inits.zip commands).filterMap fun p => (t.applyAll p.1).change? p.2

theorem changes_cons (t : DeviceTree) (c : Command) (rest : List Command) :
    t.changes (c :: rest) = (t.change? c).toList ++ (t.apply c).1.changes rest := by
  have hrest : ((rest.inits.map (c :: ·)).zip rest).filterMap (fun p => (t.applyAll p.1).change? p.2) =
      (t.apply c).1.changes rest := by
    rw [List.zip_map_left, List.filterMap_map]
    rfl
  unfold changes
  rw [List.inits_cons, List.zip_cons_cons, List.filterMap_cons, hrest]
  have hfirst : (t.applyAll []).change? c = t.change? c := rfl
  dsimp only
  rw [hfirst]
  cases t.change? c <;> rfl

theorem changes_append (t : DeviceTree) (before after : List Command) :
    t.changes (before ++ after) = t.changes before ++ (t.applyAll before).changes after := by
  induction before generalizing t with
  | nil => rfl
  | cons c before ih => rw [List.cons_append, changes_cons, changes_cons, ih, List.append_assoc, applyAll, applyAll,
      List.foldl_cons]

end DeviceTree

namespace Client

open DeviceTree (applyAll)

/-- commands change a tree as one after another would, and each change is noted -/
theorem applyCommands_eq (t : DeviceTree) (commands : List Command) :
    applyCommands t commands = (t.applyAll commands, t.changes commands) := by
  induction commands generalizing t with
  | nil => rfl
  | cons c rest ih =>
    rw [DeviceTree.changes_cons, DeviceTree.change?]
    unfold applyCommands
    dsimp only
    rw [ih]
    split_ifs <;> rfl

/-- a client has read these commands -/
structure Reads (c : Client) (said : List Command) : Prop where
  tree : c.tree = applyAll .empty said
  codec : c.codec = said.foldl Codec.after {}
  burst : c.burst = if said.any Command.isInitComplete then none else some said
  profile : c.profile = (handshake? said).map .ofBurst

variable {c : Client} {said commands : List Command} {records : List Record} {k : Codec}

theorem reads_initial (link : Link) (config : SessionConfig) (helloId : UInt16) (m : Session) :
    Reads ((initial link config helloId).withSession m) [] := ⟨rfl, rfl, rfl, rfl⟩

theorem Reads.withSession (h : Reads c said) (m : Session) : Reads (c.withSession m) said :=
  ⟨h.tree, h.codec, h.burst, h.profile⟩

/-- a packet that cannot be decoded changes nothing -/
theorem deliver_of_error {e : Error} (h : c.codec.decodePayload records = .error e) : c.deliver records = c.still := by
  unfold deliver
  rw [h]

/-- commands end the handshake that those before them have not -/
def ends (said commands : List Command) : Bool :=
  !said.any Command.isInitComplete && commands.any Command.isInitComplete

/-- commands taken into the profile, which is drawn up with those that end the handshake -/
theorem observe_eq (hburst : c.burst = if said.any Command.isInitComplete then none else some said)
    (hprofile : c.profile = (handshake? said).map .ofBurst) (commands : List Command) :
    c.observe commands =
      ({ c with
        burst := if (said ++ commands).any Command.isInitComplete then none else some (said ++ commands)
        profile := (handshake? (said ++ commands)).map .ofBurst }, ends said commands) := by
  cases hs : said.any Command.isInitComplete with
  | true =>
    have hany : (said ++ commands).any Command.isInitComplete = true := by rw [List.any_append, hs, Bool.true_or]
    rw [hs, if_pos rfl] at hburst
    have hobserve : c.observe commands = (c, false) := by simp only [observe, hburst]
    rw [hobserve, handshake?_append_of_ended hs, ← hprofile, if_pos hany, ends, hs, ← hburst]
    rfl
  | false =>
    rw [hs, if_neg (by decide)] at hburst
    cases hc : commands.any Command.isInitComplete with
    | true =>
      obtain ⟨marker, hmarker, hhandshake⟩ := handshake?_append_of_lasting hs hc
      have hany : (said ++ commands).any Command.isInitComplete = true := by rw [List.any_append, hc, Bool.or_true]
      rw [hhandshake, Option.map_some, Profile.ofBurst_concat _ hmarker, if_pos hany]
      simp only [observe, hburst, hc, if_true, ends, hs, Bool.not_false, Bool.true_and]
    | false =>
      have hany : (said ++ commands).any Command.isInitComplete = false := by rw [List.any_append, hs, hc]; rfl
      have hnone {l : List Command} (h : l.any Command.isInitComplete = false) : handshake? l = none :=
        if_neg (by rw [h]; decide)
      rw [hnone hs] at hprofile
      rw [hnone hany, ← hprofile, if_neg (by rw [hany]; decide)]
      simp only [observe, hburst, hc, Bool.false_eq_true, if_false, ends, Bool.and_false]

/-- **One packet.** The commands of a packet are read, each change they make is told, and the session goes live if they
end the handshake. -/
theorem reads_deliver (h : Reads c said) (hd : c.codec.decodePayload records = .ok (commands, k)) :
    Reads (c.deliver records).client (said ++ commands) ∧
      (c.deliver records).reports = ((applyAll .empty said).changes commands).map .changed ∧
      ((c.deliver records).client.session, (c.deliver records).queued) =
        if ends said commands then c.session.initComplete else c.session.still := by
  have htree : applyAll .empty (said ++ commands) = (applyAll .empty said).applyAll commands := List.foldl_append
  have hcodec : k = (said ++ commands).foldl Codec.after {} := by
    rw [Codec.decodePayload_codec hd, h.codec, List.foldl_append]
  have hobserve := observe_eq (c := { c with codec := k }) h.burst h.profile commands
  unfold deliver
  rw [hd]
  dsimp only
  rw [hobserve]
  dsimp only
  rw [applyCommands_eq, h.tree]
  exact ⟨⟨htree.symm, hcodec, rfl, rfl⟩, rfl, rfl⟩

/-- the session goes live with the first of two packets or with the second -/
theorem session_append {m m' m'' : Session} {queued queued' : List SessionAction} {more : List Command}
    (h : (m', queued) = if ends said commands then m.initComplete else m.still)
    (h' : (m'', queued') = if ends (said ++ commands) more then m'.initComplete else m'.still) :
    (m'', queued ++ queued') = if ends said (commands ++ more) then m.initComplete else m.still := by
  cases he : ends said commands with
  | true =>
    -- the end of the handshake comes once
    obtain ⟨hs, hc⟩ := Bool.and_eq_true_iff.1 he
    have hmore : ends (said ++ commands) more = false := by rw [ends, List.any_append, hc, Bool.or_true]; rfl
    have hall : ends said (commands ++ more) = true := by rw [ends, hs, List.any_append, hc]; rfl
    rw [hmore, if_neg (by decide)] at h'
    obtain ⟨rfl, rfl⟩ := Prod.mk.inj h'
    rw [hall, if_pos rfl, List.append_nil, h, he, if_pos rfl]
  | false =>
    have hmore : ends (said ++ commands) more = ends said (commands ++ more) := by
      revert he
      unfold ends
      rw [List.any_append, List.any_append]
      cases said.any Command.isInitComplete <;> cases commands.any Command.isInitComplete <;> simp
    rw [he, if_neg (by decide)] at h
    obtain ⟨rfl, rfl⟩ := Prod.mk.inj h
    rw [← hmore, List.nil_append]
    exact h'

/-- **Many packets.** Of packets delivered one after another the commands of the good ones are read, each change they make
is told, and the session goes live if one of them ends the handshake. -/
theorem reads_deliveries (h : Reads c said) (packets : List (List Record)) :
    let new := (c.codec.sift packets).flatten
    let t := c.carryOutAll (packets.map .deliver)
    Reads t.client (said ++ new) ∧ t.reports = ((applyAll .empty said).changes new).map .changed ∧
      (t.client.session, t.queued) = if ends said new then c.session.initComplete else c.session.still := by
  induction packets generalizing c said with
  | nil =>
    refine ⟨?_, rfl, ?_⟩
    · show Reads c (said ++ [])
      rw [List.append_nil]
      exact h
    · rw [ends]
      simp [Codec.sift]
      rfl
  | cons records packets ih =>
    have hcons : c.carryOutAll ((records :: packets).map .deliver) =
        (c.deliver records).next fun c => c.carryOutAll (packets.map .deliver) := carryOutAll_cons c _ _
    rw [hcons]
    cases hd : c.codec.decodePayload records with
    | error e =>
      rw [deliver_of_error hd, still_next, Codec.sift, hd]
      exact ih h
    | ok r =>
      obtain ⟨commands, k⟩ := r
      obtain ⟨hread, hreports, hsession⟩ := reads_deliver h hd
      obtain ⟨hread', hreports', hsession'⟩ := ih hread
      have hcodec : (c.deliver records).client.codec = k := by
        rw [hread.codec, List.foldl_append, ← h.codec, ← Codec.decodePayload_codec hd]
      have htree : applyAll .empty (said ++ commands) = (applyAll .empty said).applyAll commands := List.foldl_append
      rw [hcodec] at hread' hreports' hsession'
      rw [List.append_assoc] at hread'
      rw [Codec.sift, hd, List.flatten_cons]
      refine ⟨hread', ?_, ?_⟩
      · rw [Turn.next, hreports, hreports', htree, DeviceTree.changes_append, List.map_append]
      · exact session_append hsession hsession'

/-! ### A fresh client -/

/-- what the good ones of packets say to a fresh client -/
def spoken (packets : List (List Record)) : List Command := (Codec.sift {} packets).flatten

/-- the packet at a place ends the handshake -/
def endsAt (packets : List (List Record)) (n : Nat) : Bool :=
  !(spoken (packets.take n)).any Command.isInitComplete && (spoken (packets.take (n + 1))).any Command.isInitComplete

/-- what becomes true and stays so does at one place -/
theorem countP_onset {f : Nat → Bool} (h₀ : f 0 = false) (hf : ∀ n, f n = true → f (n + 1) = true) (n : Nat) :
    (List.range n).countP (fun i => !f i && f (i + 1)) = (f n).toNat := by
  induction n with
  | zero => rw [h₀]; rfl
  | succ n ih =>
    rw [List.range_succ, List.countP_append, ih, List.countP_singleton]
    have hstep := hf n
    revert hstep
    cases f n <;> cases f (n + 1) <;> simp

theorem spoken_append (before after : List (List Record)) :
    spoken (before ++ after) = spoken before ++ (((spoken before).foldl Codec.after {}).sift after).flatten := by
  rw [spoken, Codec.sift_append, List.flatten_append]
  rfl

theorem countP_endsAt (packets : List (List Record)) :
    (List.range packets.length).countP (endsAt packets) = ((spoken packets).any Command.isInitComplete).toNat := by
  have hcount := countP_onset (f := fun n => (spoken (packets.take n)).any Command.isInitComplete) rfl (fun n h => ?_)
    packets.length
  · rw [List.take_length] at hcount
    exact hcount
  · rw [List.take_add_one, spoken_append, List.any_append, h, Bool.true_or]

/-- the packet at a place, after those before it -/
theorem reads_next {packets : List (List Record)} {n : Nat} (hn : n < packets.length)
    (h : Reads c (spoken (packets.take n))) :
    let u := c.deliver packets[n]
    Reads u.client (spoken (packets.take (n + 1))) ∧
      (u.client.session, u.queued) = if endsAt packets n then c.session.initComplete else c.session.still := by
  obtain ⟨hread, -, hsession⟩ := reads_deliveries h [packets[n]]
  have hspoken : spoken (packets.take (n + 1)) =
      spoken (packets.take n) ++ (c.codec.sift [packets[n]]).flatten := by
    rw [List.take_succ_eq_append_getElem hn, spoken_append, ← h.codec]
  have hends : endsAt packets n = ends (spoken (packets.take n)) (c.codec.sift [packets[n]]).flatten := by
    rw [endsAt, hspoken, List.any_append, ends, Bool.and_or_distrib_left, Bool.not_and_self, Bool.false_or]
  rw [hspoken, hends]
  exact ⟨hread, hsession⟩

/-- **A plain fold.** Whatever packets are delivered to a fresh client, it reads the commands of the good ones in order,
and tells each change they make and nothing else. One packet ends the handshake, if any good one has the record for it;
when this packet has been read the session goes live, and no other does anything to the session. A packet that cannot be
decoded leaves everything as it is. -/
theorem folds_deliveries (link : Link) (config : SessionConfig) (helloId : UInt16) (m : Session)
    (packets : List (List Record)) :
    let c := (initial link config helloId).withSession m
    let t := c.carryOutAll (packets.map .deliver)
    Reads t.client (spoken packets) ∧ t.reports = (DeviceTree.empty.changes (spoken packets)).map .changed ∧
      (t.client.session, t.queued) =
        (if (spoken packets).any Command.isInitComplete then m.initComplete else m.still) ∧
      (List.range packets.length).countP (endsAt packets) = ((spoken packets).any Command.isInitComplete).toNat ∧
      ∀ n (hn : n < packets.length) (m' : Session),
        let c' := (c.carryOutAll ((packets.take n).map .deliver)).client.withSession m'
        let u := c'.deliver packets[n]
        (∀ e, c'.codec.decodePayload packets[n] = .error e → u = c'.still) ∧
          Reads u.client (spoken (packets.take (n + 1))) ∧
          (u.client.session, u.queued) = if endsAt packets n then m'.initComplete else m'.still := by
  have hfresh := reads_initial link config helloId m
  obtain ⟨hread, hreports, hsession⟩ := reads_deliveries hfresh packets
  refine ⟨hread, hreports, hsession, countP_endsAt packets, fun n hn m' => ⟨fun e => deliver_of_error, ?_⟩⟩
  -- what a client has read does not depend on its session, which may be any when the packet comes
  obtain ⟨hbefore, -, -⟩ := reads_deliveries hfresh (packets.take n)
  exact reads_next hn (hbefore.withSession m')

/-- the end of the handshake comes with a record that cannot be decoded, then with one that can, then once more -/
def interrupted : List (List Record) := [
  [⟨.ofChars '_' 'v' 'e' 'r', [0, 2, 0, 30]⟩],
  [⟨.ofChars 'I' 'n' 'C' 'm', [0, 0, 0, 0]⟩, ⟨.ofChars 'P' 'r' 'g' 'I', [0]⟩],
  [⟨.ofChars 'P' 'r' 'g' 'I', [0, 0, 0, 4]⟩, ⟨.ofChars 'I' 'n' 'C' 'm', [0, 0, 0, 0]⟩],
  [⟨.ofChars 'I' 'n' 'C' 'm', [0, 0, 0, 0]⟩]]

theorem folds_deliveries_interrupted :
    let m := { Session.initial default 5 with phase := .handshaking }
    let c := (initial default default 5).withSession m
    let t := c.carryOutAll (interrupted.map .deliver)
    let c' := (c.carryOutAll ((interrupted.take 1).map .deliver)).client.withSession m
    t.queued = [.phaseChanged .live] ∧ t.client.profile.isSome = true ∧ (List.range 4).filter (endsAt interrupted) = [2] ∧
      c'.deliver interrupted[1] = c'.still := by
  obtain ⟨hread, -, hsession, -, hstep⟩ :=
    folds_deliveries default default 5 { Session.initial default 5 with phase := .handshaking } interrupted
  obtain ⟨hbad, -, -⟩ := hstep 1 (by decide) { Session.initial default 5 with phase := .handshaking }
  have hends : (spoken interrupted).any Command.isInitComplete = true := by decide
  rw [if_pos hends] at hsession
  refine ⟨(Prod.mk.inj hsession).2, ?_, by decide, hbad _ rfl⟩
  rw [hread.profile, handshake?, if_pos hends]
  rfl

end Client

end VisionMixer
