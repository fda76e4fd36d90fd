/-
The mirrored device does not depend on how the network reorders packets.

`Mirror` is what a client knows of its device. `deliver_congr`: what a delivery makes of it, and the changes told, depend
on the mirror and the records alone, not on the session or the link. Since a session delivers the same packets in the
same order however they arrive (`run_spec`), the outcome is that of plain arrival in order (`mirror_of_schedules`).
-/
import VisionMixer.Client.Basic
import VisionMixer.Proofs.Session.InOrder

namespace VisionMixer

/-- what a client knows of its device -/
structure Mirror where
  tree : DeviceTree
  codec : Codec
  /-- commands of the handshake so far, none once it is over -/
  burst : Option (List Command)
  profile : Option Profile

namespace Client

/-- the mirror that a client keeps -/
def mirror (c : Client) : Mirror := ⟨c.tree, c.codec, c.burst, c.profile⟩

/-- a client after packets delivered to it, and what it told on the way -/
def absorb (c : Client) : List (List Record) → Client × List Report
  | [] => (c, [])
  | records :: packets =>
    let t := c.deliver records
    let (c, reports) := t.client.absorb packets
    (c, t.reports ++ reports)

variable {c c' : Client}

theorem observe_congr (h : c.mirror = c'.mirror) (commands : List Command) :
    (c.observe commands).1.mirror = (c'.observe commands).1.mirror ∧
      (c.observe commands).2 = (c'.observe commands).2 := by
  obtain ⟨htree, hcodec, hburst, hprofile⟩ := Mirror.mk.inj h
  unfold observe
  rw [hburst]
  cases c'.burst with
  | none => exact ⟨h, rfl⟩
  | some seen =>
    dsimp only
    split_ifs
    · exact ⟨by simp only [mirror, htree, hcodec], rfl⟩
    · exact ⟨by simp only [mirror, htree, hcodec, hprofile], rfl⟩

/-- two clients with the same mirror make the same of a packet -/
theorem deliver_congr (h : c.mirror = c'.mirror) (records : List Record) :
    (c.deliver records).client.mirror = (c'.deliver records).client.mirror ∧
      (c.deliver records).reports = (c'.deliver records).reports := by
  obtain ⟨htree, hcodec, hburst, hprofile⟩ := Mirror.mk.inj h
  unfold deliver
  rw [hcodec]
  cases c'.codec.decodePayload records with
  | error e => exact ⟨h, rfl⟩
  | ok r =>
    obtain ⟨commands, codec⟩ := r
    have hk : ({ c with codec } : Client).mirror = ({ c' with codec } : Client).mirror := by
      simp only [mirror, htree, hburst, hprofile]
    obtain ⟨hseen, hdone⟩ := observe_congr hk commands
    obtain ⟨ht, hc, hb, hp⟩ := Mirror.mk.inj hseen
    dsimp only
    rw [ht]
    exact ⟨by simp only [mirror, hc, hb, hp], rfl⟩

theorem absorb_congr (h : c.mirror = c'.mirror) (packets : List (List Record)) :
    (c.absorb packets).1.mirror = (c'.absorb packets).1.mirror ∧ (c.absorb packets).2 = (c'.absorb packets).2 := by
  induction packets generalizing c c' with
  | nil => exact ⟨h, rfl⟩
  | cons records packets ih =>
    obtain ⟨hm, hr⟩ := deliver_congr h records
    obtain ⟨hm', hr'⟩ := ih hm
    exact ⟨hm', by simp only [absorb, hr, hr']⟩

open Session (Scheduled expected greeting inOrder overtaken)

/-- **One mirror for all schedules.** Two clients that know the same of their device take its packets 1, …, `count` from
two sessions, however these packets arrived. Afterwards they know the same and have told the same changes in the same
order: what plain arrival in order gives. -/
theorem mirror_of_schedules {config : SessionConfig} (hc : config.validate = .ok ()) {P : Nat → Bytes} {count : Nat}
    {helloId₁ helloId₂ : UInt16} {events₁ events₂ : List (SessionEvent × Instant)}
    (h₁ : Scheduled P 1 (.initial config helloId₁) events₁) (he₁ : expected 1 (.initial config helloId₁) events₁ = count + 1)
    (h₂ : Scheduled P 1 (.initial config helloId₂) events₂) (he₂ : expected 1 (.initial config helloId₂) events₂ = count + 1)
    (hm : c.mirror = c'.mirror) (helloId sessionId : UInt16) (now : Instant) :
    let s := c.absorb (deliveries (Session.run (.initial config helloId₁) events₁).2)
    let s' := c'.absorb (deliveries (Session.run (.initial config helloId₂) events₂).2)
    let plain := c.absorb (deliveries (Session.run (.initial config helloId) (inOrder sessionId P now count)).2)
    s.1.mirror = s'.1.mirror ∧ s.2 = s'.2 ∧ s.1.mirror = plain.1.mirror ∧ s.2 = plain.2 := by
  have hwindow := Session.window_of_validate hc
  obtain ⟨-, -, hfit, htold₁⟩ := Session.run_spec (Session.inSequence_initial P hwindow helloId₁) h₁
  obtain ⟨-, -, -, htold₂⟩ := Session.run_spec (Session.inSequence_initial P hwindow helloId₂) h₂
  -- whatever was taken came in a datagram, so the same packets can be sent in order
  have hfits : ∀ n, 1 ≤ n → n ≤ count → Session.Fits (P n) := fun n h1 h2 => hfit n h1 (by omega)
  obtain ⟨h₀, he₀⟩ := Session.scheduled_inOrder config helloId sessionId hfits now
  obtain ⟨-, -, -, htold₀⟩ := Session.run_spec (Session.inSequence_initial P hwindow helloId) h₀
  rw [he₁] at htold₁
  rw [he₂] at htold₂
  rw [he₀] at htold₀
  dsimp only
  rw [htold₁, htold₂, htold₀]
  obtain ⟨hmirror, hreports⟩ := absorb_congr hm (stream P 1 (count + 1))
  exact ⟨hmirror, hreports, rfl, rfl⟩

theorem mirror_of_schedules_greeting :
    let c := initial default default 5
    let s := c.absorb (deliveries (Session.run (.initial default 5) overtaken).2)
    let s' := c.absorb (deliveries (Session.run (.initial default 6) (inOrder 7 greeting 0 2)).2)
    s.1.mirror = s'.1.mirror ∧ s.2 = s'.2 ∧ s.1.codec.version = .v8_1_1 ∧ s.1.profile.isSome = true := by
  have hfit : ∀ n, 1 ≤ n → n ≤ 2 → Session.Fits (greeting n) := by
    intro n h1 h2
    obtain rfl | rfl : n = 1 ∨ n = 2 := by omega
    · exact Nat.le_of_ble_eq_true rfl
    · exact Nat.le_of_ble_eq_true rfl
  obtain ⟨hs, he⟩ := Session.scheduled_inOrder default 6 7 hfit 0
  obtain ⟨hmirror, hreports, -, -⟩ := mirror_of_schedules (c := initial default default 5) rfl
    Session.scheduled_overtaken (by decide) hs he rfl 0 0 0
  exact ⟨hmirror, hreports, by decide, by decide⟩

end Client

end VisionMixer
