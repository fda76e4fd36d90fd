/-
What each handler makes of a tree.

A handler looks its entries up and writes over them, or it is stale and makes nothing. There is one lemma for each that
says what it has found and all that it has made if it is not stale; whatever is kept by a handler follows from that.
-/
import VisionMixer.Device.Apply

namespace VisionMixer.DeviceTree

variable {t : DeviceTree} {u : Update} {paths : List StatePath} {keys : List String}

theorem eq_of_onMixEffect {block : UInt8} {f : MixEffect → MixEffect} (h : t.onMixEffect block paths f = .ok u) :
    ∃ b, t.video.mixEffects.get? block = some b ∧
      u = ⟨{ t with video.mixEffects := t.video.mixEffects.insert block (f b) }, paths⟩ := by
  unfold onMixEffect at h
  cases hb : t.video.mixEffects.get? block with
  | none => simp [hb] at h
  | some b => exact ⟨b, rfl, by simpa [hb] using h.symm⟩

theorem eq_of_onUpstreamKeyer {block keyer : UInt8} {f : UpstreamKeyer → UpstreamKeyer}
    (h : t.onUpstreamKeyer block keyer keys f = .ok u) :
    ∃ b k, t.video.mixEffects.get? block = some b ∧ b.keyers.get? keyer = some k ∧
      u = ⟨{ t with video.mixEffects :=
          t.video.mixEffects.insert block { b with keyers := b.keyers.insert keyer (f k) } },
        (Place.upstreamKeyer block keyer).keys keys⟩ := by
  unfold onUpstreamKeyer at h
  cases hb : t.video.mixEffects.get? block with
  | none => simp [hb] at h
  | some b =>
    cases hk : b.keyers.get? keyer with
    | none => simp [hb, hk] at h
    | some k => exact ⟨b, k, rfl, hk, by simpa [hb, hk] using h.symm⟩

theorem eq_of_onDownstreamKeyer {keyer : UInt8} {f : DownstreamKeyer → DownstreamKeyer}
    (h : t.onDownstreamKeyer keyer keys f = .ok u) :
    ∃ k, t.video.downstreamKeyers.get? keyer = some k ∧
      u = ⟨{ t with video.downstreamKeyers := t.video.downstreamKeyers.insert keyer (f k) },
        (Place.downstreamKeyer keyer).keys keys⟩ := by
  unfold onDownstreamKeyer at h
  cases hk : t.video.downstreamKeyers.get? keyer with
  | none => simp [hk] at h
  | some k => exact ⟨k, rfl, by simpa [hk] using h.symm⟩

theorem eq_of_onSuperSource {index : UInt8} {f : SuperSource → SuperSource}
    (h : t.onSuperSource index keys f = .ok u) :
    ∃ s, t.video.superSources.get? index = some s ∧
      u = ⟨{ t with video.superSources := t.video.superSources.insert index (f s) },
        (Place.superSource index).keys keys⟩ := by
  unfold onSuperSource at h
  cases hs : t.video.superSources.get? index with
  | none => simp [hs] at h
  | some s => exact ⟨s, rfl, by simpa [hs] using h.symm⟩

theorem eq_of_setBox {index box : UInt8} {settings : BoxSettings} (h : t.setBox index box settings = .ok u) :
    ∃ s old, t.video.superSources.get? index = some s ∧ s.boxes.get? box = some old ∧
      u = ⟨{ t with video.superSources :=
          t.video.superSources.insert index { s with boxes := s.boxes.insert box settings } },
        [Place.box index box]⟩ := by
  unfold setBox IdMap.contains at h
  cases hs : t.video.superSources.get? index with
  | none => simp [hs] at h
  | some s =>
    cases hb : s.boxes.get? box with
    | none => simp [hs, hb] at h
    | some old => exact ⟨s, old, rfl, hb, by simpa [hs, hb] using h.symm⟩

theorem eq_of_setPlayer {player : UInt8} {source : MediaSource} (h : t.setPlayer player source = .ok u) :
    ∃ old, t.players.get? player = some old ∧
      u = ⟨{ t with players := t.players.insert player source }, [Place.mediaPlayer player]⟩ := by
  unfold setPlayer IdMap.contains at h
  cases hp : t.players.get? player with
  | none => simp [hp] at h
  | some old => exact ⟨old, rfl, by simpa [hp] using h.symm⟩

theorem eq_of_applyWindow {c : MultiviewerWindow} (h : t.applyWindow c = .ok u) :
    ∃ m w, t.multiviewers.get? c.multiviewer = some m ∧
      u = ⟨{ t with multiviewers :=
          t.multiviewers.insert c.multiviewer { m with windows := m.windows.insert c.window w } },
        [Place.window c.multiviewer c.window]⟩ := by
  unfold applyWindow at h
  cases hm : t.multiviewers.get? c.multiviewer with
  | none => simp [hm] at h
  | some m => exact ⟨m, _, rfl, by simpa [hm] using h.symm⟩

/-- the two windows are exchanged only if both are there, and listed only if they are exchanged -/
theorem eq_of_applyMultiviewerProperties {c : MultiviewerProperties} (h : t.applyMultiviewerProperties c = .ok u) :
    ∃ (m m' : Multiviewer) (windows : List UInt8), t.multiviewers.get? c.multiviewer = some m ∧
      (m' = m ∧ windows = [] ∨
        m' = m.exchanged ∧ windows = [0, 1] ∧ m.windows.contains 0 = true ∧ m.windows.contains 1 = true) ∧
      u = ⟨{ t with multiviewers :=
          (t.multiviewers.insert c.multiviewer
            { m' with layout := c.layout, programPreviewSwapped := c.programPreviewSwapped }) },
        (Place.multiviewer c.multiviewer).keys ["layout", "programPreviewSwapped"] ++
          windows.map (Place.window c.multiviewer)⟩ := by
  unfold applyMultiviewerProperties at h
  cases hm : t.multiviewers.get? c.multiviewer with
  | none => simp [hm] at h
  | some m =>
    rw [hm] at h
    dsimp only at h
    split at h
    · next hswap =>
      cases h
      exact ⟨m, m.exchanged, [0, 1], rfl, .inr ⟨rfl, rfl, hswap.2⟩, rfl⟩
    · cases h
      exact ⟨m, m, [], rfl, .inl ⟨rfl, rfl⟩, rfl⟩

end VisionMixer.DeviceTree
