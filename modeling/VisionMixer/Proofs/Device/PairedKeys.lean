/-
Media players in keyers.

A media player has two sources, its fill and its key, and a keyer that takes the fill of one is to take the key of the
same. The device reports both, and may report another key. `Paired` is what a keyer keeps to, said of the source ids
alone; every entry of the tree keeps to it (`KeysPaired`), for the two reports that write sources write both of them, and
all else leaves them as they are or starts with no source at all.

`keysPaired_update` is the step, `media_fills_paired` what holds after any run.
-/
import VisionMixer.Proofs.Device.Promises

namespace VisionMixer

/-- the key source of a keyer that is filled by a media player comes right after the fill; players fill from 3010 on, ten
apart -/
def Paired (fill key : UInt16) : Prop :=
  ∀ player : Nat, player < 8 → fill.toNat = 3010 + 10 * player → key.toNat = fill.toNat + 1

/-- no keyer of the tree has a media player in its fill and another key -/
structure VideoTree.KeysPaired (v : VideoTree) : Prop where
  upstream : v.mixEffects.Forall fun b => b.keyers.Forall fun k => Paired k.fillSource k.keySource
  downstream : v.downstreamKeyers.Forall fun k => Paired k.fillSource k.keySource

namespace DeviceTree

variable {t : DeviceTree} {u : Update} {paths : List StatePath} {keys : List String}

/-! ### Source ids -/

theorem mem_fillSources {fill : UInt16} {player : Nat} (hplayer : player < 8) (hfill : fill.toNat = 3010 + 10 * player) :
    fill ∈ MediaPlayer.fillSources := by
  refine List.mem_map.2 ⟨player, List.mem_range.2 hplayer, ?_⟩
  rw [← hfill, UInt16.ofNat_toNat]

/-- whatever key is reported -/
theorem paired_keySource (fill key : UInt16) : Paired fill (keySource fill key) := by
  intro player hplayer hfill
  have hkey : keySource fill key = fill + 1 := by
    rw [keySource, MediaPlayer.keySource?, if_pos (mem_fillSources hplayer hfill), Option.getD_some]
  rw [hkey, UInt16.toNat_add, Nat.mod_eq_of_lt]
  · rfl
  · rw [hfill]
    have : (1 : UInt16).toNat = 1 := rfl
    omega

/-- a new keyer has no source -/
theorem paired_new : Paired 0 0 := fun player _ hfill => absurd hfill (by
  have : (0 : UInt16).toNat = 0 := rfl
  omega)

/-! ### One entry -/

theorem keysPaired_onMixEffect {block : UInt8} {f : MixEffect → MixEffect} (hp : t.video.KeysPaired)
    (h : t.onMixEffect block paths f = .ok u) (hf : ∀ b, (f b).keyers = b.keyers) : u.tree.video.KeysPaired := by
  obtain ⟨b, hb, rfl⟩ := eq_of_onMixEffect h
  have hkeyers : (f b).keyers.Forall fun k => Paired k.fillSource k.keySource := by
    rw [hf]
    exact hp.upstream block b hb
  exact ⟨hp.upstream.insert hkeyers, hp.downstream⟩

theorem keysPaired_onUpstreamKeyer {block keyer : UInt8} {f : UpstreamKeyer → UpstreamKeyer} (hp : t.video.KeysPaired)
    (h : t.onUpstreamKeyer block keyer keys f = .ok u)
    (hf : ∀ k, Paired k.fillSource k.keySource → Paired (f k).fillSource (f k).keySource) : u.tree.video.KeysPaired := by
  obtain ⟨b, k, hb, hk, rfl⟩ := eq_of_onUpstreamKeyer h
  have hkeyers := hp.upstream block b hb
  exact ⟨hp.upstream.insert (hkeyers.insert (hf k (hkeyers keyer k hk))), hp.downstream⟩

theorem keysPaired_onDownstreamKeyer {keyer : UInt8} {f : DownstreamKeyer → DownstreamKeyer} (hp : t.video.KeysPaired)
    (h : t.onDownstreamKeyer keyer keys f = .ok u)
    (hf : ∀ k, Paired k.fillSource k.keySource → Paired (f k).fillSource (f k).keySource) : u.tree.video.KeysPaired := by
  obtain ⟨k, hk, rfl⟩ := eq_of_onDownstreamKeyer h
  exact ⟨hp.upstream, hp.downstream.insert (hf k (hp.downstream keyer k hk))⟩

/-! ### Many entries -/

/-- a block that a count creates has no keyers -/
theorem keyers_new : (default : MixEffect).keyers.Forall fun k => Paired k.fillSource k.keySource := IdMap.forall_empty

theorem keysPaired_applyTopology (hp : t.video.KeysPaired) (c : Topology) : (t.applyTopology c).tree.video.KeysPaired :=
  ⟨hp.upstream.fill keyers_new _, hp.downstream.fill paired_new _⟩

theorem keysPaired_applyMixEffectConfig (hp : t.video.KeysPaired) (c : MixEffectConfig) :
    (t.applyMixEffectConfig c).tree.video.KeysPaired :=
  ⟨hp.upstream.insert ((hp.upstream.getD keyers_new c.mixEffect).fill paired_new _), hp.downstream⟩

/-- a new mode writes masks and rates -/
theorem keysPaired_applyVideoMode (hp : t.video.KeysPaired) (mode : VideoMode) :
    (t.applyVideoMode mode).tree.video.KeysPaired := by
  unfold applyVideoMode
  split
  · exact hp
  · exact ⟨hp.upstream.mapEntries fun _ b hb => hb.mapEntries fun _ k hk => hk,
      hp.downstream.mapEntries fun _ k hk => hk⟩

/-! ### Every command -/

theorem keysPaired_update {c : Command} (hp : t.video.KeysPaired) (h : t.update c = .ok u) :
    u.tree.video.KeysPaired := by
  cases c with
  | topology c =>
    cases h
    exact keysPaired_applyTopology hp c
  | mixEffectConfig c =>
    cases h
    exact keysPaired_applyMixEffectConfig hp c
  | videoMode mode =>
    cases h
    exact keysPaired_applyVideoMode hp mode
  | keyerBase c => exact keysPaired_onUpstreamKeyer hp h fun _ _ => paired_keySource _ _
  | dskSources c => exact keysPaired_onDownstreamKeyer hp h fun _ _ => paired_keySource _ _
  | keyerOnAir c => exact keysPaired_onUpstreamKeyer hp h fun _ hk => hk
  | keyerLuma c => exact keysPaired_onUpstreamKeyer hp h fun _ hk => hk
  | keyerChroma c => exact keysPaired_onUpstreamKeyer hp h fun _ hk => hk
  | dskProperties c => exact keysPaired_onDownstreamKeyer hp h fun _ hk => hk
  | dskState c => exact keysPaired_onDownstreamKeyer hp h fun _ hk => hk
  | programInput c => exact keysPaired_onMixEffect hp h fun _ => rfl
  | previewInput c => exact keysPaired_onMixEffect hp h fun _ => rfl
  | transitionProperties c => exact keysPaired_onMixEffect hp h fun _ => rfl
  | transitionPosition c => exact keysPaired_onMixEffect hp h fun _ => rfl
  | transitionMix c => exact keysPaired_onMixEffect hp h fun _ => rfl
  | transitionDip c => exact keysPaired_onMixEffect hp h fun _ => rfl
  | transitionWipe c => exact keysPaired_onMixEffect hp h fun _ => rfl
  | fadeToBlackRate c => exact keysPaired_onMixEffect hp h fun _ => rfl
  | fadeToBlackState c => exact keysPaired_onMixEffect hp h fun _ => rfl
  | superSourceArt c =>
    obtain ⟨s, -, rfl⟩ := eq_of_onSuperSource h
    exact ⟨hp.upstream, hp.downstream⟩
  | superSourceConfig boxes =>
    cases h
    exact ⟨hp.upstream, hp.downstream⟩
  | superSourceBox c =>
    obtain ⟨s, old, -, -, rfl⟩ := eq_of_setBox h
    exact ⟨hp.upstream, hp.downstream⟩
  | mediaPlayerSource c =>
    obtain ⟨old, -, rfl⟩ := eq_of_setPlayer h
    exact hp
  | multiviewerProperties c =>
    obtain ⟨m, m', windows, -, -, rfl⟩ := eq_of_applyMultiviewerProperties h
    exact hp
  | multiviewerWindow c =>
    obtain ⟨m, w, -, rfl⟩ := eq_of_applyWindow h
    exact hp
  | _ =>
    cases h
    exact hp

theorem keysPaired_empty : empty.video.KeysPaired := ⟨IdMap.forall_empty, IdMap.forall_empty⟩

theorem keysPaired_run (acts : List Act) : (run acts).video.KeysPaired :=
  run_induction (p := fun t => t.video.KeysPaired) keysPaired_empty keysPaired_update acts

/-- **A media player's fill always has its own key**, on every keyer before and after the mix-effect blocks, whatever was
reported and whatever came since. -/
theorem media_fills_paired (acts : List Act) :
    (∀ block b keyer k, (run acts).video.mixEffects.get? block = some b → b.keyers.get? keyer = some k →
        Paired k.fillSource k.keySource) ∧
      ∀ keyer k, (run acts).video.downstreamKeyers.get? keyer = some k → Paired k.fillSource k.keySource :=
  ⟨fun block b keyer k hb hk => (keysPaired_run acts).upstream block b hb keyer k hk,
    fun keyer k hk => (keysPaired_run acts).downstream keyer k hk⟩

/-- a keyer and a downstream keyer are reported with other keys than those of the players in their fills, and a new mode,
a tally and a request follow -/
theorem media_fills_paired_misreported :
    let acts := [Act.apply (.mixEffectConfig ⟨0, 2⟩),
      .apply (.topology ⟨1, 0, 1, 0, 0, 0, 0, 0, 0, 0, 0, none, none, none, none⟩),
      .apply (.keyerBase ⟨0, 1, 0, false, false, 3020, 6, false, default⟩), .apply (.dskSources ⟨0, 3080, 3080⟩),
      .apply (.videoMode ⟨6⟩), .apply (.dskState ⟨0, ⟨true, false, false, 0⟩⟩), .apply (.setDskFill ⟨0, 1000⟩)]
    ∃ b k d, (run acts).video.mixEffects.get? 0 = some b ∧ b.keyers.get? 1 = some k ∧
      (run acts).video.downstreamKeyers.get? 0 = some d ∧
      (k.fillSource.toNat = 3010 + 10 * 1 ∧ k.keySource.toNat = k.fillSource.toNat + 1) ∧
      (d.fillSource.toNat = 3010 + 10 * 7 ∧ d.keySource.toNat = d.fillSource.toNat + 1) := by
  intro acts
  obtain ⟨hupstream, hdownstream⟩ := media_fills_paired acts
  exact ⟨_, _, _, rfl, rfl, rfl, ⟨rfl, hupstream 0 _ 1 _ rfl rfl 1 (by decide) rfl⟩,
    ⟨rfl, hdownstream 0 _ rfl 7 (by decide) rfl⟩⟩

end DeviceTree

end VisionMixer
