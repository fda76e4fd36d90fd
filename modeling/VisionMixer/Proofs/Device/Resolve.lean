/-
Where the listed paths lead.

The paths of a command are put together from words, and the members of the document have names of their own; nothing
but agreement of the two makes a path lead anywhere. `Leads d p e` says that a plain path leads to a part of a document;
it goes on to a member of a record (`Leads.member`) and to an entry of a map (`Leads.entry`). From the top of the tree
there is one such lemma for each kind of entry (`reaches_place`), and each handler writes below an entry that is there
when it is done (`resolves_update`).

`listed_paths_resolve`: every listed path leads to a part of the tree after the command, none is listed twice, and the
list is read back from its document.
-/
import VisionMixer.Proofs.Device.PathText
import VisionMixer.Proofs.Device.Stale
import VisionMixer.Device.Stored

namespace VisionMixer

open Document (ofRecord)

/-- a plain path leads to this part of a document -/
structure Leads (d : Document) (p : StatePath) (e : Document) : Prop where
  plain : p.Plain
  node : d.at? p = some e

/-- a plain path leads somewhere in a document -/
def Reaches (d : Document) (p : StatePath) : Prop := ∃ e, Leads d p e

/-- keys of letters, each of them among the names of a record -/
def Document.named (names keys : List String) : Bool :=
  keys.all fun key => key ∈ names ∧ (Segment.key key).isPlain

/-! ### One step further -/

namespace Document

variable {names : List String} {ds : List Document} {name : String}

theorem at?_append (d : Document) (p : StatePath) (s : Segment) :
    d.at? ⟨p.segments ++ [s]⟩ = (d.at? p).bind (·.child? s) := by
  simp only [at?, List.foldlM_append, List.foldlM_cons, List.foldlM_nil, bind_pure, Option.bind_eq_bind]

theorem child?_key (members : List (String × Document)) (name : String) :
    (object members).child? (.key name) = member? members name := by
  show member? members (String.ofList name.toList) = _
  rw [String.ofList_toList]

/-- a name of a record has a member -/
theorem exists_member? (h : name ∈ names) (hlen : names.length = ds.length) :
    ∃ e, member? (names.zip ds) name = some e := by
  obtain ⟨i, hi, rfl⟩ := List.getElem_of_mem h
  have hmem : (names[i], ds[i]) ∈ names.zip ds := List.mem_iff_getElem.2 ⟨i, by simp [← hlen, hi], by simp⟩
  obtain ⟨m, hm⟩ := Option.isSome_iff_exists.1
    (List.find?_isSome.2 ⟨_, hmem, decide_eq_true rfl⟩ : ((names.zip ds).find? (·.1 = names[i])).isSome)
  exact ⟨m.2, by rw [member?, hm]; rfl⟩

end Document

section

variable {names keys : List String} {ds : List Document} {p : StatePath} {d e : Document}

theorem leads_root (name : String) (hplain : (Segment.key name).isPlain)
    (h : Document.member? (names.zip ds) name = some e) : Leads (ofRecord names ds) (.root name) e where
  plain := StatePath.plain_root hplain
  node := (Document.at?_append _ ⟨[]⟩ _).trans ((Document.child?_key _ _).trans h)

theorem Leads.member (hp : Leads d p (ofRecord names ds)) (name : String) (hplain : (Segment.key name).isPlain)
    (h : Document.member? (names.zip ds) name = some e) : Leads d (p.key name) e where
  plain := hp.plain.key hplain
  node := by
    rw [StatePath.key, Document.at?_append, hp.node, Option.bind_some]
    exact (Document.child?_key _ _).trans h

theorem Leads.entry {κ α : Type} [Id κ] [NarrowId κ] [Stored α] {m : IdMap κ α} {k : κ} {v : α}
    (hp : Leads d p (store m)) (h : m.get? k = some v) : Leads d (p.index k) (store v) where
  plain := hp.plain.index k
  node := by
    rw [StatePath.index, Document.at?_append, hp.node, Option.bind_some]
    show Document.member? _ (String.ofList (Segment.index (UInt32.ofNat (Id.toNat k))).text) = _
    rw [Segment.text_index]
    exact (member?_entries m.entries k).trans (congrArg (Option.map store) h)

theorem Leads.reaches (h : Leads d p e) : Reaches d p := ⟨e, h⟩

/-- keys among the members of a record lead somewhere -/
theorem Leads.reaches_keys (hp : Leads d p (ofRecord names ds)) (hlen : names.length = ds.length)
    (hkeys : Document.named names keys) : ∀ q ∈ p.keys keys, Reaches d q := by
  intro q hq
  obtain ⟨key, hkey, rfl⟩ := List.mem_map.1 hq
  obtain ⟨hname, hplain⟩ := of_decide_eq_true (List.all_eq_true.1 hkeys key hkey)
  obtain ⟨e, he⟩ := Document.exists_member? hname hlen
  exact (hp.member key hplain he).reaches

end

namespace DeviceTree

/-! ### The parts of the tree -/

section

variable {t : DeviceTree}

theorem leads_info (t : DeviceTree) : Leads (store t) (.root "info") (store t.info) := leads_root "info" (by decide) rfl

theorem leads_keyerCount {block : UInt8} {count : UInt8} (h : t.info.mixEffectKeyers.get? block = some count) :
    Leads (store t) ((Place.info "mixEffectKeyers").index block) (store count) :=
  ((leads_info t).member "mixEffectKeyers" (by decide) rfl).entry h

theorem leads_mixEffect {block : UInt8} {b : MixEffect} (h : t.video.mixEffects.get? block = some b) :
    Leads (store t) (Place.mixEffect block) (store b) :=
  ((leads_root "video" (by decide) rfl).member "mixEffects" (by decide) rfl).entry h

theorem leads_upstreamKeyer {block keyer : UInt8} {b : MixEffect} {k : UpstreamKeyer}
    (hb : t.video.mixEffects.get? block = some b) (hk : b.keyers.get? keyer = some k) :
    Leads (store t) (Place.upstreamKeyer block keyer) (store k) :=
  ((leads_mixEffect hb).member "upstreamKeyers" (by decide) rfl).entry hk

theorem leads_downstreamKeyer {keyer : UInt8} {k : DownstreamKeyer} (h : t.video.downstreamKeyers.get? keyer = some k) :
    Leads (store t) (Place.downstreamKeyer keyer) (store k) :=
  ((leads_root "video" (by decide) rfl).member "downstreamKeyers" (by decide) rfl).entry h

theorem leads_superSource {index : UInt8} {s : SuperSource} (h : t.video.superSources.get? index = some s) :
    Leads (store t) (Place.superSource index) (store s) :=
  ((leads_root "video" (by decide) rfl).member "superSources" (by decide) rfl).entry h

theorem leads_box {index box : UInt8} {s : SuperSource} {settings : BoxSettings}
    (hs : t.video.superSources.get? index = some s) (hbox : s.boxes.get? box = some settings) :
    Leads (store t) (Place.box index box) (store settings) :=
  ((leads_superSource hs).member "boxes" (by decide) rfl).entry hbox

theorem leads_input {id : UInt16} {input : Input} (h : t.inputs.get? id = some input) :
    Leads (store t) (Place.input id) (store input) := (leads_root "inputs" (by decide) rfl).entry h

theorem leads_mediaPlayer {player : UInt8} {source : MediaSource} (h : t.players.get? player = some source) :
    Leads (store t) (Place.mediaPlayer player) (store source) :=
  ((leads_root "media" (by decide) rfl).member "players" (by decide) rfl).entry h

theorem leads_audioInput {index : UInt16} {strip : AudioStrip} (h : t.audio.inputs.get? index = some strip) :
    Leads (store t) (Place.audioInput index) (store strip) :=
  ((leads_root "audio" (by decide) rfl).member "inputs" (by decide) rfl).entry h

theorem leads_multiviewer {index : UInt8} {m : Multiviewer} (h : t.multiviewers.get? index = some m) :
    Leads (store t) (Place.multiviewer index) (store m) :=
  ((leads_root "settings" (by decide) rfl).member "multiViewers" (by decide) rfl).entry h

theorem leads_window {index window : UInt8} {m : Multiviewer} {w : Window} (hm : t.multiviewers.get? index = some m)
    (hw : m.windows.get? window = some w) : Leads (store t) (Place.window index window) (store w) :=
  ((leads_multiviewer hm).member "windows" (by decide) rfl).entry hw

theorem leads_macroSlot {index : UInt16} {slot : MacroSlot} (h : t.macros.slots.get? index = some slot) :
    Leads (store t) (Place.macroSlot index) (store slot) :=
  ((leads_root "macros" (by decide) rfl).member "slots" (by decide) rfl).entry h

/-- the path of an entry -/
def EntryId.place : EntryId → StatePath
  | .keyerCount block => (Place.info "mixEffectKeyers").index block
  | .mixEffect block => Place.mixEffect block
  | .upstreamKeyer block keyer => Place.upstreamKeyer block keyer
  | .downstreamKeyer keyer => Place.downstreamKeyer keyer
  | .superSource index => Place.superSource index
  | .box index number => Place.box index number
  | .input id => Place.input id
  | .mediaPlayer player => Place.mediaPlayer player
  | .audioInput index => Place.audioInput index
  | .multiviewer index => Place.multiviewer index
  | .window index number => Place.window index number
  | .macroSlot index => Place.macroSlot index

/-- **The path of an entry leads to it.** -/
theorem reaches_place {e : EntryId} (h : t.has e) : Reaches (store t) e.place := by
  cases e with
  | keyerCount block =>
    obtain ⟨count, hcount⟩ := Option.isSome_iff_exists.1 h
    exact (leads_keyerCount hcount).reaches
  | mixEffect block =>
    obtain ⟨b, hb⟩ := Option.isSome_iff_exists.1 h
    exact (leads_mixEffect hb).reaches
  | upstreamKeyer block keyer =>
    obtain ⟨b, hb, hkeyer⟩ := (Option.any_eq_true _ _).1 h
    obtain ⟨k, hk⟩ := Option.isSome_iff_exists.1 hkeyer
    exact (leads_upstreamKeyer hb hk).reaches
  | downstreamKeyer keyer =>
    obtain ⟨k, hk⟩ := Option.isSome_iff_exists.1 h
    exact (leads_downstreamKeyer hk).reaches
  | superSource index =>
    obtain ⟨s, hs⟩ := Option.isSome_iff_exists.1 h
    exact (leads_superSource hs).reaches
  | box index box =>
    obtain ⟨s, hs, hbox⟩ := (Option.any_eq_true _ _).1 h
    obtain ⟨settings, hsettings⟩ := Option.isSome_iff_exists.1 hbox
    exact (leads_box hs hsettings).reaches
  | input id =>
    obtain ⟨input, hinput⟩ := Option.isSome_iff_exists.1 h
    exact (leads_input hinput).reaches
  | mediaPlayer player =>
    obtain ⟨source, hsource⟩ := Option.isSome_iff_exists.1 h
    exact (leads_mediaPlayer hsource).reaches
  | audioInput index =>
    obtain ⟨strip, hstrip⟩ := Option.isSome_iff_exists.1 h
    exact (leads_audioInput hstrip).reaches
  | multiviewer index =>
    obtain ⟨m, hm⟩ := Option.isSome_iff_exists.1 h
    exact (leads_multiviewer hm).reaches
  | window index window =>
    obtain ⟨m, hm, hwindow⟩ := (Option.any_eq_true _ _).1 h
    obtain ⟨w, hw⟩ := Option.isSome_iff_exists.1 hwindow
    exact (leads_window hm hw).reaches
  | macroSlot index =>
    obtain ⟨slot, hslot⟩ := Option.isSome_iff_exists.1 h
    exact (leads_macroSlot hslot).reaches

end

/-! ### What each handler lists -/

/-- every path that was written leads somewhere in the tree that was made -/
def Resolves (u : Update) : Prop := ∀ p ∈ u.paths, Reaches (store u.tree) p

variable {t : DeviceTree} {u : Update} {c : Command} {paths : List StatePath} {keys : List String}

theorem resolves_single {p : StatePath} (h : Reaches (store t) p) : Resolves ⟨t, [p]⟩ :=
  fun _ hq => List.mem_singleton.1 hq ▸ h

theorem reaches_info {key : String} (hkey : Document.named DeviceInfo.members [key]) :
    Reaches (store t) (Place.info key) :=
  (leads_info t).reaches_keys rfl hkey _ (.head _)

theorem resolves_describe {info : DeviceInfo}
    (hkeys : Document.named DeviceInfo.members keys) : Resolves (t.describe keys info) :=
  (leads_info (t.describe keys info).tree).reaches_keys rfl hkeys

theorem resolves_onMixEffect {block : UInt8} {f : MixEffect → MixEffect} (h : t.onMixEffect block paths f = .ok u)
    (hpaths : ∀ (d : Document) (b : MixEffect), Leads d (Place.mixEffect block) (store b) → ∀ p ∈ paths, Reaches d p) :
    Resolves u := by
  obtain ⟨b, -, rfl⟩ := eq_of_onMixEffect h
  exact hpaths _ (f b) (leads_mixEffect (IdMap.get?_insert_self ..))

theorem resolves_onTransition {block : UInt8} {f : Transition → Transition} (h : t.onTransition block keys f = .ok u)
    (hkeys : Document.named Transition.members keys) : Resolves u :=
  resolves_onMixEffect h fun _ _ hb => (hb.member "transition" (by decide) rfl).reaches_keys rfl hkeys

theorem resolves_onFadeToBlack {block : UInt8} {f : FadeToBlack → FadeToBlack} (h : t.onFadeToBlack block keys f = .ok u)
    (hkeys : Document.named FadeToBlack.members keys) : Resolves u :=
  resolves_onMixEffect h fun _ _ hb => (hb.member "fadeToBlack" (by decide) rfl).reaches_keys rfl hkeys

theorem resolves_onUpstreamKeyer {block keyer : UInt8} {f : UpstreamKeyer → UpstreamKeyer}
    (h : t.onUpstreamKeyer block keyer keys f = .ok u)
    (hkeys : Document.named UpstreamKeyer.members keys) : Resolves u := by
  obtain ⟨b, k, -, -, rfl⟩ := eq_of_onUpstreamKeyer h
  exact (leads_upstreamKeyer (IdMap.get?_insert_self ..) (IdMap.get?_insert_self ..)).reaches_keys rfl hkeys

theorem resolves_onDownstreamKeyer {keyer : UInt8} {f : DownstreamKeyer → DownstreamKeyer}
    (h : t.onDownstreamKeyer keyer keys f = .ok u)
    (hkeys : Document.named DownstreamKeyer.members keys) : Resolves u := by
  obtain ⟨k, -, rfl⟩ := eq_of_onDownstreamKeyer h
  exact (leads_downstreamKeyer (IdMap.get?_insert_self ..)).reaches_keys rfl hkeys

theorem resolves_onSuperSource {index : UInt8} {f : SuperSource → SuperSource}
    (h : t.onSuperSource index keys f = .ok u)
    (hkeys : Document.named SuperSource.members keys) : Resolves u := by
  obtain ⟨s, -, rfl⟩ := eq_of_onSuperSource h
  exact (leads_superSource (IdMap.get?_insert_self ..)).reaches_keys rfl hkeys

theorem resolves_setBox {index box : UInt8} {settings : BoxSettings} (h : t.setBox index box settings = .ok u) :
    Resolves u := by
  obtain ⟨s, old, -, -, rfl⟩ := eq_of_setBox h
  exact resolves_single (leads_box (IdMap.get?_insert_self ..) (IdMap.get?_insert_self ..)).reaches

theorem resolves_setPlayer {player : UInt8} {source : MediaSource} (h : t.setPlayer player source = .ok u) :
    Resolves u := by
  obtain ⟨old, -, rfl⟩ := eq_of_setPlayer h
  exact resolves_single (leads_mediaPlayer (IdMap.get?_insert_self ..)).reaches

theorem resolves_applyWindow {c : MultiviewerWindow} (h : t.applyWindow c = .ok u) : Resolves u := by
  obtain ⟨m, w, -, rfl⟩ := eq_of_applyWindow h
  exact resolves_single (leads_window (IdMap.get?_insert_self ..) (IdMap.get?_insert_self ..)).reaches

theorem resolves_applyMultiviewerProperties {c : MultiviewerProperties} (h : t.applyMultiviewerProperties c = .ok u) :
    Resolves u := by
  obtain ⟨m, m', windows, -, hm', rfl⟩ := eq_of_applyMultiviewerProperties h
  refine List.forall_mem_append.2
    ⟨(leads_multiviewer (IdMap.get?_insert_self ..)).reaches_keys rfl (by decide), fun p hp => ?_⟩
  obtain ⟨window, hwindow, rfl⟩ := List.mem_map.1 hp
  have hthere : m'.windows.contains window = true := by
    rcases hm' with ⟨-, rfl⟩ | ⟨rfl, rfl, hzero, hone⟩
    · exact absurd hwindow List.not_mem_nil
    · rw [contains_exchanged]
      rcases List.mem_pair.1 hwindow with rfl | rfl
      · exact hzero
      · exact hone
  obtain ⟨w, hw⟩ := Option.isSome_iff_exists.1 hthere
  refine (leads_window (w := w) (IdMap.get?_insert_self ..) ?_).reaches
  exact hw

/-! ### Entries that a command creates -/

/-- ids that a command creates lead to their entries -/
theorem reaches_created {κ : Type} {ids : List κ} (entry : κ → EntryId) (h : t.update c = .ok u)
    (hcreates : ∀ k ∈ ids, t.creates c (entry k)) : ∀ p ∈ ids.map fun k => (entry k).place, Reaches (store u.tree) p := by
  intro p hp
  obtain ⟨k, hk, rfl⟩ := List.mem_map.1 hp
  exact reaches_place (by rw [has_update h, hcreates k hk, Bool.or_true])

theorem resolves_applyTopology (c : Topology) : Resolves (t.applyTopology c) := by
  have hupdate : t.update (.topology c) = .ok (t.applyTopology c) := rfl
  refine List.forall_mem_append.2 ⟨List.forall_mem_append.2 ⟨List.forall_mem_append.2 ⟨List.forall_mem_append.2
    ⟨List.forall_mem_cons.2 ⟨reaches_info (by decide), ?_⟩, ?_⟩, ?_⟩, ?_⟩, ?_⟩
  · exact reaches_created .mixEffect hupdate fun k hk => decide_eq_true (IdMap.mem_missing.1 hk).1
  · exact reaches_created .downstreamKeyer hupdate fun k hk => decide_eq_true (IdMap.mem_missing.1 hk).1
  · exact reaches_created .superSource hupdate fun k hk => decide_eq_true (IdMap.mem_missing.1 hk).1
  · exact reaches_created .mediaPlayer hupdate fun k hk => decide_eq_true (IdMap.mem_missing.1 hk).1
  · exact reaches_created .multiviewer hupdate fun k hk => decide_eq_true (IdMap.mem_missing.1 hk).1

theorem resolves_applyMixEffectConfig (c : MixEffectConfig) : Resolves (t.applyMixEffectConfig c) := by
  have hupdate : t.update (.mixEffectConfig c) = .ok (t.applyMixEffectConfig c) := rfl
  refine List.forall_mem_cons.2 ⟨?_, reaches_created (.upstreamKeyer c.mixEffect) hupdate fun k hk => ?_⟩
  · exact (leads_keyerCount (IdMap.get?_insert_self ..)).reaches
  · exact Bool.and_eq_true_iff.2 ⟨decide_eq_true rfl, decide_eq_true (IdMap.mem_missing.1 hk).1⟩

theorem resolves_applyMultiviewerConfig (c : MultiviewerConfig) : Resolves (t.applyMultiviewerConfig c) := by
  have hupdate : t.update (.multiviewerConfig c) = .ok (t.applyMultiviewerConfig c) := rfl
  refine List.forall_mem_cons.2 ⟨reaches_info (by decide), fun p hp => ?_⟩
  obtain ⟨v, hv, hp⟩ := List.mem_flatMap.1 hp
  obtain ⟨index, hindex, rfl⟩ := List.mem_map.1 hv
  refine reaches_created (.window index) hupdate (fun k hk => ?_) p hp
  exact Bool.and_eq_true_iff.2
    ⟨decide_eq_true (IdMap.mem_below.1 hindex), decide_eq_true (IdMap.mem_missing.1 hk).1⟩

theorem resolves_applySuperSourceConfig (boxes : UInt8) : Resolves (t.applySuperSourceConfig boxes) := by
  have hupdate : t.update (.superSourceConfig boxes) = .ok (t.applySuperSourceConfig boxes) := rfl
  refine List.forall_mem_cons.2 ⟨reaches_info (by decide), fun p hp => ?_⟩
  obtain ⟨⟨index, s⟩, he, hp⟩ := List.mem_flatMap.1 hp
  refine reaches_created (.box index) hupdate (fun k hk => ?_) p hp
  have hs : t.has (.superSource index) := Option.isSome_iff_exists.2 ⟨s, (IdMap.mem_entries_iff ..).1 he⟩
  exact Bool.and_eq_true_iff.2 ⟨hs, decide_eq_true (IdMap.mem_missing.1 hk).1⟩

theorem resolves_applyMacroPool (slots : UInt8) : Resolves (t.applyMacroPool slots) := by
  have hupdate : t.update (.macroPool slots) = .ok (t.applyMacroPool slots) := rfl
  refine List.forall_mem_cons.2 ⟨reaches_info (by decide), ?_⟩
  exact reaches_created .macroSlot hupdate fun k hk => decide_eq_true (IdMap.mem_missing.1 hk).1

/-! ### A new video mode -/

theorem reaches_videoMode (t : DeviceTree) : Reaches (store t) Place.videoMode :=
  ((leads_root "video" (by decide) rfl).member "mode" (by decide) rfl).reaches

/-- a reset block has all that the reset writes -/
theorem reaches_resetPaths {d : Document} {b : MixEffect} {block : UInt8} (mode : VideoMode)
    (h : Leads d (Place.mixEffect block) (store (b.reset mode))) : ∀ p ∈ b.resetPaths block, Reaches d p := by
  refine List.forall_mem_append.2 ⟨List.forall_mem_append.2 ⟨?_, ?_⟩, fun p hp => ?_⟩
  · exact (h.member "transition" (by decide) rfl).reaches_keys rfl (by decide)
  · exact List.forall_mem_singleton.2 ((h.member "fadeToBlack" (by decide) rfl).member "rate" (by decide) rfl).reaches
  · obtain ⟨_, hkeyer, rfl⟩ := List.mem_map.1 hp
    obtain ⟨⟨keyer, k⟩, hk, rfl⟩ := List.mem_map.1 hkeyer
    have hreset : (b.reset mode).keyers.get? keyer = some { k with mask := .fullFrame mode } := by
      rw [MixEffect.reset, IdMap.get?_mapEntries, (IdMap.mem_entries_iff ..).1 hk]
      rfl
    exact (((h.member "upstreamKeyers" (by decide) rfl).entry hreset).member "mask" (by decide) rfl).reaches

theorem resolves_applyVideoMode (mode : VideoMode) : Resolves (t.applyVideoMode mode) := by
  unfold applyVideoMode
  split
  · exact resolves_single (reaches_videoMode t)
  · refine List.forall_mem_append.2 ⟨List.forall_mem_cons.2 ⟨reaches_videoMode _, fun p hp => ?_⟩, fun p hp => ?_⟩
    · obtain ⟨⟨block, b⟩, hb, hp⟩ := List.mem_flatMap.1 hp
      refine reaches_resetPaths mode (leads_mixEffect ?_) p hp
      rw [IdMap.get?_mapEntries, (IdMap.mem_entries_iff ..).1 hb]
      rfl
    · obtain ⟨_, hkeyer, hp⟩ := List.mem_flatMap.1 hp
      obtain ⟨⟨keyer, k⟩, hk, rfl⟩ := List.mem_map.1 hkeyer
      refine (leads_downstreamKeyer (k := { k with mask := .fullFrame mode, rate := mode.framesPerSecond }) ?_).reaches_keys rfl
        (by decide) p hp
      rw [IdMap.get?_mapEntries, (IdMap.mem_entries_iff ..).1 hk]
      rfl

/-! ### Every command -/

/-- **Every path that a command writes leads somewhere.** -/
theorem resolves_update (h : t.update c = .ok u) : Resolves u := by
  unfold update at h
  cases c with
  | version _ | mediaPool _ | audioMixerConfig _ | warning _ =>
    cases h
    exact resolves_describe (by decide)
  | product c =>
    cases h
    refine resolves_describe ?_
    cases c.model.isSome <;> decide
  | topology c =>
    cases h
    exact resolves_applyTopology c
  | mixEffectConfig c =>
    cases h
    exact resolves_applyMixEffectConfig c
  | multiviewerConfig c =>
    cases h
    exact resolves_applyMultiviewerConfig c
  | superSourceConfig boxes =>
    cases h
    exact resolves_applySuperSourceConfig boxes
  | macroPool slots =>
    cases h
    exact resolves_applyMacroPool slots
  | inputProperties c =>
    cases h
    exact resolves_single (leads_input (IdMap.get?_insert_self ..)).reaches
  | videoMode m =>
    cases h
    exact resolves_applyVideoMode m
  | programInput c => exact resolves_onMixEffect h fun _ _ hb =>
    List.forall_mem_singleton.2 (hb.member "programInput" (by decide) rfl).reaches
  | previewInput c =>
    refine resolves_onMixEffect h fun _ _ hb => hb.reaches_keys rfl ?_
    cases c.previewLive.isSome <;> decide
  | transitionProperties c => exact resolves_onTransition h (by decide)
  | transitionPosition c => exact resolves_onTransition h (by decide)
  | transitionMix c => exact resolves_onTransition h (by decide)
  | transitionDip c => exact resolves_onTransition h (by decide)
  | transitionWipe c => exact resolves_onTransition h (by decide)
  | fadeToBlackRate c => exact resolves_onFadeToBlack h (by decide)
  | fadeToBlackState c => exact resolves_onFadeToBlack h (by decide)
  | keyerOnAir c => exact resolves_onUpstreamKeyer h (by decide)
  | keyerBase c => exact resolves_onUpstreamKeyer h (by decide)
  | keyerLuma c => exact resolves_onUpstreamKeyer h (by decide)
  | keyerChroma c => exact resolves_onUpstreamKeyer h (by decide)
  | dskSources c => exact resolves_onDownstreamKeyer h (by decide)
  | dskProperties c => exact resolves_onDownstreamKeyer h (by decide)
  | dskState c => exact resolves_onDownstreamKeyer h (by decide)
  | audioMixerInput c =>
    cases h
    exact resolves_single (leads_audioInput (IdMap.get?_insert_self ..)).reaches
  | audioMaster c =>
    cases h
    exact resolves_single ((leads_root "audio" (by decide) rfl).member "master" (by decide) rfl).reaches
  | mediaPlayerSource c => exact resolves_setPlayer h
  | superSourceArt c => exact resolves_onSuperSource h (by decide)
  | superSourceBox c => exact resolves_setBox h
  | multiviewerProperties c => exact resolves_applyMultiviewerProperties h
  | multiviewerWindow c => exact resolves_applyWindow h
  | macroProperties c =>
    cases h
    exact resolves_single (leads_macroSlot (IdMap.get?_insert_self ..)).reaches
  | macroRunStatus c =>
    cases h
    exact resolves_single ((leads_root "macros" (by decide) rfl).member "player" (by decide) rfl).reaches
  | tallyByIndex c =>
    cases h
    exact resolves_single ((leads_root "tally" (by decide) rfl).member "byIndex" (by decide) rfl).reaches
  | tallyBySource c =>
    cases h
    exact resolves_single ((leads_root "tally" (by decide) rfl).member "bySource" (by decide) rfl).reaches
  | initComplete | setProgramInput _ | setPreviewInput _ | cut _ | auto _ | setKeyerOnAir _ | setDskOnAir _
  | setDskFill _ | setVideoMode _ | setAudioMixerInput _ | setMultiviewerProperties _ | macroAction _
  | unrecognized _ =>
    cases h
    exact List.forall_mem_nil _

theorem reaches_of_mem_apply {p : StatePath} (h : p ∈ (t.apply c).2.paths) : Reaches (store (t.apply c).1) p := by
  unfold apply at h ⊢
  cases hu : t.update c with
  | error _ =>
    rw [hu] at h
    exact absurd h List.not_mem_nil
  | ok u =>
    rw [hu] at h
    exact resolves_update hu p (ChangedPaths.mem_ofList.1 h)

theorem nodup_apply (t : DeviceTree) (c : Command) : (t.apply c).2.paths.Nodup := by
  unfold apply
  cases t.update c with
  | error _ => exact List.nodup_nil
  | ok u => exact ChangedPaths.nodup_ofList u.paths

/-- **Listed paths lead somewhere.** Every path that a command lists leads to a part of the document of the tree after
it, and is read back from its text; no path is listed twice, and the list is read back from its document. -/
theorem listed_paths_resolve (t : DeviceTree) (c : Command) :
    (∀ p ∈ (t.apply c).2.paths,
      ((store (t.apply c).1 : Document).at? p).isSome ∧ StatePath.parse p.text = .ok p) ∧
    (t.apply c).2.paths.Nodup ∧
    load? (store (t.apply c).2) = some (t.apply c).2 := by
  refine ⟨fun p hp => ?_, nodup_apply t c, ChangedPaths.load?_store_of_plain fun p hp => ?_⟩
  · obtain ⟨e, he⟩ := reaches_of_mem_apply hp
    exact ⟨by rw [he.node]; rfl, StatePath.parse_text he.plain⟩
  · obtain ⟨e, he⟩ := reaches_of_mem_apply hp
    exact he.plain

/-- the path of a keyer leads nowhere until the keyer is counted -/
example :
    ((store empty : Document).at? (Place.upstreamKeyer 0 0)).isSome = false ∧
      ((store (empty.apply (.mixEffectConfig ⟨0, 1⟩)).1 : Document).at? (Place.upstreamKeyer 0 0)).isSome = true :=
  ⟨rfl, rfl⟩

end DeviceTree

end VisionMixer
