/-
Loading a configuration, and durations that no clock can hold.

A number of seconds is taken for a duration if it is finite and not negative. The conversion asks for more: what it
rounds to in nanoseconds has to be below `2 ^ 64` seconds (`Duration.IsSpan`), which half a nanosecond below that bound
is not (`isSpan_iff`). So a document is a configuration or is refused with a fault of its own, unless the first member
at fault is one of the four durations and has a number of seconds that is finite, not negative and too great
(`loads_unless_endless`).
-/
import Mathlib.Tactic
import VisionMixer.Proofs.Fallible
import VisionMixer.Session.Config

namespace VisionMixer

namespace Duration

variable {q : Rat} {n : Int}

/-- an even number is reached by what is half a unit below it -/
theorem le_roundEven_iff (hn : n % 2 = 0) : n ≤ roundEven q ↔ (n : Rat) - 1 / 2 ≤ q := by
  have hlow : (q.floor : Rat) ≤ q := Rat.floor_le q
  have hhigh : q < (q.floor : Rat) + 1 := by exact_mod_cast Rat.lt_floor_add_one q
  rw [roundEven]
  rcases lt_trichotomy n (q.floor + 1) with hbelow | rfl | habove
  · have hcast : (n : Rat) ≤ q.floor := by exact_mod_cast Int.lt_add_one_iff.1 hbelow
    refine iff_of_true ?_ (by linarith)
    split <;> omega
  · -- the lower neighbour is odd here, so a half goes up
    push_cast
    split
    · next hdown =>
      have hrest : q - q.floor < 1 / 2 := hdown.resolve_right (by omega)
      exact iff_of_false (by omega) (by linarith)
    · next hup =>
      have hrest : 1 / 2 ≤ q - q.floor := not_lt.1 fun h => hup (.inl h)
      exact iff_of_true le_rfl (by linarith)
  · have hcast : (q.floor : Rat) + 2 ≤ n := by exact_mod_cast (by omega : q.floor + 2 ≤ n)
    refine iff_of_false ?_ (by linarith)
    split <;> omega

/-- seconds that make a duration: not negative, and below the bound when rounded to nanoseconds -/
structure IsSpan (q : Rat) : Prop where
  nonneg : 0 ≤ q
  below_bound : roundEven (q * second) < bound

instance : Decidable (IsSpan q) := decidable_of_iff (0 ≤ q ∧ roundEven (q * second) < bound)
  ⟨fun h => ⟨h.1, h.2⟩, fun h => ⟨h.nonneg, h.below_bound⟩⟩

theorem isSpan_iff : IsSpan q ↔ 0 ≤ q ∧ q < 2 ^ 64 - 1 / (2 * 10 ^ 9) := by
  have hround : roundEven (q * second) < bound ↔ q < 2 ^ 64 - 1 / (2 * 10 ^ 9) := by
    rw [← not_le, le_roundEven_iff (by decide), not_le]
    norm_num [bound, second, UInt64.size]
    constructor <;> intro h <;> linarith
  exact ⟨fun h => ⟨h.nonneg, hround.1 h.below_bound⟩, fun h => ⟨h.1, hround.2 h.2⟩⟩

theorem ofSeconds?_of_nonneg (hq : 0 ≤ q) :
    ofSeconds? q = if IsSpan q then some (roundEven (q * second)).toNat else none := by
  have hbound : (roundEven (q * second)).toNat < bound ↔ IsSpan q := by
    refine Iff.trans ?_ ⟨IsSpan.mk hq, IsSpan.below_bound⟩
    rw [Int.toNat_lt']
    decide
  exact if_congr hbound rfl rfl

end Duration

namespace SessionConfig

variable {d item : Document} {x : Number} {q : Rat} {s : Setting} {c : SessionConfig} {f : LoadFault}

/-! ### Durations -/

/-- a finite number of seconds that is not negative and makes no duration -/
def Endless (d : Document) (x : Number) : Prop := load? d = some x ∧ ∃ q, x.toRat? = some q ∧ 0 ≤ q ∧ ¬Duration.IsSpan q

theorem loadDuration_of_finite (hd : load? d = some x) (hx : x.toRat? = some q) :
    loadDuration d =
      if q < 0 then .error (.negativeDuration x)
      else if Duration.IsSpan q then .ok (Duration.roundEven (q * Duration.second)).toNat
      else .error (.endlessDuration x) := by
  rw [loadDuration, hd, wellFormed, ok_bind, hx]
  dsimp only
  split
  · rfl
  · next hq =>
    rw [Duration.ofSeconds?_of_nonneg (not_lt.1 hq)]
    by_cases hspan : Duration.IsSpan q
    · rw [if_pos hspan, if_pos hspan]
    · rw [if_neg hspan, if_neg hspan]

/-- what can become of a document that is to be a duration -/
theorem loadDuration_cases (d : Document) :
    loadDuration d = .error .malformed ∨
    (∃ x, loadDuration d = .error (.negativeDuration x)) ∨
    (∃ (x : Number) (q : Rat), load? d = some x ∧ x.toRat? = some q ∧ Duration.IsSpan q ∧
      loadDuration d = .ok (Duration.roundEven (q * Duration.second)).toNat) ∨
    ∃ x, Endless d x ∧ loadDuration d = .error (.endlessDuration x) := by
  cases hd : (load? d : Option Number) with
  | none =>
    left
    rw [loadDuration, hd]
    rfl
  | some x =>
    right
    cases hx : x.toRat? with
    | none =>
      left
      rw [loadDuration, hd, wellFormed, ok_bind, hx]
      exact ⟨x, rfl⟩
    | some q =>
      rw [loadDuration_of_finite hd hx]
      by_cases hq : q < 0
      · rw [if_pos hq]
        exact .inl ⟨x, rfl⟩
      · rw [if_neg hq]
        by_cases hspan : Duration.IsSpan q
        · rw [if_pos hspan]
          exact .inr (.inl ⟨x, q, rfl, hx, hspan, rfl⟩)
        · rw [if_neg hspan]
          exact .inr (.inr ⟨x, ⟨hd, q, hx, not_lt.1 hq, hspan⟩, rfl⟩)

/-- **A duration is read exactly from a number of seconds that makes one.** -/
theorem loadDuration_eq_ok {span : Duration} :
    loadDuration d = .ok span ↔
      ∃ (x : Number) (q : Rat), load? d = some x ∧ x.toRat? = some q ∧ Duration.IsSpan q ∧
        span = (Duration.roundEven (q * Duration.second)).toNat := by
  constructor
  · intro h
    rcases loadDuration_cases d with h' | ⟨x, h'⟩ | ⟨x, q, hd, hx, hspan, h'⟩ | ⟨x, -, h'⟩ <;> rw [h'] at h <;> cases h
    exact ⟨x, q, hd, hx, hspan, rfl⟩
  · rintro ⟨x, q, hd, hx, hspan, rfl⟩
    rw [loadDuration_of_finite hd hx, if_neg (not_lt.2 hspan.nonneg), if_pos hspan]

/-- **The conversion breaks off exactly at a number of seconds that the check lets through and that makes none.** -/
theorem loadDuration_eq_endless : loadDuration d = .error (.endlessDuration x) ↔ Endless d x := by
  constructor
  · intro h
    rcases loadDuration_cases d with h' | ⟨y, h'⟩ | ⟨y, q, -, -, -, h'⟩ | ⟨y, hendless, h'⟩ <;> rw [h'] at h <;> cases h
    exact hendless
  · rintro ⟨hd, q, hx, hq, hspan⟩
    rw [loadDuration_of_finite hd hx, if_neg (not_lt.2 hq), if_neg hspan]

/-! ### Settings -/

/-- the settings that are durations -/
def durations : List String := ["handshake_timeout", "hello_interval", "keepalive_timeout", "retransmit_interval"]

/-- the fault of a document as a setting, if it has one -/
def fault? (r : Setting × Document) : Option LoadFault :=
  match r.1.load r.2 default with
  | .ok _ => none
  | .error f => some f

theorem wellFormed_ne_endless {α : Type} (a : Option α) : wellFormed a ≠ .error (.endlessDuration x) := by
  cases a <;> simp [wellFormed]

/-- what a setting reads does not depend on the configuration it is put into, and only durations are endless -/
theorem load_cases (hs : s ∈ settings) (d : Document) :
    (s.name ∈ durations ∧
      ∃ set : SessionConfig → Duration → SessionConfig, ∀ c, s.load d c = set c <$> loadDuration d) ∨
    (s.name ∉ durations ∧
      ∃ (α : Type) (set : SessionConfig → α → SessionConfig) (read : Except LoadFault α),
        (∀ c, s.load d c = set c <$> read) ∧ ∀ x, read ≠ .error (.endlessDuration x)) := by
  simp only [settings, List.mem_cons, List.not_mem_nil, or_false] at hs
  rcases hs with rfl | rfl | rfl | rfl | rfl | rfl | rfl | rfl | rfl
  · refine .inr ⟨by decide, _, fun c a => { c with bindAddress := a }, loadAddress d, fun c => ?_, fun x => ?_⟩
    · dsimp only
      cases loadAddress d <;> rfl
    · rw [loadAddress]
      cases (load? d : Option String) with
      | none => exact wellFormed_ne_endless (none : Option SocketAddress)
      | some text => exact wellFormed_ne_endless (SocketAddress.parse? text)
  iterate 4 exact .inl ⟨by decide, _, fun c => rfl⟩
  iterate 4 exact .inr ⟨by decide, _, _, loadCount _ d, fun c => rfl, fun x => wellFormed_ne_endless _⟩

theorem load_eq_error (hs : s ∈ settings) : s.load d c = .error f ↔ fault? (s, d) = some f := by
  have hsame : ∀ {α : Type} {set : SessionConfig → α → SessionConfig} {read : Except LoadFault α},
      (∀ c, s.load d c = set c <$> read) → (s.load d c = .error f ↔ fault? (s, d) = some f) := by
    intro α set read hread
    rw [hread, fault?, hread]
    cases read with
    | ok a => exact iff_of_false nofun nofun
    | error e => exact ⟨fun h => by cases h; rfl, fun h => by cases h; rfl⟩
  rcases load_cases hs d with ⟨-, set, hread⟩ | ⟨-, α, set, read, hread, -⟩
  · exact hsame hread
  · exact hsame hread

theorem fault?_eq_endless (hs : s ∈ settings) :
    fault? (s, d) = some (.endlessDuration x) ↔ s.name ∈ durations ∧ Endless d x := by
  rw [← load_eq_error (c := default) hs, ← loadDuration_eq_endless]
  rcases load_cases hs d with ⟨hname, set, hread⟩ | ⟨hname, α, set, read, hread, hother⟩
  · rw [hread, and_iff_right hname]
    cases loadDuration d with
    | ok span => exact iff_of_false nofun nofun
    | error e => exact ⟨fun h => by cases h; rfl, fun h => by cases h; rfl⟩
  · rw [hread]
    refine iff_of_false (fun h => ?_) fun h => hname h.1
    cases read with
    | ok a => cases h
    | error e =>
      cases h
      exact hother x rfl

/-! ### Documents -/

/-- the settings of a document with what it gives for each, in the order in which they are read -/
def readings : Document → List (Setting × Document)
  | .object members => members.filterMap fun m => (settings.find? (·.name = m.1)).map (·, m.2)
  | .list items => settings.zip items
  | _ => []

/-- the document has all settings -/
def isComplete : Document → Bool
  | .object members => settings.all fun s => members.any (·.1 = s.name)
  | .list items => items.length = settings.length
  | _ => false

theorem setting_of_mem_readings {r : Setting × Document} (h : r ∈ readings d) : r.1 ∈ settings := by
  cases d with
  | object members =>
    obtain ⟨m, -, hm⟩ := List.mem_filterMap.1 h
    obtain ⟨s, hs, rfl⟩ := Option.map_eq_some_iff.1 hm
    exact List.mem_of_find?_eq_some hs
  | list items => exact (List.of_mem_zip h).1
  | _ => cases h

/-- a document is read setting by setting, and then has to have them all -/
theorem load_eq (d : Document) :
    load d = (readings d).foldlM (fun c r => r.1.load r.2 c) default >>= fun c =>
      if isComplete d then .ok c else .error .malformed := by
  cases d with
  | object members =>
    rw [load, readings, List.foldlM_filterMap]
    refine congrArg (· >>= _) (congrArg (List.foldlM · default members) ?_)
    funext c m
    rw [loadMember]
    cases settings.find? (·.name = m.1) <;> rfl
  | list items =>
    have hlength : isComplete (.list items) ↔ items.length = settings.length := decide_eq_true_iff
    simp only [hlength]
    rfl
  | _ => rfl

/-- the fault of a fold is the first one -/
theorem foldlM_eq_error {rs : List (Setting × Document)} (hrs : ∀ r ∈ rs, r.1 ∈ settings) :
    rs.foldlM (fun c r => r.1.load r.2 c) c = .error f ↔ rs.findSome? fault? = some f := by
  induction rs generalizing c with
  | nil => exact iff_of_false nofun nofun
  | cons r rs ih =>
    obtain ⟨hr, hrest⟩ := List.forall_mem_cons.1 hrs
    rw [List.foldlM_cons, List.findSome?_cons]
    cases hload : r.1.load r.2 c with
    | error e =>
      rw [(load_eq_error hr).1 hload]
      exact ⟨fun h => by cases h; rfl, fun h => by cases h; rfl⟩
    | ok c' =>
      cases hfault : fault? r with
      | none => exact ih hrest
      | some e => exact nomatch hload.symm.trans ((load_eq_error hr).2 hfault)

/-- **Loading breaks off at the first fault, if that is an endless duration.** -/
theorem load_eq_endless :
    load d = .error (.endlessDuration x) ↔ (readings d).findSome? fault? = some (.endlessDuration x) := by
  rw [load_eq, ← foldlM_eq_error (c := default) fun r hr => setting_of_mem_readings hr]
  cases (readings d).foldlM (fun c r => r.1.load r.2 c) default with
  | error e => exact ⟨fun h => by cases h; rfl, fun h => by cases h; rfl⟩
  | ok c =>
    refine iff_of_false (fun h => ?_) nofun
    rw [ok_bind] at h
    split at h <;> cases h

/-- **Loading gives a configuration or a fault to report unless it comes to an endless duration.** A number of seconds
makes a duration exactly if it is not negative and more than half a nanosecond below `2 ^ 64` seconds. A duration is read
exactly from such a number, and the conversion breaks off exactly at the other numbers that are finite and not negative;
so does a document whose first fault is such a number in one of the four durations, and no other, and each of the four
can be that one. -/
theorem loads_unless_endless (d : Document) (x : Number) :
    (∀ q, Duration.IsSpan q ↔ 0 ≤ q ∧ q < 2 ^ 64 - 1 / (2 * 10 ^ 9)) ∧
    (∀ span : Duration, loadDuration d = .ok span ↔
      ∃ (x : Number) (q : Rat), load? d = some x ∧ x.toRat? = some q ∧ Duration.IsSpan q ∧
        span = (Duration.roundEven (q * Duration.second)).toNat) ∧
    (loadDuration d = .error (.endlessDuration x) ↔ Endless d x) ∧
    (load d = .error (.endlessDuration x) ↔
      ∃ before s item after, readings d = before ++ (s, item) :: after ∧ (∀ r ∈ before, fault? r = none) ∧
        s.name ∈ durations ∧ Endless item x) ∧
    (Endless d x → ∀ s ∈ settings, s.name ∈ durations → load (.object [(s.name, d)]) = .error (.endlessDuration x)) := by
  have hload : ∀ d : Document, load d = .error (.endlessDuration x) ↔
      ∃ before s item after, readings d = before ++ (s, item) :: after ∧ (∀ r ∈ before, fault? r = none) ∧
        s.name ∈ durations ∧ Endless item x := by
    intro d
    rw [load_eq_endless, List.findSome?_eq_some_iff]
    constructor
    · rintro ⟨before, ⟨s, item⟩, after, hsplit, hfault, hbefore⟩
      have hs : s ∈ settings := setting_of_mem_readings (hsplit ▸ List.mem_append_right before List.mem_cons_self)
      exact ⟨before, s, item, after, hsplit, hbefore, (fault?_eq_endless hs).1 hfault⟩
    · rintro ⟨before, s, item, after, hsplit, hbefore, hendless⟩
      have hs : s ∈ settings := setting_of_mem_readings (hsplit ▸ List.mem_append_right before List.mem_cons_self)
      exact ⟨before, (s, item), after, hsplit, (fault?_eq_endless hs).2 hendless, hbefore⟩
  refine ⟨fun q => Duration.isSpan_iff, fun span => loadDuration_eq_ok, loadDuration_eq_endless, hload d,
    fun hendless s hs hname => ?_⟩
  have hfirst : readings (.object [(s.name, d)]) = [(s, d)] := by
    simp only [settings, List.mem_cons, List.not_mem_nil, or_false] at hs
    rcases hs with rfl | rfl | rfl | rfl | rfl | rfl | rfl | rfl | rfl <;> rfl
  exact (hload _).2 ⟨[], s, d, [], hfirst, List.forall_mem_nil _, hname, hendless⟩

/-- of two neighbouring doubles the lower one is a duration, the other one, `2 ^ 64` seconds, is not -/
theorem loads_unless_endless_handshake :
    let bound : Number := .rational 18446744073709551616
    loadDuration (.number (.rational 18446744073709549568)) = .ok 18446744073709549568000000000 ∧
      load (.object [("handshake_timeout", .number bound)]) = .error (.endlessDuration bound) := by
  intro bound
  constructor
  · obtain ⟨hspan, hok, -⟩ := loads_unless_endless (.number (.rational 18446744073709549568)) bound
    exact (hok _).2 ⟨_, _, rfl, rfl, (hspan _).2 (by norm_num), by decide +kernel⟩
  · obtain ⟨hspan, -, -, -, hload⟩ := loads_unless_endless (.number bound) bound
    have hbound : ¬Duration.IsSpan 18446744073709551616 := fun h => absurd ((hspan _).1 h).2 (by norm_num)
    refine hload ⟨rfl, _, rfl, by norm_num, hbound⟩
      (durationSetting "handshake_timeout" (·.handshakeTimeout) fun c d => { c with handshakeTimeout := d }) ?_ (by decide)
    exact List.mem_cons_of_mem _ List.mem_cons_self

end SessionConfig

end VisionMixer
