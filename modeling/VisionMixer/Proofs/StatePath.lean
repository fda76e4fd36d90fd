/-
Paths and their texts.

Keys and ids share one textual form, so a text says what a segment is: an id if it spells a number of 32 bits
(`Segment.Spells`), a key otherwise. Not every path is read back from its text. One that is has at least one segment, and
its keys are not empty, have no point in them and spell no number (`StatePath.Readable`); reading gives such paths only
(`readable_of_parse`), and gives all of them back (`parse_of_readable`). A text that can be read is the text of its path
unless a number in it is padded.
-/
import VisionMixer.StatePath
import VisionMixer.Proofs.Text.Digits

namespace VisionMixer

namespace Segment

/-- a number of 32 bits in decimal digits, behind a plus sign or not -/
def Spells (cs : List Char) (id : UInt32) : Prop :=
  ∃ ds, (cs = ds ∨ cs = '+' :: ds) ∧ (ds ≠ [] ∧ ∀ c ∈ ds, c.isDigit) ∧ Text.value ds = id.toNat

/-- a plus sign or a zero too many in front -/
def IsPadded (cs : List Char) : Prop := cs.head? = some '+' ∨ Text.HasSpareZero cs

variable {cs ds : List Char} {id : UInt32} {s : Segment}

/-! ### Ids -/

theorem head?_ne_plus (h : ∀ c ∈ ds, c.isDigit) : ds.head? ≠ some '+' := fun hplus =>
  absurd (h '+' (List.mem_of_head? hplus)) (by decide)

/-- digits are an id if their number has 32 bits -/
theorem ofDigits?_bind_eq_some :
    ((Text.ofDigits? ds).bind fun n => if n < UInt32.size then some (UInt32.ofNat n) else none) = some id ↔
      (ds ≠ [] ∧ ∀ c ∈ ds, c.isDigit) ∧ Text.value ds = id.toNat := by
  rw [Option.bind_eq_some_iff]
  constructor
  · rintro ⟨n, hn, hid⟩
    obtain ⟨hdigits, rfl⟩ := Text.ofDigits?_eq_some.1 hn
    split at hid
    · next hlt =>
      cases hid
      exact ⟨hdigits, (UInt32.toNat_ofNat_of_lt' hlt).symm⟩
    · cases hid
  · rintro ⟨hdigits, hvalue⟩
    refine ⟨id.toNat, Text.ofDigits?_eq_some.2 ⟨hdigits, hvalue⟩, ?_⟩
    rw [if_pos id.toNat_lt, UInt32.ofNat_toNat]

/-- the id that is found is the one that is spelled -/
theorem index?_eq_some : index? cs = some id ↔ Spells cs id := by
  unfold index?
  dsimp only
  split
  · next rest =>
    rw [ofDigits?_bind_eq_some]
    constructor
    · rintro ⟨hdigits, hvalue⟩
      exact ⟨rest, .inr rfl, hdigits, hvalue⟩
    · rintro ⟨ds, hcs, hdigits, hvalue⟩
      rcases hcs with rfl | hcs
      · exact absurd rfl (head?_ne_plus hdigits.2)
      · cases hcs
        exact ⟨hdigits, hvalue⟩
  · next hunsigned =>
    rw [ofDigits?_bind_eq_some]
    constructor
    · rintro ⟨hdigits, hvalue⟩
      exact ⟨cs, .inl rfl, hdigits, hvalue⟩
    · rintro ⟨ds, hcs, hdigits, hvalue⟩
      rcases hcs with rfl | hcs
      · exact ⟨hdigits, hvalue⟩
      · exact absurd hcs (hunsigned ds)

theorem index?_eq_none : index? cs = none ↔ ∀ id, ¬Spells cs id := by
  simp only [Option.eq_none_iff_forall_ne_some, ne_eq, index?_eq_some]

/-- the digits of an id spell it -/
theorem spells_digits (id : UInt32) : Spells (Text.digits id.toNat) id :=
  ⟨_, .inl rfl, ⟨Text.digits_ne_nil, fun _ hc => Text.isDigit_of_mem_digits hc⟩, Text.value_digits _⟩

/-- a text that spells an id is written as it is unless it is padded -/
theorem digits_of_spells (h : Spells cs id) : Text.digits id.toNat = cs ↔ ¬IsPadded cs := by
  obtain ⟨ds, hcs, ⟨hne, hdigits⟩, hvalue⟩ := h
  rw [← hvalue]
  rcases hcs with rfl | rfl
  · rw [Text.digits_value hne hdigits, IsPadded, not_or]
    exact ⟨fun hzero => ⟨head?_ne_plus hdigits, hzero⟩, And.right⟩
  · refine iff_of_false (fun hplus => ?_) (not_not_intro (.inl rfl))
    have hmem : '+' ∈ Text.digits (Text.value ds) := hplus ▸ List.mem_cons_self
    exact absurd (Text.isDigit_of_mem_digits hmem) (by decide)

/-! ### Segments of a text -/

/-- a key that a text cannot take for anything else -/
structure IsWord (name : String) : Prop where
  not_empty : name ≠ ""
  undotted : '.' ∉ name.toList
  no_number : ∀ id, ¬Spells name.toList id

/-- an id, or a key that is a word -/
def Readable (s : Segment) : Prop := ∀ name, s = .key name → IsWord name

theorem text_ne_nil (h : s.Readable) : s.text ≠ [] := by
  cases s with
  | key name => exact fun hnil => (h name rfl).not_empty (String.toList_eq_nil_iff.1 hnil)
  | index id => exact Text.digits_ne_nil

theorem point_not_mem_text (h : s.Readable) : '.' ∉ s.text := by
  cases s with
  | key name => exact (h name rfl).undotted
  | index id => exact fun hmem => absurd (Text.isDigit_of_mem_digits hmem) (by decide)

/-- **A readable segment is spelled by its text.** -/
theorem ofChars_text (h : s.Readable) : ofChars s.text = s := by
  cases s with
  | key name =>
    rw [ofChars, text, index?_eq_none.2 (h name rfl).no_number]
    exact congrArg key String.ofList_toList
  | index id => rw [ofChars, text, index?_eq_some.2 (spells_digits id)]

theorem readable_ofChars (hne : cs ≠ []) (hpoint : '.' ∉ cs) : (ofChars cs).Readable := by
  intro name hname
  unfold ofChars at hname
  split at hname
  · cases hname
  · next hnumber =>
    cases hname
    refine ⟨fun hempty => hne ?_, ?_, ?_⟩
    · rw [← String.toList_ofList (l := cs), hempty]
      rfl
    · rwa [String.toList_ofList]
    · rw [String.toList_ofList]
      exact index?_eq_none.1 hnumber

/-- a segment has the text it was read from unless that is a padded number -/
theorem text_ofChars : (ofChars cs).text = cs ↔ ∀ id, Spells cs id → ¬IsPadded cs := by
  unfold ofChars
  split
  · next id hid =>
    have hspells := index?_eq_some.1 hid
    rw [text, digits_of_spells hspells]
    exact ⟨fun h _ _ => h, fun h => h id hspells⟩
  · next hnumber =>
    refine iff_of_true ?_ fun id hspells => absurd hspells (index?_eq_none.1 hnumber id)
    rw [text, String.toList_ofList]

end Segment

namespace StatePath

/-! ### Splitting and joining -/

theorem parts_eq_splitOn (cs : List Char) : parts cs = cs.splitOn '.' := by
  induction cs with
  | nil => rfl
  | cons c cs ih =>
    rw [List.splitOn] at ih
    rw [parts, ih, List.splitOn, List.splitOnP_cons_eq_if_modifyHead]
    refine if_congr beq_iff_eq.symm rfl ?_
    cases hsplit : cs.splitOnP (· == '.') with
    | nil => exact absurd hsplit (List.splitOnP_ne_nil _ _)
    | cons first others => rfl

theorem join_eq_intercalate (segments : List Segment) :
    join segments = ['.'].intercalate (segments.map Segment.text) := by
  induction segments with
  | nil => rfl
  | cons s rest ih =>
    cases rest with
    | nil => exact List.intercalate_singleton.symm
    | cons r rest =>
      rw [List.map_cons, List.map_cons, List.intercalate_cons_cons, ← List.map_cons, ← ih, List.append_assoc]
      rfl

theorem point_not_mem_splitOn {cs part : List Char} (h : part ∈ cs.splitOn '.') : '.' ∉ part := by
  rw [← parts_eq_splitOn] at h
  induction cs generalizing part with
  | nil => exact List.mem_singleton.1 h ▸ List.not_mem_nil
  | cons c cs ih =>
    rw [parts] at h
    split at h
    · rcases List.mem_cons.1 h with rfl | h
      · exact List.not_mem_nil
      · exact ih h
    · next hc =>
      split at h
      · next hnil => exact absurd (parts_eq_splitOn cs ▸ hnil) (List.splitOn_ne_nil _ _)
      · next first others hparts =>
        rcases List.mem_cons.1 h with rfl | h
        · rw [List.mem_cons, not_or]
          exact ⟨Ne.symm hc, ih (hparts ▸ List.mem_cons_self)⟩
        · exact ih (hparts ▸ List.mem_cons_of_mem _ h)

/-! ### Texts -/

/-- a path to somewhere below the top, with keys that are words -/
structure Readable (p : StatePath) : Prop where
  below_top : p.segments ≠ []
  segments : ∀ s ∈ p.segments, s.Readable

variable {p q : StatePath} {s : String}

/-- a text is read if it has no empty part, part by part -/
theorem parse_eq_ok :
    parse s = .ok p ↔
      (∀ part ∈ s.toList.splitOn '.', part ≠ []) ∧ p.segments = (s.toList.splitOn '.').map Segment.ofChars := by
  have hempty : ((s.toList.splitOn '.').any List.isEmpty = true) ↔ ¬∀ part ∈ s.toList.splitOn '.', part ≠ [] := by
    rw [List.any_eq_true]
    push Not
    simp only [List.isEmpty_iff]
  rw [parse]
  simp only [parts_eq_splitOn]
  split
  · next h =>
    refine iff_of_false (fun hok => ?_) fun hall => hempty.1 h hall.1
    cases hok
  · next h =>
    constructor
    · intro hok
      cases hok
      exact ⟨not_not.1 (mt hempty.2 h), rfl⟩
    · rintro ⟨-, hsegments⟩
      rw [← hsegments]

/-- a path that is read is readable -/
theorem readable_of_parse (h : parse s = .ok p) : p.Readable := by
  obtain ⟨hfull, hsegments⟩ := parse_eq_ok.1 h
  constructor
  · rw [hsegments]
    exact List.map_eq_nil_iff.not.2 (List.splitOn_ne_nil _ _)
  · rw [hsegments]
    intro x hx
    obtain ⟨part, hpart, rfl⟩ := List.mem_map.1 hx
    exact Segment.readable_ofChars (hfull part hpart) (point_not_mem_splitOn hpart)

/-- the text of a readable path is split where it was joined -/
theorem splitOn_text (h : p.Readable) : p.text.toList.splitOn '.' = p.segments.map Segment.text := by
  rw [text, String.toList_ofList, join_eq_intercalate]
  refine List.splitOn_intercalate _ (fun part hpart => ?_) (List.map_eq_nil_iff.not.2 h.below_top)
  obtain ⟨x, hx, rfl⟩ := List.mem_map.1 hpart
  exact Segment.point_not_mem_text (h.segments x hx)

/-- **A readable path is read back from its text.** -/
theorem parse_of_readable (h : p.Readable) : parse p.text = .ok p := by
  rw [parse_eq_ok, splitOn_text h]
  constructor
  · intro part hpart
    obtain ⟨x, hx, rfl⟩ := List.mem_map.1 hpart
    exact Segment.text_ne_nil (h.segments x hx)
  · rw [List.map_map]
    refine (List.map_id _).symm.trans (List.map_congr_left fun x hx => ?_)
    exact (Segment.ofChars_text (h.segments x hx)).symm

theorem parse_text_iff : parse p.text = .ok p ↔ p.Readable := ⟨readable_of_parse, parse_of_readable⟩

/-- readable paths have texts of their own -/
theorem text_injective (hp : p.Readable) (hq : q.Readable) (h : p.text = q.text) : p = q := by
  have hread := parse_of_readable hp
  rw [h, parse_of_readable hq] at hread
  exact (Except.ok.inj hread).symm

/-- **A text that is read is the path's own unless it has a padded number in it.** -/
theorem text_eq_iff (h : parse s = .ok p) :
    p.text = s ↔ ∀ part ∈ s.toList.splitOn '.', ∀ id, Segment.Spells part id → ¬Segment.IsPadded part := by
  obtain ⟨-, hsegments⟩ := parse_eq_ok.1 h
  have hsplit := splitOn_text (readable_of_parse h)
  have hparts : p.text = s ↔ p.segments.map Segment.text = s.toList.splitOn '.' := by
    constructor
    · intro htext
      rw [← hsplit, htext]
    · intro hmap
      have hjoin : join p.segments = s.toList := by
        rw [join_eq_intercalate, hmap]
        exact List.intercalate_splitOn '.'
      rw [text, hjoin, String.ofList_toList]
  have hself : ((s.toList.splitOn '.').map Segment.ofChars).map Segment.text = s.toList.splitOn '.' ↔
      ∀ part ∈ s.toList.splitOn '.', (Segment.ofChars part).text = part := by
    conv_lhs => rw [List.map_map]; rhs; rw [← List.map_id (s.toList.splitOn '.')]
    exact List.map_inj_left
  rw [hparts, hsegments, hself]
  exact forall₂_congr fun part _ => Segment.text_ofChars

end StatePath

namespace ChangedPaths

variable {c : ChangedPaths} {p : StatePath}

/-- readable paths are not mistaken for one another -/
theorem contains_text (hc : ∀ q ∈ c.paths, q.Readable) (hp : p.Readable) : c.contains p.text ↔ p ∈ c.paths := by
  rw [contains, List.any_eq_true]
  constructor
  · rintro ⟨q, hq, htext⟩
    have heq := StatePath.text_injective (hc q hq) hp (of_decide_eq_true htext)
    exact heq ▸ hq
  · exact fun hmem => ⟨p, hmem, decide_eq_true rfl⟩

end ChangedPaths

namespace StatePath

/-- **Paths are read as they are written.** A path is read back from its text exactly if it is readable, readable paths
have texts of their own, so that a set of changed paths has the text of such a path only if it has the path; and a text
that is read stands for a path that is read back, and is that path's text exactly if no number in it is padded. -/
theorem path_text_round_trip :
    (∀ p : StatePath, parse p.text = .ok p ↔ p.Readable) ∧
    (∀ p q : StatePath, p.Readable → q.Readable → p.text = q.text → p = q) ∧
    (∀ (c : ChangedPaths) (p : StatePath), (∀ q ∈ c.paths, q.Readable) → p.Readable →
      (c.contains p.text ↔ p ∈ c.paths)) ∧
    ∀ (s : String) (p : StatePath), parse s = .ok p →
      parse p.text = .ok p ∧
      (p.text = s ↔ ∀ part ∈ s.toList.splitOn '.', ∀ id, Segment.Spells part id → ¬Segment.IsPadded part) :=
  ⟨fun _ => parse_text_iff, fun _ _ => text_injective, fun _ _ => ChangedPaths.contains_text, fun _ _ h =>
    ⟨parse_of_readable (readable_of_parse h), text_eq_iff h⟩⟩

/-- a number with a sign and a zero too many is read, and written without them -/
theorem path_text_round_trip_padded :
    let p : StatePath := ⟨[.key "inputs", .index 7, .key "longName"]⟩
    parse "inputs.+07.longName" = .ok p ∧ parse p.text = .ok p ∧ p.Readable ∧
      (ChangedPaths.ofList [p]).contains "inputs.7.longName" ∧
      ¬∀ part ∈ "inputs.+07.longName".toList.splitOn '.', ∀ id, Segment.Spells part id → ¬Segment.IsPadded part := by
  intro p
  obtain ⟨hreadable, -, hcontains, hread⟩ := path_text_round_trip
  have hp : parse "inputs.+07.longName" = .ok p := by rfl
  obtain ⟨hagain, htext⟩ := hread _ _ hp
  have hword : p.Readable := (hreadable p).1 hagain
  refine ⟨hp, hagain, hword, ?_, fun h => ?_⟩
  · refine (hcontains ⟨[p]⟩ p (fun q hq => ?_) hword).2 List.mem_cons_self
    exact List.mem_singleton.1 hq ▸ hword
  · exact absurd (htext.2 h) (by decide)

end StatePath

end VisionMixer
