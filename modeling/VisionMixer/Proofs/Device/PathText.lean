/-
Paths of the device's own documents.

Not every path is read back from its text: a key may hold a point, spell a number or be empty. The paths into the
documents here go by ids and by keys that are words of letters. Such a path is `Plain`, and that makes it readable, so its
text is read as the path (`parse_text`), and a list of plain paths comes back from its document (`load?_store_of_plain`).
-/
import VisionMixer.Proofs.Device.Agreement
import VisionMixer.Proofs.StatePath

namespace VisionMixer

namespace Text

/-- letters come after the digits -/
theorem nine_lt_of_isAlpha {c : Char} (h : c.isAlpha) : '9'.val < c.val := by
  rcases Bool.or_eq_true_iff.1 h with hupper | hlower
  · have hfrom : 'A'.val ≤ c.val := (of_decide_eq_true hupper).1
    exact UInt32.lt_of_lt_of_le (by decide) hfrom
  · have hfrom : 'a'.val ≤ c.val := of_decide_eq_true (Bool.and_eq_true_iff.1 hlower).1
    exact UInt32.lt_of_lt_of_le (by decide) hfrom

theorem not_isDigit_of_isAlpha {c : Char} (h : c.isAlpha) : ¬c.isDigit := fun hdigit =>
  absurd (nine_lt_of_isAlpha h) (UInt32.not_lt.2 (of_decide_eq_true (Bool.and_eq_true_iff.1 hdigit).2))

end Text

namespace Segment

/-- an id, or a key of letters -/
def isPlain : Segment → Bool
  | .key name => name.toList ≠ [] ∧ name.toList.all Char.isAlpha
  | .index _ => true

variable {s : Segment}

/-- letters spell no number -/
theorem not_spells_of_isAlpha {cs : List Char} {id : UInt32} (h : ∀ c ∈ cs, c.isAlpha) : ¬Spells cs id := by
  rintro ⟨ds, hcs, ⟨hne, hdigits⟩, -⟩
  obtain ⟨d, rest, rfl⟩ := List.exists_cons_of_ne_nil hne
  have hmem : d ∈ cs := by
    rcases hcs with rfl | rfl
    · exact List.mem_cons_self
    · exact List.mem_cons_of_mem _ List.mem_cons_self
  exact Text.not_isDigit_of_isAlpha (h d hmem) (hdigits d List.mem_cons_self)

theorem readable_of_isPlain (h : s.isPlain) : s.Readable := by
  rintro name rfl
  obtain ⟨hne, hall⟩ := of_decide_eq_true h
  have hletters := List.all_eq_true.1 hall
  exact ⟨fun hempty => hne (String.toList_eq_nil_iff.2 hempty), fun hpoint => absurd (hletters _ hpoint) (by decide),
    fun _ => not_spells_of_isAlpha hletters⟩

end Segment

namespace StatePath

/-- a path to somewhere below the top, by ids and keys of letters -/
structure Plain (p : StatePath) : Prop where
  below_top : p.segments ≠ []
  segments : ∀ s ∈ p.segments, s.isPlain

theorem plain_root {name : String} (h : (Segment.key name).isPlain) : (root name).Plain where
  below_top := List.cons_ne_nil _ _
  segments _ hs := List.mem_singleton.1 hs ▸ h

section

variable {p : StatePath}

theorem Plain.append (hp : p.Plain) {s : Segment} (hs : s.isPlain) : StatePath.Plain ⟨p.segments ++ [s]⟩ where
  below_top := List.append_ne_nil_of_left_ne_nil hp.below_top _
  segments x hx := by
    rcases List.mem_append.1 hx with hx | hx
    · exact hp.segments x hx
    · exact List.mem_singleton.1 hx ▸ hs

theorem Plain.key (hp : p.Plain) {name : String} (h : (Segment.key name).isPlain) : (p.key name).Plain := hp.append h

theorem Plain.index {κ : Type} [Id κ] (hp : p.Plain) (k : κ) : (p.index k).Plain := hp.append rfl

end

/-! ### Reading back -/

theorem Plain.readable {p : StatePath} (hp : p.Plain) : p.Readable where
  below_top := hp.below_top
  segments s hs := Segment.readable_of_isPlain (hp.segments s hs)

/-- **A plain path is read back from its text.** -/
theorem parse_text {p : StatePath} (hp : p.Plain) : parse p.text = .ok p := parse_of_readable hp.readable

/-- the same text can stand for other paths: a key that spells a number is read as an id -/
example : parse (root "7").text = .ok ⟨[.index 7]⟩ := by rfl

end StatePath

namespace ChangedPaths

/-- **Plain paths come back from their document.** -/
theorem load?_store_of_plain {c : ChangedPaths} (h : ∀ p ∈ c.paths, p.Plain) : load? (store c) = some c := by
  have hpaths : ∀ paths : List StatePath, (∀ p ∈ paths, p.Plain) →
      (paths.map store).mapM (load? : Document → Option StatePath) = some paths := by
    intro paths hplain
    induction paths with
    | nil => rfl
    | cons p paths ih =>
      have hp : (load? (store p) : Option StatePath) = some p := by
        show (StatePath.parse p.text).toOption = some p
        rw [StatePath.parse_text (hplain p (.head _))]
        rfl
      rw [List.map_cons, List.mapM_cons, hp, ih fun q hq => hplain q (.tail _ hq)]
      rfl
  show ((c.paths.map store).mapM load?).map ChangedPaths.mk = some c
  rw [hpaths c.paths h]
  rfl

end ChangedPaths

end VisionMixer
