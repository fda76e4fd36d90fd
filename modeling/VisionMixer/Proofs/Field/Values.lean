/-
Values of a body by name.

`FieldValues.along` arranges values in the order of a table, and each field of the table finds its value there. The
readers find a value under the name it was written down with and look past all others, so a reader over written values
is evaluated one name at a time.
-/
import Mathlib.Tactic
import VisionMixer.Field.Coding
import VisionMixer.Field.Values
import VisionMixer.Proofs.Fallible

namespace VisionMixer.FieldValues

/-- the values of the fields of a table in its order, each changed by a function of its encoding -/
def along (change : Wire → Value → Value) (fields : List Field) (values : FieldValues) : FieldValues :=
  fields.flatMap fun f => FieldValues.maybe f.name ((values.get? f.name).map (change f.wire))

/-! ### Values along a table -/

variable {change : Wire → Value → Value} {fields : List Field} {values : FieldValues} {f : Field}

theorem get?_append (xs ys : FieldValues) (name : String) :
    FieldValues.get? (xs ++ ys) name = (FieldValues.get? xs name).or (FieldValues.get? ys name) := by
  rw [get?, get?, get?, List.find?_append]
  cases xs.find? (·.1 = name) <;> rfl

theorem get?_maybe_self (name : String) (v : Option Value) : FieldValues.get? (maybe name v) name = v := by
  cases v with
  | none => rfl
  | some v => simp [maybe, get?]

theorem get?_maybe_of_ne {name other : String} (h : name ≠ other) (v : Option Value) :
    FieldValues.get? (maybe name v) other = none := by
  cases v with
  | none => rfl
  | some v => simp [maybe, get?, h]

/-- a value of another name is not left out -/
theorem get?_without {name other : String} (h : name ≠ other) : (values.without other).get? name = values.get? name := by
  rw [get?, without, List.find?_filter, get?]
  refine congrArg _ (congrArg (fun test => List.find? test values) (funext fun p => ?_))
  by_cases hp : p.1 = name <;> simp [hp, h]

theorem mem_along {p : String × Value} (h : p ∈ values.along change fields) : ∃ f ∈ fields, f.name = p.1 := by
  obtain ⟨f, hf, hp⟩ := List.mem_flatMap.mp h
  obtain ⟨v, -, rfl⟩ := Option.map_eq_some_iff.mp (Option.mem_toList.mp hp)
  exact ⟨f, hf, rfl⟩

theorem get?_along_of_not_mem {name : String} (h : name ∉ fields.map FieldOf.name) :
    (values.along change fields).get? name = none := by
  rw [get?, Option.map_eq_none_iff, List.find?_eq_none]
  intro p hp
  obtain ⟨f, hf, hname⟩ := mem_along hp
  have hne : p.1 ≠ name := fun heq => h (List.mem_map.mpr ⟨f, hf, hname.trans heq⟩)
  simpa using hne

/-- the value of a field of the table -/
theorem get?_along (hnames : (fields.map FieldOf.name).Nodup) (hf : f ∈ fields) :
    (values.along change fields).get? f.name = (values.get? f.name).map (change f.wire) := by
  induction fields with
  | nil => exact nomatch hf
  | cons g fields ih =>
    obtain ⟨hg, hnames⟩ := List.nodup_cons.mp hnames
    rw [along, List.flatMap_cons, get?_append]
    rcases List.mem_cons.mp hf with rfl | hf
    · rw [get?_maybe_self]
      have hrest : FieldValues.get? (values.along change fields) f.name = none := get?_along_of_not_mem hg
      rw [along] at hrest
      rw [hrest, Option.or_none]
    · have hne : g.name ≠ f.name := fun heq => hg (heq ▸ List.mem_map_of_mem hf)
      rw [get?_maybe_of_ne hne, Option.none_or]
      exact ih hnames hf

theorem along_congr {change' : Wire → Value → Value}
    (h : ∀ f ∈ fields, ∀ v, values.get? f.name = some v → change f.wire v = change' f.wire v) :
    values.along change fields = values.along change' fields := by
  refine List.flatMap_congr fun f hf => ?_
  cases hv : values.get? f.name with
  | none => rfl
  | some v =>
    rw [Option.map_some, Option.map_some, h f hf v hv]

theorem checkCarried_eq_ok : values.checkCarried fields = .ok () ↔ ∀ p ∈ values, ∃ f ∈ fields, f.name = p.1 := by
  rw [checkCarried]
  split
  · next p hp =>
    constructor
    · intro h
      exact nomatch h
    · intro h
      obtain ⟨f, hf, hname⟩ := h p (List.mem_of_find?_eq_some hp)
      have hnone := List.find?_some hp
      simp only [Bool.not_eq_true', List.any_eq_false, decide_eq_true_eq] at hnone
      exact absurd hname (hnone f hf)
  · next hnone =>
    rw [List.find?_eq_none] at hnone
    refine ⟨fun _ p hp => ?_, fun _ => rfl⟩
    simpa using hnone p hp

/-! ### Readers -/

section Readers

variable {values : FieldValues} {name other : String} {v : Value}

theorem require_eq_ok : values.require name = .ok v ↔ values.get? name = some v := by
  rw [require]
  split <;> simp [*]

theorem getInt_of_get? {n low high : Int} (h : values.get? name = some (.int n)) (hlow : low ≤ n) (hhigh : n ≤ high) :
    values.getInt name low high = .ok n := by
  rw [getInt, require_eq_ok.mpr h]
  exact if_pos ⟨hlow, hhigh⟩

theorem getU8_of_get? {b : UInt8} (h : values.get? name = some (.byte b)) : values.getU8 name = .ok b := by
  have hlow : Width.u8.low ≤ (b.toNat : Int) := Int.natCast_nonneg _
  have hhigh : (b.toNat : Int) ≤ Width.u8.high := by
    have := b.toNat_lt
    simp only [Width.high]
    omega
  rw [getU8, getWidth, getInt_of_get? h hlow hhigh]
  exact congrArg Except.ok UInt8.ofNat_toNat

theorem getU16_of_get? {w : UInt16} (h : values.get? name = some (.word w)) : values.getU16 name = .ok w := by
  have hlow : Width.u16.low ≤ (w.toNat : Int) := Int.natCast_nonneg _
  have hhigh : (w.toNat : Int) ≤ Width.u16.high := by
    have := w.toNat_lt
    simp only [Width.high]
    omega
  rw [getU16, getWidth, getInt_of_get? h hlow hhigh]
  exact congrArg Except.ok UInt16.ofNat_toNat

theorem getBool_of_get? {b : Bool} (h : values.get? name = some (.bool b)) : values.getBool name = .ok b := by
  rw [getBool, require_eq_ok.mpr h]
  rfl

theorem getFloat_eq_ok {x : Number} : values.getFloat name = .ok x ↔ values.get? name = some (.float x) := by
  rw [getFloat, bind_eq_ok]
  constructor
  · rintro ⟨v, hv, hx⟩
    cases v with
    | float y =>
      cases hx
      exact require_eq_ok.mp hv
    | _ => exact nomatch hx
  · intro h
    exact ⟨.float x, require_eq_ok.mpr h, rfl⟩

/-! ### Readers over written values -/

variable (rest : FieldValues) (b : Bool) (byte : UInt8) (word : UInt16) (x : Number) (text : String)
  (records : List FieldValues)

theorem get?_cons_self : FieldValues.get? ((name, v) :: rest) name = some v := by
  simp [get?]

theorem get?_cons_of_ne (h : other ≠ name) : FieldValues.get? ((other, v) :: rest) name = FieldValues.get? rest name := by
  simp [get?, h]

theorem require_cons_of_ne (h : other ≠ name) :
    FieldValues.require ((other, v) :: rest) name = FieldValues.require rest name := by
  rw [require, require, get?_cons_of_ne rest h]

@[simp] theorem getU8_cons_self : FieldValues.getU8 ((name, .byte byte) :: rest) name = .ok byte :=
  getU8_of_get? (get?_cons_self rest)

@[simp] theorem getU16_cons_self : FieldValues.getU16 ((name, .word word) :: rest) name = .ok word :=
  getU16_of_get? (get?_cons_self rest)

@[simp] theorem getBool_cons_self : FieldValues.getBool ((name, .bool b) :: rest) name = .ok b :=
  getBool_of_get? (get?_cons_self rest)

@[simp] theorem getFloat_cons_self : FieldValues.getFloat ((name, .float x) :: rest) name = .ok x :=
  getFloat_eq_ok.mpr (get?_cons_self rest)

@[simp] theorem getText_cons_self : FieldValues.getText ((name, .text text) :: rest) name = .ok text := by
  rw [getText, require_eq_ok.mpr (get?_cons_self rest)]
  rfl

@[simp] theorem getRecords_cons_self :
    FieldValues.getRecords ((name, .records records) :: rest) name = .ok records := by
  rw [getRecords, require_eq_ok.mpr (get?_cons_self rest)]
  rfl

@[simp] theorem getU8_cons_of_ne (h : other ≠ name) :
    FieldValues.getU8 ((other, v) :: rest) name = FieldValues.getU8 rest name := by
  rw [getU8, getU8, getWidth, getWidth, getInt, getInt, require_cons_of_ne rest h]

@[simp] theorem getU16_cons_of_ne (h : other ≠ name) :
    FieldValues.getU16 ((other, v) :: rest) name = FieldValues.getU16 rest name := by
  rw [getU16, getU16, getWidth, getWidth, getInt, getInt, require_cons_of_ne rest h]

@[simp] theorem getBool_cons_of_ne (h : other ≠ name) :
    FieldValues.getBool ((other, v) :: rest) name = FieldValues.getBool rest name := by
  rw [getBool, getBool, require_cons_of_ne rest h]

@[simp] theorem getFloat_cons_of_ne (h : other ≠ name) :
    FieldValues.getFloat ((other, v) :: rest) name = FieldValues.getFloat rest name := by
  rw [getFloat, getFloat, require_cons_of_ne rest h]

@[simp] theorem getText_cons_of_ne (h : other ≠ name) :
    FieldValues.getText ((other, v) :: rest) name = FieldValues.getText rest name := by
  rw [getText, getText, require_cons_of_ne rest h]

/-! ### Optional values -/

@[simp] theorem getU8?_nil : FieldValues.getU8? [] name = .ok none := rfl

@[simp] theorem getBool?_nil : FieldValues.getBool? [] name = .ok none := rfl

@[simp] theorem getU8?_cons_self : FieldValues.getU8? ((name, .byte byte) :: rest) name = .ok (some byte) := by
  rw [getU8?, ifPresent, get?_cons_self, getU8_cons_self]
  rfl

@[simp] theorem getBool?_cons_self : FieldValues.getBool? ((name, .bool b) :: rest) name = .ok (some b) := by
  rw [getBool?, ifPresent, get?_cons_self, getBool_cons_self]
  rfl

@[simp] theorem getU8?_cons_of_ne (h : other ≠ name) :
    FieldValues.getU8? ((other, v) :: rest) name = FieldValues.getU8? rest name := by
  rw [getU8?, getU8?, ifPresent, ifPresent, get?_cons_of_ne rest h, getU8_cons_of_ne rest h]

@[simp] theorem getBool?_cons_of_ne (h : other ≠ name) :
    FieldValues.getBool? ((other, v) :: rest) name = FieldValues.getBool? rest name := by
  rw [getBool?, getBool?, ifPresent, ifPresent, get?_cons_of_ne rest h, getBool_cons_of_ne rest h]

/-- an optional value is written down only if it is there -/
@[simp] theorem maybe_none (name : String) : maybe name none = [] := rfl

@[simp] theorem maybe_some (name : String) (v : Value) : maybe name (some v) = [(name, v)] := rfl

end Readers

end VisionMixer.FieldValues
