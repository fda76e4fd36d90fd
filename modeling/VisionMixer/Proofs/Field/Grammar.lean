/-
Which bodies a table accepts.

A body is accepted if it reaches the end of every field that must be there and has room for the records that it counts
(`Layout.Accepts`); everything else is a framing error (`guarded_decode`), and what follows the fields is never looked at
(`decode_append`). The values that are read are of the kinds and ranges of their fields (`typed_of_decode`).
-/
import VisionMixer.Field.Table
import VisionMixer.Proofs.Field.Scaled
import VisionMixer.Proofs.Guarded

namespace VisionMixer

/-- an error of the kind that malformed bytes cause -/
def Error.IsFraming (e : Error) : Prop := ∃ fault, e = .framing fault

/-! ### Integers that are read -/

/-- what is read in a width lies in its range -/
theorem Width.read_bounds (w : Width) (b : Bytes) : w.low ≤ w.read b ∧ w.read b ≤ w.high := by
  have hlt : Bytes.toNat (b.take w.size) < Bytes.runs w.size :=
    Nat.lt_of_lt_of_le (Bytes.toNat_lt_runs _) (Bytes.runs_mono (List.length_take_le _ _))
  rw [read]
  cases w <;> simp only [low, high, size, Bytes.runs] at * <;> split <;> omega

theorem Width.int_read_u8 (b : Bytes) : Value.int (Width.u8.read b) = .byte (b.head?.getD 0) := by
  cases b with
  | nil => rfl
  | cons x b =>
    have hx := x.toNat_lt
    have htake : Bytes.toNat ((x :: b).take 1) = x.toNat := by simp [Bytes.toNat]
    rw [read, show Width.u8.size = 1 from rfl, htake, if_pos (by simp only [high]; omega)]
    rfl

theorem Width.int_read_u16 (b : Bytes) : Value.int (Width.u16.read b) = .word (Bytes.toWord16 b) := by
  have hword := Bytes.toNat_toWord16 b
  have hlt := (Bytes.toWord16 b).toNat_lt
  rw [read, show Width.u16.size = 2 from rfl, ← hword, if_pos (by simp only [high]; omega), Value.word]

theorem Field.decode_u8 {a : Arithmetic} {body : Bytes} {name : String} {offset : Nat} (h : offset + 1 ≤ body.length) :
    Wire.decodeField a body (Field.u8 name offset) = .ok [(name, .byte ((body.drop offset).head?.getD 0))] := by
  refine Wire.decodeField_of_decode h ?_
  rw [← Width.int_read_u8]
  rfl

theorem Field.decode_u16 {a : Arithmetic} {body : Bytes} {name : String} {offset : Nat} (h : offset + 2 ≤ body.length) :
    Wire.decodeField a body (Field.u16 name offset) = .ok [(name, .word (Bytes.toWord16 (body.drop offset)))] := by
  refine Wire.decodeField_of_decode h ?_
  rw [← Width.int_read_u16]
  rfl

/-! ### Room in a body -/

/-- a body has room behind an offset for the records that are counted there -/
def Wire.RoomFor (offset : Nat) (body : Bytes) : Wire → Prop
  | .records stride _ => offset + 2 + (Width.u16.read (body.drop offset)).toNat * stride ≤ body.length
  | _ => True

/-- what a field asks of a body: to reach its end, if it must be there, and to hold the records that it counts -/
structure FieldOf.HasRoom (f : Field) (body : Bytes) : Prop where
  required : ¬f.optional → f.stop ≤ body.length
  records : f.stop ≤ body.length → f.wire.RoomFor f.offset body

/-- the bodies that a table accepts -/
structure Layout.Accepts (l : Layout) (body : Bytes) : Prop where
  size : l.minSize ≤ body.length
  records : ∀ f ∈ l.fields, f.stop ≤ body.length → f.wire.RoomFor f.offset body

variable {a : Arithmetic} {f : Field} {fields : List Field} {wire : Wire} {name : String} {offset : Nat}
  {body rest : Bytes} {values : FieldValues}

namespace Wire

/-- what holds no records can be read from anywhere -/
theorem decode_plain (h : wire.isCounted = false) : Succeeds (Wire.decode a name offset body wire) := by
  cases wire with
  | records => exact nomatch h
  | _ => exact ⟨_, rfl⟩

/-- a record of its full size is read -/
theorem decodeFields_plain (hplain : ∀ f ∈ fields, f.wire.isCounted = false)
    (hstop : ∀ f ∈ fields, f.stop ≤ body.length) :
    Succeeds (Wire.decodeFields a body fields) := by
  induction fields with
  | nil => exact ⟨[], rfl⟩
  | cons f fields ih =>
    obtain ⟨v, hv⟩ : Succeeds (f.wire.decode a f.name f.offset body) := decode_plain (hplain f List.mem_cons_self)
    obtain ⟨values, hvalues⟩ := ih (fun g hg => hplain g (List.mem_cons_of_mem f hg)) fun g hg =>
      hstop g (List.mem_cons_of_mem f hg)
    refine ⟨[(f.name, v)] ++ values, ?_⟩
    rw [decodeFields, decodeField_of_decode (hstop f List.mem_cons_self) hv, hvalues]
    rfl

theorem length_of_mem_chunks {size count : Nat} {b chunk : Bytes} (h : chunk ∈ Bytes.chunks size count b)
    (hroom : count * size ≤ b.length) : chunk.length = size := by
  induction count generalizing b with
  | zero => exact nomatch h
  | succ count ih =>
    rw [Nat.succ_mul] at hroom
    rcases List.mem_cons.mp h with rfl | h
    · rw [List.length_take]
      omega
    · exact ih h (by rw [List.length_drop]; omega)

/-- **An encoding** is read wherever there is room for its records. -/
theorem guarded_decode (hfit : wire.RecordsFit) :
    Guarded Error.IsFraming (wire.RoomFor offset body) (Wire.decode a name offset body wire) := by
  cases wire with
  | records stride inner =>
    obtain ⟨hpositive, hplain, hfits⟩ := hfit
    rw [decode]
    refine (Guarded.check (p := True) ⟨_, rfl⟩ fun hroom => ?_).congr (by rw [not_lt, and_true]; rfl)
    rw [if_neg hpositive.ne']
    refine ((Succeeds.mapM fun chunk hchunk => ?_).bind fun items => .ok _).guarded
    -- every chunk is as long as a record, so that the fields of records can all be read
    have hlength := length_of_mem_chunks hchunk (by rw [List.length_drop]; omega)
    exact decodeFields_plain hplain fun g hg => hlength ▸ hfits.within g hg
  | _ => exact (decode_plain rfl).guarded

theorem guarded_decodeField (hfit : f.wire.RecordsFit) :
    Guarded Error.IsFraming (f.HasRoom body) (Wire.decodeField a body f) := by
  have hroom : Guarded Error.IsFraming (f.wire.RoomFor f.offset body) (f.wire.decode a f.name f.offset body) :=
    guarded_decode hfit
  by_cases hstop : f.stop ≤ body.length
  · have hread : Wire.decodeField a body f = (fun v => [(f.name, v)]) <$> f.wire.decode a f.name f.offset body := by
      cases f with
      | mk name offset wire optional => exact if_neg (not_lt.mpr hstop)
    rw [hread]
    exact hroom.map.congr ⟨fun h => ⟨fun _ => hstop, fun _ => h⟩, fun h => h.records hstop⟩
  · by_cases hoptional : f.optional = true
    · rw [decodeField_missing (not_le.mp hstop) hoptional]
      exact (Guarded.ok _).congr ⟨fun _ => ⟨fun h => absurd hoptional h, fun h => absurd h hstop⟩, fun _ => trivial⟩
    · have hread : Wire.decodeField a body f = .error (.framing (.shortBody body.length f.name f.stop)) := by
        cases f with
        | mk name offset wire optional => exact (if_pos (not_le.mp hstop)).trans (if_neg hoptional)
      rw [hread]
      exact (Guarded.error ⟨_, rfl⟩).congr ⟨False.elim, fun h => hstop (h.required hoptional)⟩

theorem guarded_decodeFields (hfit : ∀ f ∈ fields, f.wire.RecordsFit) :
    Guarded Error.IsFraming (∀ f ∈ fields, f.HasRoom body) (Wire.decodeFields a body fields) := by
  induction fields with
  | nil => exact (Guarded.ok _).congr ⟨fun _ => List.forall_mem_nil _, fun _ => trivial⟩
  | cons f fields ih =>
    rw [decodeFields]
    refine ((guarded_decodeField (hfit f List.mem_cons_self)).bind fun _ _ =>
      (ih fun g hg => hfit g (List.mem_cons_of_mem f hg)).bind fun _ _ => .ok _).congr ?_
    rw [and_true, List.forall_mem_cons]

end Wire

namespace Layout

variable {l : Layout}

theorem minSize_le_iff {n : Nat} : l.minSize ≤ n ↔ ∀ f ∈ l.fields, ¬f.optional → f.stop ≤ n := by
  constructor
  · exact fun h f hf hrequired => le_trans (stop_le_minSize hf hrequired) h
  · intro h
    refine foldl_max_le (Nat.zero_le _) fun k hk => ?_
    obtain ⟨f, hf, rfl⟩ := List.mem_map.mp hk
    obtain ⟨hmem, hrequired⟩ := List.mem_filter.mp hf
    exact h f hmem (by simpa using hrequired)

theorem accepts_iff : l.Accepts body ↔ ∀ f ∈ l.fields, f.HasRoom body := by
  constructor
  · exact fun h f hf => ⟨minSize_le_iff.mp h.size f hf, h.records f hf⟩
  · exact fun h => ⟨minSize_le_iff.mpr fun f hf => (h f hf).required, fun f hf => (h f hf).records⟩

/-- **A table** accepts the bodies that reach the end of its fields and have room for their records. -/
theorem guarded_decode (hfit : ∀ f ∈ l.fields, f.wire.RecordsFit) :
    Guarded Error.IsFraming (l.Accepts body) (l.decode a body) :=
  (Wire.guarded_decodeFields hfit).congr accepts_iff.symm

/-- a table without records asks for its least size only -/
theorem accepts_iff_of_plain (hplain : ∀ f ∈ l.fields, f.wire.isCounted = false) :
    l.Accepts body ↔ l.minSize ≤ body.length := by
  refine ⟨Accepts.size, fun h => ⟨h, fun f hf _ => ?_⟩⟩
  have := hplain f hf
  cases hwire : f.wire with
  | records => rw [hwire] at this; exact nomatch this
  | _ => trivial

end Layout

/-! ### What follows the fields -/

theorem Width.read_append {w : Width} (h : offset + w.size ≤ body.length) :
    w.read ((body ++ rest).drop offset) = w.read (body.drop offset) := by
  rw [Wire.read_drop, Wire.read_drop, Bytes.slice_append h]

theorem Bytes.chunks_append {size count : Nat} {b : Bytes} (h : count * size ≤ b.length) :
    Bytes.chunks size count (b ++ rest) = Bytes.chunks size count b := by
  induction count generalizing b with
  | zero => rfl
  | succ count ih =>
    rw [Nat.succ_mul] at h
    rw [chunks, chunks, List.take_append_of_le_length (by omega), List.drop_append_of_le_length (by omega),
      ih (by rw [List.length_drop]; omega)]

/-- a field is read in the same way if more bytes follow -/
theorem Wire.decode_append (hstop : offset + wire.size ≤ body.length) (hroom : wire.RoomFor offset body) :
    Wire.decode a name offset (body ++ rest) wire = Wire.decode a name offset body wire := by
  cases wire with
  | int w => rw [decode, decode, Width.read_append hstop]
  | flags w => rw [decode, decode, Width.read_append hstop]
  | scaled w => rw [decode, decode, Width.read_append hstop]
  | bool =>
    have hslice : Bytes.slice (body ++ rest) offset 1 = Bytes.slice body offset 1 := Bytes.slice_append hstop
    rw [decode, decode, head?_drop, head?_drop, hslice]
  | single =>
    have hslice : ((body ++ rest).drop offset).take 4 = (body.drop offset).take 4 := Bytes.slice_append hstop
    rw [decode, decode, hslice]
  | ascii n =>
    have hslice : ((body ++ rest).drop offset).take n = (body.drop offset).take n := Bytes.slice_append hstop
    rw [decode, decode, hslice]
  | records stride fields =>
    have hcount : Width.u16.read ((body ++ rest).drop offset) = Width.u16.read (body.drop offset) :=
      Width.read_append hstop
    have hroom : offset + 2 + (Width.u16.read (body.drop offset)).toNat * stride ≤ body.length := hroom
    have hchunks : Bytes.chunks stride (Width.u16.read (body.drop offset)).toNat ((body ++ rest).drop (offset + 2)) =
        Bytes.chunks stride (Width.u16.read (body.drop offset)).toNat (body.drop (offset + 2)) := by
      rw [List.drop_append_of_le_length (by omega), Bytes.chunks_append (by rw [List.length_drop]; omega)]
    rw [decode, decode, hcount, hchunks, if_neg (by rw [List.length_append]; omega), if_neg (not_lt.mpr hroom)]

theorem Wire.decodeField_append (hstop : f.stop ≤ body.length) (hroom : f.wire.RoomFor f.offset body) :
    Wire.decodeField a (body ++ rest) f = Wire.decodeField a body f := by
  cases f with
  | mk name offset wire optional =>
    have hstop : offset + wire.size ≤ body.length := hstop
    rw [decodeField, decodeField, if_neg (by rw [List.length_append]; omega), if_neg (not_lt.mpr hstop),
      decode_append hstop hroom]

theorem Wire.decodeFields_append (hstop : ∀ f ∈ fields, f.stop ≤ body.length)
    (hroom : ∀ f ∈ fields, f.wire.RoomFor f.offset body) :
    Wire.decodeFields a (body ++ rest) fields = Wire.decodeFields a body fields := by
  induction fields with
  | nil => rfl
  | cons f fields ih =>
    rw [decodeFields, decodeFields, decodeField_append (hstop f List.mem_cons_self) (hroom f List.mem_cons_self),
      ih (fun g hg => hstop g (List.mem_cons_of_mem f hg)) fun g hg => hroom g (List.mem_cons_of_mem f hg)]

/-- **More bytes** behind all fields of a table change nothing. -/
theorem Layout.decode_append {l : Layout} (h : l.Accepts body) (hstop : ∀ f ∈ l.fields, f.stop ≤ body.length) :
    l.decode a (body ++ rest) = l.decode a body :=
  Wire.decodeFields_append hstop fun f hf => h.records f hf (hstop f hf)

/-! ### Kinds and ranges -/

/-- the values that a field of an encoding may have been read as -/
inductive Wire.Holds : Wire → Value → Prop
  | int {w : Width} {n : Int} (low : w.low ≤ n) (high : n ≤ w.high) : Holds (.int w) (.int n)
  | flags {w : Width} {n : Int} (low : w.low ≤ n) (high : n ≤ w.high) : Holds (.flags w) (.int n)
  | bool (b : Bool) : Holds .bool (.bool b)
  | single (x : Number) : Holds .single (.float x)
  | scaled {w : Width} {scale least greatest : Number} (x : Number) : Holds (.scaled w scale least greatest) (.float x)
  | ascii {size : Nat} (s : String) : Holds (.ascii size) (.text s)
  | records {stride : Nat} {fields : List Field} {items : List FieldValues}
    (named : ∀ item ∈ items, ∀ f ∈ fields, ¬f.optional → (item.get? f.name).isSome)
    (carried : ∀ item ∈ items, ∀ p ∈ item, ∃ f ∈ fields, f.name = p.1)
    (held : ∀ item ∈ items, ∀ f ∈ fields, ∀ v, item.get? f.name = some v → Holds f.wire v) :
    Holds (.records stride fields) (.records items)

/-- values of the fields of a table: each of its kind and range, and none missing that must be there -/
structure FieldValues.Typed (fields : List Field) (values : FieldValues) : Prop where
  named : ∀ f ∈ fields, ¬f.optional → (values.get? f.name).isSome
  carried : ∀ p ∈ values, ∃ f ∈ fields, f.name = p.1
  held : ∀ f ∈ fields, ∀ v, values.get? f.name = some v → f.wire.Holds v

theorem Wire.holds_of_decode_plain {v : Value} (hplain : wire.isCounted = false)
    (h : Wire.decode a name offset body wire = .ok v) : wire.Holds v := by
  cases wire with
  | records => exact nomatch hplain
  | int w =>
    cases h
    exact .int (w.read_bounds _).1 (w.read_bounds _).2
  | flags w =>
    cases h
    exact .flags (w.read_bounds _).1 (w.read_bounds _).2
  | bool =>
    cases h
    exact .bool _
  | single =>
    cases h
    exact .single _
  | scaled =>
    cases h
    exact .scaled _
  | ascii =>
    cases h
    exact .ascii _

/-- only an optional field is left out -/
theorem Wire.optional_of_decodeField (h : Wire.decodeField a body f = .ok []) : f.optional := by
  cases f with
  | mk name offset wire optional =>
    rw [decodeField] at h
    split at h
    · split at h
      · assumption
      · cases h
    · obtain ⟨v, -, hpart⟩ := bind_eq_ok.mp h
      cases hpart

/-- every field that must be there has its name among the values, and no other name is there -/
theorem Wire.names_of_decodeFields (h : Wire.decodeFields a body fields = .ok values) :
    (∀ f ∈ fields, ¬f.optional → (values.get? f.name).isSome) ∧ ∀ p ∈ values, ∃ f ∈ fields, f.name = p.1 := by
  induction fields generalizing values with
  | nil =>
    cases h
    exact ⟨List.forall_mem_nil _, List.forall_mem_nil _⟩
  | cons g fields ih =>
    rw [decodeFields] at h
    obtain ⟨part, hpart, hrest⟩ := bind_eq_ok.mp h
    obtain ⟨rest, hdecode, hvalues⟩ := bind_eq_ok.mp hrest
    cases hvalues
    obtain ⟨hnamed, hcarried⟩ := ih hdecode
    have hmore : ∀ f ∈ fields, ¬f.optional → (FieldValues.get? (part ++ rest) f.name).isSome := by
      intro f hf hrequired
      rw [FieldValues.get?_append, Option.isSome_or, hnamed f hf hrequired, Bool.or_true]
    have hless : ∀ p ∈ rest, ∃ f ∈ g :: fields, f.name = p.1 := by
      intro p hp
      obtain ⟨f, hf, hname⟩ := hcarried p hp
      exact ⟨f, List.mem_cons_of_mem g hf, hname⟩
    rcases Layout.decodeField_eq_ok hpart with ⟨rfl, -⟩ | ⟨v, rfl, -⟩
    · have hoptional := optional_of_decodeField hpart
      exact ⟨List.forall_mem_cons.mpr ⟨fun hrequired => absurd hoptional hrequired, hmore⟩, hless⟩
    · have hself : (FieldValues.get? ([(g.name, v)] ++ rest) g.name).isSome := by
        rw [List.singleton_append, FieldValues.get?_cons_self]
        rfl
      exact ⟨List.forall_mem_cons.mpr ⟨fun _ => hself, hmore⟩,
        List.forall_mem_cons.mpr ⟨⟨g, List.mem_cons_self, rfl⟩, hless⟩⟩

theorem Wire.holds_of_decode {v : Value} (hfit : wire.RecordsFit) (h : Wire.decode a name offset body wire = .ok v) :
    wire.Holds v := by
  cases hcounted : wire.isCounted with
  | false => exact holds_of_decode_plain hcounted h
  | true =>
    cases wire with
    | records stride inner =>
      obtain ⟨-, hplain, hfits⟩ := hfit
      rw [decode] at h
      split at h
      · cases h
      split at h
      · cases h
      obtain ⟨items, hitems, hv⟩ := bind_eq_ok.mp h
      cases hv
      have hread : ∀ item ∈ items, ∃ chunk, Wire.decodeFields a chunk inner = .ok item := fun item hitem => by
        obtain ⟨chunk, -, hchunk⟩ := mem_of_mapM hitems hitem
        exact ⟨chunk, hchunk⟩
      refine .records (fun item hitem => ?_) (fun item hitem => ?_) fun item hitem f hf v hv => ?_
      · obtain ⟨chunk, hchunk⟩ := hread item hitem
        exact (names_of_decodeFields hchunk).1
      · obtain ⟨chunk, hchunk⟩ := hread item hitem
        exact (names_of_decodeFields hchunk).2
      · obtain ⟨chunk, hchunk⟩ := hread item hitem
        obtain ⟨g, hg, hname, hdecode⟩ := Layout.decode_of_get? hchunk hv
        have hsame : g = f := List.inj_on_of_nodup_map hfits.names hg hf hname
        subst hsame
        exact holds_of_decode_plain (hplain g hg) hdecode
    | _ => exact absurd hcounted Bool.false_ne_true

/-- **What is read** is of the kinds and ranges of the table. -/
theorem Layout.typed_of_decode {l : Layout} (hwf : l.WellFormed) (h : l.decode a body = .ok values) :
    values.Typed l.fields where
  named := (Wire.names_of_decodeFields h).1
  carried := (Wire.names_of_decodeFields h).2
  held := by
    intro f hf v hv
    obtain ⟨g, hg, hname, hdecode⟩ := decode_of_get? h hv
    have hsame : g = f := List.inj_on_of_nodup_map hwf.fits.names hg hf hname
    subst hsame
    exact Wire.holds_of_decode (hwf.records g hg) hdecode

/-! ### Readers of such values -/

namespace Wire

/-- the encoding reads as an integer of a width -/
def isInteger (w : Width) : Wire → Bool
  | .int w' | .flags w' => w' = w
  | _ => false

/-- the encoding reads as a truth value -/
def isTruth : Wire → Bool
  | .bool => true
  | _ => false

/-- the encoding reads as a number -/
def isNumber : Wire → Bool
  | .single | .scaled .. => true
  | _ => false

/-- the encoding reads as a text -/
def isText : Wire → Bool
  | .ascii _ => true
  | _ => false

end Wire

/-- a table has a field of a name and a kind that must be there -/
def Demands (fields : List Field) (name : String) (kind : Wire → Bool) : Prop :=
  (fields.any fun f => f.name = name && kind f.wire && !f.optional) = true

/-- the fields of a name in a table, if there are any, are of a kind -/
def Allows (fields : List Field) (name : String) (kind : Wire → Bool) : Prop :=
  (fields.all fun f => f.name ≠ name || kind f.wire) = true

namespace FieldValues.Typed

variable {kind : Wire → Bool} {v : Value}

theorem get?_of_demands (h : values.Typed fields) (hf : Demands fields name kind) :
    ∃ v wire, values.get? name = some v ∧ kind wire = true ∧ wire.Holds v := by
  obtain ⟨f, hmem, hkind⟩ := List.any_eq_true.mp hf
  simp only [Bool.and_eq_true, decide_eq_true_eq, Bool.not_eq_true'] at hkind
  obtain ⟨⟨rfl, hkind⟩, hrequired⟩ := hkind
  obtain ⟨v, hv⟩ := Option.isSome_iff_exists.mp (h.named f hmem (by rw [hrequired]; decide))
  exact ⟨v, f.wire, hv, hkind, h.held f hmem v hv⟩

theorem holds_of_allows (h : values.Typed fields) (hf : Allows fields name kind) (hv : values.get? name = some v) :
    ∃ wire, kind wire = true ∧ wire.Holds v := by
  obtain ⟨p, hp, rfl⟩ := Option.map_eq_some_iff.mp hv
  obtain ⟨f, hmem, hname⟩ := h.carried p (List.mem_of_find?_eq_some hp)
  have hsame : p.1 = name := by simpa using List.find?_some hp
  have hkind := List.all_eq_true.mp hf f hmem
  rw [hname, hsame] at hkind
  exact ⟨f.wire, by simpa using hkind, h.held f hmem p.2 (by rw [hname, hsame]; exact hv)⟩

/-! #### One value of a kind -/

theorem getWidth_of_get? {w : Width} {wire : Wire} (hkind : wire.isInteger w = true) (hholds : wire.Holds v)
    (hv : values.get? name = some v) : Succeeds (values.getWidth name w) := by
  cases hholds with
  | int low high =>
    obtain rfl : _ = w := by simpa [Wire.isInteger] using hkind
    exact ⟨_, getInt_of_get? hv low high⟩
  | flags low high =>
    obtain rfl : _ = w := by simpa [Wire.isInteger] using hkind
    exact ⟨_, getInt_of_get? hv low high⟩
  | _ => exact absurd hkind Bool.false_ne_true

theorem getBool_of_holds {wire : Wire} (hkind : wire.isTruth = true) (hholds : wire.Holds v)
    (hv : values.get? name = some v) : Succeeds (values.getBool name) := by
  cases hholds with
  | bool b => exact ⟨b, getBool_of_get? hv⟩
  | _ => exact absurd hkind Bool.false_ne_true

/-! #### Values that must be there -/

theorem getU8 (h : values.Typed fields) (name : String) (hf : Demands fields name (Wire.isInteger .u8)) :
    Succeeds (values.getU8 name) := by
  obtain ⟨v, wire, hv, hkind, hholds⟩ := h.get?_of_demands hf
  exact (getWidth_of_get? hkind hholds hv).bind fun _ => .ok _

theorem getU16 (h : values.Typed fields) (name : String) (hf : Demands fields name (Wire.isInteger .u16)) :
    Succeeds (values.getU16 name) := by
  obtain ⟨v, wire, hv, hkind, hholds⟩ := h.get?_of_demands hf
  exact (getWidth_of_get? hkind hholds hv).bind fun _ => .ok _

theorem getBool (h : values.Typed fields) (name : String) (hf : Demands fields name Wire.isTruth) :
    Succeeds (values.getBool name) := by
  obtain ⟨v, wire, hv, hkind, hholds⟩ := h.get?_of_demands hf
  exact getBool_of_holds hkind hholds hv

theorem getFloat (h : values.Typed fields) (name : String) (hf : Demands fields name Wire.isNumber) :
    Succeeds (values.getFloat name) := by
  obtain ⟨v, wire, hv, hkind, hholds⟩ := h.get?_of_demands hf
  cases hholds with
  | single x => exact ⟨x, getFloat_eq_ok.mpr hv⟩
  | scaled x => exact ⟨x, getFloat_eq_ok.mpr hv⟩
  | _ => exact absurd hkind Bool.false_ne_true

theorem getText (h : values.Typed fields) (name : String) (hf : Demands fields name Wire.isText) :
    Succeeds (values.getText name) := by
  obtain ⟨v, wire, hv, hkind, hholds⟩ := h.get?_of_demands hf
  cases hholds with
  | ascii s => exact ⟨s, by rw [FieldValues.getText, require_eq_ok.mpr hv]; rfl⟩
  | _ => exact absurd hkind Bool.false_ne_true

/-- a list of records, each of the fields of its own -/
theorem getRecords {stride : Nat} {inner : List Field} (h : values.Typed fields) {f : Field} (hf : f ∈ fields)
    (hname : f.name = name) (hrequired : f.optional = false) (hwire : f.wire = .records stride inner) :
    ∃ items, values.getRecords name = .ok items ∧ ∀ item ∈ items, item.Typed inner := by
  obtain ⟨v, hv⟩ := Option.isSome_iff_exists.mp (h.named f hf (by rw [hrequired]; decide))
  have hholds := h.held f hf v hv
  rw [hwire] at hholds
  rw [hname] at hv
  cases hholds with
  | @records _ _ items named carried held =>
    refine ⟨items, by rw [FieldValues.getRecords, require_eq_ok.mpr hv]; rfl, ?_⟩
    exact fun item hitem => ⟨named item hitem, carried item hitem, held item hitem⟩

/-! #### Values that may be missing -/

theorem ifPresent {α : Type} {read : Except Error α} (hread : ∀ v, values.get? name = some v → Succeeds read) :
    Succeeds (values.ifPresent name read) := by
  unfold FieldValues.ifPresent
  split
  · next v hv =>
    obtain ⟨x, rfl⟩ := hread v hv
    exact ⟨some x, rfl⟩
  · exact .ok none

theorem getU8? (h : values.Typed fields) (name : String) (hf : Allows fields name (Wire.isInteger .u8)) :
    Succeeds (values.getU8? name) := by
  refine ifPresent fun v hv => ?_
  obtain ⟨wire, hkind, hholds⟩ := h.holds_of_allows hf hv
  exact (getWidth_of_get? hkind hholds hv).bind fun _ => .ok _

theorem getBool? (h : values.Typed fields) (name : String) (hf : Allows fields name Wire.isTruth) :
    Succeeds (values.getBool? name) := by
  refine ifPresent fun v hv => ?_
  obtain ⟨wire, hkind, hholds⟩ := h.holds_of_allows hf hv
  exact getBool_of_holds hkind hholds hv

end FieldValues.Typed

end VisionMixer
