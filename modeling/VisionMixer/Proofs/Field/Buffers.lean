/-
Writing bodies inside their buffers.

Everything written over a body has to fit (`Bytes.patch?`), and with a `Consistent` table it does: `Layout.encode` fails
by encoding errors only. The checked writer measures its buffers besides, and agrees with the plain one up to its limit
(`encodeChecked_agrees`). Reading and writing together are `coding_stays_inside`. The condition on the limit is needed:
`wide_records_overrun` is a table within itself whose records end past a word of 64 bits.
-/
import VisionMixer.Proofs.Field.Access

namespace VisionMixer

variable {a : Arithmetic} {l : Layout} {f : Field} {fields : List Field} {wire : Wire} {name : String} {stride limit : Nat}
  {body : Bytes} {values : FieldValues}

/-! ### What writing fails with -/

theorem Wire.fails_encode {v : Value} : FailsAs Error.IsEncoding (wire.encode a name v) := by
  unfold encode
  split
  · exact .of_guarded Width.guarded_encode
  · exact .of_guarded Width.guarded_encode
  · exact .ok _
  · exact .ite (fun _ => .ok _) fun _ => .error ⟨_, rfl⟩
  · exact .ite (fun _ => .of_guarded Width.guarded_encode) fun _ => .error ⟨_, rfl⟩
  · exact .ite (fun _ => .error ⟨_, rfl⟩) fun _ => .ite (fun _ => .error ⟨_, rfl⟩) fun _ => .ok _
  · exact .error ⟨_, rfl⟩

/-- a field that ends inside a body finds room in it -/
theorem FieldOf.fails_write {v : Value} (hstop : f.stop ≤ body.length) :
    FailsAs Error.IsEncoding (f.write a v body) := by
  have hroom : f.offset + f.wire.size ≤ body.length := hstop
  rw [write, if_neg (by omega)]
  refine Wire.fails_encode.bind fun patch hpatch => ?_
  have hsize := (Wire.encode_eq_ok.mp hpatch).length_le
  have hpatched := Bytes.patch?_eq_some.mpr ⟨(by omega : f.offset + patch.length ≤ body.length), rfl⟩
  rw [hpatched]
  exact .ok _

namespace Layout

variable {d d' : Draft}

theorem fails_encodeRecord {item : FieldValues} (hwithin : ∀ f ∈ fields, f.stop ≤ stride) :
    FailsAs Error.IsEncoding (encodeRecord a stride fields item) := by
  have hlength : (Bytes.zeros stride).length = stride := List.length_replicate
  rw [encodeRecord]
  refine (FailsAs.of_guarded FieldValues.guarded_checkCarried).bind fun _ _ =>
    FailsAs.foldlM (fun record : Bytes => record.length = stride) (fun f hf record hrecord => ⟨?_, fun record' h => ?_⟩)
      hlength
  · rw [encodeInRecord]
    cases item.get? f.name with
    | none => exact .error ⟨_, rfl⟩
    | some v => exact FieldOf.fails_write (hrecord ▸ hwithin f hf)
  · exact (encodeInRecord_changes f record record' h).length.trans hrecord

theorem fails_encodeField (hbounded : f.wire.Bounded) (hstop : f.stop ≤ d.body.length) :
    FailsAs Error.IsEncoding (encodeField a values d f) := by
  unfold encodeField
  cases values.get? f.name with
  | none => exact .ite (fun _ => .ok _) fun _ => .error ⟨_, rfl⟩
  | some v =>
    dsimp only
    split
    · next stride fields hwire =>
      rw [hwire] at hbounded
      have hroom : f.offset + 2 ≤ d.body.length := by rwa [FieldOf.stop, hwire] at hstop
      split
      · next items =>
        have hpatched := Bytes.patch?_eq_some.mpr
          ⟨(by rwa [Width.length_write] : f.offset + (Width.u16.write items.length).length ≤ d.body.length), rfl⟩
        rw [hpatched]
        cases hbounded with
        | plain hplain => cases hplain
        | records _ hwithin _ =>
          exact .ite (fun _ => .error ⟨_, rfl⟩) fun _ =>
            (FailsAs.mapM fun item _ => fails_encodeRecord hwithin).bind fun records _ => .ok _
      · exact .error ⟨_, rfl⟩
    · exact (FieldOf.fails_write hstop).bind fun body _ => .ok _

theorem fails_encode (h : l.Consistent) : FailsAs Error.IsEncoding (l.encode a values) := by
  have hlength : (Bytes.zeros l.size).length = l.size := List.length_replicate
  rw [encode]
  refine (FailsAs.of_guarded FieldValues.guarded_checkCarried).bind fun _ _ => FailsAs.bind ?_ fun d _ => .ok _
  refine FailsAs.foldlM (fun d : Draft => d.body.length = l.size) (fun f hf d hd => ⟨?_, fun d' hd' => ?_⟩) hlength
  · exact fails_encodeField (h.bounded f hf) (hd ▸ h.within f hf)
  · exact (encodeField_changes f d d' hd').length.trans hd

/-! ### What buffers hold -/

/-- one more record, written in a buffer of its own -/
theorem appendRecord_agrees {tail : Bytes} {item : FieldValues} {bound : Nat} (hroom : tail.length + stride ≤ bound) :
    Agrees limit bound (appendRecord limit a stride fields tail item)
      (do return tail ++ (← encodeRecord a stride fields item)) := by
  rw [appendRecord, encodeRecord, bind_assoc]
  refine .bind .refl fun _ _ => .counted (by omega) fun _ => .bind .refl fun record hrecord => ?_
  have hlength : record.length = stride :=
    (changes_of_foldlM id encodeInRecord_changes hrecord).1.trans List.length_replicate
  exact .counted (hlength ▸ hroom) fun _ => .refl

/-- the records of a list, one after another -/
theorem appendRecords_agrees {tail : Bytes} {items : List FieldValues} {bound : Nat}
    (hroom : tail.length + items.length * stride ≤ bound) :
    Agrees limit bound (items.foldlM (appendRecord limit a stride fields) tail)
      (do return tail ++ (← items.mapM (encodeRecord a stride fields)).flatten) := by
  induction items generalizing tail with
  | nil => exact .inl (by simp)
  | cons item items ih =>
    have hsplit : (do return tail ++ (← (item :: items).mapM (encodeRecord a stride fields)).flatten) =
        ((do return tail ++ (← encodeRecord a stride fields item)) >>= fun tail : Bytes =>
          do return tail ++ (← items.mapM (encodeRecord a stride fields)).flatten) := by
      simp only [List.mapM_cons, bind_assoc, pure_bind, List.flatten_cons, List.append_assoc]
    rw [List.length_cons, Nat.add_one_mul] at hroom
    rw [hsplit, List.foldlM_cons]
    refine (appendRecord_agrees (by omega)).bind fun tail' htail => ih ?_
    obtain ⟨record, hrecord, hwhole⟩ := bind_eq_ok.mp htail
    cases hwhole
    rw [List.length_append, length_encodeRecord hrecord]
    omega

theorem encodeFieldChecked_plain (hplain : f.wire.isCounted = false) :
    encodeFieldChecked limit a values d f = encodeField a values d f := by
  unfold encodeFieldChecked
  split
  · next hwire _ =>
    rw [hwire] at hplain
    exact nomatch hplain
  · rfl

theorem encodeFieldChecked_records {bound : Nat} (hwire : f.wire = .records stride fields)
    (hroom : d.tail.length + 65535 * stride ≤ bound) :
    Agrees limit bound (encodeFieldChecked limit a values d f) (encodeField a values d f) := by
  unfold encodeFieldChecked
  split
  · next stride' fields' items hwire' hvalue =>
    rw [hwire] at hwire'
    cases hwire'
    rw [encodeField, hvalue]
    dsimp only
    rw [hwire]
    refine .ite (fun _ => .refl) fun hfew => ?_
    have hspan := Nat.mul_le_mul_right stride (not_lt.mp hfew)
    cases d.body.patch? f.offset (Width.u16.write items.length) with
    | none => exact .refl
    | some body =>
      have happend : Agrees limit bound (items.foldlM (appendRecord limit a stride fields) d.tail)
          (do return d.tail ++ (← items.mapM (encodeRecord a stride fields)).flatten) := appendRecords_agrees (by omega)
      have hdraft := happend.bind (f := fun tail => pure { d with body, tail })
        (g := fun tail => pure { d with body, tail }) fun tail _ => .refl
      simpa only [bind_assoc, pure_bind] using hdraft
  · exact .refl

/-- the fixed part and as many records as a list can have stay within reach -/
theorem room_le_reach (h : l.Consistent) (hf : f ∈ l.fields) (hwire : f.wire = .records stride fields) :
    l.size + 65535 * stride ≤ l.reach := by
  have hend : f.stop = l.size := h.records_end f hf (by rw [hwire]; rfl)
  have hreach := Wire.reach_le_reachAll hf
  rw [hwire] at hreach
  rw [← hend, FieldOf.stop, hwire]
  exact (le_max_left _ _).trans (hreach.trans (le_max_right _ _))

/-- fields without records leave the tail alone -/
theorem tail_of_plain (hplain : ∀ f ∈ fields, f.wire.isCounted = false)
    (h : fields.foldlM (encodeField a values) d = .ok d') : d'.tail = d.tail := by
  refine (tail_of_foldlM h).resolve_right ?_
  rintro ⟨f, hf, hcounted, -⟩
  exact Bool.false_ne_true ((hplain f hf).symm.trans hcounted)

/-- the draft of a consistent table and its records stay within reach -/
theorem tail_le_reach (h : l.Consistent) (htail : d.tail = [])
    (hd : l.fields.foldlM (encodeField a values) d = .ok d') : l.size + d'.tail.length ≤ l.reach := by
  rcases l.fields.eq_nil_or_concat with hnil | ⟨pre, f, hfields⟩
  · rw [hnil] at hd
    cases hd
    rw [htail]
    exact le_max_left _ _
  · rw [List.concat_eq_append] at hfields
    have hplain := h.records_last
    rw [hfields, List.dropLast_concat] at hplain
    rw [hfields] at hd
    obtain ⟨t, u, hpre, hstep, hrest⟩ := foldlM_split hd
    cases hrest
    have ht := (tail_of_plain hplain hpre).trans htail
    cases encodeField_eq_ok.mp hstep with
    | missing | plain =>
      rw [ht]
      exact le_max_left _ _
    | @counted stride fields items records body hwire _ hfew _ hencoded =>
      obtain ⟨hsame, hstride⟩ := length_of_mapM_encodeRecord hencoded
      have hroom := room_le_reach h (hfields ▸ List.mem_append_right pre List.mem_cons_self) hwire
      have hspan := Nat.mul_le_mul_right stride hfew
      rw [ht, List.nil_append, length_flatten hstride, hsame]
      omega

/-- a draft is written the same with its buffers measured, up to the limit -/
theorem draft_agrees (h : l.Consistent) (htail : d.tail = []) :
    Agrees limit l.reach (l.fields.foldlM (encodeFieldChecked limit a values) d)
      (l.fields.foldlM (encodeField a values) d) := by
  rcases l.fields.eq_nil_or_concat with hnil | ⟨pre, f, hfields⟩
  · rw [hnil]
    exact .refl
  · rw [List.concat_eq_append] at hfields
    have hplain := h.records_last
    rw [hfields, List.dropLast_concat] at hplain
    have hpre : Agrees limit l.reach (pre.foldlM (encodeFieldChecked limit a values) d)
        (pre.foldlM (encodeField a values) d) :=
      .foldlM (fun _ => True) (fun f hf d _ => ⟨.inl (encodeFieldChecked_plain (hplain f hf)), fun _ _ => trivial⟩) trivial
    rw [hfields, List.foldlM_append, List.foldlM_append]
    refine hpre.bind fun t ht => ?_
    have htail : t.tail = [] := (tail_of_plain hplain ht).trans htail
    simp only [List.foldlM_cons, List.foldlM_nil, bind_pure]
    cases hwire : f.wire with
    | records stride fields =>
      have hroom := room_le_reach h (hfields ▸ List.mem_append_right pre List.mem_cons_self) hwire
      exact encodeFieldChecked_records hwire (by rw [htail, List.length_nil]; omega)
    | _ => exact .inl (encodeFieldChecked_plain (by rw [hwire]; rfl))

/-- a body is written the same with its buffers measured, up to the limit -/
theorem encodeChecked_agrees (h : l.Consistent) :
    Agrees limit l.reach (l.encodeChecked limit a values) (l.encode a values) := by
  rw [encodeChecked, encode]
  refine .bind .refl fun _ _ => .counted (le_max_left _ _) fun _ => (draft_agrees h rfl).bind fun d hd => ?_
  have hroom := tail_le_reach h rfl hd
  have hbody : d.body.length = l.size := length_body hd
  have hleast : l.minSize ≤ l.size := minSize_le h.within
  cases d.short with
  | true =>
    have hcut : (d.body.take l.minSize).length ≤ l.size := by
      rw [List.length_take]
      omega
    simp only [if_true, bind_map_left]
    exact .counted (hleast.trans (le_max_left _ _)) fun _ => .counted (by omega) fun _ => .refl
  | false => exact .counted (by omega) fun _ => .refl

/-! ### The length of a body -/

/-- the bytes of the records that a field has -/
def recordBytes (values : FieldValues) (f : Field) : Nat :=
  match f.wire, values.get? f.name with
  | .records stride _, some (.records items) => stride * items.length
  | _, _ => 0

theorem recordBytes_of_plain (h : f.wire.isCounted = false) : recordBytes values f = 0 := by
  rw [recordBytes]
  split
  · next hwire _ => exact nomatch hwire ▸ h
  · rfl

theorem recordBytes_of_absent (h : values.get? f.name = none) : recordBytes values f = 0 := by
  rw [recordBytes, h]
  split
  · next hnone => exact nomatch hnone
  · rfl

/-- records are all that stands behind the fixed part -/
theorem length_tail (h : fields.foldlM (encodeField a values) d = .ok d') :
    d'.tail.length = d.tail.length + (fields.map (recordBytes values)).sum := by
  induction fields generalizing d with
  | nil =>
    cases h
    rfl
  | cons f fields ih =>
    obtain ⟨t, ht, hrest⟩ := foldlM_cons_eq_ok.mp h
    rw [ih hrest, List.map_cons, List.sum_cons, ← Nat.add_assoc]
    congr 1
    cases encodeField_eq_ok.mp ht with
    | missing habsent => rw [recordBytes_of_absent habsent, Nat.add_zero]
    | plain _ hwrites => rw [recordBytes_of_plain hwrites.not_isCounted, Nat.add_zero]
    | counted hwire hpresent hfew hpatched hencoded =>
      obtain ⟨hsame, hstride⟩ := length_of_mapM_encodeRecord hencoded
      rw [recordBytes, hwire, hpresent, List.length_append, length_flatten hstride, hsame, Nat.mul_comm]

/-- **How long a body is.** -/
theorem length_of_consistent (h : l.Consistent) (hencode : l.encode a values = .ok body) :
    body.length = (if ∃ f ∈ l.fields, f.optional ∧ values.get? f.name = none then l.minSize else l.size)
      + (l.fields.map (recordBytes values)).sum := by
  obtain ⟨-, d, hd, rfl⟩ := encode_eq_ok.mp hencode
  have hshort : d.short ↔ ∃ f ∈ l.fields, f.optional ∧ values.get? f.name = none := by
    constructor
    · exact fun hshort => (missing_of_short hd hshort).resolve_left Bool.false_ne_true
    · rintro ⟨f, hf, -, habsent⟩
      exact short_of_missing hd hf habsent
  rw [length_finish hd h.within, length_tail hd, List.length_nil, Nat.zero_add]
  simp only [hshort]

/-- **Coding stays inside.** With a consistent table no access leaves a body, whatever the limit is. Reading, with every
access checked, gives values, a framing error, or a position between the limit and the reach of the table; writing gives a
body, an encoding error, or such a position. If the table reaches less far than the limit, no such position is met, and
both are what they are without checks; if the records of a list can end at the limit or past it, a body of ones meets
one. A body is as long as the fixed part, or as its least size if an optional value is missing, and the records behind it. -/
theorem coding_stays_inside (h : l.Consistent) (limit : Nat) :
    (∀ (a : Arithmetic) (body : Bytes),
      Succeeds (l.decodeChecked limit a body) ∨ (∃ e, l.decodeChecked limit a body = .error e ∧ e.IsFraming)
        ∨ Overruns limit l.reach (l.decodeChecked limit a body)) ∧
    (∀ (a : Arithmetic) (values : FieldValues),
      Succeeds (l.encodeChecked limit a values) ∨ (∃ e, l.encodeChecked limit a values = .error e ∧ e.IsEncoding)
        ∨ Overruns limit l.reach (l.encodeChecked limit a values)) ∧
    (l.reach < limit → (∀ (a : Arithmetic) (body : Bytes), l.decodeChecked limit a body = l.decode a body) ∧
      ∀ (a : Arithmetic) (values : FieldValues), l.encodeChecked limit a values = l.encode a values) ∧
    (∀ f ∈ l.fields, ∀ (stride : Nat) (fields : List Field), f.wire = .records stride fields →
      limit ≤ f.offset + 2 + 65535 * stride → ∀ a : Arithmetic,
        Overruns limit l.reach (l.decodeChecked limit a (List.replicate l.size 255))) ∧
    ∀ (a : Arithmetic) (values : FieldValues) (body : Bytes), l.encodeChecked limit a values = .ok body →
      body.length = (if ∃ f ∈ l.fields, f.optional ∧ values.get? f.name = none then l.minSize else l.size)
        + (l.fields.map (recordBytes values)).sum := by
  refine ⟨fun a body => (decodeChecked_agrees h).ok_or_error (fails_decode h),
    fun a values => (encodeChecked_agrees h).ok_or_error (fails_encode h), fun hlt => ⟨fun a body => ?_, fun a values => ?_⟩,
    fun f hf stride fields hwire hwide a => overruns_of_wide h hf hwire hwide, fun a values body hbody => ?_⟩
  · exact (decodeChecked_agrees h).eq_of_lt hlt
  · exact (encodeChecked_agrees h).eq_of_lt hlt
  · have hwritten : Agrees limit l.reach (l.encodeChecked limit a values) (l.encode a values) := encodeChecked_agrees h
    exact length_of_consistent h (hwritten.ok_of_ok hbody)

/-- records in records that may be left out, with positions below 262144: a body is read to its last mark, one with too
few bytes for the second record is refused, and values without the records are written in one byte; one position less, and
65535 records are too many -/
theorem coding_stays_inside_nested :
    let marks : Field := ⟨"marks", 1, .records 1 [Field.bool "mark" 0], false⟩
    let l : Layout := ⟨3, [Field.u8 "id" 0, ⟨"items", 1, .records 4 [Field.u8 "kind" 0, marks], true⟩]⟩
    l.Consistent ∧ l.reach = 262143 ∧
      l.decodeChecked 262144 .exact [7, 0, 1, 65, 0, 1, 1] =
        .ok [("id", .byte 7), ("items", .records [[("kind", .byte 65), ("marks", .records [[("mark", .bool true)]])]])] ∧
      (∃ e, l.decodeChecked 262144 .exact [7, 0, 2, 65, 0, 1, 1] = .error e ∧ e.IsFraming) ∧
      (∀ body, l.encodeChecked 262144 .exact [("id", .byte 7)] = .ok body → body.length = 1) ∧
      Overruns 262143 262143 (l.decodeChecked 262143 .exact [255, 255, 255]) := by
  intro marks l
  have hmarks : marks.wire.Bounded :=
    .records (by decide) (by decide) (List.forall_mem_singleton.mpr (.plain rfl))
  have hitems : (Wire.records 4 [Field.u8 "kind" 0, marks]).Bounded :=
    .records (by decide) (by decide) (List.forall_mem_cons.mpr ⟨.plain rfl, List.forall_mem_singleton.mpr hmarks⟩)
  have hl : l.Consistent := {
    optional_last := by decide
    within := by decide
    records_last := by decide
    records_end := by decide
    bounded := List.forall_mem_cons.mpr ⟨.plain rfl, List.forall_mem_singleton.mpr hitems⟩ }
  have hreach : l.reach = 262143 := rfl
  obtain ⟨hread, -, hsame, -, hlength⟩ := coding_stays_inside hl 262144
  obtain ⟨hdecode, -⟩ := hsame (by rw [hreach]; decide)
  refine ⟨hl, hreach, ?_, ?_, fun body hbody => ?_, ?_⟩
  · rw [hdecode .exact]
    cbv
  · have hrefused : ¬Succeeds (l.decodeChecked 262144 .exact [7, 0, 2, 65, 0, 1, 1]) := by
      rintro ⟨values, hvalues⟩
      cbv at hvalues
      cases hvalues
    rcases (hread .exact [7, 0, 2, 65, 0, 1, 1]).resolve_left hrefused with herror | ⟨n, hlimit, hbound, -⟩
    · exact herror
    · omega
  · rw [hlength .exact _ body hbody]
    rfl
  · exact (coding_stays_inside hl 262143).2.2.2.1 _ (List.mem_cons_of_mem _ List.mem_cons_self) 4 _ rfl (by decide) .exact

/-- two records of half a word each: a table that stays inside itself, and a body of two bytes whose records end at a
position that a word of 64 bits does not hold -/
theorem wide_records_overrun :
    let r : Field := ⟨"r", 0, .records 9223372036854775807 [], false⟩
    let l : Layout := ⟨2, [r]⟩
    l.Consistent ∧ l.decodeChecked (2 ^ 64) .exact [0, 2] = .error (.table (.uncountable (2 ^ 64))) := by
  intro r l
  have hl : l.Consistent := {
    optional_last := by decide
    within := by decide
    records_last := by decide
    records_end := by decide
    bounded := List.forall_mem_singleton.mpr (.records (by decide) (List.forall_mem_nil _) (List.forall_mem_nil _)) }
  have hcount : Width.u16.read? (List.drop r.offset [0, 2]) = some 2 := by decide
  have hneeded : r.offset + 2 + (2 : Int).toNat * 9223372036854775807 = 2 ^ 64 := by decide
  have hfirst : Overruns (2 ^ 64) (2 ^ 64) (Wire.decodeFieldChecked (2 ^ 64) .exact [0, 2] r) :=
    Wire.overruns_list rfl le_rfl hcount hneeded.ge hneeded.le
  obtain ⟨n, hleast, hmost, hover⟩ : Overruns (2 ^ 64) (2 ^ 64) (l.decodeChecked (2 ^ 64) .exact [0, 2]) := hfirst.bind
  rw [le_antisymm hmost hleast] at hover
  exact ⟨hl, hover⟩

end Layout

end VisionMixer
