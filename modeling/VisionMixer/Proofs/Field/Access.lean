/-
Reading bodies without leaving them.

`Layout.decodeChecked` reads a body access by access. A table is `Consistent` if its fields end inside it, those that may
be left out stand last, records come at its end, and at every depth records have some size and their fields end inside
that. With such a table no access leaves a body: the checked reader gives what `Layout.decode` gives, or it meets a
position that is not below its limit (`decodeChecked_agrees`). No such position lies past the `reach` of the table. The
lists of the table itself ask for all of theirs (`overruns_of_wide`): a body of ones counts 65535 records.
-/
import VisionMixer.Field.Checked
import VisionMixer.Field.Table
import VisionMixer.Proofs.Field.Domain

namespace VisionMixer

/-! ### Steps that agree up to a limit -/

/-- a step that fails at a position between a limit and a bound -/
def Overruns {α : Type} (limit bound : Nat) (x : Except Error α) : Prop :=
  ∃ n, limit ≤ n ∧ n ≤ bound ∧ x = .error (.table (.uncountable n))

namespace Overruns

variable {α β : Type} {limit bound : Nat}

theorem mono {bound' : Nat} {x : Except Error α} (h : Overruns limit bound x) (hle : bound ≤ bound') :
    Overruns limit bound' x := by
  obtain ⟨n, hlimit, hbound, rfl⟩ := h
  exact ⟨n, hlimit, hbound.trans hle, rfl⟩

theorem bind {x : Except Error α} {f : α → Except Error β} (h : Overruns limit bound x) :
    Overruns limit bound (x >>= f) := by
  obtain ⟨n, hlimit, hbound, rfl⟩ := h
  exact ⟨n, hlimit, hbound, rfl⟩

/-- a position is met at the latest behind one that is counted -/
theorem counted {n : Nat} {f : Nat → Except Error α} (hbound : n ≤ bound) (h : n < limit → Overruns limit bound (f n)) :
    Overruns limit bound (counted limit n >>= f) := by
  rw [VisionMixer.counted]
  split
  · next hlt => exact h hlt
  · next hlimit => exact ⟨n, not_lt.mp hlimit, hbound, rfl⟩

end Overruns

/-- a checked step does what the plain one does, or meets a position that is not below its limit -/
def Agrees {α : Type} (limit bound : Nat) (x y : Except Error α) : Prop := x = y ∨ Overruns limit bound x

namespace Agrees

variable {α β σ : Type} {limit bound : Nat} {x y : Except Error α}

theorem refl : Agrees limit bound x x := .inl rfl

theorem mono {bound' : Nat} (h : Agrees limit bound x y) (hle : bound ≤ bound') : Agrees limit bound' x y :=
  h.imp_right fun hx => hx.mono hle

/-- below the limit there is nothing to meet -/
theorem eq_of_lt (h : Agrees limit bound x y) (hlt : bound < limit) : x = y := by
  rcases h with h | ⟨n, hlimit, hbound, -⟩
  · exact h
  · omega

/-- a checked step that succeeds gives what the plain one gives -/
theorem ok_of_ok {v : α} (h : Agrees limit bound x y) (hx : x = .ok v) : y = .ok v := by
  rcases h with rfl | ⟨n, -, -, hover⟩
  · exact hx
  · exact nomatch hx.symm.trans hover

theorem bind {f g : α → Except Error β} (hx : Agrees limit bound x y)
    (hf : ∀ v, y = .ok v → Agrees limit bound (f v) (g v)) : Agrees limit bound (x >>= f) (y >>= g) := by
  rcases hx with rfl | hx
  · cases x with
    | error e => exact refl
    | ok v => exact hf v rfl
  · exact .inr hx.bind

theorem ite {p : Prop} [Decidable p] {x' y' : Except Error α} (hx : p → Agrees limit bound x y)
    (hy : ¬p → Agrees limit bound x' y') : Agrees limit bound (if p then x else x') (if p then y else y') := by
  split
  · next hp => exact hx hp
  · next hp => exact hy hp

/-- a position is counted, or it is the one that is met -/
theorem counted {n : Nat} {f : Nat → Except Error α} (hbound : n ≤ bound) (h : n < limit → Agrees limit bound (f n) y) :
    Agrees limit bound (counted limit n >>= f) y := by
  rw [VisionMixer.counted]
  split
  · next hlt => exact h hlt
  · next hlimit => exact .inr ⟨n, not_lt.mp hlimit, hbound, rfl⟩

theorem mapM {f g : α → Except Error β} {xs : List α} (h : ∀ v ∈ xs, Agrees limit bound (f v) (g v)) :
    Agrees limit bound (xs.mapM f) (xs.mapM g) := by
  induction xs with
  | nil => exact refl
  | cons v xs ih =>
    obtain ⟨hfirst, hrest⟩ := List.forall_mem_cons.mp h
    rw [List.mapM_cons, List.mapM_cons]
    exact hfirst.bind fun w _ => (ih hrest).bind fun ws _ => refl

/-- a fold whose states all satisfy what its steps rely on -/
theorem foldlM (keep : σ → Prop) {step step' : σ → α → Except Error σ} {xs : List α} {s : σ}
    (h : ∀ v ∈ xs, ∀ s, keep s → Agrees limit bound (step s v) (step' s v) ∧ ∀ t, step' s v = .ok t → keep t)
    (hs : keep s) : Agrees limit bound (xs.foldlM step s) (xs.foldlM step' s) := by
  induction xs generalizing s with
  | nil => exact refl
  | cons v xs ih =>
    obtain ⟨hfirst, hrest⟩ := List.forall_mem_cons.mp h
    obtain ⟨hstep, hkeep⟩ := hfirst s hs
    rw [List.foldlM_cons, List.foldlM_cons]
    exact hstep.bind fun t ht => ih hrest (hkeep t ht)

/-- a checked step fails as the plain one does, or at a position -/
theorem ok_or_error {kind : Error → Prop} (h : Agrees limit bound x y) (hy : FailsAs kind y) :
    Succeeds x ∨ (∃ e, x = .error e ∧ kind e) ∨ Overruns limit bound x := by
  rcases h with rfl | h
  · exact hy.ok_or_error.imp_right .inl
  · exact .inr (.inr h)

end Agrees

/-! ### Tables that stay inside -/

mutual

/-- the last position that an encoding can ask for, or a record in it -/
def Wire.reach (offset : Nat) : Wire → Nat
  | .records stride fields => max (offset + 2 + 65535 * stride) (Wire.reachAll fields)
  | wire => offset + wire.size

/-- the last position that a field can ask for -/
def Wire.reachField : FieldOf Wire → Nat
  | ⟨_, offset, wire, _⟩ => Wire.reach offset wire

/-- the last position that some fields can ask for -/
def Wire.reachAll : List (FieldOf Wire) → Nat
  | [] => 0
  | f :: rest => max (Wire.reachField f) (Wire.reachAll rest)

end

/-- at every depth, records have some size and their fields end inside it -/
inductive Wire.Bounded : Wire → Prop where
  | plain {wire : Wire} (single : wire.isCounted = false) : Bounded wire
  | records {stride : Nat} {fields : List Field} (positive : 0 < stride) (within : ∀ f ∈ fields, f.stop ≤ stride)
      (inner : ∀ f ∈ fields, f.wire.Bounded) : Bounded (.records stride fields)

namespace Layout

/-- the last position that coding by a table can ask for, the size of the fixed part included -/
def reach (l : Layout) : Nat := max l.size (Wire.reachAll l.fields)

/-- a table whose fields stay inside it -/
structure Consistent (l : Layout) : Prop where
  /-- what may be left out stands behind what may not -/
  optional_last : l.fields.Pairwise fun f g => f.optional → g.optional
  within : ∀ f ∈ l.fields, f.stop ≤ l.size
  /-- records stand last in the table -/
  records_last : ∀ f ∈ l.fields.dropLast, f.wire.isCounted = false
  /-- and their count ends the fixed part -/
  records_end : ∀ f ∈ l.fields, f.wire.isCounted → f.stop = l.size
  bounded : ∀ f ∈ l.fields, f.wire.Bounded

end Layout

variable {a : Arithmetic} {l : Layout} {f : Field} {fields : List Field} {wire : Wire} {name : String}
  {offset limit : Nat} {b body : Bytes} {values : FieldValues}

/-! ### Accesses that are granted -/

theorem granted_some {α : Type} (x : α) : granted name (some x) = .ok x := rfl

theorem Bytes.from?_of_le {i : Nat} (h : i ≤ b.length) : b.from? i = some (b.drop i) := if_pos h

theorem Bytes.before?_of_le {i : Nat} (h : i ≤ b.length) : b.before? i = some (b.take i) := if_pos h

theorem Width.read?_of_le {w : Width} (h : w.size ≤ b.length) : w.read? b = some (w.read b) := if_pos h

/-- the text before the first zero byte ends inside the run -/
theorem Bytes.before?_first_zero {n : Nat} (h : b.length = n) :
    b.before? ((b.findIdx? (· = 0)).getD n) = some (b.takeWhile (· ≠ 0)) := by
  have hindex : (b.findIdx? (· = 0)).getD n = b.findIdx (· = 0) := by
    rw [← h, ← List.findIdx_eq_getD_findIdx?]
  rw [hindex, before?_of_le List.findIdx_le_length, List.takeWhile_eq_take_findIdx_not]
  simp

/-- a run of as many bytes as some pieces of a size have is cut into these -/
theorem Bytes.pieces?_of_length {size count : Nat} (hsize : 0 < size) (h : b.length = count * size) :
    b.pieces? size = some (chunks size count b) := by
  rw [pieces?, if_neg hsize.ne', h, Nat.mul_div_cancel _ hsize]

/-- a part of a run, cut into as many pieces of a size as it has -/
theorem Bytes.chunks_between {size count start : Nat} (h : start + count * size ≤ b.length) :
    chunks size count ((b.take (start + count * size)).drop start) = chunks size count (b.drop start) := by
  have hpart : (b.take (start + count * size)).drop start = (b.drop start).take (count * size) := by
    rw [List.drop_take, Nat.add_sub_cancel_left]
  have hlength : count * size ≤ ((b.drop start).take (count * size)).length := by
    rw [List.length_take, List.length_drop]
    omega
  conv_rhs => rw [← List.take_append_drop (count * size) (b.drop start), chunks_append hlength]
  rw [hpart]

namespace Wire

/-! ### Nothing leaves the body -/

/-- what a field of this encoding is read as, access by access, is what it is read as, up to the limit -/
def SameRead (limit : Nat) (a : Arithmetic) (wire : Wire) : Prop :=
  ∀ (name : String) (offset : Nat) (body : Bytes), offset + wire.size ≤ body.length →
    Agrees limit (wire.reach offset) (decodeChecked limit a name offset body (body.drop offset) wire)
      (decode a name offset body wire)

theorem stop_le_reach (wire : Wire) (offset : Nat) : offset + wire.size ≤ wire.reach offset := by
  cases wire with
  | records stride fields => exact le_max_of_le_left (Nat.le_add_right _ _)
  | _ => exact le_rfl

theorem decodeChecked_plain (hplain : wire.isCounted = false) (hstop : offset + wire.size ≤ body.length) :
    decodeChecked limit a name offset body (body.drop offset) wire = decode a name offset body wire := by
  have hfront : wire.size ≤ (body.drop offset).length := by
    rw [List.length_drop]
    omega
  cases wire with
  | records => exact nomatch hplain
  | int w | flags w | scaled w =>
    rw [decodeChecked, Width.read?_of_le hfront, decode]
    rfl
  | bool =>
    rw [decodeChecked, decode]
    cases hbytes : body.drop offset with
    | nil =>
      rw [hbytes] at hfront
      exact absurd hfront (by decide)
    | cons x rest => rfl
  | single =>
    have hfour : Bytes.before? (body.drop offset) 4 = some ((body.drop offset).take 4) := Bytes.before?_of_le hfront
    rw [decodeChecked, hfour, decode]
    rfl
  | ascii n =>
    have hpadded : Bytes.before? (body.drop offset) n = some ((body.drop offset).take n) := Bytes.before?_of_le hfront
    have hlength : ((body.drop offset).take n).length = n := List.length_take_of_le hfront
    rw [decodeChecked, hpadded, granted_some, ok_bind, Bytes.before?_first_zero hlength, decode]
    rfl

theorem decodeFieldChecked_agrees (h : SameRead limit a f.wire) :
    Agrees limit (reachField f) (decodeFieldChecked limit a body f) (decodeField a body f) := by
  cases f with
  | mk name offset wire optional =>
    rw [decodeFieldChecked, decodeField]
    refine .counted (stop_le_reach wire offset) fun _ => .ite (fun _ => .refl) fun hlong => ?_
    rw [Bytes.from?_of_le (by omega), granted_some, ok_bind]
    exact (h name offset body (not_lt.mp hlong)).bind fun v _ => .refl

theorem decodeFieldsChecked_agrees (h : ∀ f ∈ fields, SameRead limit a f.wire) :
    Agrees limit (reachAll fields) (decodeFieldsChecked limit a body fields) (decodeFields a body fields) := by
  induction fields with
  | nil => exact .refl
  | cons f fields ih =>
    obtain ⟨hfirst, hrest⟩ := List.forall_mem_cons.mp h
    rw [decodeFieldsChecked, decodeFields]
    refine ((decodeFieldChecked_agrees hfirst).mono (le_max_left _ _)).bind fun first _ => ?_
    exact ((ih hrest).mono (le_max_right _ _)).bind fun rest _ => .refl

/-- a count of records is at most that of a word of ones -/
theorem count_le (b : Bytes) : (Width.u16.read b).toNat ≤ 65535 := by
  have hbounds := (Width.u16.read_bounds b).2
  simp only [Width.high] at hbounds
  omega

theorem Bounded.sameRead (h : wire.Bounded) : SameRead limit a wire := by
  induction h with
  | plain hplain =>
    intro name offset body hstop
    exact .inl (decodeChecked_plain hplain hstop)
  | @records stride fields hpositive _ _ ih =>
    intro name offset body hstop
    have hstop : offset + 2 ≤ body.length := hstop
    have hfront : Width.u16.size ≤ (body.drop offset).length := by
      rw [List.length_drop]
      exact Nat.le_sub_of_add_le' hstop
    have hcount := count_le (body.drop offset)
    rw [decodeChecked, decode, Width.read?_of_le hfront, granted_some, ok_bind]
    generalize (Width.u16.read (body.drop offset)).toNat = count at hcount ⊢
    have hspan := Nat.mul_le_mul_right stride hcount
    -- the two positions that are counted before the records
    refine .counted (le_max_of_le_left (by omega)) fun _ => .counted (le_max_of_le_left (by omega)) fun _ => ?_
    refine .ite (fun _ => .refl) fun hroom => ?_
    have hroom := not_lt.mp hroom
    have hbetween : body.between? (offset + 2) (offset + 2 + count * stride) =
        some ((body.take (offset + 2 + count * stride)).drop (offset + 2)) := if_pos ⟨by omega, hroom⟩
    have hlisted : ((body.take (offset + 2 + count * stride)).drop (offset + 2)).length = count * stride := by
      rw [List.length_drop, List.length_take]
      omega
    rw [hbetween, granted_some, ok_bind, Bytes.pieces?_of_length hpositive hlisted, Bytes.chunks_between hroom,
      if_neg hpositive.ne']
    refine Agrees.bind (Agrees.mapM fun chunk _ => ?_) fun items _ => .refl
    exact (decodeFieldsChecked_agrees ih).mono (le_max_right _ _)

/-! ### What reading fails with -/

theorem fails_decodeFields
    (h : ∀ f ∈ fields, ∀ (name : String) (offset : Nat) (body : Bytes),
      FailsAs Error.IsFraming (Wire.decode a name offset body f.wire)) :
    FailsAs Error.IsFraming (decodeFields a body fields) := by
  induction fields with
  | nil => exact .ok []
  | cons f fields ih =>
    obtain ⟨hfirst, hrest⟩ := List.forall_mem_cons.mp h
    cases f with
    | mk name offset wire optional =>
      have hfield : FailsAs Error.IsFraming (decodeField a body ⟨name, offset, wire, optional⟩) := by
        rw [decodeField]
        exact .ite (fun _ => .ite (fun _ => .ok []) fun _ => .error ⟨_, rfl⟩) fun _ =>
          (hfirst name offset body).bind fun v _ => .ok _
      rw [decodeFields]
      exact hfield.bind fun part _ => (ih hrest).bind fun rest _ => .ok _

theorem Bounded.fails_decode (h : wire.Bounded) (name : String) (offset : Nat) (body : Bytes) :
    FailsAs Error.IsFraming (Wire.decode a name offset body wire) := by
  induction h generalizing name offset body with
  | plain hplain => exact .of_succeeds (decode_plain hplain)
  | @records stride fields hpositive _ _ ih =>
    rw [decode]
    refine .ite (fun _ => .error ⟨_, rfl⟩) fun _ => .ite (fun hzero => absurd hzero hpositive.ne') fun _ => ?_
    exact (FailsAs.mapM fun chunk _ => fails_decodeFields ih).bind fun items _ => .ok _

end Wire

namespace Layout

/-- a body is read the same access by access, up to the limit -/
theorem decodeChecked_agrees (h : l.Consistent) :
    Agrees limit l.reach (l.decodeChecked limit a body) (l.decode a body) :=
  (Wire.decodeFieldsChecked_agrees fun f hf => (h.bounded f hf).sameRead).mono (le_max_right _ _)

theorem fails_decode (h : l.Consistent) : FailsAs Error.IsFraming (l.decode a body) :=
  Wire.fails_decodeFields fun f hf name offset body => (h.bounded f hf).fails_decode name offset body

end Layout

/-! ### Tables that are too wide -/

namespace Wire

theorem reachField_eq : reachField f = f.wire.reach f.offset := by
  cases f
  rfl

theorem reach_le_reachAll (hf : f ∈ fields) : f.wire.reach f.offset ≤ reachAll fields := by
  rw [← reachField_eq]
  induction fields with
  | nil => exact absurd hf List.not_mem_nil
  | cons g fields ih =>
    rcases List.mem_cons.mp hf with rfl | hf
    · rw [reachAll]
      exact le_max_left _ _
    · exact le_max_of_le_right (ih hf)

/-- a list whose count leads to a position that is not below the limit -/
theorem overruns_records {stride bound : Nat} {front : Bytes} {count : Int} (hcount : Width.u16.read? front = some count)
    (hwide : limit ≤ offset + 2 + count.toNat * stride) (hbound : offset + 2 + count.toNat * stride ≤ bound) :
    Overruns limit bound (decodeChecked limit a name offset body front (.records stride fields)) := by
  rw [decodeChecked, hcount, granted_some, ok_bind]
  exact .counted (by omega) fun _ => .counted hbound fun hlt => absurd hwide (not_le.mpr hlt)

theorem overruns_list {stride bound : Nat} {count : Int} (hwire : f.wire = .records stride fields)
    (hstop : f.stop ≤ body.length) (hcount : Width.u16.read? (body.drop f.offset) = some count)
    (hwide : limit ≤ f.offset + 2 + count.toNat * stride) (hbound : f.offset + 2 + count.toNat * stride ≤ bound) :
    Overruns limit bound (decodeFieldChecked limit a body f) := by
  cases f with
  | mk name offset wire optional =>
    cases hwire
    have hstop : offset + 2 ≤ body.length := hstop
    have hbound : offset + 2 + count.toNat * stride ≤ bound := hbound
    rw [decodeFieldChecked]
    refine .counted (by simp only [size]; omega) fun _ => ?_
    rw [if_neg (by simp only [size]; omega), Bytes.from?_of_le (by omega), granted_some, ok_bind]
    exact (overruns_records hcount hwide hbound).bind

/-- the fields before a list are read, or overrun themselves -/
theorem overruns_behind {pre post : List Field} {bound : Nat}
    (hpre : ∀ g ∈ pre, g.wire.isCounted = false ∧ g.stop ≤ body.length ∧ g.wire.reach g.offset ≤ bound)
    (hlast : Overruns limit bound (decodeFieldChecked limit a body f)) :
    Overruns limit bound (decodeFieldsChecked limit a body (pre ++ f :: post)) := by
  induction pre with
  | nil =>
    rw [List.nil_append, decodeFieldsChecked]
    exact hlast.bind
  | cons g pre ih =>
    obtain ⟨⟨hplain, hstop, hreach⟩, hrest⟩ := List.forall_mem_cons.mp hpre
    obtain ⟨v, hv⟩ : Succeeds (decode a g.name g.offset body g.wire) := decode_plain hplain
    have hread : decodeField a body g = .ok [(g.name, v)] := decodeField_of_decode hstop hv
    rw [List.cons_append, decodeFieldsChecked]
    have hfirst : Agrees limit (reachField g) (decodeFieldChecked limit a body g) (decodeField a body g) :=
      decodeFieldChecked_agrees (Bounded.plain hplain).sameRead
    rcases hfirst with heq | hover
    · rw [heq, hread, ok_bind]
      exact (ih hrest).bind
    · exact (hover.mono (reachField_eq.trans_le hreach)).bind

end Wire

/-- **A wide table overruns.** If the records of a list can end past the limit, a body of ones makes the reader count
that far. -/
theorem Layout.overruns_of_wide {stride : Nat} (h : l.Consistent) (hf : f ∈ l.fields)
    (hwire : f.wire = .records stride fields) (hwide : limit ≤ f.offset + 2 + 65535 * stride) :
    Overruns limit l.reach (l.decodeChecked limit a (List.replicate l.size 255)) := by
  have hcounted : f.wire.isCounted := by rw [hwire]; rfl
  have hsize : f.wire.size = 2 := by rw [hwire]; rfl
  have hends : f.stop = l.size := h.records_end f hf hcounted
  have hbound : f.offset + 2 + 65535 * stride ≤ l.reach := by
    have hreach := Wire.reach_le_reachAll hf
    rw [hwire] at hreach
    exact (le_max_left _ _).trans (hreach.trans (le_max_right _ _))
  have hcount : Width.u16.read? ((List.replicate l.size (255 : UInt8)).drop f.offset) = some 65535 := by
    rw [List.drop_replicate, ← hends, FieldOf.stop, hsize, Nat.add_sub_cancel_left]
    decide
  have hlast : Overruns limit l.reach (Wire.decodeFieldChecked limit a (List.replicate l.size 255) f) :=
    Wire.overruns_list hwire (hends.trans List.length_replicate.symm).le hcount hwide hbound
  obtain ⟨pre, post, hfields⟩ := List.append_of_mem hf
  obtain ⟨-, hplain⟩ := around_counted (hfields ▸ h.records_last) hcounted
  rw [decodeChecked, hfields]
  refine Wire.overruns_behind (fun g hg => ?_) hlast
  have hmem : g ∈ l.fields := hfields ▸ List.mem_append_left _ hg
  exact ⟨hplain g hg, (h.within g hmem).trans_eq List.length_replicate.symm,
    (Wire.reach_le_reachAll hmem).trans (le_max_right _ _)⟩

end VisionMixer
