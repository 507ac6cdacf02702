import RecordHold.Proofs.FiniteFloats
import RecordHold.Proofs.StoredRecords
import RecordHold.Sample.People
/-!
# Proofs.JsonForms — what the JSON form of a value keeps

JSON reading undoes JSON writing wherever there are no floats and a clock tells the times (`Codec.json_read_back`), so no
two keys of one type share their bytes.  A float is written as decimal digits, or as `null` if it is not finite, and may
not come back; a time comes back as a clock tells it.

What comes back of a row is what comes back of each of its cells (`JsonCodec.reread`, `Record.decode_json_eq_ok`).  So
the row is read back exactly if all of its cells are (`Scalar.Survives`).  Nothing comes back of a float that is not
finite, and something of every other cell (`JsonCodec.reread_eq_none_iff`); so nothing is read of a row exactly if it
has such a float.  A row is an object, and a cell is found again by the name of its column; so the names have to be
distinct.
-/
namespace RecordHold

/-! ## Every written number has digits -/

namespace Ieee

theorem split_digits {d : Decimal} (h : ∀ x ∈ d.digits, x < 10) : ∀ x ∈ d.split.2, x < 10 := by
  intro x hx
  unfold Decimal.split at hx
  split at hx
  · rcases List.mem_append.1 hx with hzero | hdigit
    · rw [List.eq_of_mem_replicate hzero]
      decide
    · exact h x hdigit
  · exact h x (List.mem_of_mem_drop hx)

end Ieee

namespace Numeral

theorem written_ofInt (i : Int) : (ofInt i).Written := fun _ h => (nomatch h)

theorem written_ofDecimal {d : Ieee.Decimal} (negative plain : Bool) (h : ∀ x ∈ d.digits, x < 10) :
    (ofDecimal negative plain d).Written := by
  intro ds hds
  unfold ofDecimal at hds
  split at hds
  · simp only [Option.some.injEq] at hds
    split at hds
    · rw [← hds]
      exact ⟨by decide, by decide⟩
    · rename_i hne
      rw [← hds]
      exact ⟨hne, Ieee.split_digits h⟩
  · simp only at hds
    split at hds
    · cases hds
    · rename_i hne
      cases hds
      exact ⟨hne, fun x hx => h x (List.mem_of_mem_tail hx)⟩

theorem written_ofFinite (f : Ieee.Format) (bits : Nat) : (ofFinite f bits).Written := by
  unfold ofFinite
  refine written_ofDecimal _ _ (fun x hx => ?_)
  split at hx
  · rw [List.mem_singleton.1 hx]
    decide
  · exact Ieee.searchGrids_digits _ _ _ _ _ x hx

end Numeral

namespace JsonCodec

theorem written_float (f : Ieee.Format) (bits : Nat) : (float f bits).Written := by
  unfold float
  split
  · exact Numeral.written_ofFinite f bits
  · trivial

theorem written_scalar : ∀ s : Scalar, (scalar s).Written
  | .bool _ | .string _ | .time _ => trivial
  | .int _ i  => Numeral.written_ofInt i.val
  | .f32 bits => written_float _ bits.toNat
  | .f64 bits => written_float _ bits.toNat
  | .bytes b  => written_byteArray b

theorem written_members : ∀ (names : List Bytes) (cells : List Scalar),
    Json.WrittenMembers (names.zip (cells.map scalar))
  | [],         _          => trivial
  | _ :: _,     []         => trivial
  | _ :: names, s :: cells => ⟨written_scalar s, written_members names cells⟩

theorem written_row (names : List String) (cells : List Scalar) : (row names cells).Written := written_members _ _

/-- A written document is read as that document, so what is read from its text is what is read from it. -/
theorem all_write {α : Type} {read : Json → Option α} {j : Json} {x : α} (h : j.Written) :
    all read j.write = .ok x ↔ read j = some x := by
  unfold all
  rw [Json.read_write h, Option.bind_some]
  cases read j with
  | none   => exact ⟨fun hx => (nomatch hx), fun hx => (nomatch hx)⟩
  | some y => exact ⟨fun hx => by cases hx; rfl, fun hx => by cases hx; rfl⟩

theorem all_write_of_none {α : Type} {read : Json → Option α} {j : Json} (h : j.Written) (hr : read j = none) :
    all read j.write = .error .malformed := by
  unfold all
  rw [Json.read_write h, Option.bind_some, hr]

end JsonCodec

/-! ## Cells -/

/-- The two kinds of floats. -/
def Kind.Float (k : Kind) : Prop := k = .f32 ∨ k = .f64

instance (k : Kind) : Decidable k.Float := inferInstanceAs (Decidable (_ ∨ _))

/-- What comes back of a cell through JSON. -/
def JsonCodec.reread (s : Scalar) : Option Scalar := readScalar s.kind (scalar s)

/-- **A cell survives**: it comes back as it was. -/
def Scalar.Survives (s : Scalar) : Prop := JsonCodec.reread s = some s

instance (s : Scalar) : Decidable s.Survives := inferInstanceAs (Decidable (_ = _))

/-- An infinite float, or one that is no number. -/
def Scalar.NotFinite : Scalar → Prop
  | .f32 bits => Ieee.binary32.isFinite bits.toNat = false
  | .f64 bits => Ieee.binary64.isFinite bits.toNat = false
  | _         => False

instance : ∀ s : Scalar, Decidable s.NotFinite
  | .f32 _ | .f64 _                                     => inferInstanceAs (Decidable (_ = _))
  | .bool _ | .int _ _ | .string _ | .bytes _ | .time _ => isFalse id

/-- **Whatever is no float comes back as a clock tells it.** -/
theorem JsonCodec.reread_eq_told : ∀ {s : Scalar}, ¬ s.kind.Float → reread s = some s.told
  | .bool _,   _ => rfl
  | .int t i,  _ => by
    show (readInt t (.number (.ofInt i.val))).map (Scalar.int t) = _
    rw [readInt_ofInt i]
    rfl
  | .f32 _,    h => absurd (.inl rfl) h
  | .f64 _,    h => absurd (.inr rfl) h
  | .string s, _ => by
    show (ofUtf8? (utf8 s)).map Scalar.string = _
    rw [ofUtf8?_utf8]
    rfl
  | .bytes b,  _ => by
    show (readByteArray (byteArray b)).map Scalar.bytes = _
    rw [readByteArray_byteArray]
    rfl
  | .time t,   _ => by
    have htext := ofUtf8?_utf8 (String.ofList t.rfc3339)
    rw [utf8, String.toList_ofList] at htext
    show (ofUtf8? (Utf8.encode t.rfc3339)).bind _ = _
    rw [htext, Option.bind_some, String.toList_ofList, Instant.ofRfc3339?_rfc3339]
    rfl

theorem JsonCodec.reread_time (t : Instant) : reread (.time t) = some (.time t.told) :=
  reread_eq_told (s := .time t) (show ¬ Kind.Float .time by decide)

/-- So it survives if a clock tells it, and a float has no time to be told. -/
theorem Scalar.survives_iff {s : Scalar} : s.Survives ↔ (s.kind.Float → s.Survives) ∧ s.Told := by
  by_cases hs : s.kind.Float
  · have htold : s.Told := Scalar.told_of_kind (fun h => absurd (h ▸ hs : Kind.Float .time) (by decide))
    exact ⟨fun h => ⟨fun _ => h, htold⟩, fun h => h.1 hs⟩
  · unfold Survives
    rw [JsonCodec.reread_eq_told hs, Option.some.injEq, told_eq_self_iff]
    exact ⟨fun h => ⟨fun hfloat => absurd hfloat hs, h⟩, fun h => h.2⟩

theorem Scalar.survives {s : Scalar} (hs : ¬ s.kind.Float) (htold : s.Told) : s.Survives :=
  survives_iff.2 ⟨fun hfloat => absurd hfloat hs, htold⟩

theorem JsonCodec.readFloat_float {f : Ieee.Format} (hf : f = Ieee.binary32 ∨ f = Ieee.binary64) (bits : Nat) :
    readFloat f (float f bits) = none ↔ f.isFinite bits = false := by
  unfold float
  cases h : f.isFinite bits with
  | false => exact iff_of_true rfl rfl
  | true  => exact iff_of_false (Numeral.toFloat?_ofFinite hf h) Bool.noConfusion

/-- **Nothing comes back of a float that is not finite**, which is written as `null`, and something of all else. -/
theorem JsonCodec.reread_eq_none_iff {s : Scalar} : reread s = none ↔ s.NotFinite := by
  by_cases hs : s.kind.Float
  · cases s with
    | f32 bits => exact Option.map_eq_none_iff.trans (readFloat_float (.inl rfl) bits.toNat)
    | f64 bits => exact Option.map_eq_none_iff.trans (readFloat_float (.inr rfl) bits.toNat)
    | _ => exact absurd hs (by simp [Scalar.kind, Kind.Float])
  · rw [reread_eq_told hs]
    refine iff_of_false (Option.some_ne_none s.told) (fun hnot => hs ?_)
    cases s with
    | f32 bits => exact .inl rfl
    | f64 bits => exact .inr rfl
    | _ => cases hnot

theorem Codec.scalar?_json {s : Scalar} : json.scalar? s.kind (json.scalar s) = .ok s ↔ s.Survives :=
  Codec.checked_eq_ok.trans (JsonCodec.all_write (JsonCodec.written_scalar s))

/-! ## Rows -/

namespace JsonCodec

theorem filter_name {k : Bytes} {v : Json} : ∀ {ms : List (Bytes × Json)}, (ms.map Prod.fst).Nodup → (k, v) ∈ ms →
    ms.filter (fun m => m.1 == k) = [(k, v)]
  | m :: ms, hnodup, hmem => by
    obtain ⟨hfresh, hnodup'⟩ := List.nodup_cons.1 hnodup
    rcases List.mem_cons.1 hmem with rfl | htail
    · have hnone : ms.filter (fun m => m.1 == k) = [] :=
        List.filter_eq_nil_iff.2 (fun m hm hk => hfresh (List.mem_map.2 ⟨m, hm, eq_of_beq hk⟩))
      rw [List.filter_cons, hnone, if_pos (beq_self_eq_true k)]
    · have hne : m.1 ≠ k := fun hk => hfresh (hk ▸ List.mem_map.2 ⟨_, htail, rfl⟩)
      rw [List.filter_cons_of_neg (by simpa using hne), filter_name hnodup' htail]

/-- A member is found by its name if the names are distinct. -/
theorem member_of_mem {ms : List (Bytes × Json)} {k : Bytes} {v : Json} (hnodup : (ms.map Prod.fst).Nodup)
    (hmem : (k, v) ∈ ms) : member k ms = some v := by
  unfold member
  rw [filter_name hnodup hmem]

/-- Cells that are all found are read one by one. -/
theorem readColumns_eq {ms : List (Bytes × Json)} : ∀ {cs : Columns} {cells : List Scalar}, Fits cs cells →
    (∀ p ∈ (cs.map Prod.fst).zip cells, member (utf8 p.1) ms = some (scalar p.2)) →
      readColumns ms cs = traverse reread cells
  | [],      [],         _,    _ => rfl
  | [],      _ :: _,     hfit, _ => nomatch hfit
  | _ :: _,  [],         hfit, _ => nomatch hfit
  | (name, k) :: cs, s :: cells, hfit, h => by
    obtain ⟨hk, hfit'⟩ := List.cons.inj hfit
    have ih := readColumns_eq hfit' (fun p hp => h p (List.mem_cons_of_mem _ hp))
    have hmember : member (utf8 name) ms = some (scalar s) := h (name, s) List.mem_cons_self
    have hkind : s.kind = k := hk
    rw [readColumns, hmember, Option.bind_some, traverse, reread, hkind, ih]
    cases readScalar k (scalar s) <;> rfl

theorem traverse_eq_self {α : Type} {f : α → Option α} {l : List α} :
    traverse f l = some l ↔ ∀ a ∈ l, f a = some a := by
  induction l with
  | nil => exact iff_of_true rfl (List.forall_mem_nil _)
  | cons a l ih =>
    rw [traverse, List.forall_mem_cons, ← ih]
    cases f a with
    | none   => exact iff_of_false (Option.some_ne_none _).symm (fun h => Option.some_ne_none _ h.1.symm)
    | some x =>
      constructor
      · intro h
        obtain ⟨xs, hxs, hcons⟩ := Option.map_eq_some_iff.1 h
        cases hcons
        exact ⟨rfl, hxs⟩
      · rintro ⟨hx, hxs⟩
        cases hx
        rw [hxs]
        rfl

theorem traverse_eq_none {α β : Type} {f : α → Option β} {a : α} (h : f a = none) : ∀ {l : List α}, a ∈ l →
    traverse f l = none
  | x :: l, ha => by
    rw [traverse]
    rcases List.mem_cons.1 ha with rfl | hl
    · rw [h]
    · rw [traverse_eq_none h hl]
      cases f x <;> rfl

theorem traverse_isSome {α β : Type} {f : α → Option β} : ∀ {l : List α}, (∀ a ∈ l, f a ≠ none) →
    ∃ xs, traverse f l = some xs
  | [],     _ => ⟨[], rfl⟩
  | a :: l, h => by
    obtain ⟨x, hx⟩ := Option.ne_none_iff_exists'.1 (h a List.mem_cons_self)
    obtain ⟨xs, hxs⟩ := traverse_isSome (fun b hb => h b (List.mem_cons_of_mem _ hb))
    exact ⟨x :: xs, by rw [traverse, hx, hxs]; rfl⟩

theorem map_fst_row {names : List String} {cells : List Scalar} (h : cells.length = names.length) :
    ((names.map utf8).zip (cells.map scalar)).map Prod.fst = names.map utf8 :=
  List.map_fst_zip (Nat.le_of_eq (by rw [List.length_map, List.length_map, h]))

/-- **What comes back of a row** is what comes back of its cells. -/
theorem readRow_row {cs : Columns} {cells : List Scalar} (hfit : Fits cs cells) (hnames : (cs.map Prod.fst).Nodup) :
    readRow cs (row (cs.map Prod.fst) cells) = traverse reread cells := by
  have hlen : cells.length = (cs.map Prod.fst).length := by
    rw [List.length_map, ← List.length_map (f := Scalar.kind), hfit, List.length_map]
  have hfst := map_fst_row hlen
  have hnodup : (((cs.map Prod.fst).map utf8).zip (cells.map scalar)).map Prod.fst |>.Nodup := by
    rw [hfst]
    exact List.Pairwise.map utf8 (fun _ _ hne h => hne (utf8_injective h)) hnames
  have htexts : (((cs.map Prod.fst).map utf8).zip (cells.map scalar)).all (fun m => (Utf8.decode? m.1).isSome) := by
    refine List.all_eq_true.2 (fun m hm => ?_)
    have hname : m.1 ∈ (cs.map Prod.fst).map utf8 := hfst ▸ List.mem_map_of_mem hm
    obtain ⟨name, -, hutf8⟩ := List.mem_map.1 hname
    rw [← hutf8, utf8, Utf8.decode?_encode]
    rfl
  unfold readRow row
  simp only [htexts, if_true]
  refine readColumns_eq hfit (fun p hp => member_of_mem hnodup ?_)
  rw [List.zip_map]
  exact List.mem_map.2 ⟨p, hp, rfl⟩

end JsonCodec

namespace Record
variable {γ : Type} {T : RowType γ} {r : Record T.type}

/-- **What is read of a record** is what comes back of its cells. -/
theorem decode_json_eq_ok (hnames : (T.columns.map Prod.fst).Nodup) {r' : Record T.type} :
    decode T.type .json (r.encode .json) = .ok r' ↔ JsonCodec.traverse JsonCodec.reread r.cells = some r'.cells := by
  rw [decode_eq_ok_iff, ← JsonCodec.readRow_row r.fits hnames]
  exact Codec.checked_eq_ok.trans (JsonCodec.all_write (JsonCodec.written_row _ _))

/-- **A record is read back from JSON exactly if its cells survive.** -/
theorem decode_json_iff (hnames : (T.columns.map Prod.fst).Nodup) :
    decode T.type .json (r.encode .json) = .ok r ↔ ∀ s ∈ r.cells, s.Survives :=
  (decode_json_eq_ok hnames).trans JsonCodec.traverse_eq_self

/-- **Some record is read** if all floats are finite. -/
theorem decode_json_finite (hnames : (T.columns.map Prod.fst).Nodup) (h : ∀ s ∈ r.cells, ¬ s.NotFinite) :
    ∃ r', decode T.type .json (r.encode .json) = .ok r' := by
  obtain ⟨cells, hcells⟩ := JsonCodec.traverse_isSome (fun s hs => mt JsonCodec.reread_eq_none_iff.1 (h s hs))
  rw [← JsonCodec.readRow_row r.fits hnames] at hcells
  have hrow : Codec.json.row? T.columns (r.encode .json) = .ok cells :=
    Codec.checked_eq_ok.2 ((JsonCodec.all_write (JsonCodec.written_row _ _)).2 hcells)
  exact ⟨ofCells cells (kinds_of_row? _ _ _ _ hrow), decode_eq_ok_iff.2 hrow⟩

/-- **Nothing is read of a record** with a float that is not finite. -/
theorem decode_json_notFinite (hnames : (T.columns.map Prod.fst).Nodup) {s : Scalar} (hs : s ∈ r.cells)
    (hnot : s.NotFinite) : decode T.type .json (r.encode .json) = .error (.decode .malformed) := by
  refine decode_of_row_error (congrArg Codec.checked (JsonCodec.all_write_of_none (JsonCodec.written_row _ _) ?_))
  rw [JsonCodec.readRow_row r.fits hnames, JsonCodec.traverse_eq_none (JsonCodec.reread_eq_none_iff.2 hnot) hs]

end Record

/-- **A codec keeps a cell**: a clock tells it, if it is a time, and JSON reads it back, if it is a float. -/
def Scalar.Kept (c : Codec) (s : Scalar) : Prop := s.Told ∧ (c = .json → s.kind.Float → s.Survives)

instance (c : Codec) (s : Scalar) : Decidable (s.Kept c) := inferInstanceAs (Decidable (_ ∧ (_ → _ → _)))

/-- **A codec keeps a row that can be stored exactly if it keeps its cells.** -/
theorem Record.kept_iff {γ : Type} {T : RowType γ} {r : Record T.type} {c : Codec}
    (hnames : (T.columns.map Prod.fst).Nodup) (hs : ∀ s ∈ r.cells, s.Sized) :
    r.Kept c ↔ (T.refuses r.cells = none → ∀ s ∈ r.cells, s.Kept c) := by
  have hdecode : Record.decode T.type c (r.encode c) = .ok r ↔ ∀ s ∈ r.cells, s.Kept c := by
    cases c with
    | binary =>
      rw [decode_binary_iff hs]
      exact forall₂_congr (fun s _ => ⟨fun h => ⟨h, nofun⟩, fun h => h.1⟩)
    | json =>
      rw [decode_json_iff hnames]
      exact forall₂_congr (fun s _ => Scalar.survives_iff.trans
        ⟨fun h => ⟨h.2, fun _ => h.1⟩, fun h => ⟨h.2 rfl, h.1⟩⟩)
  rw [← hdecode]
  constructor
  · exact fun h hrefuses => h _ (stored_eq_ok.2 ⟨hrefuses, rfl⟩)
  · intro h raw hraw
    obtain ⟨hrefuses, rfl⟩ := stored_eq_ok.1 hraw
    exact h hrefuses

/-- A row without floats is read back from JSON if a clock tells its times. -/
theorem Record.decode_json {γ : Type} {T : RowType γ} (hnames : (T.columns.map Prod.fst).Nodup)
    (hkinds : ∀ k ∈ T.columns.map Prod.snd, ¬ k.Float) {r : Record T.type} (htold : ∀ s ∈ r.cells, s.Told) :
    Record.decode T.type .json (r.encode .json) = .ok r := by
  refine (Record.decode_json_iff hnames).2 (fun s hs => Scalar.survives (hkinds s.kind ?_) (htold s hs))
  rw [← r.fits]
  exact List.mem_map_of_mem hs

/-- **JSON reading undoes JSON writing where there are no floats** and a clock tells the times: of scalars of every other
kind, of key lists, and of the rows of every type whose columns have distinct names and are of such kinds.  So different
keys of one type have different bytes, and so have different key lists and different rows. -/
theorem Codec.json_read_back {γ : Type} :
    (∀ s : Scalar, ¬ s.kind.Float → s.Told → json.scalar? s.kind (json.scalar s) = .ok s) ∧
      (∀ l : KeyList, json.keyList? (json.keyList l) = .ok l) ∧
      (∀ T : RowType γ, (T.columns.map Prod.fst).Nodup → (∀ k ∈ T.columns.map Prod.snd, ¬ k.Float) →
        ∀ r : Record T.type, (∀ s ∈ r.cells, s.Told) → Record.decode T.type .json (r.encode .json) = .ok r) ∧
      (∀ s t : Scalar, s.kind = t.kind → ¬ s.kind.Float → s.Told → t.Told →
        (Key.scalar s).encode json = (Key.scalar t).encode json → s = t) ∧
      (∀ l m : KeyList, json.keyList l = json.keyList m → l = m) ∧
      ∀ T : RowType γ, (T.columns.map Prod.fst).Nodup → (∀ k ∈ T.columns.map Prod.snd, ¬ k.Float) →
        ∀ q r : Record T.type, (∀ s ∈ q.cells, s.Told) → (∀ s ∈ r.cells, s.Told) →
          q.encode .json = r.encode .json → q = r := by
  have hscalar : ∀ s : Scalar, ¬ s.kind.Float → s.Told → json.scalar? s.kind (json.scalar s) = .ok s :=
    fun s hs htold => scalar?_json.2 (Scalar.survives hs htold)
  refine ⟨hscalar, keyList?_json, fun T hnames hkinds r => Record.decode_json hnames hkinds,
    fun s t hkind hs htold htold' hkey => ?_, fun l m h => ?_, fun T hnames hkinds q r hq hr h => ?_⟩
  · have hbytes : json.scalar s = json.scalar t := Except.ok.inj hkey
    have hread := hscalar s hs htold
    rw [hbytes, hkind, hscalar t (hkind ▸ hs) htold'] at hread
    exact (Except.ok.inj hread).symm
  · have hread := keyList?_json l
    rw [h, keyList?_json] at hread
    exact (Except.ok.inj hread).symm
  · have hread := Record.decode_json hnames hkinds hq
    rw [h, Record.decode_json hnames hkinds hr] at hread
    exact (Except.ok.inj hread).symm

/-- A person is read back, and two keys that only differ by a quote are told apart. -/
theorem Codec.json_read_back_people :
    Record.decode Sample.person.type .json (Sample.tim.encode .json) = .ok Sample.tim ∧
      (Key.scalar (.string "a")).encode .json ≠ (Key.scalar (.string "a\"")).encode .json := by
  obtain ⟨-, -, hrecord, hkey, -, -⟩ := Codec.json_read_back (γ := UserValue)
  refine ⟨hrecord Sample.person (by decide) (by decide) Sample.tim (by decide), fun h => ?_⟩
  have heq := hkey (.string "a") (.string "a\"") rfl (by decide) trivial trivial h
  exact absurd heq (by decide)

end RecordHold
