import RecordHold.Proofs.Characters
import RecordHold.Proofs.Instants
import RecordHold.Proofs.StoredKeys
import RecordHold.Row
/-!
# Proofs.StoredRecords — a stored row is read back

Under the binary codec a row is read as its cells, but for its times, which are read as a clock tells them: each cell is
read so, whatever follows it (`readScalar_append`), so the cells one after the other are (`readRow_append`).  So a row is
read back unchanged exactly if a clock tells all of its times (`Record.decode_binary_iff`).  As for key lists, the lengths
of texts and byte strings have to be 64-bit words (`Scalar.Sized`).
-/
namespace RecordHold

/-- **The length of a text or byte string is a 64-bit word.** -/
def Scalar.Sized : Scalar → Prop
  | .string s => (utf8 s).length < Bytes.capacity 8
  | .bytes b  => b.length < Bytes.capacity 8
  | _         => True

instance : ∀ s : Scalar, Decidable s.Sized
  | .string _ | .bytes _                             => Nat.decLt _ _
  | .bool _ | .int _ _ | .f32 _ | .f64 _ | .time _ => isTrue trivial

/-- **A clock tells the cell**, which says something of times only. -/
def Scalar.Told : Scalar → Prop
  | .time t => t.Told
  | _       => True

instance : ∀ s : Scalar, Decidable s.Told
  | .time t                                                        => inferInstanceAs (Decidable t.Told)
  | .bool _ | .int _ _ | .f32 _ | .f64 _ | .string _ | .bytes _ => isTrue trivial

/-- What a clock tells of a cell. -/
def Scalar.told : Scalar → Scalar
  | .time t => .time t.told
  | s       => s

theorem Scalar.told_eq_self_iff {s : Scalar} : s.told = s ↔ s.Told := by
  cases s with
  | time t => exact (Scalar.time.injEq _ _).to_iff.trans Instant.told_eq_self_iff
  | _      => exact iff_of_true rfl trivial

theorem Scalar.told_of_kind : ∀ {s : Scalar}, s.kind ≠ .time → s.Told
  | .time _, h => absurd rfl h
  | .bool _, _ | .int _ _, _ | .f32 _, _ | .f64 _, _ | .string _, _ | .bytes _, _ => trivial

theorem Scalar.map_told {cells : List Scalar} : cells.map told = cells ↔ ∀ s ∈ cells, s.Told := by
  constructor
  · intro h s hs
    exact told_eq_self_iff.1 (List.map_inj_left.1 (h.trans (List.map_id _).symm) s hs)
  · intro h
    exact (List.map_congr_left (fun s hs => told_eq_self_iff.2 (h s hs))).trans (List.map_id _)

/-! ## The length of a time -/

theorem length_padded_le {w k n : Nat} (hk : 0 < k) (hw : w ≤ k) (h : n < Nat.pow 10 k) : (padded w n).length ≤ k := by
  have hle := (Nat.length_toDigits_le_iff (by decide) hk).2 h
  unfold padded
  rw [List.length_append, List.length_replicate]
  omega

theorem length_padded_two {n : Nat} (h : n < 100) : (padded 2 n).length ≤ 2 :=
  length_padded_le (by decide) (Nat.le_refl 2) h

theorem Utf8.length_encode_le : ∀ cs : List Char, (encode cs).length ≤ 4 * cs.length
  | []      => Nat.le_refl 0
  | c :: cs => by
    have ih := length_encode_le cs
    have hc : (encodeChar c).length ≤ 4 := by
      unfold encodeChar
      simp only
      split
      · exact (by decide : 1 ≤ 4)
      · split
        · exact (by decide : 2 ≤ 4)
        · split
          · exact (by decide : 3 ≤ 4)
          · exact Nat.le_refl 4
    unfold encode at ih ⊢
    rw [List.flatMap_cons, List.length_append, List.length_cons]
    omega

namespace Instant

theorem length_fractionText_le {n : Nat} (h : n < 1000000000) : (fractionText n).length ≤ 10 := by
  unfold fractionText
  split
  · exact Nat.zero_le _
  · split
    · have hlt : n / 1000000 < 1000 := by omega
      have hlen : (padded 3 _).length ≤ 3 := length_padded_le (by decide) (Nat.le_refl 3) hlt
      rw [List.length_cons]
      omega
    · split
      · have hlt : n / 1000 < 1000000 := by omega
        have hlen : (padded 6 _).length ≤ 6 := length_padded_le (by decide) (Nat.le_refl 6) hlt
        rw [List.length_cons]
        omega
      · have hlen : (padded 9 n).length ≤ 9 := length_padded_le (by decide) (Nat.le_refl 9) h
        rw [List.length_cons]
        omega

/-- A time is short. -/
theorem length_rfc3339_le (t : Instant) : t.rfc3339.length ≤ 40 := by
  have hyear : (Date.yearText t.date.year).length ≤ 7 := by
    obtain ⟨hfirst, hlast⟩ := t.date_year
    unfold firstYear at hfirst
    unfold lastYear at hlast
    unfold Date.yearText
    split
    · have hlt : t.date.year.toNat < 1000000 := by omega
      have hlen : (padded 4 _).length ≤ 6 := length_padded_le (by decide) (by decide) hlt
      omega
    · have hlt : t.date.year.natAbs < 1000000 := by omega
      have hlen : (padded 4 _).length ≤ 6 := length_padded_le (by decide) (by decide) hlt
      rw [List.length_cons]
      omega
  have hmonth := length_padded_two t.date_month
  have hday := length_padded_two t.date_day
  have hhour := length_padded_two t.hour_lt
  have hminute := length_padded_two t.minute_lt
  have hsecond := length_padded_two t.second_lt
  have hfraction := length_fractionText_le t.fraction_lt
  unfold rfc3339 Date.text clockText
  simp only [List.length_append, List.length_cons, List.length_nil]
  omega

end Instant

/-! ## The binary form -/

namespace Binary

theorem intOfPattern_intPattern {t : IntType} {i : Int} (h : t.holds i) : intOfPattern t (intPattern t i) = i := by
  obtain ⟨h1, h2, h4, h8⟩ := Bytes.capacity_words
  unfold intOfPattern intPattern
  unfold IntType.holds IntType.least at h
  unfold IntType.greatest IntType.size at h ⊢
  cases t <;>
    simp only [IntType.signed, IntType.width, h1, h2, h4, h8, if_true, Bool.false_eq_true, if_false] at h ⊢ <;>
    split <;> omega

theorem intPattern_lt (t : IntType) (i : Int) : intPattern t i < Bytes.capacity t.width := by
  have hpos : 0 < Bytes.capacity t.width := Nat.pow_pos (by decide)
  have hmod := Int.emod_lt_of_pos i (Int.natCast_pos.2 hpos)
  unfold intPattern IntType.size
  omega

theorem readInt_append {t : IntType} (i : IntOf t) (rest : Bytes) :
    readInt t (word t.width (intPattern t i.val) ++ rest) = .ok (i, rest) := by
  unfold readInt
  rw [readWord_append (intPattern_lt t i.val)]
  simp only [bind, Except.bind, intOfPattern_intPattern i.holds]
  unfold IntOf.ofInt?
  rw [dif_pos i.holds]

theorem readText_append {s : String} (h : (utf8 s).length < Bytes.capacity 8) (rest : Bytes) :
    readText (blob (utf8 s) ++ rest) = .ok (s, rest) := by
  unfold readText
  rw [readBlob_append .malformed h]
  simp only [bind, Except.bind, ofUtf8?_utf8]

theorem readTime_append (t : Instant) (rest : Bytes) :
    readTime (blob (Utf8.encode t.rfc3339) ++ rest) = .ok (t.told, rest) := by
  have hlen : (utf8 (String.ofList t.rfc3339)).length < Bytes.capacity 8 := by
    have h1 := Utf8.length_encode_le t.rfc3339
    have h2 := t.length_rfc3339_le
    obtain ⟨-, -, -, h8⟩ := Bytes.capacity_words
    rw [utf8, String.toList_ofList]
    omega
  have hread := readText_append hlen rest
  rw [utf8, String.toList_ofList] at hread
  unfold readTime
  rw [hread]
  simp only [bind, Except.bind, String.toList_ofList, Instant.ofRfc3339?_rfc3339]

/-- **One cell is read as a clock tells it**, whatever follows it. -/
theorem readScalar_append : ∀ {s : Scalar}, s.Sized → ∀ rest : Bytes,
    readScalar s.kind (scalar s ++ rest) = .ok (s.told, rest)
  | .bool b,   _, rest => by cases b <;> rfl
  | .int t i,  _, rest => by
    simp only [Scalar.kind, scalar, readScalar, readInt_append, Except.map, Scalar.told]
  | .f32 bits, _, rest => by
    have hbits : bits.toNat < Bytes.capacity 4 := bits.toNat_lt
    simp only [Scalar.kind, scalar, readScalar, readWord_append hbits, Except.map, UInt32.ofNat_toNat, Scalar.told]
  | .f64 bits, _, rest => by
    have hbits : bits.toNat < Bytes.capacity 8 := bits.toNat_lt
    simp only [Scalar.kind, scalar, readScalar, readWord_append hbits, Except.map, UInt64.ofNat_toNat, Scalar.told]
  | .string s, h, rest => by
    simp only [Scalar.kind, scalar, readScalar, readText_append h, Except.map, Scalar.told]
  | .bytes b,  h, rest => by
    simp only [Scalar.kind, scalar, readScalar, readBlob_append .endOfInput h, Except.map, Scalar.told]
  | .time t,   _, rest => by
    simp only [Scalar.kind, scalar, readScalar, readTime_append, Except.map, Scalar.told]

theorem readRow_append : ∀ {cells : List Scalar}, (∀ s ∈ cells, s.Sized) → ∀ rest : Bytes,
    readRow (cells.map Scalar.kind) (row cells ++ rest) = .ok (cells.map Scalar.told, rest)
  | [],         _, rest => rfl
  | s :: cells, h, rest => by
    have ih := readRow_append (fun x hx => h x (List.mem_cons_of_mem _ hx)) rest
    unfold row at ih ⊢
    rw [List.map_cons, List.flatMap_cons, List.append_assoc, readRow, readScalar_append (h s List.mem_cons_self)]
    simp only [bind, Except.bind]
    rw [ih, List.map_cons]

end Binary

/-! ## Records -/

theorem Codec.checked_eq_ok {α : Type} {x : Except DecodeFault α} {a : α} : checked x = .ok a ↔ x = .ok a := by
  cases x with
  | error f => exact ⟨fun h => (nomatch h), fun h => (nomatch h)⟩
  | ok b    => exact ⟨fun h => by cases h; rfl, fun h => by cases h; rfl⟩

/-- **Under the binary codec a scalar is read as a clock tells it.** -/
theorem Codec.scalar?_binary {s : Scalar} (hs : s.Sized) : binary.scalar? s.kind (binary.scalar s) = .ok s.told := by
  have hread := Binary.readScalar_append hs []
  rw [List.append_nil] at hread
  unfold Codec.scalar? Codec.scalar Binary.all
  simp only [hread, bind, Except.bind]
  rfl

namespace Record

variable {γ : Type} {T : RowType γ} {c : Codec} {r : Record T.type}

theorem fits (r : Record T.type) : Fits T.columns r.cells := Row.fits r

/-- A row that does not refuse is stored as it is written. -/
theorem stored_eq_ok {raw : Bytes} : r.stored c = .ok raw ↔ T.refuses r.cells = none ∧ r.encode c = raw := by
  unfold stored RowType.type
  dsimp only
  split
  · rename_i reason hrefuses
    exact iff_of_false (fun h => by cases h) (fun h => absurd (hrefuses.symm.trans h.1) (Option.some_ne_none reason))
  · rename_i hrefuses
    exact ⟨fun h => ⟨hrefuses, Except.ok.inj h⟩, fun h => congrArg Except.ok h.2⟩

theorem decode_eq_ok_iff {raw : Bytes} : decode T.type c raw = .ok r ↔ c.row? T.columns raw = .ok r.cells := by
  show Row.decode T.columns c raw = .ok r ↔ _
  unfold Row.decode
  split
  · rename_i cells hcells
    constructor
    · intro h
      cases h
      exact hcells
    · intro h
      obtain rfl := Except.ok.inj (hcells.symm.trans h)
      rfl
  · rename_i e he
    exact iff_of_false nofun (fun h => nomatch he.symm.trans h)

theorem decode_of_row_error {raw : Bytes} {e : CodecError} (h : c.row? T.columns raw = .error e) :
    decode T.type c raw = .error e := by
  show Row.decode T.columns c raw = .error e
  unfold Row.decode
  split
  · rename_i cells hcells
    rw [h] at hcells
    cases hcells
  · rename_i e' he'
    rw [h] at he'
    cases he'
    rfl

/-- **What the binary codec reads of a row** is what a clock tells of its cells. -/
theorem decode_binary_eq_ok (hs : ∀ s ∈ r.cells, s.Sized) {r' : Record T.type} :
    decode T.type .binary (r.encode .binary) = .ok r' ↔ r.cells.map Scalar.told = r'.cells := by
  have hread := Binary.readRow_append hs []
  rw [List.append_nil, r.fits] at hread
  have hrow : Codec.binary.row? T.columns (r.encode .binary) = .ok (r.cells.map Scalar.told) := by
    unfold Codec.row? encode Codec.row Binary.all
    simp only [hread, bind, Except.bind]
    rfl
  rw [decode_eq_ok_iff, hrow, Except.ok.injEq]

/-- **A row is read back from the binary codec exactly if a clock tells its times.** -/
theorem decode_binary_iff (hs : ∀ s ∈ r.cells, s.Sized) :
    decode T.type .binary (r.encode .binary) = .ok r ↔ ∀ s ∈ r.cells, s.Told := by
  rw [decode_binary_eq_ok hs, Scalar.map_told]

end Record

end RecordHold
