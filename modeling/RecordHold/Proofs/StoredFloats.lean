import RecordHold.Proofs.Narrowing
import RecordHold.Proofs.ReadingBack
import RecordHold.Proofs.SingleFloats
import RecordHold.Proofs.StoredTimes
/-!
# Proofs.StoredFloats — what becomes of finite floats that are stored as JSON

A finite 32-bit float comes back as it was.  A 64-bit one may come back as one of its neighbours, at most two patterns
away, unless it has few digits (`JsonCodec.reread_f64`).  Then it has another index key than it had before, for different
64-bit floats have different keys (`IndexKey.ofScalar_f64_injective`), and the entry under the old key is not found again.
-/
namespace RecordHold

open Ieee

/-! ## Floats that are read again -/

section Reread

/-- The sign and the magnitude make the pattern. -/
theorem withSign_magnitude {f : Format} {bits : Nat} (h : bits < 2 * f.signBit) :
    f.withSign (f.isNegative bits) (f.magnitude bits) = bits := by
  unfold Format.withSign Format.isNegative Format.magnitude
  by_cases hsign : f.signBit ≤ bits
  · have hmod : bits % f.signBit = bits - f.signBit := by
      rw [Nat.mod_eq_sub_mod hsign, Nat.mod_eq_of_lt (by omega)]
    rw [decide_eq_true hsign, if_pos rfl, hmod, Nat.add_sub_cancel' hsign]
  · rw [decide_eq_false hsign, if_neg Bool.false_ne_true, Nat.mod_eq_of_lt (Nat.lt_of_not_le hsign)]

/-- **A finite 32-bit float survives.** -/
theorem Scalar.survives_f32 {bits : UInt32} (h : binary32.isFinite bits.toNat = true) : (Scalar.f32 bits).Survives := by
  have hread : JsonCodec.readFloat binary32 (JsonCodec.float binary32 bits.toNat) = some bits.toNat := by
    unfold JsonCodec.float
    rw [if_pos h]
    show (Numeral.ofFinite binary32 bits.toNat).toFloat? binary32 = _
    rw [Numeral.toFloat?_binary32 h, withSign_magnitude bits.toNat_lt]
  show (JsonCodec.readFloat binary32 (JsonCodec.float binary32 bits.toNat)).map (fun n => Scalar.f32 (UInt32.ofNat n)) = _
  rw [hread, Option.map_some, UInt32.ofNat_toNat]

/-- **A finite 64-bit float comes back as one of the same sign**, at most two patterns away, and as itself if it has few
digits. -/
theorem JsonCodec.reread_f64 {bits : UInt64} (h : binary64.isFinite bits.toNat = true) :
    ∃ bits' : UInt64, reread (.f64 bits) = some (.f64 bits') ∧ binary64.isFinite bits'.toNat = true ∧
      binary64.isNegative bits'.toNat = binary64.isNegative bits.toNat ∧
      binary64.magnitude bits'.toNat ≤ binary64.magnitude bits.toNat + 2 ∧
      binary64.magnitude bits.toNat ≤ binary64.magnitude bits'.toNat + 2 ∧
      (Numeral.Few (binary64.shortest .even (binary64.magnitude bits.toNat)) → bits' = bits) := by
  obtain ⟨mag, hinf, hread, hup, hdown, hfew⟩ := Numeral.toFloat?_binary64 h
  have hmag : mag < binary64.signBit := Nat.lt_trans hinf (by decide)
  have hsize : binary64.withSign (binary64.isNegative bits.toNat) mag < 2 ^ 64 :=
    Nat.lt_of_lt_of_le (withSign_lt hmag) (by decide)
  refine ⟨UInt64.ofNat (binary64.withSign (binary64.isNegative bits.toNat) mag), ?_, ?_⟩
  · show (readFloat binary64 (float binary64 bits.toNat)).map (fun n => Scalar.f64 (UInt64.ofNat n)) = _
    unfold float
    rw [if_pos h]
    show ((Numeral.ofFinite binary64 bits.toNat).toFloat? binary64).map _ = _
    rw [hread]
    rfl
  · rw [UInt64.toNat_ofNat_of_lt' hsize, isNegative_withSign _ hmag, magnitude_withSign _ hmag]
    refine ⟨?_, rfl, hup, hdown, fun h => ?_⟩
    · unfold Format.isFinite
      rw [magnitude_withSign _ hmag]
      exact decide_eq_true hinf
    · rw [hfew h, withSign_magnitude bits.toNat_lt, UInt64.ofNat_toNat]

end Reread

/-! ## Index keys -/

/-- **Different 64-bit floats have different index keys.** -/
theorem IndexKey.ofScalar_f64_injective {a b : UInt64} (h : ofScalar (.f64 a) = ofScalar (.f64 b)) : a = b := by
  have hrank : compare (binary64.rank a.toNat) (binary64.rank b.toNat) = .eq := Except.ok.inj (ofScalar_eq_iff.1 h)
  exact UInt64.toNat_inj.1 (rank_injective a.toNat_lt b.toNat_lt (Int.compare_eq_eq.1 hrank))

/-- **A cell that comes back with the same index key comes back as it was.** -/
theorem JsonCodec.eq_of_reread {s s' : Scalar} (h : reread s = some s')
    (hkey : IndexKey.ofScalar s' = IndexKey.ofScalar s) : s' = s := by
  have hfinite : ¬ s.NotFinite := fun hnot => by
    rw [reread_eq_none_iff.2 hnot] at h
    cases h
  by_cases hfloat : s.kind.Float
  · cases s with
    | f32 bits =>
      have hsame : reread (.f32 bits) = _ := Scalar.survives_f32 (Bool.eq_true_of_not_eq_false hfinite)
      exact Option.some.inj (h.symm.trans hsame)
    | f64 bits =>
      obtain ⟨bits', hread, -⟩ := reread_f64 (Bool.eq_true_of_not_eq_false hfinite)
      obtain rfl := Option.some.inj (h.symm.trans hread)
      rw [IndexKey.ofScalar_f64_injective hkey]
    | _ => exact absurd hfloat (by simp [Scalar.kind, Kind.Float])
  · obtain rfl := Option.some.inj (h.symm.trans (reread_eq_told hfloat))
    cases s with
    | time t => exact congrArg Scalar.time (IndexKey.ofScalar_time_injective hkey)
    | _      => rfl

variable {γ : Type} [Custom γ]

/-- **Finite floats and JSON.**  A 32-bit float is decoded as it was encoded.  A 64-bit float is decoded as a float of the
same sign at most two patterns away, and as itself if it has few digits.  In a record whose fields are columns a field has
the same index key after storage exactly if its cell is decoded as it was encoded. -/
theorem Codec.floats_kept :
    (∀ bits : UInt32, binary32.isFinite bits.toNat = true →
      json.scalar? .f32 (json.scalar (.f32 bits)) = .ok (.f32 bits)) ∧
    (∀ bits : UInt64, binary64.isFinite bits.toNat = true → ∃ bits' : UInt64,
      json.scalar? .f64 (json.scalar (.f64 bits)) = .ok (.f64 bits') ∧ binary64.isFinite bits'.toNat = true ∧
      binary64.isNegative bits'.toNat = binary64.isNegative bits.toNat ∧
      binary64.magnitude bits'.toNat ≤ binary64.magnitude bits.toNat + 2 ∧
      binary64.magnitude bits.toNat ≤ binary64.magnitude bits'.toNat + 2 ∧
      (Numeral.Few (binary64.shortest .even (binary64.magnitude bits.toNat)) → bits' = bits)) ∧
    ∀ (T : RowType γ) (names : List String) (r r' : Record T.type) (field : String) (s : Scalar),
      T.field = columnFields names → (T.columns.map Prod.fst).Nodup →
      Record.decode T.type .json (r.encode .json) = .ok r' → r.field field = some (.plain s) →
      (Index.keyFor r' field = Index.keyFor r field ↔ json.scalar? s.kind (json.scalar s) = .ok s) := by
  refine ⟨fun bits h => scalar?_json.2 (Scalar.survives_f32 h), fun bits h => ?_,
    fun T names r r' field s hfields hnames hread hs => ?_⟩
  · obtain ⟨bits', hreread, hrest⟩ := JsonCodec.reread_f64 h
    exact ⟨bits', checked_eq_ok.2 ((JsonCodec.all_write (JsonCodec.written_scalar _)).2 hreread), hrest⟩
  · obtain ⟨s', hreread, hs'⟩ := Record.field_of_decode_json hfields hnames hread hs
    unfold Index.keyFor
    rw [hs, hs', scalar?_json, Scalar.Survives, hreread]
    exact ⟨fun hkey => congrArg some (JsonCodec.eq_of_reread hreread (Except.ok.inj hkey)),
      fun h => by rw [Option.some.inj h]⟩

/-- The smallest 32-bit float and the tenth are decoded as they were encoded, and the 32-bit float in a record keeps its
index key next to a 64-bit one that does not. -/
theorem Codec.floats_kept_ancient :
    json.scalar? .f32 (json.scalar (.f32 1)) = .ok (.f32 1) ∧
      json.scalar? .f64 (json.scalar (.f64 0x3FB999999999999A)) = .ok (.f64 0x3FB999999999999A) ∧
      ∃ r', Record.decode Sample.wide.type .json (Sample.ancient.encode .json) = .ok r' ∧
        Index.keyFor r' "F32" = Index.keyFor Sample.ancient "F32" ∧
        Index.keyFor r' "F64" ≠ Index.keyFor Sample.ancient "F64" := by
  obtain ⟨hsingle, hdouble, hrecord⟩ := Codec.floats_kept (γ := UserValue)
  have htenth : Numeral.Few (binary64.shortest .even (binary64.magnitude (0x3FB999999999999A : UInt64).toNat)) := by
    have hd : binary64.shortest .even (binary64.magnitude (0x3FB999999999999A : UInt64).toNat) = ⟨[1], -1⟩ := by
      decide +kernel
    rw [hd]
    exact ⟨by decide, by decide, by norm_num [Decimal.value, Json.numberValue]⟩
  obtain ⟨bits', hread, -, -, -, -, hfew⟩ := hdouble 0x3FB999999999999A (by decide)
  have hnames : (Sample.wide.columns.map Prod.fst).Nodup := by decide
  obtain ⟨r', hr'⟩ := Record.decode_json_finite (r := Sample.ancient) hnames (by decide +kernel)
  refine ⟨hsingle 1 (by decide), hfew htenth ▸ hread, r', hr', ?_, ?_⟩
  · exact (hrecord Sample.wide _ Sample.ancient r' "F32" (.f32 0x3F800000) rfl hnames hr' rfl).2 (hsingle _ (by decide))
  · rw [Ne, hrecord Sample.wide _ Sample.ancient r' "F64" (.f64 0x465F3D28041D14C8) rfl hnames hr' rfl]
    decide +kernel

/-- A finite float is decoded as the one below it.  A record that holds it is stored, but not read as it was, and its
index entry stays when the record has been deleted, while that of its 32-bit float is removed. -/
theorem Codec.floats_altered :
    let x : Executor UserValue := .ofCodec .json
    let stored := ((Operation.insert Sample.firstKey Sample.ancient).run x).runOn SortedMap.empty
    let deleted := (Hold.delete x Sample.wide.type Sample.firstKey).runOn stored.2
    binary64.isFinite 0x465F3D28041D14C8 = true ∧
      json.scalar? .f64 (json.scalar (.f64 0x465F3D28041D14C8)) = .ok (.f64 0x465F3D28041D14C7) ∧
      stored.1 = .ok () ∧ Hold.get x Sample.wide.type Sample.firstKey stored.2 ≠ .ok (some Sample.ancient) ∧
      deleted.1 = .ok () ∧
      deleted.2.lookup (indexBucket Sample.wide.bucket "F32") (IndexKey.ofScalar (.f32 0x3F800000)) = .ok none ∧
      deleted.2.lookup (indexBucket Sample.wide.bucket "F64") (IndexKey.ofScalar (.f64 0x465F3D28041D14C8)) ≠ .ok none := by
  decide +kernel

end RecordHold
