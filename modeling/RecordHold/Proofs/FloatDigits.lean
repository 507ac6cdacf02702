import RecordHold.Proofs.ShortestDecimals
/-!
# Proofs.FloatDigits — the digits of a written float are read as they are

A decimal is written in plain digits or with an exponent.  Either way its digits are all taken up if they make a word, and
what is scaled is their number and the power of ten that the last one counts (`decimalMagnitude_ofDecimal`); only a whole
number in plain digits gets a zero behind its point, too.
-/
namespace RecordHold
namespace Numeral

open Ieee

/-- **What a decimal is scaled from** when it is read: its digits and the place of the last one, or, if it is in plain
digits and there are none behind the point, one more zero. -/
structure Scales (plain : Bool) (d : Decimal) (s : Nat) (e : Int) : Prop where
  value : (s : ℚ) * 10 ^ e = d.value
  forms : s = Json.numberValue d.digits ∧ e = d.place ∨
    plain = true ∧ s < 10 ^ (d.exponent.toNat + 2) ∧ e = -1 ∧ 0 ≤ d.place

theorem numberValue_append (ds es : List Nat) :
    Json.numberValue (ds ++ es) = es.foldl (fun n d => n * 10 + d) (Json.numberValue ds) := List.foldl_append

theorem numberValue_zeros (z : Nat) (ds : List Nat) :
    Json.numberValue (List.replicate z 0 ++ ds) = Json.numberValue ds := by
  rw [numberValue_append, Json.numberValue, foldl_zeros, Nat.zero_mul]
  rfl

/-- Digits behind the point are all taken up. -/
theorem decimalMagnitude_of_fraction (negative : Bool) {w s : Nat} (fraction : Option (List Nat)) (exponent : Option Int)
    (hw : w < IntType.u64.size) (hs : (fraction.getD []).foldl (fun n d => n * 10 + d) w = s)
    (hlt : s < IntType.u64.size) (hexp : IntType.i32.holds (exponent.getD 0).natAbs) :
    decimalMagnitude ⟨negative, w, fraction, exponent⟩ =
      scale 4 (binary64.nearest s 1) (exponent.getD 0 - (fraction.getD []).length) := by
  have htake := @absorb_of_lt (fraction.getD []) w (by rwa [hs])
  unfold decimalMagnitude
  simp only [absorb_whole hw, htake, hs, if_pos hexp]
  congr 1
  simp only [List.length_nil]
  omega

section
variable {d : Decimal} (negative : Bool)

theorem decimalMagnitude_scientific (hne : d.digits ≠ []) (hd : ∀ x ∈ d.digits, x < 10)
    (hword : Json.numberValue d.digits < IntType.u64.size) (hexp : IntType.i32.holds d.exponent.natAbs) :
    (ofDecimal negative false d).decimalMagnitude =
      scale 4 (binary64.nearest (Json.numberValue d.digits) 1) d.place := by
  obtain ⟨a, t, hds⟩ := List.exists_cons_of_ne_nil hne
  have ha : a < IntType.u64.size := Nat.lt_trans (hd a (by rw [hds]; exact List.mem_cons_self)) (by decide)
  have hfraction := fraction_getD t
  have hplace : d.place = d.exponent - t.length := by
    rw [Decimal.place, hds, List.length_cons]
    omega
  have hform : ofDecimal negative false d = ⟨negative, a, if t = [] then none else some t, some d.exponent⟩ := by
    unfold ofDecimal
    rw [hds]
    rfl
  have hvalue : t.foldl (fun n d => n * 10 + d) a = Json.numberValue d.digits := by
    rw [hds, Json.numberValue, List.foldl_cons, Nat.zero_mul, Nat.zero_add]
  rw [hform, decimalMagnitude_of_fraction _ _ (some d.exponent) ha (by rw [hfraction, hvalue]) hword hexp,
    hfraction, hplace]
  rfl

theorem decimalMagnitude_fraction (hne : d.digits ≠ []) (hword : Json.numberValue d.digits < IntType.u64.size)
    (hexp : d.exponent < 0) :
    (ofDecimal negative true d).decimalMagnitude =
      scale 4 (binary64.nearest (Json.numberValue d.digits) 1) d.place := by
  have hform : ofDecimal negative true d =
      ⟨negative, 0, some (List.replicate (d.exponent.natAbs - 1) 0 ++ d.digits), none⟩ := by
    unfold ofDecimal Decimal.split
    simp only [if_pos hexp, if_true, List.append_eq_nil_iff, hne, and_false, if_false]
    rfl
  have hvalue : (List.replicate (d.exponent.natAbs - 1) 0 ++ d.digits).foldl (fun n d => n * 10 + d) 0 =
      Json.numberValue d.digits := numberValue_zeros _ _
  rw [hform, decimalMagnitude_of_fraction _ (some _) _ (by decide) hvalue hword (by decide)]
  congr 1
  rw [Decimal.place, Option.getD_some, Option.getD_none, List.length_append, List.length_replicate]
  omega

theorem decimalMagnitude_mixed (hword : Json.numberValue d.digits < IntType.u64.size) (hexp : 0 ≤ d.exponent)
    (hplace : d.place < 0) :
    (ofDecimal negative true d).decimalMagnitude =
      scale 4 (binary64.nearest (Json.numberValue d.digits) 1) d.place := by
  unfold Decimal.place at hplace
  have hlen : d.exponent.toNat + 1 < d.digits.length := by omega
  have hform : ofDecimal negative true d =
      ⟨negative, Json.numberValue (d.digits.take (d.exponent.toNat + 1)), some (d.digits.drop (d.exponent.toNat + 1)),
        none⟩ := by
    unfold ofDecimal Decimal.split
    simp only [if_neg (not_lt.2 hexp), if_true, Nat.sub_eq_zero_of_le hlen.le, List.replicate_zero, List.append_nil]
    rw [if_neg (fun h => by rw [List.drop_eq_nil_iff] at h; omega)]
  have hvalue : (d.digits.drop (d.exponent.toNat + 1)).foldl (fun n d => n * 10 + d)
      (Json.numberValue (d.digits.take (d.exponent.toNat + 1))) = Json.numberValue d.digits := by
    rw [← numberValue_append, List.take_append_drop]
  have hwhole : Json.numberValue (d.digits.take (d.exponent.toNat + 1)) < IntType.u64.size := by
    refine Nat.lt_of_le_of_lt (Nat.le_trans ?_ (le_foldl _ (d.digits.drop (d.exponent.toNat + 1)))) (hvalue.symm ▸ hword)
    exact Nat.le_mul_of_pos_right _ (Nat.pow_pos (by decide))
  rw [hform, decimalMagnitude_of_fraction _ (some _) _ hwhole hvalue hword (by decide)]
  congr 1
  rw [Decimal.place, Option.getD_some, Option.getD_none, List.length_drop]
  omega

theorem decimalMagnitude_whole (hd : ∀ x ∈ d.digits, x < 10) (hexp : 0 ≤ d.exponent) (hexp' : d.exponent < 16)
    (hplace : 0 ≤ d.place) :
    ∃ s : Nat, (ofDecimal negative true d).decimalMagnitude = scale 4 (binary64.nearest s 1) (-1) ∧
      s < 10 ^ (d.exponent.toNat + 2) ∧ (s : ℚ) * 10 ^ (-1 : Int) = d.value := by
  unfold Decimal.place at hplace
  have hlen : d.digits.length ≤ d.exponent.toNat + 1 := by omega
  have hsplit : d.split = (d.digits ++ List.replicate (d.exponent.toNat + 1 - d.digits.length) 0, []) := by
    unfold Decimal.split
    simp only [if_neg (not_lt.2 hexp), List.take_of_length_le hlen, List.drop_of_length_le hlen]
  have hform : ofDecimal negative true d = ⟨negative, Json.numberValue d.split.1, some [0], none⟩ := by
    unfold ofDecimal
    rw [hsplit]
    rfl
  have hdigits : ∀ x ∈ d.split.1, x < 10 := by
    rw [hsplit]
    intro x hx
    rcases List.mem_append.1 hx with hdigit | hzero
    · exact hd x hdigit
    · rw [List.eq_of_mem_replicate hzero]
      decide
  have hlt : Json.numberValue d.split.1 < (0 + 1) * 10 ^ d.split.1.length := foldl_lt 0 hdigits
  have hlength : d.split.1.length = d.exponent.toNat + 1 := by
    rw [hsplit, List.length_append, List.length_replicate]
    omega
  rw [Nat.zero_add, Nat.one_mul, hlength] at hlt
  have hwhole : Json.numberValue d.split.1 < 10 ^ 16 :=
    Nat.lt_of_lt_of_le hlt (Nat.pow_le_pow_right (by decide) (by omega))
  have hsize : IntType.u64.size = 18446744073709551616 := rfl
  refine ⟨Json.numberValue d.split.1 * 10, ?_, by rw [Nat.pow_succ]; omega, ?_⟩
  · rw [hform, decimalMagnitude_of_fraction (s := Json.numberValue d.split.1 * 10) _ (some [0]) _ (by omega) rfl
      (by omega) (by decide)]
    rfl
  · have hvalue : Json.numberValue d.split.1 =
        Json.numberValue d.digits * 10 ^ (d.exponent.toNat + 1 - d.digits.length) := by
      rw [hsplit, numberValue_append, foldl_zeros]
    have hpow : d.exponent + 1 - d.digits.length = ((d.exponent.toNat + 1 - d.digits.length : Nat) : Int) := by omega
    rw [hvalue, Decimal.value, hpow, zpow_natCast]
    push_cast
    ring

/-- **Written digits are taken up as they are.** -/
theorem decimalMagnitude_ofDecimal {plain : Bool} (hne : d.digits ≠ []) (hd : ∀ x ∈ d.digits, x < 10)
    (hword : Json.numberValue d.digits < IntType.u64.size) (hexp : IntType.i32.holds d.exponent.natAbs)
    (hplain : plain = true → d.exponent < 16) :
    ∃ s e, (ofDecimal negative plain d).decimalMagnitude = scale 4 (binary64.nearest s 1) e ∧ Scales plain d s e := by
  have hplace : Scales plain d (Json.numberValue d.digits) d.place := ⟨rfl, .inl ⟨rfl, rfl⟩⟩
  cases plain with
  | false => exact ⟨_, _, decimalMagnitude_scientific negative hne hd hword hexp, hplace⟩
  | true  =>
    by_cases hsmall : d.exponent < 0
    · exact ⟨_, _, decimalMagnitude_fraction negative hne hword hsmall, hplace⟩
    by_cases hmixed : d.place < 0
    · exact ⟨_, _, decimalMagnitude_mixed negative hword (not_lt.1 hsmall) hmixed, hplace⟩
    · obtain ⟨s, hread, hlt, hvalue⟩ :=
        decimalMagnitude_whole negative hd (not_lt.1 hsmall) (hplain rfl) (not_lt.1 hmixed)
      exact ⟨s, -1, hread, hvalue, .inr ⟨rfl, hlt, rfl, not_lt.1 hmixed⟩⟩

end

end Numeral
end RecordHold
