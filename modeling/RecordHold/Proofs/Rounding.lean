import RecordHold.Value
/-!
# Proofs.Rounding — integers round in order

The float nearest to an integer grows with the integer (`ofInt_mono`): inside one binade the rounded significand does
(`roundHalfEven_mono`), and the significand of a binade never rounds past the first float of the next but one.  A
float is placed in the total order by its sign and magnitude, and its pattern is fixed by that place
(`rank_injective`).
-/
namespace RecordHold
namespace Ieee

theorem roundHalfEven_mono {m n d : Nat} (h : m ≤ n) : roundHalfEven m d ≤ roundHalfEven n d := by
  have hq : m / d ≤ n / d := Nat.div_le_div_right h
  have hm := Nat.div_add_mod m d
  have hn := Nat.div_add_mod n d
  unfold roundHalfEven
  simp only
  rcases Nat.eq_or_lt_of_le hq with he | hlt
  · -- the same quotient: the remainders decide
    rw [he] at hm ⊢
    split
    · rename_i hup
      exact Nat.le_of_eq (if_pos (by omega)).symm
    · split <;> omega
  · split <;> split <;> omega

theorem le_roundHalfEven (n d : Nat) : n / d ≤ roundHalfEven n d := by
  unfold roundHalfEven
  simp only
  split <;> omega

theorem roundHalfEven_le {n d k : Nat} (h : n < k * d) : roundHalfEven n d ≤ k := by
  have hq : n / d < k := Nat.div_lt_of_lt_mul (by rwa [Nat.mul_comm] at h)
  unfold roundHalfEven
  simp only
  split <;> omega

theorem roundHalfEven_one (n : Nat) : roundHalfEven n 1 = n := by
  unfold roundHalfEven
  simp [Nat.mod_one]

/-! ## One binade -/

/-- The significand an integer of `k + 1` bits is rounded to. -/
def significand (k n : Nat) : Nat :=
  if k < 52 then n <<< (52 - k) else roundHalfEven n (1 <<< (k - 52))

theorem significand_mono (k : Nat) {m n : Nat} (h : m ≤ n) : significand k m ≤ significand k n := by
  unfold significand
  split
  · rw [Nat.shiftLeft_eq, Nat.shiftLeft_eq]
    exact Nat.mul_le_mul_right _ h
  · exact roundHalfEven_mono h

/-- The significand has 53 bits, or is the first number with 54. -/
theorem significand_bounds {n : Nat} (h : 0 < n) :
    4503599627370496 ≤ significand (Nat.log2 n) n ∧ significand (Nat.log2 n) n ≤ 9007199254740992 := by
  have hlo : 2 ^ Nat.log2 n ≤ n := Nat.log2_self_le (by omega)
  have hhi : n < 2 ^ (Nat.log2 n + 1) := Nat.lt_log2_self
  rw [Nat.pow_succ] at hhi
  generalize Nat.log2 n = k at hlo hhi ⊢
  unfold significand
  split
  · rename_i hk
    have hsum : k + (52 - k) = 52 := by omega
    have hp : 2 ^ k * 2 ^ (52 - k) = 2 ^ 52 := by rw [← Nat.pow_add, hsum]
    have h1 := Nat.mul_le_mul_right (2 ^ (52 - k)) hlo
    have h2 := Nat.mul_le_mul_right (2 ^ (52 - k)) (Nat.le_of_lt hhi)
    rw [Nat.mul_right_comm] at h2
    rw [Nat.shiftLeft_eq]
    omega
  · rename_i hk
    have hsum : 52 + (k - 52) = k := by omega
    have hp : 2 ^ 52 * 2 ^ (k - 52) = 2 ^ k := by rw [← Nat.pow_add, hsum]
    have hpos : 0 < 2 ^ (k - 52) := Nat.pow_pos (by decide)
    rw [Nat.shiftLeft_eq, Nat.one_mul]
    constructor
    · refine Nat.le_trans ?_ (le_roundHalfEven n _)
      rw [Nat.le_div_iff_mul_le hpos]
      omega
    · refine roundHalfEven_le ?_
      omega

theorem floorLog2_one {n : Nat} (h : 0 < n) : floorLog2 n 1 = Nat.log2 n := by
  have hle : 2 ^ Nat.log2 n ≤ n := Nat.log2_self_le (by omega)
  have hs : scaleDown n 1 (Nat.log2 n : Int) = (n, 1 <<< Nat.log2 n) := by
    rw [scaleDown, if_neg (by omega), Int.natAbs_natCast]
  have hone : Nat.log2 1 = 0 := rfl
  unfold floorLog2
  simp only [hone, Int.natCast_zero, Int.sub_zero, hs]
  rw [if_pos (by rw [Nat.shiftLeft_eq, Nat.one_mul]; exact hle)]

theorem scaleDown_round (n k : Nat) :
    roundHalfEven (scaleDown n 1 ((k : Int) - 52)).1 (scaleDown n 1 ((k : Int) - 52)).2 = significand k n := by
  unfold scaleDown significand
  by_cases hk : k < 52
  · have habs : ((k : Int) - 52).natAbs = 52 - k := by omega
    rw [if_pos (by omega), if_pos hk, roundHalfEven_one, habs]
  · have habs : ((k : Int) - 52).natAbs = k - 52 := by omega
    rw [if_neg (by omega), if_neg hk, habs]

/-- **The rounding of an integer, spelled out**: a binade for each bit of it, and the significand. -/
theorem nearest_eq {n : Nat} (h : 0 < n) :
    binary64.nearest n 1 =
      min binary64.infinity ((Nat.log2 n + 1022) * binary64.binade + significand (Nat.log2 n) n) := by
  have hmin : binary64.minExponent = -1074 := rfl
  have he : max binary64.minExponent (floorLog2 n 1 - ((binary64.precision - 1 : Nat) : Int)) =
      (Nat.log2 n : Int) - 52 := by
    rw [floorLog2_one h, hmin]
    show max (-1074) ((Nat.log2 n : Int) - 52) = _
    omega
  have hround := scaleDown_round n (Nat.log2 n)
  have hplace : ((Nat.log2 n : Int) - 52 - -1074).toNat = Nat.log2 n + 1022 := by omega
  unfold Format.nearest
  rw [if_neg (by omega), he, hmin]
  show min _ (((Nat.log2 n : Int) - 52 - -1074).toNat * _ + roundHalfEven (scaleDown _ _ _).1 (scaleDown _ _ _).2) = _
  rw [hround, hplace]

/-- **Rounding keeps the order** of the naturals. -/
theorem nearest_mono {m n : Nat} (h : m ≤ n) : binary64.nearest m 1 ≤ binary64.nearest n 1 := by
  rcases Nat.eq_zero_or_pos m with rfl | hm
  · exact Nat.zero_le _
  have hn : 0 < n := by omega
  have hb : binary64.binade = 4503599627370496 := rfl
  have hlog : Nat.log2 m ≤ Nat.log2 n := by
    rw [Nat.le_log2 (by omega)]
    exact Nat.le_trans (Nat.log2_self_le (by omega)) h
  rw [nearest_eq hm, nearest_eq hn, hb]
  have key : (Nat.log2 m + 1022) * 4503599627370496 + significand (Nat.log2 m) m ≤
      (Nat.log2 n + 1022) * 4503599627370496 + significand (Nat.log2 n) n := by
    rcases Nat.eq_or_lt_of_le hlog with he | hlt
    · rw [he]
      exact Nat.add_le_add_left (significand_mono _ h) _
    · have h1 := (significand_bounds hm).2
      have h2 := (significand_bounds hn).1
      omega
  omega

/-! ## Patterns and their places -/

theorem nearest_lt (n : Nat) : binary64.nearest n 1 < binary64.signBit := by
  have hi : binary64.infinity < binary64.signBit := by decide
  rcases Nat.eq_zero_or_pos n with rfl | hn
  · decide
  · rw [nearest_eq hn]
    omega

theorem withSign_lt {negative : Bool} {mag : Nat} (h : mag < binary64.signBit) :
    binary64.withSign negative mag < 2 * binary64.signBit := by
  unfold Format.withSign
  split <;> omega

theorem rank_withSign {negative : Bool} {mag : Nat} (h : mag < binary64.signBit) :
    binary64.rank (binary64.withSign negative mag) = if negative then -1 - (mag : Int) else mag := by
  unfold Format.rank Format.isNegative Format.magnitude Format.withSign
  cases negative with
  | true =>
    have hm : (binary64.signBit + mag) % binary64.signBit = mag := by
      rw [Nat.add_mod_left, Nat.mod_eq_of_lt h]
    rw [if_pos rfl, if_pos rfl, if_pos (by simp), hm]
  | false =>
    simp only [Bool.false_eq_true, if_false]
    rw [if_neg (by simp; omega), Nat.mod_eq_of_lt h]

theorem ofInt_lt (i : Int) : binary64.ofInt i < 2 * binary64.signBit := withSign_lt (nearest_lt _)

/-- **Rounding keeps the order** of the integers. -/
theorem ofInt_mono {i j : Int} (h : i ≤ j) : binary64.rank (binary64.ofInt i) ≤ binary64.rank (binary64.ofInt j) := by
  unfold Format.ofInt
  rw [rank_withSign (nearest_lt _), rank_withSign (nearest_lt _)]
  by_cases hi : i < 0
  · by_cases hj : j < 0
    · have habs : j.natAbs ≤ i.natAbs := by omega
      have hm := nearest_mono habs
      simp only [hi, hj, decide_true, if_true]
      omega
    · simp only [hi, hj, decide_true, decide_false, if_true, Bool.false_eq_true, if_false]
      omega
  · have hj : ¬ j < 0 := by omega
    have habs : i.natAbs ≤ j.natAbs := by omega
    have hm := nearest_mono habs
    simp only [hi, hj, decide_false, Bool.false_eq_true, if_false]
    omega

theorem magnitude_of_lt {bits : Nat} (h : bits < 2 * binary64.signBit) :
    binary64.magnitude bits = if binary64.isNegative bits then bits - binary64.signBit else bits := by
  unfold Format.magnitude Format.isNegative
  by_cases hs : binary64.signBit ≤ bits
  · rw [if_pos (by simpa using hs), Nat.mod_eq_sub_mod hs, Nat.mod_eq_of_lt (by omega)]
  · rw [if_neg (by simpa using hs), Nat.mod_eq_of_lt (by omega)]

/-- A NaN of 32 bits is a NaN of 64 bits of the same sign. -/
theorem convert_of_nan {bits : Nat} (h : binary32.infinity < binary32.magnitude bits) :
    ∃ wide, binary64.infinity < wide ∧ wide < binary64.signBit ∧
      binary32.convert binary64 bits = binary64.withSign (binary32.isNegative bits) wide := by
  have hs : binary64.signBit = binary64.infinity + 4503599627370496 := by decide
  have hb : binary64.binade = 4503599627370496 := by decide
  have hb' : binary32.binade = 8388608 := by decide
  unfold Format.convert
  simp only
  rw [if_neg (by omega), if_neg (by omega), hs, hb, hb']
  -- the payload of a quiet NaN is below one binade
  have hp : binary32.magnitude bits % 8388608 < 8388608 := Nat.mod_lt _ (by decide)
  generalize binary32.magnitude bits % 8388608 = payload at hp ⊢
  refine ⟨_, ?_, ?_, rfl⟩ <;> split <;> omega

/-- **A pattern is fixed by its place** in the total order. -/
theorem rank_injective {a b : Nat} (ha : a < 2 * binary64.signBit) (hb : b < 2 * binary64.signBit)
    (h : binary64.rank a = binary64.rank b) : a = b := by
  unfold Format.rank at h
  rw [magnitude_of_lt ha, magnitude_of_lt hb] at h
  unfold Format.isNegative at h
  by_cases hsa : binary64.signBit ≤ a <;> by_cases hsb : binary64.signBit ≤ b <;>
    simp only [hsa, hsb, decide_true, decide_false, if_true, Bool.false_eq_true, if_false] at h <;> omega

/-- The whole part of a float stays within its bounds. -/
theorem truncate_bounds {low high : Int} (h : low ≤ 0) (h' : 0 ≤ high) (bits : Nat) :
    low ≤ binary64.truncate low high bits ∧ binary64.truncate low high bits ≤ high := by
  unfold Format.truncate
  simp only
  split
  · exact ⟨h, h'⟩
  · split
    · split <;> omega
    · omega

end Ieee
end RecordHold
