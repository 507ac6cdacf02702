import RecordHold.Codec.Json
import RecordHold.Proofs.Decimals
import RecordHold.Proofs.Rounding
/-!
# Proofs.FiniteFloats — a finite float is never lost

A finite float that is written as a decimal is read as some float again, if not always the same
(`Numeral.decimalMagnitude_ofFinite`).  It could only be lost by an overflow: reading rounds the digits and a power of
ten, and multiplies.  Each rounding adds at most one part in `2 ^ 53` (`nearest_le_value`), and the decimal is at most
half a unit of its last bit above the float.  So the product stays below the largest finite number if the float is four
units below it (`readable`), and so it is not rounded to infinity (`nearest_lt`).  The last three floats are read by
themselves (`last_read`).
-/
namespace RecordHold
namespace Ieee

/-! ## Rounding to nearest -/

theorem roundHalfEven_le_half (n : Nat) {d : Nat} (hd : 0 < d) : (roundHalfEven n d : ℚ) ≤ n / d + 1 / 2 := by
  have hdq : (0 : ℚ) < d := by exact_mod_cast hd
  have htwice : 2 * roundHalfEven n d * d ≤ 2 * n + d := by
    have hdiv := Nat.div_add_mod n d
    unfold roundHalfEven
    simp only
    split
    · have h2 : 2 * (n / d + 1) * d = 2 * (d * (n / d)) + 2 * d := by ring
      omega
    · have h2 : 2 * (n / d) * d = 2 * (d * (n / d)) := by ring
      omega
  have hq : (2 : ℚ) * roundHalfEven n d * d ≤ 2 * n + d := by exact_mod_cast htwice
  rw [← mul_le_mul_iff_of_pos_right hdq]
  calc (roundHalfEven n d : ℚ) * d ≤ n + d / 2 := by linarith
    _ = (n / d + 1 / 2) * d := by field_simp

theorem log2_bounds {n : Nat} (h : 0 < n) :
    (2 : ℚ) ^ (Nat.log2 n : Int) ≤ n ∧ (n : ℚ) < 2 ^ ((Nat.log2 n : Int) + 1) := by
  have hlow : 2 ^ Nat.log2 n ≤ n := Nat.log2_self_le (by omega)
  have hhigh : n < 2 ^ (Nat.log2 n + 1) := Nat.lt_log2_self
  constructor
  · rw [zpow_natCast]
    exact_mod_cast hlow
  · exact_mod_cast hhigh

/-- **The powers of two a quotient lies between.** -/
theorem floorLog2_spec {num den : Nat} (hnum : 0 < num) (hden : 0 < den) :
    (2 : ℚ) ^ floorLog2 num den ≤ num / den ∧ (num / den : ℚ) < 2 ^ (floorLog2 num den + 1) := by
  have hdq : (0 : ℚ) < den := by exact_mod_cast hden
  obtain ⟨hn1, hn2⟩ := log2_bounds hnum
  obtain ⟨hd1, hd2⟩ := log2_bounds hden
  obtain ⟨hpos, hval⟩ := scaleDown_spec num hden ((Nat.log2 num : Int) - Nat.log2 den)
  unfold floorLog2
  generalize (Nat.log2 num : Int) = a at *
  generalize (Nat.log2 den : Int) = b at *
  have hlow : (2 : ℚ) ^ (a - b - 1) ≤ num / den := by
    rw [le_div_iff₀ hdq]
    calc (2 : ℚ) ^ (a - b - 1) * den ≤ 2 ^ (a - b - 1) * 2 ^ (b + 1) := by gcongr
      _ = 2 ^ a := by rw [← zpow_add₀ (by norm_num)]; congr 1; omega
      _ ≤ num := hn1
  have hhigh : (num / den : ℚ) < 2 ^ (a - b + 1) := by
    rw [div_lt_iff₀ hdq]
    calc (num : ℚ) < 2 ^ (a + 1) := hn2
      _ = 2 ^ (a - b + 1) * 2 ^ b := by rw [← zpow_add₀ (by norm_num)]; congr 1; omega
      _ ≤ 2 ^ (a - b + 1) * den := by gcongr
  have hposq : (0 : ℚ) < (scaleDown num den (a - b)).2 := by exact_mod_cast hpos
  have hunscale : (num / den : ℚ) = (scaleDown num den (a - b)).1 / (scaleDown num den (a - b)).2 * 2 ^ (a - b) := by
    rw [hval, mul_assoc, ← zpow_add₀ (by norm_num), neg_add_cancel, zpow_zero, mul_one]
  simp only
  split
  · rename_i hle
    refine ⟨?_, hhigh⟩
    rw [hunscale]
    exact le_mul_of_one_le_left (by positivity) ((one_le_div hposq).2 (by exact_mod_cast hle))
  · rename_i hgt
    refine ⟨hlow, ?_⟩
    rw [sub_add_cancel, hunscale]
    exact mul_lt_of_lt_one_left (by positivity) ((div_lt_one hposq).2 (by exact_mod_cast Nat.lt_of_not_le hgt))

/-- A binade and a significand of it are the number that they were made of. -/
theorem decode_place {k s : Nat} (hlow : 4503599627370496 ≤ s) (hhigh : s ≤ 9007199254740992) :
    0 < (binary64.decode ((k + 1022) * binary64.binade + s)).1 ∧
      ((binary64.decode ((k + 1022) * binary64.binade + s)).1 : ℚ) *
        2 ^ (binary64.decode ((k + 1022) * binary64.binade + s)).2 = s * 2 ^ ((k : Int) - 52) := by
  have hb : binary64.binade = 4503599627370496 := rfl
  have hmin : binary64.minExponent = -1074 := rfl
  unfold Format.decode
  rw [hb, hmin, if_neg (by omega)]
  refine ⟨by show 0 < _ + _ % _; omega, ?_⟩
  show ((4503599627370496 + ((k + 1022) * 4503599627370496 + s) % 4503599627370496 : Nat) : ℚ) *
    2 ^ (-1074 + ((((k + 1022) * 4503599627370496 + s) / 4503599627370496 - 1 : Nat) : Int)) = _
  rcases Nat.eq_or_lt_of_le hhigh with rfl | hlt
  · -- the significand was rounded up to the next binade
    have hmod : ((k + 1022) * 4503599627370496 + 9007199254740992) % 4503599627370496 = 0 := by omega
    have hdiv : ((k + 1022) * 4503599627370496 + 9007199254740992) / 4503599627370496 = k + 1024 := by omega
    have hexp : -1074 + ((k + 1024 - 1 : Nat) : Int) = 1 + ((k : Int) - 52) := by omega
    rw [hmod, hdiv, hexp, zpow_add₀ (by norm_num)]
    push_cast
    ring
  · have hmod : ((k + 1022) * 4503599627370496 + s) % 4503599627370496 = s - 4503599627370496 := by omega
    have hdiv : ((k + 1022) * 4503599627370496 + s) / 4503599627370496 = k + 1023 := by omega
    have hexp : -1074 + ((k + 1023 - 1 : Nat) : Int) = (k : Int) - 52 := by omega
    have hsum : 4503599627370496 + (s - 4503599627370496) = s := by omega
    rw [hmod, hdiv, hexp, hsum]

theorem significand_le (n : Nat) (h : 0 < n) :
    (significand (Nat.log2 n) n : ℚ) * 2 ^ ((Nat.log2 n : Int) - 52) ≤ n * (1 + 1 / 2 ^ 53) := by
  have hself : 2 ^ Nat.log2 n ≤ n := Nat.log2_self_le (by omega)
  unfold significand
  split
  · have hexp : (Nat.log2 n : Int) - 52 = -((52 - Nat.log2 n : Nat) : Int) := by omega
    rw [cast_shiftLeft, hexp, zpow_neg, zpow_natCast, mul_assoc, mul_inv_cancel₀ (by positivity), mul_one]
    exact le_mul_of_one_le_right (by positivity) (by norm_num)
  · have hround := roundHalfEven_le_half n (d := 1 <<< (Nat.log2 n - 52)) (by rw [Nat.shiftLeft_eq]; positivity)
    have hexp : (Nat.log2 n : Int) - 52 = ((Nat.log2 n - 52 : Nat) : Int) := by omega
    rw [cast_shiftLeft, Nat.cast_one, one_mul] at hround
    rw [hexp, zpow_natCast]
    have hpow : (2 : ℚ) ^ (Nat.log2 n - 52) * 2 ^ 52 ≤ n := by
      rw [← pow_add, Nat.sub_add_cancel (by omega)]
      exact_mod_cast hself
    calc (roundHalfEven n (1 <<< (Nat.log2 n - 52)) : ℚ) * 2 ^ (Nat.log2 n - 52)
        ≤ (n / 2 ^ (Nat.log2 n - 52) + 1 / 2) * 2 ^ (Nat.log2 n - 52) := by gcongr
      _ = n + 2 ^ (Nat.log2 n - 52) / 2 := by field_simp
      _ ≤ n * (1 + 1 / 2 ^ 53) := by linarith

/-- **A natural number is rounded up by at most one part in `2 ^ 53`.** -/
theorem nearest_le_value {n : Nat} (hpos : 0 < n) (hfin : binary64.nearest n 1 < binary64.infinity) :
    0 < (binary64.decode (binary64.nearest n 1)).1 ∧
      ((binary64.decode (binary64.nearest n 1)).1 : ℚ) * 2 ^ (binary64.decode (binary64.nearest n 1)).2 ≤
        n * (1 + 1 / 2 ^ 53) := by
  obtain ⟨hlow, hhigh⟩ := significand_bounds hpos
  have hnear : binary64.nearest n 1 = (Nat.log2 n + 1022) * binary64.binade + significand (Nat.log2 n) n := by
    have h := nearest_eq hpos
    rw [h] at hfin ⊢
    omega
  obtain ⟨hm, hvalue⟩ := decode_place (k := Nat.log2 n) hlow hhigh
  rw [hnear]
  exact ⟨hm, hvalue.trans_le (significand_le n hpos)⟩

/-! ## Below infinity -/

/-- The largest finite number. -/
def largest : ℚ := 9007199254740991 * 2 ^ (971 : Int)

theorem largest_lt : largest < 2 ^ (1024 : Int) := by
  have hsplit : (2 : ℚ) ^ (1024 : Int) = 2 ^ 53 * 2 ^ (971 : Int) := by
    rw [← zpow_natCast (2 : ℚ) 53, ← zpow_add₀ (by norm_num)]
    congr 1
  rw [hsplit, largest]
  gcongr
  norm_num

/-- A binade and a significand stay below infinity, in the last binade only if nothing is carried. -/
theorem place_lt {t r : Nat} (h : t ≤ 2044 ∧ r ≤ 9007199254740992 ∨ t = 2045 ∧ r ≤ 9007199254740991) :
    min binary64.infinity (t * binary64.binade + r) < binary64.infinity := by
  have hinf : binary64.infinity = 9218868437227405312 := rfl
  have hb : binary64.binade = 4503599627370496 := rfl
  rw [hinf, hb]
  omega

/-- **What is less than the largest finite number is not rounded to infinity.** -/
theorem nearest_lt_infinity {num den : Nat} (hnum : 0 < num) (hden : 0 < den) (h : (num / den : ℚ) < largest) :
    binary64.nearest num den < binary64.infinity := by
  have hmin : binary64.minExponent = -1074 := rfl
  obtain ⟨hlo, hhi⟩ := floorLog2_spec hnum hden
  have hL : floorLog2 num den < 1024 :=
    (zpow_lt_zpow_iff_right₀ (by norm_num : (1 : ℚ) < 2)).1 ((hlo.trans_lt h).trans largest_lt)
  generalize hE : max (-1074 : Int) (floorLog2 num den - 52) = e
  have hplace : max binary64.minExponent (floorLog2 num den - ((binary64.precision - 1 : Nat) : Int)) = e := hE
  unfold Format.nearest
  rw [if_neg (by omega), hplace, hmin]
  show min _ ((e - -1074).toNat * _ + roundHalfEven (scaleDown num den e).1 (scaleDown num den e).2) < _
  obtain ⟨hden', hval⟩ := scaleDown_spec num hden e
  have hdq' : (0 : ℚ) < (scaleDown num den e).2 := by exact_mod_cast hden'
  have hround : ∀ k : Nat, (num / den : ℚ) < k * 2 ^ e →
      roundHalfEven (scaleDown num den e).1 (scaleDown num den e).2 ≤ k := by
    intro k hk
    refine roundHalfEven_le ?_
    have hlt : ((scaleDown num den e).1 : ℚ) < k * (scaleDown num den e).2 := by
      rw [← div_lt_iff₀ hdq', hval, zpow_neg, ← div_eq_mul_inv, div_lt_iff₀ (by positivity)]
      exact hk
    exact_mod_cast hlt
  by_cases he : e = 971
  · -- the last binade
    have hk := hround 9007199254740991 (by rw [he, Nat.cast_ofNat]; exact h)
    exact place_lt (.inr ⟨by omega, hk⟩)
  · have hsplit : (2 : ℚ) ^ (53 + e) = 9007199254740992 * 2 ^ e := by
      rw [zpow_add₀ (by norm_num)]
      norm_num
    have hhigh : (num / den : ℚ) < 9007199254740992 * 2 ^ e := by
      refine hhi.trans_le ?_
      rw [← hsplit]
      exact zpow_le_zpow_right₀ (by norm_num) (by omega)
    have hk := hround 9007199254740992 (by rw [Nat.cast_ofNat]; exact hhigh)
    exact place_lt (.inl ⟨by omega, hk⟩)

theorem nearestScaled_lt_infinity {m : Nat} {q : Int} (hpos : 0 < m) (h : (m : ℚ) * 2 ^ q < largest) :
    binary64.nearestScaled m q < binary64.infinity := by
  obtain ⟨hden, hval⟩ := scaleDown_spec m Nat.one_pos (-q)
  rw [Nat.cast_one, div_one, neg_neg] at hval
  have hnum : 0 < (scaleDown m 1 (-q)).1 := by
    refine Nat.pos_of_ne_zero (fun h0 => ?_)
    rw [h0, Nat.cast_zero, zero_div] at hval
    exact absurd hval (by positivity)
  exact nearest_lt_infinity hnum hden (hval.trans_lt h)

/-- **A product of two rounded numbers is finite** if it is far enough below the largest. -/
theorem mul_nearest_lt {a b : Nat} (ha : 0 < a) (hb : 0 < b) (hfa : binary64.nearest a 1 < binary64.infinity)
    (hfb : binary64.nearest b 1 < binary64.infinity) (h : (a : ℚ) * b * (1 + 1 / 2 ^ 53) ^ 2 < largest) :
    binary64.mul (binary64.nearest a 1) (binary64.nearest b 1) < binary64.infinity := by
  obtain ⟨hma, hva⟩ := nearest_le_value ha hfa
  obtain ⟨hmb, hvb⟩ := nearest_le_value hb hfb
  unfold Format.mul
  simp only
  generalize binary64.decode (binary64.nearest a 1) = x at *
  generalize binary64.decode (binary64.nearest b 1) = y at *
  refine nearestScaled_lt_infinity (Nat.mul_pos hma hmb) (lt_of_le_of_lt ?_ h)
  rw [zpow_add₀ (by norm_num), Nat.cast_mul]
  calc (x.1 : ℚ) * y.1 * (2 ^ x.2 * 2 ^ y.2) = x.1 * 2 ^ x.2 * (y.1 * 2 ^ y.2) := by ring
    _ ≤ a * (1 + 1 / 2 ^ 53) * (b * (1 + 1 / 2 ^ 53)) := by gcongr
    _ = a * b * (1 + 1 / 2 ^ 53) ^ 2 := by ring

theorem mul_of_zero (b : Nat) : binary64.mul 0 b = 0 := by
  have hzero : (binary64.decode 0).1 = 0 := rfl
  unfold Format.mul Format.nearestScaled Format.nearest scaleDown
  simp only [hzero, Nat.zero_mul]
  split <;> simp

/-! ## Readable numbers -/

/-- Far enough below the largest finite number to be read digit by digit. -/
def readable : ℚ := (9007199254740992 - 7 / 2) * 2 ^ (971 : Int)

theorem readable_lt : readable * (1 + 1 / 2 ^ 53) ^ 2 < largest := by
  unfold readable largest
  rw [mul_right_comm]
  gcongr
  norm_num

theorem readable_pos : 0 < readable := mul_pos (by norm_num) (by positivity)

theorem le_readable {m : Nat} {q : Int} (hm : m < 9007199254740992)
    (hq : q ≤ 970 ∨ q = 971 ∧ m ≤ 9007199254740988) : ((m : ℚ) + 1 / 2) * 2 ^ q ≤ readable := by
  unfold readable
  rcases hq with hq | ⟨rfl, hm'⟩
  · have hmq : (m : ℚ) + 1 ≤ 9007199254740992 := by exact_mod_cast hm
    have hpow : (2 : ℚ) ^ q ≤ 2 ^ (970 : Int) := zpow_le_zpow_right₀ (by norm_num) hq
    have hsplit : (2 : ℚ) ^ (971 : Int) = 2 * 2 ^ (970 : Int) := by
      rw [← zpow_one_add₀ (by norm_num)]
      congr 1
    calc ((m : ℚ) + 1 / 2) * 2 ^ q ≤ 9007199254740992 * 2 ^ (970 : Int) := by
          gcongr
          linarith
      _ ≤ (9007199254740992 - 7 / 2) * 2 ^ (971 : Int) := by
          rw [hsplit, ← mul_assoc]
          gcongr
          norm_num
  · have hmq : (m : ℚ) ≤ 9007199254740988 := by exact_mod_cast hm'
    gcongr
    linarith

theorem tenTo_mono {k l : Nat} (h : k ≤ l) : tenTo k ≤ tenTo l := Nat.pow_le_pow_right (by decide) h

/-- No power of ten beyond `10 ^ 308` is readable. -/
theorem lt_309_of_readable {k : Nat} (h : (10 : ℚ) ^ k ≤ readable) : k < 309 := by
  by_contra hk
  have hten : 2 ^ 1024 ≤ tenTo k := by
    have hlast : 2 ^ 1024 ≤ tenTo 309 := by decide +kernel
    exact Nat.le_trans hlast (tenTo_mono (by omega))
  have htenq : (2 : ℚ) ^ (1024 : Int) ≤ 10 ^ k := by
    rw [← cast_tenTo, zpow_ofNat]
    exact_mod_cast hten
  have hgrow : readable ≤ readable * (1 + 1 / 2 ^ 53) ^ 2 :=
    le_mul_of_one_le_right readable_pos.le (one_le_pow₀ (by norm_num))
  exact lt_irrefl _ (((htenq.trans h).trans hgrow).trans_lt (readable_lt.trans largest_lt))

/-- A word is readable, and so is what is left of it when it is scaled down. -/
theorem word_le_readable {s : Nat} (hs : s < IntType.u64.size) {k : Int} (hk : k ≤ 0) :
    (s : ℚ) * 10 ^ k ≤ readable := by
  have hword : (s : ℚ) ≤ 2 ^ (64 : Int) := by
    have hle : s ≤ 2 ^ 64 := Nat.le_of_lt hs
    rw [zpow_ofNat]
    exact_mod_cast hle
  have hone : (10 : ℚ) ^ k ≤ 1 := zpow_le_one_of_nonpos₀ (by norm_num) hk
  calc (s : ℚ) * 10 ^ k ≤ 2 ^ (64 : Int) * 1 := by gcongr
    _ ≤ 2 ^ (971 : Int) := by
      rw [mul_one]
      exact zpow_le_zpow_right₀ (by norm_num) (by norm_num)
    _ ≤ readable := le_mul_of_one_le_left (by positivity) (by norm_num)

theorem decode_binary64 {mag : Nat} (hpos : 0 < mag) (h : mag + 3 < binary64.infinity) :
    0 < (binary64.decode mag).1 ∧ (binary64.decode mag).1 < 9007199254740992 ∧
      ((binary64.decode mag).2 ≤ 970 ∨ (binary64.decode mag).2 = 971 ∧ (binary64.decode mag).1 ≤ 9007199254740988) := by
  have hinf : binary64.infinity = 9218868437227405312 := rfl
  have hb : binary64.binade = 4503599627370496 := rfl
  have hmin : binary64.minExponent = -1074 := rfl
  rw [hinf] at h
  unfold Format.decode
  rw [hb, hmin]
  split <;> simp only <;> omega

theorem decode_binary32 {mag : Nat} (hpos : 0 < mag) (h : mag < binary32.infinity) :
    0 < (binary32.decode mag).1 ∧ (binary32.decode mag).1 < 9007199254740992 ∧ (binary32.decode mag).2 ≤ 970 := by
  have hinf : binary32.infinity = 2139095040 := rfl
  have hb : binary32.binade = 8388608 := rfl
  have hmin : binary32.minExponent = -149 := rfl
  rw [hinf] at h
  unfold Format.decode
  rw [hb, hmin]
  split <;> simp only <;> omega

end Ieee

namespace Numeral

open Ieee

/-! ## Taking up digits -/

theorem le_foldl : ∀ (s : Nat) (ds : List Nat), s * 10 ^ ds.length ≤ ds.foldl (fun n d => n * 10 + d) s
  | s, []      => Nat.le_of_eq (Nat.mul_one s)
  | s, d :: ds => by
    have ih := le_foldl (s * 10 + d) ds
    calc s * 10 ^ (d :: ds).length = s * 10 * 10 ^ ds.length := by rw [List.length_cons, Nat.pow_succ']; ring
      _ ≤ (s * 10 + d) * 10 ^ ds.length := Nat.mul_le_mul_right _ (Nat.le_add_right _ _)
      _ ≤ (d :: ds).foldl (fun n d => n * 10 + d) s := ih

theorem foldl_lt : ∀ {ds : List Nat} (s : Nat), (∀ d ∈ ds, d < 10) →
    ds.foldl (fun n d => n * 10 + d) s < (s + 1) * 10 ^ ds.length
  | [],      s, _ => by simp
  | d :: ds, s, h => by
    have hd := h d List.mem_cons_self
    have ih := foldl_lt (s * 10 + d) (fun x hx => h x (List.mem_cons_of_mem _ hx))
    calc (d :: ds).foldl (fun n d => n * 10 + d) s < (s * 10 + d + 1) * 10 ^ ds.length := ih
      _ ≤ (s + 1) * 10 * 10 ^ ds.length := Nat.mul_le_mul_right _ (by omega)
      _ = (s + 1) * 10 ^ (d :: ds).length := by rw [List.length_cons, Nat.pow_succ']; ring

/-- Digits that make a word are all taken up. -/
theorem absorb_of_lt : ∀ {ds : List Nat} {s : Nat}, ds.foldl (fun n d => n * 10 + d) s < IntType.u64.size →
    absorb s ds = (ds.foldl (fun n d => n * 10 + d) s, [])
  | [],      s, _ => rfl
  | d :: ds, s, h => by
    have hle := Nat.le_trans (Nat.le_mul_of_pos_right _ (Nat.pow_pos (by decide))) (le_foldl (s * 10 + d) ds)
    rw [absorb, if_pos (Nat.lt_of_le_of_lt hle h)]
    exact absorb_of_lt h

/-- **What is taken up is not more than there is**, and is a word. -/
theorem absorb_spec : ∀ {ds : List Nat} {s : Nat}, s < IntType.u64.size →
    (absorb s ds).1 * 10 ^ (absorb s ds).2.length ≤ ds.foldl (fun n d => n * 10 + d) s ∧
      (absorb s ds).2.length ≤ ds.length ∧ (absorb s ds).1 < IntType.u64.size
  | [],      s, h => ⟨Nat.le_of_eq (Nat.mul_one s), Nat.le_refl _, h⟩
  | d :: ds, s, h => by
    rw [absorb]
    split
    · rename_i hfit
      obtain ⟨hle, hlen, hlt⟩ := @absorb_spec ds _ hfit
      exact ⟨hle, Nat.le_succ_of_le hlen, hlt⟩
    · exact ⟨le_foldl s (d :: ds), Nat.le_refl _, h⟩

theorem absorb_whole {w : Nat} (hw : w < IntType.u64.size) : absorb 0 (digitsOf w) = (w, []) := by
  have h : (digitsOf w).foldl (fun n d => n * 10 + d) 0 = w := numberValue_digitsOf w
  rw [absorb_of_lt (by rwa [h]), h]

/-! ## Scaling -/

/-- Scaling down never fails. -/
theorem scale_of_neg : ∀ (steps mag : Nat) {k : Int}, k < 0 → scale steps mag k ≠ none
  | 0,         _,   _, _  => Option.some_ne_none _
  | steps + 1, mag, k, hk => by
    unfold scale
    split
    · exact Option.some_ne_none _
    · split
      · exact Option.some_ne_none _
      · rw [if_neg (by omega)]
        exact scale_of_neg steps _ (by omega)

theorem powerOfTen_lt {k : Nat} (h : k < 309) : powerOfTen k < binary64.infinity := by
  have hlast : binary64.nearest (tenTo 308) 1 < binary64.infinity := by decide +kernel
  exact Nat.lt_of_le_of_lt (nearest_mono (tenTo_mono (Nat.le_of_lt_succ h))) hlast

/-- **A readable number can be scaled.** -/
theorem scale_ne_none {s : Nat} {k : Int} (hs : s < IntType.u64.size) (h : (s : ℚ) * 10 ^ k ≤ readable) (steps : Nat) :
    scale (steps + 1) (binary64.nearest s 1) k ≠ none := by
  by_cases hk : k < 0
  · exact scale_of_neg _ _ hk
  have habs : k = (k.natAbs : Int) := by omega
  rcases Nat.eq_zero_or_pos s with rfl | hpos
  · have hzero : binary64.nearest 0 1 = 0 := rfl
    unfold scale
    rw [hzero, if_neg hk, if_pos rfl, mul_of_zero]
    split <;> exact Option.some_ne_none _
  · rw [habs, zpow_natCast] at h
    have hword : binary64.nearest s 1 < binary64.infinity := by
      have hlast : binary64.nearest IntType.u64.size 1 < binary64.infinity := by decide +kernel
      exact Nat.lt_of_le_of_lt (nearest_mono (Nat.le_of_lt hs)) hlast
    have h309 : k.natAbs < 309 := by
      have hone : (1 : ℚ) ≤ s := by exact_mod_cast hpos
      exact lt_309_of_readable ((le_mul_of_one_le_left (by positivity) hone).trans h)
    have hmul : binary64.mul (binary64.nearest s 1) (powerOfTen k.natAbs) < binary64.infinity := by
      refine mul_nearest_lt hpos (Nat.pow_pos (by decide)) hword (powerOfTen_lt h309) (lt_of_le_of_lt ?_ readable_lt)
      rw [cast_tenTo]
      gcongr
    unfold scale
    simp only [if_pos (Nat.le_of_lt_succ h309), if_neg hk, if_pos hmul]
    exact Option.some_ne_none _

/-! ## Written floats -/

/-- **A decimal in plain digits is read** if its whole part is a word. -/
theorem plain_ne_none {negative : Bool} {w : Nat} {ds : List Nat} (hw : w < IntType.u64.size) :
    decimalMagnitude ⟨negative, w, some ds, none⟩ ≠ none := by
  obtain ⟨-, hlen, hlt⟩ := @absorb_spec ds _ hw
  unfold decimalMagnitude
  simp only [absorb_whole hw, Option.getD_some, Option.getD_none]
  rw [if_pos (by decide)]
  refine scale_ne_none hlt (word_le_readable hlt ?_) 3
  show ((([] : List Nat).length : Int) - (ds.length - (absorb w ds).2.length : Nat)) + 0 ≤ 0
  rw [List.length_nil]
  omega

/-- A fraction without digits is left out, and an absent one has no digits. -/
theorem fraction_getD (t : List Nat) : (if t = [] then none else some t).getD [] = t := by
  by_cases ht : t = []
  · rw [if_pos ht, ht]
    rfl
  · rw [if_neg ht]
    rfl

/-- **A decimal with an exponent is read** if it is readable. -/
theorem scientific_ne_none {negative : Bool} {a : Nat} {t : List Nat} {x : Int} (ha : a < 10)
    (hx : (10 : ℚ) ^ x ≤ readable) (h : (Json.numberValue (a :: t) : ℚ) * 10 ^ (x - t.length) ≤ readable) :
    decimalMagnitude ⟨negative, a, if t = [] then none else some t, some x⟩ ≠ none := by
  have hword : a < IntType.u64.size := Nat.lt_trans ha (by decide)
  obtain ⟨hle, hlen, hlt⟩ := @absorb_spec t _ hword
  have hfraction := fraction_getD t
  have hsmall : x ≤ 308 := by
    by_contra hbig
    have habs : x = (x.natAbs : Int) := by omega
    rw [habs, zpow_natCast] at hx
    have hlt309 := lt_309_of_readable hx
    omega
  unfold decimalMagnitude
  simp only [absorb_whole hword, hfraction, Option.getD_some]
  split
  · refine scale_ne_none hlt ?_ 3
    have hexp : ((([] : List Nat).length : Int) - (t.length - (absorb a t).2.length : Nat)) + x =
        (absorb a t).2.length + (x - t.length) := by
      rw [List.length_nil]
      omega
    have hwhole : (absorb a t).1 * 10 ^ (absorb a t).2.length ≤ Json.numberValue (a :: t) := by
      rw [Json.numberValue, List.foldl_cons, Nat.zero_mul, Nat.zero_add]
      exact hle
    have hwholeq : ((absorb a t).1 : ℚ) * 10 ^ (absorb a t).2.length ≤ Json.numberValue (a :: t) := by
      exact_mod_cast hwhole
    rw [hexp, zpow_add₀ (by norm_num), zpow_natCast, ← mul_assoc]
    refine le_trans ?_ h
    gcongr
  · rename_i hbig
    rw [if_neg]
    · exact Option.some_ne_none _
    · rintro ⟨hpos, -⟩
      refine hbig ⟨?_, ?_⟩
      · show (-2147483648 : Int) ≤ x.natAbs
        omega
      · show (x.natAbs : Int) ≤ 2147483647
        omega

/-- The digits of a whole part in plain notation make a word. -/
theorem whole_lt {d : Decimal} (hd : ∀ x ∈ d.digits, x < 10) (he : d.exponent < 16) :
    Json.numberValue d.split.1 < IntType.u64.size := by
  have hdigits : ∀ x ∈ d.split.1, x < 10 := by
    intro x hx
    unfold Decimal.split at hx
    split at hx
    · rw [List.mem_singleton.1 hx]
      decide
    · rcases List.mem_append.1 hx with hdigit | hzero
      · exact hd x (List.mem_of_mem_take hdigit)
      · rw [List.eq_of_mem_replicate hzero]
        decide
  have hlen : d.split.1.length ≤ 16 := by
    unfold Decimal.split
    split
    · exact (by decide : 1 ≤ 16)
    · show (d.digits.take _ ++ List.replicate _ 0).length ≤ 16
      rw [List.length_append, List.length_take, List.length_replicate]
      omega
  have hlt := foldl_lt 0 hdigits
  rw [Nat.zero_add, Nat.one_mul] at hlt
  exact Nat.lt_of_lt_of_le hlt (Nat.le_trans (Nat.pow_le_pow_right (by decide) hlen) (by decide))

/-- **A written decimal is read** if it is readable. -/
theorem ofDecimal_ne_none {f : Format} {d : Decimal} (negative : Bool) (hd : ∀ x ∈ d.digits, x < 10)
    (hlarge : plainExponent f d.exponent = false → d.AtMost readable) :
    decimalMagnitude (ofDecimal negative (plainExponent f d.exponent) d) ≠ none := by
  unfold ofDecimal
  cases hp : plainExponent f d.exponent with
  | true =>
    have he : d.exponent < 16 := by
      unfold plainExponent at hp
      split at hp <;> have hrange := of_decide_eq_true hp <;> omega
    exact plain_ne_none (whole_lt hd he)
  | false =>
    obtain ⟨hne, hvalue, hexp⟩ := hlarge hp
    unfold Decimal.value at hvalue
    simp only [Bool.false_eq_true, if_false]
    cases hds : d.digits with
    | nil => exact absurd hds hne
    | cons a t =>
      rw [hds] at hvalue hd
      have hlen : d.exponent + 1 - ((a :: t).length : Int) = d.exponent - t.length := by
        rw [List.length_cons]
        omega
      rw [hlen] at hvalue
      exact scientific_ne_none (hd a List.mem_cons_self) hexp hvalue

/-- The last three finite floats are read, although their decimals are beyond the bound. -/
theorem last_read : ∀ negative : Bool, ∀ i < 3,
    (ofDecimal negative (plainExponent binary64 (binary64.shortest .even (binary64.infinity - 1 - i)).exponent)
      (binary64.shortest .even (binary64.infinity - 1 - i))).decimalMagnitude ≠ none := by
  decide +kernel

/-- **A finite float is read as some float.** -/
theorem decimalMagnitude_ofFinite {f : Format} (hf : f = binary32 ∨ f = binary64) {bits : Nat}
    (h : f.isFinite bits = true) : (ofFinite f bits).decimalMagnitude ≠ none := by
  have hfin : f.magnitude bits < f.infinity := of_decide_eq_true h
  unfold ofFinite
  simp only
  split
  · refine ofDecimal_ne_none _ (by simp) (fun hplain => ?_)
    rcases hf with rfl | rfl <;> exact absurd hplain (by decide)
  · rename_i hne
    generalize f.magnitude bits = mag at *
    have hpos : 0 < mag := Nat.pos_of_ne_zero hne
    have hdecode : f = binary64 ∧ binary64.infinity ≤ mag + 3 ∨
        0 < (f.decode mag).1 ∧ (f.decode mag).1 < 9007199254740992 ∧
          ((f.decode mag).2 ≤ 970 ∨ (f.decode mag).2 = 971 ∧ (f.decode mag).1 ≤ 9007199254740988) := by
      rcases hf with rfl | rfl
      · obtain ⟨h1, h2, h3⟩ := decode_binary32 hpos hfin
        exact .inr ⟨h1, h2, .inl h3⟩
      · by_cases hlast : mag + 3 < binary64.infinity
        · exact .inr (decode_binary64 hpos hlast)
        · exact .inl ⟨rfl, Nat.le_of_not_lt hlast⟩
    rcases hdecode with ⟨rfl, hlast⟩ | ⟨h1, h2, h3⟩
    · have hi : mag = binary64.infinity - 1 - (binary64.infinity - 1 - mag) := by omega
      rw [hi]
      exact last_read _ _ (by omega)
    · have hd := (shortest_atMost h1 h2 .even).trans (le_readable h2 h3)
      exact ofDecimal_ne_none _ (searchGrids_digits _ _ _ _ _) (fun _ => hd)

/-- **A finite float that is written is read as some float.** -/
theorem toFloat?_ofFinite {f : Format} (hf : f = binary32 ∨ f = binary64) {bits : Nat}
    (h : f.isFinite bits = true) : (ofFinite f bits).toFloat? f ≠ none := by
  unfold toFloat?
  split
  · exact Option.some_ne_none _
  · obtain ⟨mag, hmag⟩ := Option.ne_none_iff_exists'.1 (decimalMagnitude_ofFinite hf h)
    rw [hmag]
    exact Option.some_ne_none _

end Numeral
end RecordHold
