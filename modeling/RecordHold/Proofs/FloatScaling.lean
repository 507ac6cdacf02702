import RecordHold.Proofs.FloatDigits
/-!
# Proofs.FloatScaling — how far a scaled number is from the decimal

A decimal is read by rounding its digits to a float, and multiplying or dividing that by a rounded power of ten.  Each
rounding is off by half a unit of the last bit (`Format.IsNearest.near`), which outside the first binade is a part of the
number (`Format.IsNearest.within`), and the powers of ten are rounded by a little less (`power_table`).  Together, what is
rounded last is less than two units away from the decimal (`Close`): one step of scaling keeps the parts
(`scale_step`), and where a word is divided by the largest power of ten first, the units of the two roundings are never
alike (`unit_div_last_power`) or the second is divided by ten again (`scale_close`).
-/
namespace RecordHold
namespace Ieee

/-! ## Units of the last bit -/

/-- The unit of the last bit of a finite magnitude. -/
def Format.unit (f : Format) (mag : Nat) : ℚ := 2 ^ (f.decode mag).2

section Units
variable {f : Format} {x y t m : Nat}

theorem Format.Digits.unit (h : f.Digits x t m) : f.unit x = 2 ^ (f.minExponent + t) := by
  unfold Format.unit
  rw [h.decode]

theorem unit_pos (f : Format) (x : Nat) : 0 < f.unit x := zpow_pos (by norm_num) _

theorem upper_eq (f : Format) (x : Nat) : f.upper x = f.absolute x + f.unit x / 2 := by
  unfold Format.upper Format.absolute Format.unit
  ring

theorem absolute_succ (f : Format) (x : Nat) : f.absolute (x + 1) = f.absolute x + f.unit x := by
  obtain ⟨t, m, hx⟩ := exists_digits f x
  rw [hx.absolute_succ, hx.absolute, hx.unit]
  ring

theorem unit_mono (h : x ≤ y) : f.unit x ≤ f.unit y := by
  obtain ⟨t, m, hx⟩ := exists_digits f x
  obtain ⟨t', m', hy⟩ := exists_digits f y
  rw [hx.unit, hy.unit]
  refine zpow_le_zpow_right₀ (by norm_num) (add_le_add_right (Int.ofNat_le.2 (Nat.le_of_not_lt fun hlt => ?_)) _)
  have hmul := Nat.mul_le_mul_right f.binade (Nat.succ_le_of_lt hlt)
  have hlead := hx.leads.resolve_left (by omega)
  have hplace := hx.place
  have hplace' := hy.place
  have hlt' := hy.lt
  rw [Nat.succ_mul] at hmul
  omega

theorem minUnit_le (f : Format) (x : Nat) : (2 : ℚ) ^ f.minExponent ≤ f.unit x := by
  obtain ⟨t, m, hx⟩ := exists_digits f x
  rw [hx.unit]
  exact zpow_le_zpow_right₀ (by norm_num) (by omega)

/-- The next magnitude is at most two binades of units. -/
theorem absolute_succ_le (f : Format) (x : Nat) : f.absolute (x + 1) ≤ 2 * f.binade * f.unit x := by
  obtain ⟨t, m, hx⟩ := exists_digits f x
  have hm : (m : ℚ) + 1 ≤ 2 * f.binade := by exact_mod_cast hx.lt
  rw [hx.absolute_succ, hx.unit]
  gcongr

theorem upper_le_units (f : Format) (x : Nat) : f.upper x ≤ 2 * f.binade * f.unit x :=
  (upper_lt_absolute_succ f x).le.trans (absolute_succ_le f x)

/-- A magnitude that is not in the first binade is a binade of units. -/
theorem unit_le_absolute (hx : f.binade ≤ x) : f.binade * f.unit x ≤ f.absolute x := by
  obtain ⟨t, m, hdigits⟩ := exists_digits f x
  have hm : f.binade ≤ m := by
    rcases hdigits.leads with rfl | hm
    · have := hdigits.place
      omega
    · exact hm
  have hmq : (f.binade : ℚ) ≤ m := by exact_mod_cast hm
  rw [hdigits.absolute, hdigits.unit]
  gcongr

/-- `k` magnitudes on, a number halfway is `k` units farther, or more. -/
theorem upper_add (f : Format) (x : Nat) : ∀ k : Nat, f.upper x + k * f.unit x ≤ f.upper (x + k)
  | 0     => by simp
  | k + 1 => by
    have ih := upper_add f x k
    have hstep := unit_mono (f := f) (Nat.le_add_right x k)
    have hnext := unit_mono (f := f) (Nat.le_add_right (x + k) 1)
    rw [upper_eq f (x + k)] at ih
    rw [← Nat.add_assoc, upper_eq f (x + k + 1), absolute_succ, Nat.cast_add, Nat.cast_one]
    linarith

/-- **A number is rounded by at most half a unit.** -/
theorem Format.IsNearest.near {v : ℚ} (h : f.IsNearest v x) (hfin : x < f.infinity) :
    f.absolute x ≤ v + f.unit x / 2 ∧ v ≤ f.absolute x + f.unit x / 2 := by
  refine ⟨?_, (h.le_upper hfin).trans_eq (upper_eq f x)⟩
  cases x with
  | zero =>
    obtain ⟨num, den, -, rfl, -⟩ := h
    have := unit_pos f 0
    rw [absolute_zero]
    positivity
  | succ x =>
    have hlow := h.upper_le (Nat.succ_pos x)
    have hmono := unit_mono (f := f) (Nat.le_add_right x 1)
    rw [Nat.add_sub_cancel, upper_eq] at hlow
    rw [absolute_succ]
    linarith

end Units

/-! ## Ratios -/

/-- Of two numbers neither is more than `c` times the other. -/
def Within (c x y : ℚ) : Prop := x ≤ c * y ∧ y ≤ c * x

namespace Within

variable {b c x y z w : ℚ}

theorem one_iff : Within 1 x y ↔ x = y := by
  unfold Within
  rw [one_mul, one_mul]
  exact ⟨fun h => le_antisymm h.1 h.2, fun h => ⟨h.le, h.ge⟩⟩

theorem trans (h : Within b x y) (h' : Within c y z) (hb : 0 ≤ b) (hc : 0 ≤ c) : Within (b * c) x z := by
  refine ⟨h.1.trans ?_, h'.2.trans ?_⟩
  · rw [mul_assoc]
    gcongr
    exact h'.1
  · rw [mul_comm b c, mul_assoc]
    gcongr
    exact h.2

theorem mul (h : Within b x y) (h' : Within c z w) (hx : 0 ≤ x) (hy : 0 ≤ y) (hz : 0 ≤ z) (hw : 0 ≤ w) :
    Within (b * c) (x * z) (y * w) := by
  refine ⟨(mul_le_mul h.1 h'.1 hz (hx.trans h.1)).trans_eq ?_, (mul_le_mul h.2 h'.2 hw (hy.trans h.2)).trans_eq ?_⟩ <;>
    ring

theorem inv (h : Within c x y) (hx : 0 < x) (hy : 0 < y) : Within c x⁻¹ y⁻¹ := by
  constructor
  · rw [inv_eq_one_div, inv_eq_one_div, mul_one_div, div_le_div_iff₀ hx hy, one_mul]
    exact h.2
  · rw [inv_eq_one_div, inv_eq_one_div, mul_one_div, div_le_div_iff₀ hy hx, one_mul]
    exact h.1

theorem div (h : Within b x y) (h' : Within c z w) (hx : 0 ≤ x) (hy : 0 ≤ y) (hz : 0 < z) (hw : 0 < w) :
    Within (b * c) (x / z) (y / w) := by
  rw [div_eq_mul_inv, div_eq_mul_inv]
  exact h.mul (h'.inv hz hw) hx hy (inv_pos.2 hz).le (inv_pos.2 hw).le

end Within

/-- Half a unit of the last bit, as a part of the smallest number with that unit. -/
def roundoff : ℚ := 1 / 9007199254740992

/-- A rounded number is as good as the number that was rounded, unless it is in the first binade. -/
theorem Format.IsNearest.within {v : ℚ} {x : Nat} (h : binary64.IsNearest v x) (hfin : x < binary64.infinity)
    (hx : binary64.binade ≤ x) : Within (1 + 101 / 100 * roundoff) (binary64.absolute x) v := by
  have hb : (binary64.binade : ℚ) = 4503599627370496 := rfl
  obtain ⟨hlow, hhigh⟩ := h.near hfin
  have hunit := unit_le_absolute hx
  have hpos := absolute_nonneg binary64 x
  rw [hb] at hunit
  constructor <;> · rw [roundoff]; linarith

/-- **A number is close to another one** if the error is less than two units of the last bit wherever it is rounded: a part
of the number, and a part of the smallest unit. -/
def Close (v d : ℚ) : Prop :=
  ∃ c η : ℚ, 1 ≤ c ∧ 0 ≤ η ∧ v ≤ c * d + η * 2 ^ binary64.minExponent ∧ d ≤ c * (v + η * 2 ^ binary64.minExponent) ∧
    (c - 1) * (2 * binary64.binade) + c * η < 2

theorem Within.close {v d : ℚ} (h : Within c v d) (hc : 1 ≤ c) (hlt : (c - 1) * (2 * binary64.binade) < 2) :
    Close v d := by
  refine ⟨c, 0, hc, le_refl _, ?_, ?_, by rwa [mul_zero, add_zero]⟩
  · rw [zero_mul, add_zero]
    exact h.1
  · rw [zero_mul, add_zero]
    exact h.2

/-- A number that was rounded in the first binade is close to the number it stood for, once both are divided by ten. -/
theorem close_of_tenth {c x q d r : ℚ} (hq : Within c q d) (hc : 1 ≤ c) (hlow : x ≤ q + 2 ^ binary64.minExponent / 2)
    (hhigh : q ≤ x + 2 ^ binary64.minExponent / 2) (hr : 0 < r) (htenth : r ≤ 1 / 10)
    (hlt : (c - 1) * (2 * binary64.binade) + c * (1 / 20) < 2) : Close (x * r) (d * r) := by
  have hmin : (0 : ℚ) < 2 ^ binary64.minExponent := zpow_pos (by norm_num) _
  have herror : 2 ^ binary64.minExponent / 2 * r ≤ 1 / 20 * 2 ^ binary64.minExponent := by nlinarith
  refine ⟨c, 1 / 20, hc, by norm_num, ?_, ?_, hlt⟩
  · calc x * r ≤ (c * d + 2 ^ binary64.minExponent / 2) * r := by
          gcongr
          exact hlow.trans (add_le_add_left hq.1 _)
      _ = c * (d * r) + 2 ^ binary64.minExponent / 2 * r := by ring
      _ ≤ _ := by gcongr
  · calc d * r ≤ c * (x + 2 ^ binary64.minExponent / 2) * r := by
          gcongr
          exact hq.2.trans (mul_le_mul_of_nonneg_left hhigh (by linarith))
      _ = c * (x * r + 2 ^ binary64.minExponent / 2 * r) := by ring
      _ ≤ _ := by gcongr

end Ieee

namespace Numeral

open Ieee

/-! ## Words and powers of ten -/

/-- A whole number that fits is rounded to itself. -/
theorem absolute_nearest_of_lt {s : Nat} (hs : s < 9007199254740992) :
    binary64.absolute (binary64.nearest s 1) = s := by
  obtain ⟨mag, hfin, habs⟩ := exists_binary64 hs (show (-1074 : Int) ≤ 0 by decide) (by decide)
  rw [zpow_zero, mul_one] at habs
  have hnear : binary64.nearest s 1 = mag :=
    nearest_absolute Nat.one_pos hfin.le (by rw [habs, Nat.cast_one, div_one])
  rw [hnear, habs]

theorem one_le_absolute {v : ℚ} {x : Nat} (h : binary64.IsNearest v x) (hv : 1 ≤ v) :
    binary64.binade ≤ x ∧ 1 ≤ binary64.absolute x := by
  have hmin : binary64.minExponent = -1074 := rfl
  have hone : binary64.absolute 4607182418800017408 = 1 := by
    rw [Format.Digits.absolute (t := 1022) (m := 4503599627370496) ⟨by decide, by decide, .inr (by decide)⟩, hmin]
    norm_num
  have hle := h.ge_of_le (x := 4607182418800017408) (by decide) (by rw [hone]; exact hv)
  exact ⟨Nat.le_trans (by decide) hle, hone ▸ absolute_mono hle⟩

/-- A word is rounded to a float that is as good. -/
theorem nearest_word_within {s : Nat} (hpos : 0 < s) (hs : s < IntType.u64.size) :
    Within (1 + 101 / 100 * roundoff) (binary64.absolute (binary64.nearest s 1)) s :=
  (isNearest_ofNat binary64 s).within (nearest_word (Nat.le_of_lt hs)).1
    (one_le_absolute (isNearest_ofNat binary64 s) (by exact_mod_cast hpos)).1

/-- The numerator of a rounded power of ten over `2 ^ 60`. -/
def scaledPower (k : Nat) : Nat :=
  let (m, q) := binary64.decode (powerOfTen k)
  m <<< (q + 60).toNat

/-- **Every power of ten is rounded by at most 91 hundredths of `roundoff`**, and the small ones not at all. -/
theorem power_table : ∀ k < 309, -60 ≤ (binary64.decode (powerOfTen k)).2 ∧
    900719925474099200 * scaledPower k ≤ 900719925474099291 * (tenTo k <<< 60) ∧
    900719925474099200 * (tenTo k <<< 60) ≤ 900719925474099291 * scaledPower k ∧
    (k < 23 → scaledPower k = tenTo k <<< 60) := by
  decide +kernel

/-- The largest power is rounded by less than a tenth of `roundoff`. -/
theorem last_power : 9007199254740992000 * scaledPower 308 ≤ 9007199254740992099 * (tenTo 308 <<< 60) ∧
    9007199254740992000 * (tenTo 308 <<< 60) ≤ 9007199254740992099 * scaledPower 308 := by
  decide +kernel

section Powers
variable {k : Nat}

theorem absolute_powerOfTen (hk : k < 309) : binary64.absolute (powerOfTen k) = scaledPower k / 2 ^ 60 := by
  obtain ⟨hexp, -⟩ := power_table k hk
  have hpow : (binary64.decode (powerOfTen k)).2 = ((binary64.decode (powerOfTen k)).2 + 60).toNat + (-60 : Int) := by
    omega
  unfold Format.absolute scaledPower
  simp only
  rw [cast_shiftLeft, hpow, zpow_add₀ (by norm_num), zpow_natCast, ← hpow]
  norm_num
  ring

theorem within_of_scaled {a b : Nat} (hk : k < 309) (hb : 0 < b)
    (hlow : b * scaledPower k ≤ a * (tenTo k <<< 60)) (hhigh : b * (tenTo k <<< 60) ≤ a * scaledPower k) :
    Within (a / b) (binary64.absolute (powerOfTen k)) (10 ^ k) := by
  have hbq : (0 : ℚ) < b := by exact_mod_cast hb
  have hlowq : (b * scaledPower k : ℚ) ≤ a * (tenTo k <<< 60 : Nat) := by exact_mod_cast hlow
  have hhighq : (b * (tenTo k <<< 60 : Nat) : ℚ) ≤ a * scaledPower k := by exact_mod_cast hhigh
  rw [cast_shiftLeft, cast_tenTo] at hlowq hhighq
  rw [absolute_powerOfTen hk]
  constructor
  · rw [div_mul_eq_mul_div, le_div_iff₀ hbq, div_mul_eq_mul_div, div_le_iff₀ (by positivity)]
    linarith
  · rw [div_mul_eq_mul_div, le_div_iff₀ hbq, mul_div_assoc', le_div_iff₀ (by positivity)]
    linarith

theorem powerOfTen_within (hk : k < 309) :
    Within (1 + 91 / 100 * roundoff) (binary64.absolute (powerOfTen k)) (10 ^ k) := by
  obtain ⟨-, hlow, hhigh, -⟩ := power_table k hk
  have hconst : (1 + 91 / 100 * roundoff : ℚ) = (900719925474099291 : Nat) / (900719925474099200 : Nat) := by
    norm_num [roundoff]
  rw [hconst]
  exact within_of_scaled hk (by decide) hlow hhigh

theorem last_power_within :
    Within (1 + 99 / 1000 * roundoff) (binary64.absolute (powerOfTen 308)) (10 ^ 308) := by
  have hconst : (1 + 99 / 1000 * roundoff : ℚ) = (9007199254740992099 : Nat) / (9007199254740992000 : Nat) := by
    norm_num [roundoff]
  rw [hconst]
  exact within_of_scaled (by decide) (by decide) last_power.1 last_power.2

theorem powerOfTen_exact (hk : k < 23) : binary64.absolute (powerOfTen k) = 10 ^ k := by
  obtain ⟨-, -, -, hexact⟩ := power_table k (by omega)
  rw [absolute_powerOfTen (by omega), hexact hk, cast_shiftLeft, cast_tenTo]
  norm_num

theorem one_le_powerOfTen (k : Nat) : binary64.binade ≤ powerOfTen k ∧ 1 ≤ binary64.absolute (powerOfTen k) :=
  one_le_absolute (isNearest_ofNat binary64 (tenTo k)) (by rw [cast_tenTo]; exact one_le_pow₀ (by norm_num))

theorem powerOfTen_pos (k : Nat) : 0 < powerOfTen k := Nat.lt_of_lt_of_le (by decide) (one_le_powerOfTen k).1

end Powers

/-! ## Scaling -/

section Scaling
variable {a y n : Nat} {e : Int} {s b c : ℚ}

/-- **A step of scaling** rounds a product or a quotient that is as good as its factors. -/
theorem scale_step (ha : a < binary64.infinity) (hs : 0 ≤ s) (hab : Within b (binary64.absolute a) s)
    (he : e.natAbs < 309) (hp : Within c (binary64.absolute (powerOfTen e.natAbs)) (10 ^ e.natAbs))
    (h : scale (n + 1) a e = some y) :
    y < binary64.infinity ∧ ∃ v, binary64.IsNearest v y ∧ Within (b * c) v (s * 10 ^ e) := by
  have hpower := absolute_pos (f := binary64) (powerOfTen_pos e.natAbs)
  have hnonneg := absolute_nonneg binary64 a
  unfold scale at h
  rw [if_pos (Nat.le_of_lt_succ he)] at h
  by_cases hneg : e < 0
  · rw [if_pos hneg] at h
    obtain rfl := Option.some.inj h
    have hnear := isNearest_div binary64 a (powerOfTen_pos e.natAbs)
    refine ⟨Nat.lt_of_le_of_lt (hnear.le_of_le (div_le_self hnonneg (one_le_powerOfTen _).2)) ha, _, hnear, ?_⟩
    have habs : e = -(e.natAbs : Int) := by omega
    have hpow : (10 : ℚ) ^ e = (10 ^ e.natAbs)⁻¹ := by
      conv_lhs => rw [habs, zpow_neg, zpow_natCast]
    rw [hpow, ← div_eq_mul_inv]
    exact hab.div hp hnonneg hs hpower (by positivity)
  · rw [if_neg hneg] at h
    simp only at h
    split at h
    · rename_i hfin
      obtain rfl := Option.some.inj h
      have habs : e = (e.natAbs : Int) := by omega
      have hpow : (10 : ℚ) ^ e = 10 ^ e.natAbs := by
        conv_lhs => rw [habs, zpow_natCast]
      refine ⟨hfin, _, isNearest_mul binary64 _ _, ?_⟩
      rw [hpow]
      exact hab.mul hp hnonneg hs hpower.le (by positivity)
    · cases h

/-- Few digits and a small exponent are scaled exactly before they are rounded. -/
theorem scale_exact {s : Nat} (hs : s < 9007199254740992) (he : e.natAbs < 23)
    (h : scale (n + 1) (binary64.nearest s 1) e = some y) :
    y < binary64.infinity ∧ binary64.IsNearest (s * 10 ^ e) y := by
  have hfin := (nearest_word (n := s) (by omega)).1
  obtain ⟨hy, v, hnear, hv⟩ := scale_step hfin (Nat.cast_nonneg s) (Within.one_iff.2 (absolute_nearest_of_lt hs))
    (by omega) (Within.one_iff.2 (powerOfTen_exact he)) h
  rw [mul_one, Within.one_iff] at hv
  exact ⟨hy, hv ▸ hnear⟩

/-- Few digits are scaled as well as the power of ten is rounded. -/
theorem scale_word {s : Nat} (hs : s < 9007199254740992) (he : e.natAbs < 309)
    (h : scale (n + 1) (binary64.nearest s 1) e = some y) :
    y < binary64.infinity ∧ ∃ v, binary64.IsNearest v y ∧ Within (1 + 91 / 100 * roundoff) v (s * 10 ^ e) := by
  have hfin := (nearest_word (n := s) (by omega)).1
  obtain ⟨hy, v, hnear, hv⟩ := scale_step hfin (Nat.cast_nonneg s) (Within.one_iff.2 (absolute_nearest_of_lt hs))
    he (powerOfTen_within he) h
  rw [one_mul] at hv
  exact ⟨hy, v, hnear, hv⟩

/-- The largest power of ten lies early in its binade. -/
theorem last_power_bounds : (2 : ℚ) ^ 1023 ≤ 8989 / 10000 * binary64.absolute (powerOfTen 308) ∧
    179 / 100 * binary64.absolute (powerOfTen 308) ≤ 2 ^ 1024 := by
  have hlow : 2 ^ 1023 * 80000 ≤ 71911 * 10 ^ 308 := by decide +kernel
  have hhigh : 1791 * 10 ^ 308 ≤ 1000 * 2 ^ 1024 := by decide +kernel
  have hlowq : (2 : ℚ) ^ 1023 * 80000 ≤ 71911 * 10 ^ 308 := by exact_mod_cast hlow
  have hhighq : (1791 : ℚ) * 10 ^ 308 ≤ 1000 * 2 ^ 1024 := by exact_mod_cast hhigh
  obtain ⟨hpower1, hpower2⟩ := last_power_within
  rw [roundoff] at hpower1 hpower2
  generalize (10 : ℚ) ^ 308 = ten at *
  generalize (2 : ℚ) ^ 1023 = two at *
  generalize (2 : ℚ) ^ 1024 = four at *
  constructor <;> linarith

/-- Units are a power of two apart, so one that is divided by the largest power of ten is unlike every other. -/
theorem unit_div_last_power (w x : Nat) :
    binary64.unit w / binary64.absolute (powerOfTen 308) ≤ 8989 / 10000 * binary64.unit x ∨
      179 / 100 * binary64.unit x ≤ binary64.unit w / binary64.absolute (powerOfTen 308) := by
  have hpower := absolute_pos (f := binary64) (powerOfTen_pos 308)
  have hunit := unit_pos binary64 x
  obtain ⟨hlow, hhigh⟩ := last_power_bounds
  obtain ⟨k, hk⟩ : ∃ k : Int, binary64.unit w = 2 ^ k * binary64.unit x :=
    ⟨_, by rw [Format.unit, Format.unit, ← zpow_add₀ (by norm_num), sub_add_cancel]⟩
  rcases lt_or_ge k 1024 with hlt | hge
  · refine .inl ?_
    have hpow : (2 : ℚ) ^ k ≤ 2 ^ ((1023 : Nat) : Int) := zpow_le_zpow_right₀ (by norm_num) (by omega)
    rw [zpow_natCast] at hpow
    rw [hk, div_le_iff₀ hpower, mul_right_comm]
    gcongr
    exact hpow.trans hlow
  · refine .inr ?_
    have hpow : (2 : ℚ) ^ ((1024 : Nat) : Int) ≤ 2 ^ k := zpow_le_zpow_right₀ (by norm_num) hge
    rw [zpow_natCast] at hpow
    rw [hk, le_div_iff₀ hpower, mul_right_comm]
    gcongr
    exact hhigh.trans hpow

/-- **Rounding a word and dividing it by the largest power of ten** rounds twice, but not twice by as much as once: where
one significand is small, the other is not. -/
theorem last_quotient_within {s x : Nat} (hpos : 0 < s) (hs : s < IntType.u64.size)
    (h : binary64.IsNearest (binary64.absolute (binary64.nearest s 1) / binary64.absolute (powerOfTen 308)) x)
    (hfin : x < binary64.infinity) (hx : binary64.binade ≤ x) :
    Within (1 + 1899 / 1000 * roundoff) (binary64.absolute x) (s / binary64.absolute (powerOfTen 308)) := by
  have hb : (binary64.binade : ℚ) = 4503599627370496 := rfl
  have hword := isNearest_ofNat binary64 s
  obtain ⟨hword1, hword2⟩ := hword.near (nearest_word (Nat.le_of_lt hs)).1
  obtain ⟨hnear1, hnear2⟩ := h.near hfin
  have hunit := unit_le_absolute (one_le_absolute hword (by exact_mod_cast hpos)).1
  have hunit' := unit_le_absolute hx
  have hpower := absolute_pos (f := binary64) (powerOfTen_pos 308)
  have hunits := unit_div_last_power (binary64.nearest s 1) x
  have hdiv1 := (div_le_div_iff_of_pos_right hpower).2 hword1
  have hdiv2 := (div_le_div_iff_of_pos_right hpower).2 hword2
  have hdiv3 := (div_le_div_iff_of_pos_right hpower).2 hunit
  rw [add_div, div_right_comm] at hdiv1 hdiv2
  rw [mul_div_assoc, hb] at hdiv3
  rw [hb] at hunit'
  constructor <;> · rw [roundoff]; rcases hunits with hsmall | hlarge <;> linarith

theorem scale_close_of_step {s : Nat} (hpos : 0 < s) (hs : s < IntType.u64.size) (he : e.natAbs < 309)
    (h : scale (n + 1) (binary64.nearest s 1) e = some y) :
    y < binary64.infinity ∧ ∃ v, binary64.IsNearest v y ∧ Close v (s * 10 ^ e) := by
  have hb : (binary64.binade : ℚ) = 4503599627370496 := rfl
  obtain ⟨hy, v, hnear, hv⟩ := scale_step (nearest_word (Nat.le_of_lt hs)).1 (Nat.cast_nonneg s)
    (nearest_word_within hpos hs) he (powerOfTen_within he) h
  refine ⟨hy, v, hnear, hv.close ?_ ?_⟩
  · norm_num [roundoff]
  · rw [hb]
    norm_num [roundoff]

/-- Beyond the largest power of ten a word is divided by that power first. -/
theorem scale_first {s : Nat} (hpos : 0 < s) (hs : s < IntType.u64.size) (he : e < -308)
    (h : scale (n + 1) (binary64.nearest s 1) e = some y) :
    ∃ x < binary64.infinity, scale n x (e + 308) = some y ∧
      binary64.IsNearest (binary64.absolute (binary64.nearest s 1) / binary64.absolute (powerOfTen 308)) x := by
  have hnormal := (one_le_absolute (isNearest_ofNat binary64 s) (by exact_mod_cast hpos)).1
  have hb := binade_pos binary64
  have hnear := isNearest_div binary64 (binary64.nearest s 1) (powerOfTen_pos 308)
  unfold scale at h
  rw [if_neg (by omega), if_neg (by omega), if_neg (by omega)] at h
  refine ⟨_, Nat.lt_of_le_of_lt (hnear.le_of_le ?_) (nearest_word (Nat.le_of_lt hs)).1, h, hnear⟩
  exact div_le_self (absolute_nonneg _ _) (one_le_powerOfTen 308).2

/-- A quotient by the largest power of ten that is past the first binade is scaled on by an exact power. -/
theorem scale_normal {s x : Nat} (hpos : 0 < s) (hs : s < IntType.u64.size)
    (hnear : binary64.IsNearest (binary64.absolute (binary64.nearest s 1) / binary64.absolute (powerOfTen 308)) x)
    (hx : x < binary64.infinity) (hnormal : binary64.binade ≤ x) (he : e.natAbs < 23)
    (h : scale (n + 1) x e = some y) :
    y < binary64.infinity ∧ ∃ v, binary64.IsNearest v y ∧ Close v (s / 10 ^ 308 * 10 ^ e) := by
  have hb : (binary64.binade : ℚ) = 4503599627370496 := rfl
  have hpower := absolute_pos (f := binary64) (powerOfTen_pos 308)
  have hquot := (last_quotient_within hpos hs hnear hx hnormal).trans (Within.div (Within.one_iff.2 rfl)
    last_power_within (Nat.cast_nonneg s) (Nat.cast_nonneg s) hpower (by positivity)) (by norm_num [roundoff])
    (by norm_num [roundoff])
  obtain ⟨hy, v, hv, hwithin⟩ :=
    scale_step hx (by positivity) hquot (by omega) (Within.one_iff.2 (powerOfTen_exact he)) h
  refine ⟨hy, v, hv, hwithin.close ?_ ?_⟩
  · norm_num [roundoff]
  · rw [hb]
    norm_num [roundoff]

/-- A quotient that is in the first binade may be off by half of the smallest unit, but a tenth of that is little. -/
theorem scale_tiny {s x : Nat} (hpos : 0 < s) (hs : s < IntType.u64.size)
    (hnear : binary64.IsNearest (binary64.absolute (binary64.nearest s 1) / binary64.absolute (powerOfTen 308)) x)
    (hx : x < binary64.infinity) (htiny : x < binary64.binade) (he : e.natAbs < 23) (hneg : e < 0)
    (h : scale (n + 1) x e = some y) :
    y < binary64.infinity ∧ ∃ v, binary64.IsNearest v y ∧ Close v (s / 10 ^ 308 * 10 ^ e) := by
  have hb : (binary64.binade : ℚ) = 4503599627370496 := rfl
  have hpower := absolute_pos (f := binary64) (powerOfTen_pos 308)
  have hquot := Within.div (nearest_word_within hpos hs) last_power_within (absolute_nonneg _ _) (Nat.cast_nonneg s)
    hpower (by positivity)
  obtain ⟨hy, v, hv, hwithin⟩ :=
    scale_step hx (absolute_nonneg _ _) (Within.one_iff.2 rfl) (by omega) (Within.one_iff.2 (powerOfTen_exact he)) h
  rw [mul_one, Within.one_iff] at hwithin
  have hunit : binary64.unit x = 2 ^ binary64.minExponent := by
    unfold Format.unit Format.decode
    rw [if_pos htiny]
  obtain ⟨hnear1, hnear2⟩ := hnear.near hx
  rw [hunit] at hnear1 hnear2
  have htenth : (10 : ℚ) ^ e ≤ 10 ^ (-1 : Int) := zpow_le_zpow_right₀ (by norm_num) (by omega)
  rw [zpow_neg_one, ← one_div] at htenth
  refine ⟨hy, v, hv, hwithin ▸ close_of_tenth hquot ?_ hnear1 hnear2 (zpow_pos (by norm_num) _) htenth ?_⟩
  · norm_num [roundoff]
  · rw [hb]
    norm_num [roundoff]

/-- **Every scaled word is close to its number.** -/
theorem scale_close {s : Nat} (hpos : 0 < s) (hs : s < IntType.u64.size) (hlow : -331 < e) (hhigh : e < 309)
    (h : scale (n + 2) (binary64.nearest s 1) e = some y) :
    y < binary64.infinity ∧ ∃ v, binary64.IsNearest v y ∧ Close v (s * 10 ^ e) := by
  by_cases he : e.natAbs < 309
  · exact scale_close_of_step hpos hs he h
  obtain ⟨x, hx, hstep, hnear⟩ := scale_first hpos hs (by omega) h
  have hsplit : (s : ℚ) * 10 ^ e = s / 10 ^ 308 * 10 ^ (e + 308) := by
    have hexp : e + 308 = e + ((308 : Nat) : Int) := rfl
    rw [hexp, zpow_add₀ (by norm_num), zpow_natCast]
    field_simp
  rw [hsplit]
  rcases Nat.lt_or_ge x binary64.binade with htiny | hnormal
  · exact scale_tiny hpos hs hnear hx htiny (by omega) (by omega) hstep
  · exact scale_normal hpos hs hnear hx hnormal (by omega) hstep

end Scaling

end Numeral
end RecordHold
