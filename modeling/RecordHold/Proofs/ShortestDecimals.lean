import RecordHold.Proofs.NearestFloats
/-!
# Proofs.ShortestDecimals — how near the shortest decimal of a float is

The shortest decimal of a positive float lies between the numbers halfway around it, ends included if it is even, so it is
rounded to the float again.  It is at most one unit of its last digit away from the float (`Format.Shortest.above`,
`Format.Shortest.below`), and ten of these units are more than the gap below the float, or a shorter decimal would have done
(`Format.Shortest.coarse`).
-/
namespace RecordHold
namespace Ieee

/-! ## Powers of ten -/

/-- The power of ten above a quotient. -/
theorem lt_floorLog10 (num : Nat) {den : Nat} (hden : 0 < den) :
    (num / den : ℚ) < 10 ^ (floorLog10 num den + 1) := by
  have hdq : (0 : ℚ) < den := by exact_mod_cast hden
  rw [div_lt_iff₀ hdq]
  unfold floorLog10
  split
  · have hlt := (Nat.div_lt_iff_lt_mul hden).1 (lt_ten_pow_length (num / den))
    rw [sub_add_cancel, zpow_natCast]
    exact_mod_cast hlt
  · rename_i hlt
    rcases Nat.eq_zero_or_pos ((den - 1) / num) with hzero | hpos
    · rw [hzero]
      have hone : ((digitsOf 0).length : Int) = 1 := rfl
      rw [hone, neg_add_cancel, zpow_zero, one_mul]
      exact_mod_cast Nat.lt_of_not_le hlt
    · have hlow := Nat.mul_le_mul_right num (ten_pow_length_le hpos)
      have hself := Nat.div_mul_le_self (den - 1) num
      have hlen : 0 < (digitsOf ((den - 1) / num)).length := by
        rw [length_digitsOf]
        exact List.length_pos_iff.2 Nat.toDigits_ne_nil
      have hexp : -((digitsOf ((den - 1) / num)).length : Int) + 1 =
          -(((digitsOf ((den - 1) / num)).length - 1 : Nat) : Int) := by omega
      have hnat : 10 ^ ((digitsOf ((den - 1) / num)).length - 1) * num < den := by omega
      rw [hexp, zpow_neg, zpow_natCast, lt_inv_mul_iff₀ (by positivity)]
      exact_mod_cast hnat

/-! ## The decimal that is found -/

section Grid
variable {tie : Tie} {v : Neighbourhood} {e : Int} {p n : Nat}

/-- A point of a grid as a numerator over the denominator of a value. -/
theorem mul_unit (hden : 0 < v.den) (e : Int) (p n : Nat) :
    ((n * v.unit e p : Nat) : ℚ) / (v.den * gridScale e p) = n * 10 ^ (e + 1 - p) := by
  obtain ⟨hscale, -, hunit⟩ := grid_spec hden e p
  have hdq : (0 : ℚ) < v.den := by exact_mod_cast hden
  have hsq : (0 : ℚ) < gridScale e p := by exact_mod_cast hscale
  rw [Nat.cast_mul, hunit]
  field_simp

theorem cast_scale_div (hden : 0 < v.den) (e : Int) (p x : Nat) :
    ((x * gridScale e p : Nat) : ℚ) / (v.den * gridScale e p) = x / v.den := by
  obtain ⟨hscale, -, -⟩ := grid_spec hden e p
  have hsq : (0 : ℚ) < gridScale e p := by exact_mod_cast hscale
  rw [Nat.cast_mul, mul_div_mul_right _ _ hsq.ne']

theorem pos_scale (hden : 0 < v.den) (e : Int) (p : Nat) : (0 : ℚ) < v.den * gridScale e p := by
  obtain ⟨hscale, -, -⟩ := grid_spec hden e p
  exact_mod_cast Nat.mul_pos hden hscale

/-- **A hit lies in the neighbourhood**, and not at an end of one that has none. -/
theorem hit_mem (hden : 0 < v.den) (h : onGrid tie v e p = some n) :
    (v.low / v.den : ℚ) ≤ n * 10 ^ (e + 1 - p) ∧ (n * 10 ^ (e + 1 - p) : ℚ) ≤ v.high / v.den ∧
      (v.closed = false →
        (v.low / v.den : ℚ) < n * 10 ^ (e + 1 - p) ∧ (n * 10 ^ (e + 1 - p) : ℚ) < v.high / v.den) := by
  have hpos := pos_scale hden e p
  have hit := (onGrid_hit h).1
  rw [← cast_scale_div hden e p v.low, ← cast_scale_div hden e p v.high, ← mul_unit hden e p n,
    div_le_div_iff_of_pos_right hpos, div_le_div_iff_of_pos_right hpos, div_lt_div_iff_of_pos_right hpos,
    div_lt_div_iff_of_pos_right hpos]
  unfold Neighbourhood.contains at hit
  simp only at hit
  split at hit
  · rename_i hclosed
    obtain ⟨hlow, hhigh⟩ := of_decide_eq_true hit
    refine ⟨by exact_mod_cast hlow, by exact_mod_cast hhigh, fun hopen => ?_⟩
    rw [hclosed] at hopen
    cases hopen
  · obtain ⟨hlow, hhigh⟩ := of_decide_eq_true hit
    have hlowq : ((v.low * gridScale e p : Nat) : ℚ) < (n * v.unit e p : Nat) := by exact_mod_cast hlow
    have hhighq : ((n * v.unit e p : Nat) : ℚ) < (v.high * gridScale e p : Nat) := by exact_mod_cast hhigh
    exact ⟨hlowq.le, hhighq.le, fun _ => ⟨hlowq, hhighq⟩⟩

/-- **A hit is within a unit of the value.** -/
theorem hit_near (hden : 0 < v.den) (h : onGrid tie v e p = some n) :
    (v.value / v.den : ℚ) ≤ n * 10 ^ (e + 1 - p) + 10 ^ (e + 1 - p) ∧
      (n * 10 ^ (e + 1 - p) : ℚ) ≤ v.value / v.den + 10 ^ (e + 1 - p) := by
  obtain ⟨-, hunit, -⟩ := grid_spec hden e p
  have hpos := pos_scale hden e p
  have hone : ((1 * v.unit e p : Nat) : ℚ) / (v.den * gridScale e p) = 10 ^ (e + 1 - p) := by
    rw [mul_unit hden e p 1, Nat.cast_one, one_mul]
  have hlow : v.down e p * v.unit e p ≤ v.value * gridScale e p := Nat.div_mul_le_self _ _
  have hhigh : v.value * gridScale e p < v.down e p * v.unit e p + v.unit e p := Nat.lt_div_mul_add hunit
  have hnat : v.value * gridScale e p ≤ n * v.unit e p + 1 * v.unit e p ∧
      n * v.unit e p ≤ v.value * gridScale e p + 1 * v.unit e p := by
    rcases (onGrid_hit h).2 with rfl | rfl
    · omega
    · rw [Nat.succ_mul]
      omega
  rw [← cast_scale_div hden e p v.value, ← mul_unit hden e p n, ← hone, ← add_div, ← add_div,
    div_le_div_iff_of_pos_right hpos, div_le_div_iff_of_pos_right hpos]
  exact ⟨by exact_mod_cast hnat.1, by exact_mod_cast hnat.2⟩

/-- **A grid that is not hit is too coarse** for the gap below the value. -/
theorem miss_coarse (hv : v.Broad) (h : onGrid tie v e p = none) :
    (v.value / v.den : ℚ) < v.low / v.den + 10 ^ (e + 1 - p) := by
  obtain ⟨-, hunit, -⟩ := grid_spec hv.den e p
  have hpos := pos_scale hv.den e p
  have hone : ((1 * v.unit e p : Nat) : ℚ) / (v.den * gridScale e p) = 10 ^ (e + 1 - p) := by
    rw [mul_unit hv.den e p 1, Nat.cast_one, one_mul]
  have hdown : v.down e p * v.unit e p ≤ v.low * gridScale e p := by
    refine Nat.le_of_not_lt (fun hlt => ?_)
    obtain ⟨n, hn⟩ := @onGrid_of_low tie _ _ _ hv hlt
    rw [h] at hn
    cases hn
  have hhigh : v.value * gridScale e p < v.down e p * v.unit e p + v.unit e p := Nat.lt_div_mul_add hunit
  have hnat : v.value * gridScale e p < v.low * gridScale e p + 1 * v.unit e p := by omega
  rw [← cast_scale_div hv.den e p v.value, ← cast_scale_div hv.den e p v.low, ← hone, ← add_div,
    div_lt_div_iff_of_pos_right hpos]
  exact_mod_cast hnat

end Grid

/-! ## Neighbourhoods of floats -/

section Float
variable {f : Format} {mag : Nat}

theorem value_neighbourhood (f : Format) (mag : Nat) :
    ((f.neighbourhood mag).value : ℚ) / (f.neighbourhood mag).den = f.absolute mag := by
  obtain ⟨-, hscale⟩ := scaleDown_spec 1 Nat.one_pos (2 - (f.decode mag).2)
  have hexp : -(2 - (f.decode mag).2) = (f.decode mag).2 + (-2 : Int) := by ring
  rw [Nat.cast_one, div_one, one_mul, hexp, zpow_add₀ (by norm_num)] at hscale
  unfold Format.neighbourhood Format.absolute
  simp only
  rw [Nat.cast_mul, mul_div_assoc, hscale]
  push_cast
  ring

/-- **The neighbourhood of a float begins halfway below it.** -/
theorem low_neighbourhood (hpos : 0 < mag) :
    ((f.neighbourhood mag).low : ℚ) / (f.neighbourhood mag).den = f.upper (mag - 1) := by
  obtain ⟨t, m, hm⟩ := exists_digits f mag
  have hb := binade_pos f
  have hplace := hm.place
  have hlead := hm.leads
  obtain ⟨-, hscale⟩ := scaleDown_spec 1 Nat.one_pos (2 - (f.minExponent + t))
  have hexp : -(2 - (f.minExponent + t)) = f.minExponent + t + (-2 : Int) := by ring
  rw [Nat.cast_one, div_one, one_mul, hexp, zpow_add₀ (by norm_num)] at hscale
  have hmpos : 0 < m := by
    refine Nat.pos_of_ne_zero (fun h0 => ?_)
    rw [h0] at hplace hlead
    rcases hlead with rfl | hle <;> omega
  unfold Format.neighbourhood
  simp only [hm.decode]
  rw [Nat.cast_mul, mul_div_assoc, hscale]
  by_cases hfirst : m = f.binade ∧ f.binade < mag
  · -- below the first of a binade the unit is half as large
    obtain ⟨rfl, hlt⟩ := hfirst
    obtain ⟨t, rfl⟩ : ∃ t', t = t' + 1 := Nat.exists_eq_succ_of_ne_zero (fun h0 => by rw [h0] at hplace; omega)
    have hprev : f.Digits (mag - 1) t (2 * f.binade - 1) := by
      refine ⟨?_, by omega, .inr (by omega)⟩
      rw [hplace, Nat.succ_mul]
      omega
    rw [if_pos ⟨rfl, hlt⟩, hprev.upper, unit_succ, Nat.cast_sub (by omega), Nat.cast_sub (by omega)]
    push_cast
    ring
  · have hprev : f.Digits (mag - 1) t (m - 1) := by
      refine ⟨by omega, by have := hm.lt; omega, ?_⟩
      rcases hlead with h0 | hle
      · exact .inl h0
      · by_cases ht : t = 0
        · exact .inl ht
        · have hmul := Nat.le_mul_of_pos_left f.binade (Nat.pos_of_ne_zero ht)
          exact .inr (by omega)
    rw [if_neg hfirst, hprev.upper, Nat.cast_sub (by omega), Nat.cast_sub hmpos]
    push_cast
    ring

theorem closed_neighbourhood (heven : 2 ∣ f.binade) : (f.neighbourhood mag).closed = decide (mag % 2 = 0) := by
  obtain ⟨t, m, hm⟩ := exists_digits f mag
  unfold Format.neighbourhood
  simp only [hm.decode, hm.parity heven]

/-- **How near the shortest decimal of a positive float is**, in units of its last digit, and where it lies. -/
structure Format.Shortest (f : Format) (mag : Nat) (d : Decimal) : Prop where
  digits : d.digits ≠ []
  small  : ∀ x ∈ d.digits, x < 10
  leads  : (10 : ℚ) ^ d.exponent ≤ d.value
  low    : f.upper (mag - 1) ≤ d.value
  high   : d.value ≤ f.upper mag
  odd    : mag % 2 = 1 → f.upper (mag - 1) < d.value ∧ d.value < f.upper mag
  above  : d.value ≤ f.absolute mag + 10 ^ d.place
  below  : f.absolute mag ≤ d.value + 10 ^ d.place
  coarse : f.absolute mag < f.upper (mag - 1) + 10 * 10 ^ d.place

theorem shortest_spec (hf : f = binary32 ∨ f = binary64) (hpos : 0 < mag) (tie : Tie) :
    f.Shortest mag (f.shortest tie mag) := by
  have hbinade : 2 ∣ f.binade ∧ f.binade ≤ 4503599627370496 := by rcases hf with rfl | rfl <;> decide
  have hv : (f.neighbourhood mag).Broad := by
    obtain ⟨t, m, hm⟩ := exists_digits f mag
    have hlt := hm.lt
    have habs := absolute_pos (f := f) hpos
    rw [hm.absolute] at habs
    have hmpos : 0 < m := Nat.pos_of_ne_zero (fun h0 => by rw [h0] at habs; simp at habs)
    refine broad_neighbourhood ?_ ?_ <;> rw [hm.decode]
    · exact hmpos
    · exact Nat.lt_of_lt_of_le hlt (by omega)
  have hlow := low_neighbourhood (f := f) hpos
  have hvalue := value_neighbourhood f mag
  have hhigh : _ = f.upper mag := high_neighbourhood f mag
  have hclosed := @closed_neighbourhood f mag hbinade.1
  have hlog := lt_floorLog10 (f.neighbourhood mag).value hv.den
  obtain ⟨p, n, hp, hfirst, hgrid, hd⟩ :=
    searchGrids_spec (onGrid_twenty hv tie) 20 1 (Nat.le_refl 1) (by decide) (by decide) (.inl rfl)
  obtain ⟨-, hunit, -⟩ := grid_spec hv.den (floorLog10 (f.neighbourhood mag).value (f.neighbourhood mag).den) p
  have hplaces : 10 ^ (p - 1) ≤ n :=
    Nat.le_trans ((Nat.le_div_iff_mul_le hunit).2 (unit_le hv hp)) (onGrid_spec hgrid).1
  obtain ⟨hmem1, hmem2, hmem3⟩ := hit_mem hv.den hgrid
  obtain ⟨hnear1, hnear2⟩ := hit_near hv.den hgrid
  have hsmall := searchGrids_digits tie (f.neighbourhood mag)
    (floorLog10 (f.neighbourhood mag).value (f.neighbourhood mag).den) 20 1
  unfold Format.shortest
  simp only
  generalize floorLog10 (f.neighbourhood mag).value (f.neighbourhood mag).den = e at *
  rw [hd] at hsmall ⊢
  obtain ⟨hne, hval, hplace, hexponent⟩ := ofGrid_spec (e := e) hp hplaces
  have hten : (10 : ℚ) ^ (e + 1 - p) ≤ 10 ^ (Decimal.ofGrid n p e).place :=
    zpow_le_zpow_right₀ (by norm_num) hplace
  rw [hlow] at hmem1 hmem3
  rw [hhigh] at hmem2 hmem3
  rw [hvalue] at hnear1 hnear2 hlog
  refine ⟨hne, hsmall, by rw [hval]; exact hexponent, by rw [hval]; exact hmem1, by rw [hval]; exact hmem2,
    fun hodd => ?_, ?_, ?_, ?_⟩
  · rw [hval]
    exact hmem3 (by rw [hclosed]; exact decide_eq_false (by omega))
  · rw [hval]
    exact hnear2.trans (by gcongr)
  · rw [hval]
    exact hnear1.trans (by gcongr)
  · have hgap : f.absolute mag < f.upper (mag - 1) + 10 * 10 ^ (e + 1 - p) := by
      have hpow : (10 : ℚ) * 10 ^ (e + 1 - p) = 10 ^ (e + 1 - (p - 1 : Nat)) := by
        rw [← zpow_one_add₀ (by norm_num)]
        congr 1
        omega
      rw [hpow]
      rcases hfirst with rfl | hmiss
      · have hup := upper_pos f (mag - 1)
        simp only [Nat.sub_self, Nat.cast_zero, sub_zero]
        linarith
      · have hmissed := miss_coarse hv hmiss
        rwa [hlow, hvalue] at hmissed
    exact hgap.trans_le (by gcongr)

end Float

end Ieee
end RecordHold
