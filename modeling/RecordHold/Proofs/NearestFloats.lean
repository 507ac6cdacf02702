import RecordHold.Proofs.FloatValues
/-!
# Proofs.NearestFloats — which numbers are rounded to a float

Between a finite magnitude and the next one is a number halfway (`Format.upper`).  What is below it is rounded to the one
or below, what is above it to the other or above, and it itself to the even one of the two.  So a magnitude is the nearest
one to exactly what lies between the two numbers halfway around it, ends included if it is even
(`IsNearest.eq_of_between`, `IsNearest.le_upper`, `IsNearest.upper_le`).

`IsNearest` says of a number, whatever quotient it is written as, to which magnitude it is rounded; products, quotients and
conversions are rounded so, too.
-/
namespace RecordHold
namespace Ieee

/-! ## Quotients and halves -/

section Half
variable {n d m : Nat}

theorem roundHalfEven_le_of_lt_half (hd : 0 < d) (h : 2 * n < (2 * m + 1) * d) : roundHalfEven n d ≤ m := by
  have hsplit := Nat.div_add_mod' n d
  have hexpand : (2 * m + 1) * d = 2 * (m * d) + d := by ring
  have hquot : n / d ≤ m := Nat.le_of_lt_succ ((Nat.div_lt_iff_lt_mul hd).2 (by rw [Nat.succ_mul]; omega))
  rcases Nat.eq_or_lt_of_le hquot with heq | hlt
  · -- the remainder is less than half
    rw [heq] at hsplit
    unfold roundHalfEven
    dsimp only
    rw [if_neg (by omega)]
    exact hquot
  · exact roundHalfEven_le_of_le_mul hd (Nat.le_of_lt ((Nat.div_lt_iff_lt_mul hd).1 hlt))

theorem lt_roundHalfEven_of_half_lt (hd : 0 < d) (h : (2 * m + 1) * d < 2 * n) : m < roundHalfEven n d := by
  have hsplit := Nat.div_add_mod' n d
  have hexpand : (2 * m + 1) * d = 2 * (m * d) + d := by ring
  have hquot : m ≤ n / d := (Nat.le_div_iff_mul_le hd).2 (by omega)
  rcases Nat.eq_or_lt_of_le hquot with heq | hlt
  · rw [← heq] at hsplit
    unfold roundHalfEven
    dsimp only
    rw [if_pos (by omega)]
    exact Nat.lt_succ_of_le hquot
  · exact Nat.lt_of_lt_of_le hlt (le_roundHalfEven n d)

theorem roundHalfEven_half (hd : 0 < d) (h : 2 * n = (2 * m + 1) * d) :
    roundHalfEven n d = if m % 2 = 0 then m else m + 1 := by
  have hexpand : (2 * m + 1) * d = 2 * (m * d) + d := by ring
  have hquot : n / d = m := Nat.div_eq_of_lt_le (by omega) (by rw [Nat.succ_mul]; omega)
  have hsplit := Nat.div_add_mod' n d
  rw [hquot] at hsplit
  unfold roundHalfEven
  dsimp only
  rw [hquot]
  by_cases heven : m % 2 = 0
  · rw [if_neg (by omega), if_pos heven]
  · rw [if_pos (by omega), if_neg heven]

end Half

/-! ## Numbers halfway -/

/-- Where binades are even, a magnitude is as even as its significand. -/
theorem Format.Digits.parity {f : Format} {mag t m : Nat} (h : f.Digits mag t m) (heven : 2 ∣ f.binade) :
    mag % 2 = m % 2 := by
  obtain ⟨b, hb⟩ := heven
  have hplaces : t * f.binade = 2 * (t * b) := by rw [hb]; ring
  have := h.place
  omega

/-- The number halfway between a finite magnitude and the next one. -/
def Format.upper (f : Format) (mag : Nat) : ℚ := ((f.decode mag).1 + 1 / 2) * 2 ^ (f.decode mag).2

/-- **A magnitude that a number is rounded to.** -/
def Format.IsNearest (f : Format) (v : ℚ) (mag : Nat) : Prop :=
  ∃ num den : Nat, 0 < den ∧ (num / den : ℚ) = v ∧ f.nearest num den = mag

section Midpoints
variable {f : Format} {g x t m : Nat} {v : ℚ}

theorem Format.Digits.upper (h : f.Digits x t m) : f.upper x = (m + 1 / 2) * 2 ^ (f.minExponent + t) := by
  unfold Format.upper
  rw [h.decode]

theorem absolute_lt_upper (f : Format) (x : Nat) : f.absolute x < f.upper x := by
  obtain ⟨t, m, hx⟩ := exists_digits f x
  rw [hx.absolute, hx.upper]
  gcongr
  linarith

/-- The unit of the next binade is twice as large. -/
theorem unit_succ (f : Format) (t : Nat) :
    (2 : ℚ) ^ (f.minExponent + ((t + 1 : Nat) : Int)) = 2 * 2 ^ (f.minExponent + t) := by
  rw [← zpow_one_add₀ (by norm_num)]
  congr 1
  push_cast
  ring

/-- The next magnitude is one unit of the last bit away. -/
theorem Format.Digits.absolute_succ (hx : f.Digits x t m) :
    f.absolute (x + 1) = (m + 1) * 2 ^ (f.minExponent + t) := by
  have hb := binade_pos f
  by_cases hm : m + 1 < 2 * f.binade
  · have hnext : f.Digits (x + 1) t (m + 1) := ⟨by rw [hx.place]; omega, hm, hx.leads.imp_right Nat.le_succ_of_le⟩
    rw [hnext.absolute, Nat.cast_add, Nat.cast_one]
  · have hm' : m + 1 = 2 * f.binade := by
      have := hx.lt
      omega
    have hnext : f.Digits (x + 1) (t + 1) f.binade := by
      refine ⟨?_, by omega, .inr (Nat.le_refl _)⟩
      rw [hx.place, Nat.succ_mul]
      omega
    have hmq : (m : ℚ) + 1 = 2 * f.binade := by exact_mod_cast hm'
    rw [hnext.absolute, unit_succ, hmq]
    ring

theorem upper_lt_absolute_succ (f : Format) (x : Nat) : f.upper x < f.absolute (x + 1) := by
  obtain ⟨t, m, hx⟩ := exists_digits f x
  rw [hx.absolute_succ, hx.upper]
  gcongr
  norm_num

theorem upper_mono {y : Nat} (h : x ≤ y) : f.upper x ≤ f.upper y := by
  rcases Nat.eq_or_lt_of_le h with rfl | hlt
  · exact le_refl _
  · exact ((upper_lt_absolute_succ f x).le.trans (absolute_mono hlt)).trans (absolute_lt_upper f y).le

theorem upper_pos (f : Format) (x : Nat) : 0 < f.upper x := (absolute_nonneg f x).trans_lt (absolute_lt_upper f x)

namespace Format.IsNearest

theorem le_of_le (h : f.IsNearest v g) (hx : v ≤ f.absolute x) : g ≤ x := by
  obtain ⟨num, den, hden, rfl, rfl⟩ := h
  exact nearest_le_of_le hden hx

theorem ge_of_le (h : f.IsNearest v g) (hinf : x ≤ f.infinity) (hx : f.absolute x ≤ v) : x ≤ g := by
  obtain ⟨num, den, hden, rfl, rfl⟩ := h
  exact le_nearest hden hinf hx

/-- Between two magnitudes a number is rounded in units of the last bit of the lower one. -/
theorem units (h : f.IsNearest v g) (hx : f.Digits x t m) (hlow : f.absolute x ≤ v) (hhigh : v < f.absolute (x + 1)) :
    ∃ n d : Nat, 0 < d ∧ v = n / d * 2 ^ (f.minExponent + t) ∧
      g = min f.infinity (t * f.binade + roundHalfEven n d) := by
  obtain ⟨num, den, hden, rfl, rfl⟩ := h
  rcases Nat.eq_zero_or_pos num with rfl | hnum
  · rw [Nat.cast_zero, zero_div, ← absolute_zero f, absolute_le_iff] at hlow
    have ht : t * f.binade = 0 := by
      have := hx.place
      omega
    refine ⟨0, 1, Nat.one_pos, by simp, ?_⟩
    rw [ht]
    simp [Format.nearest, roundHalfEven]
  obtain ⟨t', n, d, hd, hunits, hlt, hleads, hnear⟩ := nearest_spec f hnum hden
  have heq : t' = t := by
    rcases Nat.lt_trichotomy t' t with hlower | heq | hgt
    · have hcross := scaled_le (Nat.le_refl _) (hx.leads.resolve_left (by omega))
        (show f.minExponent + t' < f.minExponent + t by omega)
      rw [hx.absolute] at hlow
      exact absurd (hlt.trans_le hcross) (not_lt.2 hlow)
    · exact heq
    · have hcross := scaled_le hx.lt (Nat.le_refl f.binade) (show f.minExponent + t < f.minExponent + t' by omega)
      rw [hx.absolute_succ] at hhigh
      rw [Nat.cast_succ] at hcross
      exact absurd (hhigh.trans_le hcross) (not_lt.2 (hleads.resolve_left (by omega)))
  subst heq
  exact ⟨n, d, hd, hunits, hnear⟩

/-- **What is below a number halfway is rounded below it.** -/
theorem le_of_lt_upper (h : f.IsNearest v g) (hv : v < f.upper x) : g ≤ x := by
  rcases le_or_gt v (f.absolute x) with hle | hgt
  · exact h.le_of_le hle
  · obtain ⟨t, m, hx⟩ := exists_digits f x
    obtain ⟨n, d, hd, rfl, rfl⟩ := h.units hx hgt.le (hv.trans (upper_lt_absolute_succ f x))
    have hdq : (0 : ℚ) < d := by exact_mod_cast hd
    rw [hx.upper, mul_lt_mul_iff_of_pos_right (by positivity), div_lt_iff₀ hdq] at hv
    have htwice : (2 * n : ℚ) < (2 * m + 1) * d := by linarith
    rw [hx.place]
    refine Nat.le_trans (Nat.min_le_right _ _) (Nat.add_le_add_left (roundHalfEven_le_of_lt_half hd ?_) _)
    exact_mod_cast htwice

/-- **What is above a number halfway is rounded above it.** -/
theorem lt_of_upper_lt (h : f.IsNearest v g) (hinf : x < f.infinity) (hv : f.upper x < v) : x < g := by
  rcases le_or_gt (f.absolute (x + 1)) v with hle | hlt
  · exact h.ge_of_le hinf hle
  · obtain ⟨t, m, hx⟩ := exists_digits f x
    obtain ⟨n, d, hd, rfl, rfl⟩ := h.units hx ((absolute_lt_upper f x).trans hv).le hlt
    have hdq : (0 : ℚ) < d := by exact_mod_cast hd
    rw [hx.upper, mul_lt_mul_iff_of_pos_right (by positivity), lt_div_iff₀ hdq] at hv
    have htwice : ((2 * m + 1) * d : ℚ) < 2 * n := by linarith
    rw [lt_min_iff]
    refine ⟨hinf, ?_⟩
    rw [hx.place]
    refine Nat.add_lt_add_left (lt_roundHalfEven_of_half_lt hd ?_) _
    exact_mod_cast htwice

/-- **A number halfway is rounded to the even magnitude.** -/
theorem eq_of_eq_upper (h : f.IsNearest v g) (heven : 2 ∣ f.binade) (hinf : x < f.infinity) (hv : v = f.upper x) :
    g = if x % 2 = 0 then x else x + 1 := by
  obtain ⟨t, m, hx⟩ := exists_digits f x
  have hlow := absolute_lt_upper f x
  have hhigh := upper_lt_absolute_succ f x
  rw [← hv] at hlow hhigh
  obtain ⟨n, d, hd, rfl, rfl⟩ := h.units hx hlow.le hhigh
  have hdq : (0 : ℚ) < d := by exact_mod_cast hd
  rw [hx.upper, mul_left_inj' (by positivity), div_eq_iff hdq.ne'] at hv
  have htwice : (2 * n : ℚ) = (2 * m + 1) * d := by linarith
  rw [roundHalfEven_half hd (m := m) (by exact_mod_cast htwice), hx.parity heven, Nat.min_eq_right]
  · have := hx.place
    split <;> omega
  · have := hx.place
    split <;> omega

/-- **Between the numbers halfway around it, a magnitude is the nearest one**, and at the ends if it is even. -/
theorem eq_of_between (h : f.IsNearest v g) (heven : 2 ∣ f.binade) (hinf : x < f.infinity)
    (hlow : x = 0 ∨ f.upper (x - 1) ≤ v) (hhigh : v ≤ f.upper x)
    (hodd : x % 2 = 1 → f.upper (x - 1) < v ∧ v < f.upper x) : g = x := by
  refine Nat.le_antisymm ?_ ?_
  · rcases hhigh.lt_or_eq with hlt | heq
    · exact h.le_of_lt_upper hlt
    · have hx : x % 2 = 0 := by
        by_contra hne
        exact absurd heq (hodd (by omega)).2.ne
      rw [h.eq_of_eq_upper heven hinf heq, if_pos hx]
  · rcases hlow with rfl | hlow
    · exact Nat.zero_le _
    rcases Nat.eq_zero_or_pos x with rfl | hpos
    · exact Nat.zero_le _
    rcases hlow.lt_or_eq with hlt | heq
    · have := h.lt_of_upper_lt (by omega) hlt
      omega
    · have hx : x % 2 = 0 := by
        by_contra hne
        exact absurd heq (hodd (by omega)).1.ne
      rw [h.eq_of_eq_upper heven (by omega) heq.symm, if_neg (by omega)]
      omega

theorem le_upper (h : f.IsNearest v g) (hinf : g < f.infinity) : v ≤ f.upper g :=
  not_lt.1 (fun hlt => Nat.lt_irrefl _ (h.lt_of_upper_lt hinf hlt))

theorem upper_le (h : f.IsNearest v g) (hpos : 0 < g) : f.upper (g - 1) ≤ v :=
  not_lt.1 (fun hlt => absurd (h.le_of_lt_upper hlt) (by omega))

end Format.IsNearest

end Midpoints

/-! ## Operations -/

section Operations
variable {f : Format}

theorem isNearest_ofNat (f : Format) (n : Nat) : f.IsNearest n (f.nearest n 1) :=
  ⟨n, 1, Nat.one_pos, by rw [Nat.cast_one, div_one], rfl⟩

theorem isNearest_nearestScaled (f : Format) (m : Nat) (q : Int) : f.IsNearest (m * 2 ^ q) (f.nearestScaled m q) := by
  obtain ⟨hden, hval⟩ := scaleDown_spec m Nat.one_pos (-q)
  rw [Nat.cast_one, div_one, neg_neg] at hval
  exact ⟨_, _, hden, hval, rfl⟩

/-- **A product is rounded once.** -/
theorem isNearest_mul (f : Format) (a b : Nat) : f.IsNearest (f.absolute a * f.absolute b) (f.mul a b) := by
  have h := isNearest_nearestScaled f ((f.decode a).1 * (f.decode b).1) ((f.decode a).2 + (f.decode b).2)
  rw [Nat.cast_mul, zpow_add₀ (by norm_num), mul_mul_mul_comm] at h
  exact h

/-- **A quotient is rounded once.** -/
theorem isNearest_div (f : Format) (a : Nat) {b : Nat} (hb : 0 < b) :
    f.IsNearest (f.absolute a / f.absolute b) (f.div a b) := by
  have hpos : 0 < (f.decode b).1 := by
    have habs := absolute_pos (f := f) hb
    rw [Format.absolute] at habs
    exact Nat.pos_of_ne_zero (fun h0 => by rw [h0, Nat.cast_zero, zero_mul] at habs; exact lt_irrefl _ habs)
  obtain ⟨hden, hval⟩ := scaleDown_spec (f.decode a).1 hpos ((f.decode b).2 - (f.decode a).2)
  refine ⟨_, _, hden, hval.trans ?_, rfl⟩
  unfold Format.absolute
  rw [neg_sub, zpow_sub₀ (by norm_num), div_mul_div_comm]

/-- **A float is carried over to another format by rounding its number.** -/
theorem isNearest_convert (g : Format) {mag : Nat} (hmag : mag < f.signBit) (hfin : mag < f.infinity) (negative : Bool) :
    ∃ x, g.IsNearest (f.absolute mag) x ∧ f.convert g (f.withSign negative mag) = g.withSign negative x := by
  refine ⟨g.nearestScaled (f.decode mag).1 (f.decode mag).2, isNearest_nearestScaled g _ _, ?_⟩
  unfold Format.convert
  rw [magnitude_withSign negative hmag, isNegative_withSign negative hmag]
  simp only [if_pos hfin]

end Operations

end Ieee
end RecordHold
