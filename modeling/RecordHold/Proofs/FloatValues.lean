import RecordHold.Proofs.FiniteFloats
/-!
# Proofs.FloatValues — the number that a pattern stands for

A pattern stands for a rational number or an infinity, unless it is a NaN (`Format.extended?`).  The total order of
patterns is the order of these numbers, with the negative zero below the positive one (`exact_of_rank_lt`).

Rounding never crosses a number of the format: what is not below such a number is not rounded below it
(`le_nearest`), and what is not above it is not rounded above it (`nearest_le_of_le`).  So a number of the format is
rounded to itself (`nearest_absolute`), which makes widening exact (`extended?_convert`).
-/
namespace RecordHold
namespace Ieee

/-! ## Significand and binade -/

section Digits
variable {f : Format} {mag t m : Nat}

/-- The number that a finite magnitude stands for. -/
def Format.absolute (f : Format) (mag : Nat) : ℚ := (f.decode mag).1 * 2 ^ (f.decode mag).2

/-- **A magnitude taken apart** into its binade and its significand, which leads with a one unless the binade is the
first. -/
structure Format.Digits (f : Format) (mag t m : Nat) : Prop where
  place : mag = t * f.binade + m
  lt    : m < 2 * f.binade
  leads : t = 0 ∨ f.binade ≤ m

theorem binade_pos (f : Format) : 0 < f.binade := by
  unfold Format.binade
  rw [Nat.shiftLeft_eq]
  positivity

theorem cast_binade (f : Format) : (f.binade : ℚ) = 2 ^ ((f.precision - 1 : Nat) : Int) := by
  rw [Format.binade, cast_shiftLeft, Nat.cast_one, one_mul, zpow_natCast]

theorem exists_digits (f : Format) (mag : Nat) : ∃ t m, f.Digits mag t m := by
  have hb := binade_pos f
  by_cases h : mag < f.binade
  · exact ⟨0, mag, by omega, by omega, .inl rfl⟩
  · have hquot : 1 ≤ mag / f.binade := Nat.div_pos (Nat.le_of_not_lt h) hb
    have hrem := Nat.mod_lt mag hb
    have hsplit := Nat.div_add_mod' mag f.binade
    have hpred : (mag / f.binade - 1) * f.binade + f.binade = mag / f.binade * f.binade := by
      rw [← Nat.succ_mul, Nat.succ_eq_add_one, Nat.sub_add_cancel hquot]
    exact ⟨mag / f.binade - 1, f.binade + mag % f.binade, by omega, by omega, .inr (Nat.le_add_right _ _)⟩

theorem Format.Digits.decode (h : f.Digits mag t m) : f.decode mag = (m, f.minExponent + t) := by
  obtain ⟨hplace, hlt, hleads⟩ := h
  have hb := binade_pos f
  unfold Format.decode
  by_cases hmag : mag < f.binade
  · have ht : t = 0 := by
      refine Nat.eq_zero_of_not_pos (fun hpos => ?_)
      have := Nat.le_mul_of_pos_left f.binade hpos
      omega
    subst ht
    rw [if_pos hmag]
    simp [hplace]
  · rw [if_neg hmag]
    rcases hleads with rfl | hlead
    · obtain rfl : mag = m := by omega
      have hquot : mag / f.binade = 1 := Nat.div_eq_of_lt_le (by omega) (by omega)
      have hrem := Nat.div_add_mod' mag f.binade
      rw [hquot] at hrem ⊢
      simp
      omega
    · obtain ⟨r, rfl⟩ := Nat.exists_eq_add_of_le hlead
      have hmag' : mag = r + f.binade * (t + 1) := by rw [hplace]; ring
      have hr : r < f.binade := by omega
      rw [hmag', Nat.add_mul_mod_self_left, Nat.add_mul_div_left _ _ hb, Nat.mod_eq_of_lt hr, Nat.div_eq_of_lt hr]
      simp

theorem Format.Digits.absolute (h : f.Digits mag t m) : f.absolute mag = m * 2 ^ (f.minExponent + t) := by
  unfold Format.absolute
  rw [h.decode]

/-- A lower binade is left before a higher one begins. -/
theorem place_le {b t t' m m' : Nat} (h : t < t') (hm : m ≤ 2 * b) (hm' : b ≤ m') : t * b + m ≤ t' * b + m' := by
  have hmul := Nat.mul_le_mul_right b (Nat.succ_le_of_lt h)
  rw [Nat.succ_mul] at hmul
  omega

theorem scaled_le {b m m' : Nat} {q q' : Int} (hm : m ≤ 2 * b) (hm' : b ≤ m') (h : q < q') :
    (m : ℚ) * 2 ^ q ≤ m' * 2 ^ q' := by
  have hmq : (m : ℚ) ≤ 2 * b := by exact_mod_cast hm
  have hmq' : (b : ℚ) ≤ m' := by exact_mod_cast hm'
  calc (m : ℚ) * 2 ^ q ≤ 2 * b * 2 ^ q := by gcongr
    _ = b * 2 ^ (1 + q) := by rw [zpow_one_add₀ (by norm_num)]; ring
    _ ≤ b * 2 ^ q' := by
      gcongr
      · norm_num
      · omega
    _ ≤ m' * 2 ^ q' := by gcongr

theorem scaled_lt {b m m' : Nat} {q q' : Int} (hm : m < 2 * b) (hm' : b ≤ m') (h : q < q') :
    (m : ℚ) * 2 ^ q < m' * 2 ^ q' := by
  have hmq : (m : ℚ) < (2 * b : Nat) := by exact_mod_cast hm
  calc (m : ℚ) * 2 ^ q < (2 * b : Nat) * 2 ^ q := by gcongr
    _ ≤ m' * 2 ^ q' := scaled_le (Nat.le_refl _) hm' h

/-- **Magnitudes are ordered as the numbers** that they stand for. -/
theorem absolute_lt {a b : Nat} (h : a < b) : f.absolute a < f.absolute b := by
  obtain ⟨t, m, ha⟩ := exists_digits f a
  obtain ⟨t', m', hb⟩ := exists_digits f b
  rw [ha.absolute, hb.absolute]
  rcases Nat.lt_trichotomy t t' with hlt | rfl | hgt
  · exact scaled_lt ha.lt (hb.leads.resolve_left (by omega)) (by omega)
  · have hm : m < m' := by
      have := ha.place
      have := hb.place
      omega
    gcongr
  · have hle := place_le hgt (Nat.le_of_lt hb.lt) (ha.leads.resolve_left (by omega))
    rw [← ha.place, ← hb.place] at hle
    omega

theorem absolute_mono {a b : Nat} (h : a ≤ b) : f.absolute a ≤ f.absolute b := by
  rcases Nat.eq_or_lt_of_le h with rfl | hlt
  · exact le_refl _
  · exact (absolute_lt hlt).le

theorem absolute_le_iff {a b : Nat} : f.absolute a ≤ f.absolute b ↔ a ≤ b :=
  ⟨fun h => Nat.le_of_not_lt (fun hlt => absurd (absolute_lt hlt) (not_lt.2 h)), absolute_mono⟩

theorem absolute_zero (f : Format) : f.absolute 0 = 0 := by
  have hb := binade_pos f
  rw [Format.Digits.absolute (t := 0) (m := 0) ⟨by omega, by omega, .inl rfl⟩]
  simp

theorem absolute_nonneg (f : Format) (mag : Nat) : 0 ≤ f.absolute mag := by
  rw [← absolute_zero f]
  exact absolute_mono (Nat.zero_le _)

theorem absolute_pos (h : 0 < mag) : 0 < f.absolute mag := by
  rw [← absolute_zero f]
  exact absolute_lt h

theorem absolute_eq_zero_iff : f.absolute mag = 0 ↔ mag = 0 := by
  constructor
  · intro h
    exact Nat.eq_zero_of_not_pos (fun hpos => absurd h (absolute_pos hpos).ne.symm)
  · rintro rfl
    exact absolute_zero f

end Digits

/-! ## Rounding and the numbers of a format -/

theorem le_roundHalfEven_of_mul_le {n d k : Nat} (hd : 0 < d) (h : k * d ≤ n) : k ≤ roundHalfEven n d :=
  Nat.le_trans ((Nat.le_div_iff_mul_le hd).2 h) (le_roundHalfEven n d)

theorem roundHalfEven_le_of_le_mul {n d k : Nat} (hd : 0 < d) (h : n ≤ k * d) : roundHalfEven n d ≤ k := by
  rcases Nat.eq_or_lt_of_le h with rfl | hlt
  · unfold roundHalfEven
    simp only [Nat.mul_div_cancel _ hd, Nat.mul_mod_left]
    split <;> omega
  · exact roundHalfEven_le hlt

/-- **A positive number is rounded in the binade that it is in**, as a quotient in units of the last bit there. -/
theorem nearest_spec (f : Format) {num den : Nat} (hnum : 0 < num) (hden : 0 < den) :
    ∃ t n d : Nat, 0 < d ∧ (num / den : ℚ) = n / d * 2 ^ (f.minExponent + t) ∧
      (num / den : ℚ) < (2 * f.binade : Nat) * 2 ^ (f.minExponent + t) ∧
      (t = 0 ∨ f.binade * 2 ^ (f.minExponent + t) ≤ (num / den : ℚ)) ∧
      f.nearest num den = min f.infinity (t * f.binade + roundHalfEven n d) := by
  obtain ⟨hlow, hhigh⟩ := floorLog2_spec hnum hden
  generalize hL : floorLog2 num den = L at hlow hhigh
  generalize he : max f.minExponent (L - ((f.precision - 1 : Nat) : Int)) = e
  obtain ⟨hd, hval⟩ := scaleDown_spec num hden e
  have hplace : f.minExponent + (e - f.minExponent).toNat = e := by omega
  refine ⟨(e - f.minExponent).toNat, (scaleDown num den e).1, (scaleDown num den e).2, hd, ?_, ?_, ?_, ?_⟩
  · rw [hval, hplace, mul_assoc, ← zpow_add₀ (by norm_num), neg_add_cancel, zpow_zero, mul_one]
  · have hpow : ((2 * f.binade : Nat) : ℚ) * 2 ^ e = 2 ^ (1 + ((f.precision - 1 : Nat) : Int) + e) := by
      rw [zpow_add₀ (by norm_num), zpow_add₀ (by norm_num), Nat.cast_mul, cast_binade, zpow_one]
      rfl
    rw [hplace, hpow]
    exact hhigh.trans_le (zpow_le_zpow_right₀ (by norm_num) (by omega))
  · rw [hplace]
    by_cases ht : (e - f.minExponent).toNat = 0
    · exact .inl ht
    · refine .inr (le_trans (le_of_eq ?_) hlow)
      rw [cast_binade, ← zpow_add₀ (by norm_num)]
      congr 1
      omega
  · unfold Format.nearest
    rw [if_neg (by omega), hL, he]

/-- **How a positive number is rounded**: in the binade that it is in, to a significand that crosses no whole number of
units. -/
structure Format.Rounds (f : Format) (v : ℚ) (t r : Nat) : Prop where
  below : ∀ m : Nat, m * 2 ^ (f.minExponent + t) ≤ v → m ≤ r
  above : ∀ m : Nat, v ≤ m * 2 ^ (f.minExponent + t) → r ≤ m
  lt    : v < (2 * f.binade : Nat) * 2 ^ (f.minExponent + t)
  leads : t = 0 ∨ f.binade * 2 ^ (f.minExponent + t) ≤ v

theorem nearest_rounds (f : Format) {num den : Nat} (hnum : 0 < num) (hden : 0 < den) :
    ∃ t r, f.Rounds (num / den) t r ∧ f.nearest num den = min f.infinity (t * f.binade + r) := by
  obtain ⟨t, n, d, hd, hunits, hlt, hleads, hnear⟩ := nearest_spec f hnum hden
  have hdq : (0 : ℚ) < d := by exact_mod_cast hd
  refine ⟨t, roundHalfEven n d, ⟨fun m hm => ?_, fun m hm => ?_, hlt, hleads⟩, hnear⟩
  · rw [hunits, mul_le_mul_iff_of_pos_right (by positivity), le_div_iff₀ hdq] at hm
    exact le_roundHalfEven_of_mul_le hd (by exact_mod_cast hm)
  · rw [hunits, mul_le_mul_iff_of_pos_right (by positivity), div_le_iff₀ hdq] at hm
    exact roundHalfEven_le_of_le_mul hd (by exact_mod_cast hm)

section Crossing
variable {f : Format} {num den g : Nat}

/-- **What is not below a number of the format is not rounded below it.** -/
theorem le_nearest (hden : 0 < den) (hg : g ≤ f.infinity) (h : f.absolute g ≤ num / den) :
    g ≤ f.nearest num den := by
  rcases Nat.eq_zero_or_pos num with rfl | hnum
  · rw [Nat.cast_zero, zero_div, ← absolute_zero f, absolute_le_iff] at h
    omega
  obtain ⟨t, r, hround, hnear⟩ := nearest_rounds f hnum hden
  obtain ⟨t', m, hdigits⟩ := exists_digits f g
  rw [hdigits.absolute] at h
  rw [hnear, le_min_iff]
  refine ⟨hg, ?_⟩
  rw [hdigits.place]
  rcases Nat.lt_trichotomy t' t with hlt | rfl | hgt
  · have hlead := hround.leads.resolve_left (by omega)
    exact place_le hlt (Nat.le_of_lt hdigits.lt) (hround.below _ hlead)
  · exact Nat.add_le_add_left (hround.below m h) _
  · have hexp : f.minExponent + t < f.minExponent + t' := by omega
    have hcross := scaled_le (Nat.le_refl _) (hdigits.leads.resolve_left (by omega)) hexp
    exact absurd (hround.lt.trans_le hcross) (not_lt.2 h)

/-- **What is not above a number of the format is not rounded above it.** -/
theorem nearest_le_of_le (hden : 0 < den) (h : num / den ≤ f.absolute g) : f.nearest num den ≤ g := by
  rcases Nat.eq_zero_or_pos num with rfl | hnum
  · simp [Format.nearest]
  obtain ⟨t, r, hround, hnear⟩ := nearest_rounds f hnum hden
  obtain ⟨t', m, hdigits⟩ := exists_digits f g
  rw [hdigits.absolute] at h
  rw [hnear, hdigits.place]
  refine Nat.le_trans (Nat.min_le_right _ _) ?_
  rcases Nat.lt_trichotomy t t' with hlt | rfl | hgt
  · have hcap := hround.above _ hround.lt.le
    exact place_le hlt hcap (hdigits.leads.resolve_left (by omega))
  · exact Nat.add_le_add_left (hround.above m h) _
  · have hexp : f.minExponent + t' < f.minExponent + t := by omega
    have hcross := scaled_lt hdigits.lt (Nat.le_refl _) hexp
    have hlead := hround.leads.resolve_left (by omega)
    exact absurd (h.trans_lt hcross) (not_lt.2 hlead)

/-- **A number of the format is rounded to itself.** -/
theorem nearest_absolute (hden : 0 < den) (hg : g ≤ f.infinity) (h : (num / den : ℚ) = f.absolute g) :
    f.nearest num den = g :=
  Nat.le_antisymm (nearest_le_of_le hden h.le) (le_nearest hden hg h.ge)

theorem nearestScaled_absolute {m : Nat} {q : Int} (hg : g ≤ f.infinity) (h : (m : ℚ) * 2 ^ q = f.absolute g) :
    f.nearestScaled m q = g := by
  obtain ⟨hden, hval⟩ := scaleDown_spec m Nat.one_pos (-q)
  rw [Nat.cast_one, div_one, neg_neg, h] at hval
  exact nearest_absolute hden hg hval

end Crossing

/-! ## Patterns -/

/-- A number of any size and precision, or one of the infinities. -/
abbrev Extended := WithBot (WithTop ℚ)

/-- The number of a sign and a finite magnitude. -/
def Format.signed (f : Format) (negative : Bool) (mag : Nat) : ℚ :=
  if negative then -f.absolute mag else f.absolute mag

/-- The number of a sign and a magnitude, if it is no NaN. -/
def Format.signed? (f : Format) (negative : Bool) (mag : Nat) : Option Extended :=
  if mag < f.infinity then some (f.signed negative mag : WithTop ℚ)
  else if mag = f.infinity then some (if negative then ⊥ else ((⊤ : WithTop ℚ) : Extended))
  else none

/-- **The number that a pattern stands for.**  A NaN stands for none. -/
def Format.extended? (f : Format) (bits : Nat) : Option Extended := f.signed? (f.isNegative bits) (f.magnitude bits)

def Format.isNegativeZero (f : Format) (bits : Nat) : Bool := f.isNegative bits && f.magnitude bits == 0

/-- Is it a NaN of the sign? -/
def Format.isNaNOf (f : Format) (negative : Bool) (bits : Nat) : Bool := f.isNaN bits && f.isNegative bits == negative

section Order
variable {f : Format} {a b : Nat} {u v : Extended}

theorem isNaN_iff : f.isNaN a = true ↔ f.extended? a = none := by
  unfold Format.extended? Format.signed? Format.isNaN
  by_cases hfin : f.magnitude a < f.infinity
  · simp [hfin, Nat.le_of_lt hfin]
  · by_cases hinf : f.magnitude a = f.infinity
    · simp [hinf]
    · simp [hfin, hinf]
      omega

theorem extended?_eq_none_iff : f.extended? a = none ↔ f.isNaNOf true a = true ∨ f.isNaNOf false a = true := by
  rw [← isNaN_iff]
  unfold Format.isNaNOf
  cases f.isNegative a <;> simp

theorem signed?_eq_some {negative : Bool} {mag : Nat} (h : f.signed? negative mag = some u) :
    mag < f.infinity ∧ u = (f.signed negative mag : WithTop ℚ) ∨
      mag = f.infinity ∧ u = if negative then ⊥ else ((⊤ : WithTop ℚ) : Extended) := by
  unfold Format.signed? at h
  split at h
  · exact .inl ⟨‹_›, (Option.some.inj h).symm⟩
  · split at h
    · exact .inr ⟨‹_›, (Option.some.inj h).symm⟩
    · cases h

/-- Finite numbers are ordered by sign and magnitude, but for the two zeros. -/
theorem signed_lt {s s' : Bool} {m n : Nat} (h : (if s then -1 - (m : Int) else m) < if s' then -1 - (n : Int) else n) :
    f.signed s m < f.signed s' n ∨ f.signed s m = f.signed s' n ∧ s = true ∧ m = 0 ∧ s' = false := by
  have hm := absolute_nonneg f m
  have hn := absolute_nonneg f n
  unfold Format.signed
  cases s <;> cases s' <;> simp only [Bool.false_eq_true, if_true, if_false] at h ⊢
  · exact .inl (absolute_lt (by omega))
  · omega
  · -- a negative number before a positive one, unless both are zero
    rcases Nat.eq_zero_or_pos m with rfl | hmpos
    · rcases Nat.eq_zero_or_pos n with rfl | hnpos
      · exact .inr ⟨by rw [absolute_zero, neg_zero], trivial, rfl, trivial⟩
      · have hnpos' := absolute_pos (f := f) hnpos
        exact .inl (by linarith)
    · have hmpos' := absolute_pos (f := f) hmpos
      exact .inl (by linarith)
  · exact .inl (neg_lt_neg (absolute_lt (by omega)))

/-- **The total order of patterns is the order of their numbers**, refined only at zero. -/
theorem exact_of_rank_lt (ha : f.extended? a = some u) (hb : f.extended? b = some v) (h : f.rank a < f.rank b) :
    u < v ∨ u = v ∧ f.isNegativeZero a = true ∧ f.isNegativeZero b = false := by
  unfold Format.extended? at ha hb
  unfold Format.rank at h
  unfold Format.isNegativeZero
  generalize f.magnitude a = m at *
  generalize f.magnitude b = n at *
  rcases signed?_eq_some ha with ⟨hm, rfl⟩ | ⟨rfl, rfl⟩ <;> rcases signed?_eq_some hb with ⟨hn, rfl⟩ | ⟨rfl, rfl⟩
  · rw [WithBot.coe_lt_coe, WithTop.coe_lt_coe, WithBot.coe_inj, WithTop.coe_inj]
    rcases signed_lt h with hlt | ⟨heq, hs, rfl, hs'⟩
    · exact .inl hlt
    · exact .inr ⟨heq, by rw [hs]; rfl, by rw [hs']; rfl⟩
  · -- a finite number before an infinity
    cases hsb : f.isNegative b
    · exact .inl (WithBot.coe_lt_coe.2 (WithTop.coe_lt_top _))
    · simp only [hsb, if_true] at h
      split at h <;> omega
  · cases hsa : f.isNegative a
    · simp only [hsa, Bool.false_eq_true, if_false] at h
      split at h <;> omega
    · exact .inl (WithBot.bot_lt_coe _)
  · cases hsa : f.isNegative a <;> cases hsb : f.isNegative b <;>
      simp only [hsa, hsb, Bool.false_eq_true, if_true, if_false, lt_irrefl] at h
    · omega
    · exact .inl (WithBot.bot_lt_coe _)

/-- The place of a pattern fixes its sign and its magnitude. -/
theorem extended?_of_rank_eq (h : f.rank a = f.rank b) : f.extended? a = f.extended? b := by
  unfold Format.rank at h
  unfold Format.extended?
  cases hsa : f.isNegative a <;> cases hsb : f.isNegative b <;>
    simp only [hsa, hsb, Bool.false_eq_true, if_true, if_false] at h
  · rw [Int.natCast_inj.1 h]
  · omega
  · omega
  · have hmag : f.magnitude a = f.magnitude b := by omega
    rw [hmag]

theorem isNegativeZero_iff : f.isNegativeZero a = true ↔ f.rank a = -1 := by
  unfold Format.isNegativeZero Format.rank
  cases f.isNegative a <;> simp

/-- **Patterns compare as their numbers**, the negative zero before the positive. -/
theorem compareTotal_exact (ha : f.extended? a = some u) (hb : f.extended? b = some v) :
    f.compareTotal a b = (compare u v).then (compare (f.isNegativeZero b) (f.isNegativeZero a)) := by
  unfold Format.compareTotal
  rcases Int.lt_trichotomy (f.rank a) (f.rank b) with hlt | heq | hgt
  · rw [Int.compare_eq_lt.2 hlt]
    rcases exact_of_rank_lt ha hb hlt with h | ⟨rfl, hza, hzb⟩
    · rw [compare_lt_iff_lt.2 h]
      rfl
    · rw [compare_eq_iff_eq.2 rfl, hza, hzb]
      rfl
  · have hz : f.isNegativeZero a = f.isNegativeZero b := by
      rw [Bool.eq_iff_iff, isNegativeZero_iff, isNegativeZero_iff, heq]
    rw [extended?_of_rank_eq heq, hb] at ha
    rw [Int.compare_eq_eq.2 heq, compare_eq_iff_eq.2 (Option.some.inj ha).symm, hz, Std.ReflOrd.compare_self]
    rfl
  · rw [Int.compare_eq_gt.2 hgt]
    rcases exact_of_rank_lt hb ha hgt with h | ⟨rfl, hzb, hza⟩
    · rw [compare_gt_iff_gt.2 h]
      rfl
    · rw [compare_eq_iff_eq.2 rfl, hza, hzb]
      rfl

/-- Below the numbers are the negative NaNs. -/
theorem rank_lt_iff : f.rank a < -1 - (f.infinity : Int) ↔ f.isNaNOf true a = true := by
  unfold Format.rank Format.isNaNOf Format.isNaN
  cases f.isNegative a with
  | false =>
    simp
    omega
  | true => simp

/-- Above the numbers are the positive NaNs. -/
theorem lt_rank_iff : (f.infinity : Int) < f.rank a ↔ f.isNaNOf false a = true := by
  unfold Format.rank Format.isNaNOf Format.isNaN
  cases f.isNegative a with
  | false => simp
  | true =>
    simp
    omega

end Order

/-! ## Widening -/

section Widening

theorem magnitude_withSign {f : Format} {mag : Nat} (negative : Bool) (h : mag < f.signBit) :
    f.magnitude (f.withSign negative mag) = mag := by
  unfold Format.magnitude Format.withSign
  cases negative <;> simp [Nat.mod_eq_of_lt h]

theorem isNegative_withSign {f : Format} {mag : Nat} (negative : Bool) (h : mag < f.signBit) :
    f.isNegative (f.withSign negative mag) = negative := by
  unfold Format.isNegative Format.withSign
  cases negative <;> simp [h]

theorem extended?_withSign {f : Format} {mag : Nat} (negative : Bool) (h : mag < f.signBit) :
    f.extended? (f.withSign negative mag) = f.signed? negative mag := by
  rw [Format.extended?, isNegative_withSign negative h, magnitude_withSign negative h]

/-- **A number of at most 53 bits is one of the format**, unless its last bit is too small or too large. -/
theorem exists_binary64 {m : Nat} {q : Int} (hm : m < 9007199254740992) (hlow : -1074 ≤ q) (hhigh : q ≤ 971) :
    ∃ mag < binary64.infinity, binary64.absolute mag = m * 2 ^ q := by
  have hinf : binary64.infinity = 9218868437227405312 := rfl
  have hb : binary64.binade = 4503599627370496 := rfl
  have hmin : binary64.minExponent = -1074 := rfl
  rcases Nat.eq_zero_or_pos m with rfl | hpos
  · refine ⟨0, by decide, ?_⟩
    rw [absolute_zero, Nat.cast_zero, zero_mul]
  · obtain ⟨t, ht⟩ : ∃ t : Nat, q = t - 1074 := ⟨(q + 1074).toNat, by omega⟩
    have hlog : 2 ^ Nat.log2 m ≤ m := Nat.log2_self_le (by omega)
    have hlog' : m < 2 ^ (Nat.log2 m + 1) := Nat.lt_log2_self
    have hk : Nat.log2 m < 53 := (Nat.log2_lt (by omega)).2 hm
    generalize Nat.log2 m = k at hlog hlog' hk
    -- the significand is shifted until it leads with a one, or its last bit is the smallest
    obtain ⟨j, hj, hjt, hlead⟩ : ∃ j ≤ 52 - k, j ≤ t ∧ (t - j = 0 ∨ j = 52 - k) :=
      ⟨min (52 - k) t, Nat.min_le_left _ _, Nat.min_le_right _ _, by omega⟩
    have hp : 2 ^ k * 2 ^ (52 - k) = 4503599627370496 := by
      rw [← Nat.pow_add, Nat.add_sub_cancel' (by omega)]
    have hlt : m * 2 ^ j < 9007199254740992 := by
      have hshift := Nat.mul_le_mul (Nat.succ_le_of_lt hlog') (Nat.pow_le_pow_right (by decide : 0 < 2) hj)
      rw [Nat.pow_succ, Nat.mul_right_comm, hp, Nat.succ_mul] at hshift
      have := Nat.pow_pos (n := j) (by decide : 0 < 2)
      omega
    have hdigits : binary64.Digits ((t - j) * binary64.binade + m * 2 ^ j) (t - j) (m * 2 ^ j) := by
      refine ⟨rfl, by rw [hb]; exact hlt, hlead.imp_right ?_⟩
      rintro rfl
      have hshift := Nat.mul_le_mul_right (2 ^ (52 - k)) hlog
      rwa [hp, ← hb] at hshift
    refine ⟨(t - j) * binary64.binade + m * 2 ^ j, by rw [hb, hinf]; omega, ?_⟩
    rw [hdigits.absolute, hmin, Nat.cast_mul, Nat.cast_pow, mul_assoc, Nat.cast_ofNat, ← zpow_natCast,
      ← zpow_add₀ (by norm_num)]
    congr 2
    omega

/-- **Every finite number of 32 bits is one of 64 bits.** -/
theorem exists_widened {mag : Nat} (h : mag < binary32.infinity) :
    ∃ wide < binary64.infinity, binary64.absolute wide = binary32.absolute mag := by
  have hinf : binary32.infinity = 2139095040 := rfl
  have hb : binary32.binade = 8388608 := rfl
  have hmin : binary32.minExponent = -149 := rfl
  obtain ⟨t, m, hd⟩ := exists_digits binary32 mag
  have hlt := hd.lt
  have hplace := hd.place
  rw [hb] at hlt hplace
  rw [hd.absolute]
  exact exists_binary64 (by omega) (by omega) (by omega)

/-- **A pattern is widened to one of the same sign and number**, and to zero only from zero. -/
theorem widened_spec (bits : Nat) :
    ∃ wide < binary64.signBit, binary32.convert binary64 bits = binary64.withSign (binary32.isNegative bits) wide ∧
      (∀ negative, binary64.signed? negative wide = binary32.signed? negative (binary32.magnitude bits)) ∧
      (wide = 0 ↔ binary32.magnitude bits = 0) := by
  have hi : binary64.infinity < binary64.signBit := by decide
  by_cases hnan : binary32.infinity < binary32.magnitude bits
  · obtain ⟨wide, hlow, hhigh, hconv⟩ := convert_of_nan hnan
    refine ⟨wide, hhigh, hconv, fun negative => ?_, by omega⟩
    unfold Format.signed?
    rw [if_neg (by omega), if_neg (by omega), if_neg (by omega), if_neg (by omega)]
  unfold Format.convert Format.signed?
  simp only
  generalize binary32.magnitude bits = mag at *
  by_cases hfin : mag < binary32.infinity
  · obtain ⟨wide, hwide, habs⟩ := exists_widened hfin
    rw [if_pos hfin]
    refine ⟨wide, by omega, ?_, fun negative => ?_, ?_⟩
    · rw [nearestScaled_absolute (Nat.le_of_lt hwide) habs.symm]
    · rw [if_pos hwide, if_pos hfin, Format.signed, Format.signed, habs]
    · rw [← absolute_eq_zero_iff, habs, absolute_eq_zero_iff]
  · obtain rfl : mag = binary32.infinity := by omega
    refine ⟨binary64.infinity, hi, by rw [if_neg hfin, if_pos rfl], fun negative => ?_, by decide⟩
    rw [if_neg (Nat.lt_irrefl _), if_neg hfin, if_pos rfl, if_pos rfl]

theorem extended?_convert (bits : Nat) :
    binary64.extended? (binary32.convert binary64 bits) = binary32.extended? bits := by
  obtain ⟨wide, hlt, hconv, hsigned, -⟩ := widened_spec bits
  rw [hconv, extended?_withSign _ hlt, hsigned]
  rfl

theorem isNegative_convert (bits : Nat) :
    binary64.isNegative (binary32.convert binary64 bits) = binary32.isNegative bits := by
  obtain ⟨wide, hlt, hconv, -, -⟩ := widened_spec bits
  rw [hconv, isNegative_withSign _ hlt]

theorem isNegativeZero_convert (bits : Nat) :
    binary64.isNegativeZero (binary32.convert binary64 bits) = binary32.isNegativeZero bits := by
  obtain ⟨wide, hlt, hconv, -, hzero⟩ := widened_spec bits
  unfold Format.isNegativeZero
  rw [hconv, isNegative_withSign _ hlt, magnitude_withSign _ hlt]
  congr 1
  exact Bool.eq_iff_iff.2 (by simpa using hzero)

theorem isNaNOf_convert (negative : Bool) (bits : Nat) :
    binary64.isNaNOf negative (binary32.convert binary64 bits) = binary32.isNaNOf negative bits := by
  have hnan : binary64.isNaN (binary32.convert binary64 bits) = binary32.isNaN bits := by
    rw [Bool.eq_iff_iff, isNaN_iff, isNaN_iff, extended?_convert]
  rw [Format.isNaNOf, hnan, isNegative_convert]
  rfl

end Widening

/-! ## Integers -/

/-- **A natural number is rounded to a natural number.** -/
theorem nearest_whole {n : Nat} (h : binary64.nearest n 1 < binary64.infinity) :
    ∃ w : Nat, binary64.absolute (binary64.nearest n 1) = w := by
  rcases Nat.eq_zero_or_pos n with rfl | hn
  · exact ⟨0, by rw [Nat.cast_zero]; exact absolute_zero binary64⟩
  have hnear := nearest_eq hn
  obtain ⟨hlow, hhigh⟩ := significand_bounds hn
  obtain ⟨-, hvalue⟩ := decode_place (k := Nat.log2 n) hlow hhigh
  rw [Nat.min_eq_right (by omega)] at hnear
  rw [hnear]
  unfold significand at hvalue ⊢
  by_cases hk : Nat.log2 n < 52
  · -- an integer of less than 53 bits is exact
    have hexp : ((52 - Nat.log2 n : Nat) : Int) + ((Nat.log2 n : Int) - 52) = 0 := by omega
    rw [if_pos hk] at hvalue ⊢
    refine ⟨n, hvalue.trans ?_⟩
    rw [cast_shiftLeft, mul_assoc, ← zpow_natCast, ← zpow_add₀ (by norm_num), hexp, zpow_zero, mul_one]
  · have hexp : (Nat.log2 n : Int) - 52 = ((Nat.log2 n - 52 : Nat) : Int) := by omega
    rw [if_neg hk] at hvalue ⊢
    rw [hexp, zpow_natCast] at hvalue
    exact ⟨_ <<< (Nat.log2 n - 52), hvalue.trans (cast_shiftLeft _ _).symm⟩

/-- An integer of 64 bits is rounded to one not above `2 ^ 64`. -/
theorem nearest_word {n : Nat} (h : n ≤ 18446744073709551616) :
    binary64.nearest n 1 < binary64.infinity ∧
      ∃ w : Nat, w ≤ 18446744073709551616 ∧ binary64.absolute (binary64.nearest n 1) = w := by
  have hword : binary64.absolute 4895412794951729152 = 18446744073709551616 := by
    have hmin : binary64.minExponent = -1074 := rfl
    rw [Format.Digits.absolute (t := 1086) (m := 4503599627370496) ⟨by decide, by decide, .inr (by decide)⟩, hmin]
    norm_num
  have hle : binary64.nearest n 1 ≤ 4895412794951729152 := by
    refine nearest_le_of_le Nat.one_pos ?_
    rw [hword, Nat.cast_one, div_one]
    exact_mod_cast h
  have hfin : binary64.nearest n 1 < binary64.infinity := Nat.lt_of_le_of_lt hle (by decide)
  obtain ⟨w, hw⟩ := nearest_whole hfin
  refine ⟨hfin, w, ?_, hw⟩
  have hmono := absolute_mono (f := binary64) hle
  rw [hw, hword] at hmono
  exact_mod_cast hmono

theorem shift_whole {m w : Nat} {q : Int} (h : (m : ℚ) * 2 ^ q = w) :
    (if q < 0 then m >>> q.natAbs else m <<< q.natAbs) = w := by
  by_cases hq : q < 0
  · have habs : q = -(q.natAbs : Int) := by omega
    have hm : m = w * 2 ^ q.natAbs := by
      rw [habs, zpow_neg, zpow_natCast, ← div_eq_mul_inv, div_eq_iff (by positivity)] at h
      exact_mod_cast h
    rw [if_pos hq, Nat.shiftRight_eq_div_pow]
    exact Nat.div_eq_of_eq_mul_left (by positivity) hm
  · have habs : q = (q.natAbs : Int) := by omega
    rw [habs, zpow_natCast, ← cast_shiftLeft] at h
    rw [if_neg hq]
    exact_mod_cast h

/-- A whole number within the bounds is truncated to itself. -/
theorem truncate_whole {f : Format} {bits w : Nat} {low high : Int} (hfin : f.magnitude bits < f.infinity)
    (h : f.absolute (f.magnitude bits) = w) (hlow : low ≤ -w) (hhigh : w ≤ high) :
    f.truncate low high bits = if f.isNegative bits then -(w : Int) else w := by
  unfold Format.truncate
  simp only
  rw [if_neg (by omega), if_neg (by omega), shift_whole h]
  split <;> omega

end Ieee
end RecordHold
