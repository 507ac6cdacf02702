import RecordHold.Proofs.FloatScaling
/-!
# Proofs.FloatNeighbours — a float that is written and read is at most two patterns away

The digits of the shortest decimal make a word, and its exponent is small enough to be read (`Format.Shortest.digits_lt`,
`Format.Shortest.place_bounds`), so what is read is a number close to the decimal, rounded.  The decimal is between the two
numbers halfway around the float, and two units of error do not lead farther than two floats (`neighbour_of_close`).
-/
namespace RecordHold
namespace Ieee

/-! ## The digits and the exponent of a shortest decimal -/

namespace Format.Shortest

variable {f : Format} {mag : Nat} {d : Decimal}

/-- The gap below a float is less than twenty units of its last digit. -/
theorem unit_lt (h : f.Shortest mag d) (hpos : 0 < mag) : f.unit (mag - 1) < 20 * 10 ^ d.place := by
  have hgap := h.coarse
  have hsucc := absolute_succ f (mag - 1)
  rw [Nat.sub_add_cancel hpos] at hsucc
  rw [upper_eq, hsucc] at hgap
  linarith

theorem digits_lt (h : f.Shortest mag d) (hpos : 0 < mag) : Json.numberValue d.digits < 40 * f.binade + 1 := by
  have hunit := h.unit_lt hpos
  have habove := h.above
  have habs := absolute_succ_le f (mag - 1)
  have hten : (0 : ℚ) < 10 ^ d.place := zpow_pos (by norm_num) _
  have hb : (1 : ℚ) ≤ f.binade := by exact_mod_cast binade_pos f
  rw [Nat.sub_add_cancel hpos] at habs
  have hlt : (Json.numberValue d.digits : ℚ) * 10 ^ d.place < (40 * f.binade + 1) * 10 ^ d.place := by
    calc (Json.numberValue d.digits : ℚ) * 10 ^ d.place ≤ 2 * f.binade * f.unit (mag - 1) + 10 ^ d.place :=
          habove.trans (by gcongr)
      _ < 2 * f.binade * (20 * 10 ^ d.place) + 10 ^ d.place := by gcongr
      _ = _ := by ring
  exact_mod_cast lt_of_mul_lt_mul_right hlt hten.le

theorem value_pos (h : f.Shortest mag d) : 0 < d.value := (zpow_pos (by norm_num) _).trans_le h.leads

theorem place_le (h : f.Shortest mag d) : d.place ≤ d.exponent := by
  have hlen := List.length_pos_iff.2 h.digits
  unfold Decimal.place
  omega

/-- The first digit counts less than the number of the infinity, the last one more than a part of the smallest unit. -/
theorem place_bounds {a b j k : Nat} (h : f.Shortest mag d) (hpos : 0 < mag) (hfin : mag < f.infinity)
    (hmin : f.minExponent = -(a : Int)) (hinf : f.absolute f.infinity = 2 ^ b) (hlow : 20 * 2 ^ a ≤ 10 ^ j)
    (hhigh : 2 ^ b ≤ 10 ^ k) : -(j : Int) < d.place ∧ d.exponent < k := by
  have hlowq : (20 : ℚ) * 2 ^ a ≤ 10 ^ j := by exact_mod_cast hlow
  have hhighq : (2 : ℚ) ^ b ≤ 10 ^ k := by exact_mod_cast hhigh
  constructor
  · have hunit := (minUnit_le f _).trans_lt (h.unit_lt hpos)
    have hle : (20 : ℚ) * 10 ^ (-(j : Int)) ≤ 2 ^ f.minExponent := by
      rw [hmin, zpow_neg, zpow_neg, zpow_natCast, zpow_natCast, ← div_eq_mul_inv, inv_eq_one_div,
        div_le_div_iff₀ (by positivity) (by positivity), one_mul]
      exact hlowq
    exact (zpow_lt_zpow_iff_right₀ (by norm_num : (1 : ℚ) < 10)).1
      (lt_of_mul_lt_mul_left (hle.trans_lt hunit) (by norm_num))
  · have hlt := (h.leads.trans h.high).trans_lt ((upper_lt_absolute_succ f mag).trans_le (absolute_mono hfin))
    rw [hinf] at hlt
    refine (zpow_lt_zpow_iff_right₀ (by norm_num : (1 : ℚ) < 10)).1 (hlt.trans_le ?_)
    rwa [zpow_natCast]

end Format.Shortest

/-- The infinity follows the largest finite number as if it were the next power of two. -/
theorem absolute_infinity {f : Format} {t k : Nat} (hinf : f.infinity = (t + 1) * f.binade)
    (hexp : f.minExponent + t + ((f.precision - 1 : Nat) : Int) = k) : f.absolute f.infinity = 2 ^ k := by
  have hb := binade_pos f
  have hdigits : f.Digits f.infinity t f.binade := ⟨by rw [hinf, Nat.succ_mul], by omega, .inr (Nat.le_refl _)⟩
  rw [hdigits.absolute, cast_binade, ← zpow_add₀ (by norm_num), add_comm, hexp, zpow_natCast]

section Bounds
variable {mag : Nat} {d : Decimal}

theorem place_bounds_binary32 (h : binary32.Shortest mag d) (hpos : 0 < mag) (hfin : mag < binary32.infinity) :
    -47 < d.place ∧ d.exponent < 39 :=
  h.place_bounds hpos hfin (a := 149) (j := 47) rfl (absolute_infinity (t := 254) (k := 128) (by decide) (by decide))
    (by decide +kernel) (by decide +kernel)

theorem place_bounds_binary64 (h : binary64.Shortest mag d) (hpos : 0 < mag) (hfin : mag < binary64.infinity) :
    -325 < d.place ∧ d.exponent < 309 :=
  h.place_bounds hpos hfin (a := 1074) (j := 325) rfl
    (absolute_infinity (t := 2046) (k := 1024) (by decide) (by decide)) (by decide +kernel) (by decide +kernel)

end Bounds

/-! ## Near numbers are rounded to near floats -/

/-- **A number that is close to one between the numbers halfway around a float is rounded to at most two floats away.** -/
theorem neighbour_of_close {mag y : Nat} {v d : ℚ} (hpos : 0 < mag) (hlow : binary64.upper (mag - 1) ≤ d)
    (hhigh : d ≤ binary64.upper mag) (h : binary64.IsNearest v y) (hy : y < binary64.infinity) (hclose : Close v d) :
    y ≤ mag + 2 ∧ mag ≤ y + 2 := by
  obtain ⟨c, η, hc, hη, hv, hd, hlt⟩ := hclose
  -- from a number halfway to the second one above it is farther than the error
  have hstep (x : Nat) : c * (binary64.upper x + η * 2 ^ binary64.minExponent) < binary64.upper (x + 2) := by
    have hunits := upper_le_units binary64 x
    have hmin := minUnit_le binary64 x
    have hunit := unit_pos binary64 x
    have hadd := upper_add binary64 x 2
    push_cast at hadd
    calc c * (binary64.upper x + η * 2 ^ binary64.minExponent)
        = binary64.upper x + (c - 1) * binary64.upper x + c * η * 2 ^ binary64.minExponent := by ring
      _ ≤ binary64.upper x + (c - 1) * (2 * binary64.binade * binary64.unit x) + c * η * binary64.unit x := by
          gcongr
      _ = binary64.upper x + ((c - 1) * (2 * binary64.binade) + c * η) * binary64.unit x := by ring
      _ < binary64.upper x + 2 * binary64.unit x := by gcongr
      _ ≤ _ := hadd
  have hmin : (0 : ℚ) < 2 ^ binary64.minExponent := zpow_pos (by norm_num) _
  constructor
  · refine h.le_of_lt_upper (lt_of_le_of_lt ?_ (hstep mag))
    have herror : η * 2 ^ binary64.minExponent ≤ c * (η * 2 ^ binary64.minExponent) :=
      le_mul_of_one_le_left (by positivity) hc
    rw [mul_add]
    exact hv.trans (add_le_add (mul_le_mul_of_nonneg_left hhigh (by linarith)) herror)
  · by_contra hfar
    have hup : v ≤ binary64.upper (mag - 3) := (h.le_upper hy).trans (upper_mono (by omega))
    have hmag : mag - 3 + 2 = mag - 1 := by omega
    have hle : d ≤ c * (binary64.upper (mag - 3) + η * 2 ^ binary64.minExponent) :=
      hd.trans (mul_le_mul_of_nonneg_left (add_le_add_left hup _) (by linarith))
    exact absurd (hlow.trans hle) (not_le.2 (hmag ▸ hstep (mag - 3)))

end Ieee

namespace Numeral

open Ieee

/-! ## Reading a written float -/

theorem isInteger_ofDecimal (negative plain : Bool) (d : Decimal) : (ofDecimal negative plain d).isInteger = false := by
  unfold ofDecimal isInteger
  cases plain <;> simp

/-- A zero is read as it was. -/
theorem toFloat?_zero {f : Format} (hf : f = binary32 ∨ f = binary64) {bits : Nat} (h : f.magnitude bits = 0) :
    (ofFinite f bits).toFloat? f = some (f.withSign (f.isNegative bits) 0) := by
  unfold ofFinite
  rw [h]
  simp only [if_true]
  cases f.isNegative bits <;> rcases hf with rfl | rfl <;> decide +kernel

section
variable {f : Format} {bits s : Nat} {plain : Bool} {d : Decimal} {e : Int}

/-- What a positive decimal is scaled from is positive. -/
theorem Scales.pos (h : Scales plain d s e) (hd : 0 < d.value) : 0 < s := by
  refine Nat.pos_of_ne_zero (fun h0 => ?_)
  rw [← h.value, h0, Nat.cast_zero, zero_mul] at hd
  exact lt_irrefl _ hd

/-- What is scaled is a word, as the digits are. -/
theorem Scales.word (h : Scales plain d s e) (hword : Json.numberValue d.digits < IntType.u64.size)
    (hplain : plain = true → d.exponent < 16) : s < IntType.u64.size := by
  rcases h.forms with ⟨rfl, -⟩ | ⟨hp, hlt, -⟩
  · exact hword
  · have := hplain hp
    exact Nat.lt_trans (Nat.lt_of_lt_of_le hlt (Nat.pow_le_pow_right (by decide) (by omega))) (by decide : 10 ^ 17 < _)

/-- **How a written float is read**: its decimal is scaled, and the result is carried over to the format. -/
theorem toFloat?_spec (hf : f = binary32 ∨ f = binary64) (hfin : f.isFinite bits = true) (hpos : 0 < f.magnitude bits) :
    ∃ s e y, Scales (plainExponent f (f.shortest .even (f.magnitude bits)).exponent)
        (f.shortest .even (f.magnitude bits)) s e ∧ 0 < s ∧ s < IntType.u64.size ∧
      scale 4 (binary64.nearest s 1) e = some y ∧
      (ofFinite f bits).toFloat? f = some (binary64.convert f (binary64.withSign (f.isNegative bits) y)) := by
  have hinf : f.magnitude bits < f.infinity := of_decide_eq_true hfin
  have hsome := decimalMagnitude_ofFinite hf hfin
  have hd := shortest_spec hf hpos .even
  have hplain : plainExponent f (f.shortest .even (f.magnitude bits)).exponent = true →
      (f.shortest .even (f.magnitude bits)).exponent < 16 := by
    unfold plainExponent
    intro hp
    split at hp <;> have hrange := of_decide_eq_true hp <;> omega
  have hbounds : -325 < (f.shortest .even (f.magnitude bits)).place ∧
      (f.shortest .even (f.magnitude bits)).exponent < 309 := by
    rcases hf with rfl | rfl
    · have := place_bounds_binary32 hd hpos hinf
      omega
    · exact place_bounds_binary64 hd hpos hinf
  have hword : Json.numberValue (f.shortest .even (f.magnitude bits)).digits < IntType.u64.size := by
    refine Nat.lt_of_lt_of_le (hd.digits_lt hpos) ?_
    rcases hf with rfl | rfl <;> decide
  unfold toFloat? ofFinite at *
  simp only [if_neg hpos.ne'] at *
  generalize f.shortest .even (f.magnitude bits) = d at *
  have hexp : IntType.i32.holds d.exponent.natAbs := by
    have := hd.place_le
    constructor
    · show (-2147483648 : Int) ≤ d.exponent.natAbs
      omega
    · show (d.exponent.natAbs : Int) ≤ 2147483647
      omega
  obtain ⟨s, e, hread, hscales⟩ :=
    decimalMagnitude_ofDecimal (f.isNegative bits) hd.digits hd.small hword hexp hplain
  obtain ⟨y, hy⟩ := Option.ne_none_iff_exists'.1 hsome
  have hsign : (ofDecimal (f.isNegative bits) (plainExponent f d.exponent) d).negative = f.isNegative bits := by
    unfold ofDecimal
    split <;> rfl
  refine ⟨s, e, y, hscales, hscales.pos hd.value_pos, hscales.word hword hplain, hread.symm.trans hy, ?_⟩
  rw [isInteger_ofDecimal, if_neg Bool.false_ne_true, hy, hsign]
  rfl

/-- **A decimal with few digits**, few of them behind the point, and not many before it. -/
structure Few (d : Decimal) : Prop where
  digits : Json.numberValue d.digits < 9007199254740992
  place  : -23 < d.place
  value  : 10 * d.value < 9007199254740992

/-- What a decimal with few digits is scaled from has few digits, too. -/
theorem Few.scales (h : Few d) (hs : Scales plain d s e) (hpos : 0 < s) : s < 9007199254740992 ∧ e.natAbs < 23 := by
  have hplace := h.place
  have hvalue := h.value
  rcases hs.forms with ⟨rfl, rfl⟩ | ⟨-, -, rfl, -⟩
  · refine ⟨h.digits, ?_⟩
    have hlt : d.place < 16 := by
      by_contra hge
      have hten : (10 : ℚ) ^ (16 : Int) ≤ 10 ^ d.place := zpow_le_zpow_right₀ (by norm_num) (not_lt.1 hge)
      have hone : (1 : ℚ) ≤ Json.numberValue d.digits := by exact_mod_cast hpos
      rw [← hs.value] at hvalue
      norm_num at hten
      nlinarith
    omega
  · refine ⟨?_, by decide⟩
    rw [← hs.value, zpow_neg_one, mul_comm, mul_assoc, inv_mul_cancel₀ (by norm_num), mul_one] at hvalue
    exact_mod_cast hvalue

/-- **A 64-bit float that is written and read keeps its sign and is at most two patterns away**, and if its decimal has
few digits, it is what it was. -/
theorem toFloat?_binary64 (hfin : binary64.isFinite bits = true) :
    ∃ mag < binary64.infinity,
      (ofFinite binary64 bits).toFloat? binary64 = some (binary64.withSign (binary64.isNegative bits) mag) ∧
      mag ≤ binary64.magnitude bits + 2 ∧ binary64.magnitude bits ≤ mag + 2 ∧
      (Few (binary64.shortest .even (binary64.magnitude bits)) → mag = binary64.magnitude bits) := by
  have hinf : binary64.magnitude bits < binary64.infinity := of_decide_eq_true hfin
  rcases Nat.eq_zero_or_pos (binary64.magnitude bits) with hzero | hpos
  · refine ⟨0, by decide, toFloat?_zero (.inr rfl) hzero, Nat.zero_le _, by omega, fun _ => hzero.symm⟩
  obtain ⟨s, e, y, hscales, hs, hs', hscale, hread⟩ := toFloat?_spec (.inr rfl) hfin hpos
  have hd := shortest_spec (.inr rfl : binary64 = binary32 ∨ binary64 = binary64) hpos .even
  have hbounds := place_bounds_binary64 hd hpos hinf
  have hplace := hd.place_le
  have he : -331 < e ∧ e < 309 := by
    rcases hscales.forms with ⟨-, rfl⟩ | ⟨-, -, rfl, -⟩ <;> omega
  obtain ⟨hy, v, hnear, hclose⟩ := scale_close hs hs' he.1 he.2 hscale
  rw [hscales.value] at hclose
  -- carrying a float over to its own format changes nothing
  obtain ⟨x, hx, hconvert⟩ := isNearest_convert binary64 (Nat.lt_trans hy (by decide)) hy (binary64.isNegative bits)
  have hself : x = y := Nat.le_antisymm (hx.le_of_le (le_refl _)) (hx.ge_of_le hy.le (le_refl _))
  rw [hconvert, hself] at hread
  obtain ⟨hup, hdown⟩ := neighbour_of_close hpos hd.low hd.high hnear hy hclose
  refine ⟨y, hy, hread, hup, hdown, fun hfew => ?_⟩
  obtain ⟨hword, hexp⟩ := hfew.scales hscales hs
  have hexact := (scale_exact hword hexp hscale).2
  rw [hscales.value] at hexact
  exact hexact.eq_of_between (by decide) hinf (.inr hd.low) hd.high hd.odd

end

end Numeral
end RecordHold
