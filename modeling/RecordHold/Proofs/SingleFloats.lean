import RecordHold.Proofs.FloatNeighbours
import RecordHold.Proofs.NearFractions
/-!
# Proofs.SingleFloats — every finite 32-bit float is read as it was written

A 32-bit float is read through a 64-bit one, which is rounded twice more than it need be.  This does no harm as long as
the 64-bit float stays on its side of the numbers halfway around the 32-bit one (`nearest_of_sameSide`).  These are 64-bit
floats themselves, so it does if the decimal is one of them or away from them by one part in `2 ^ 52` (`side_of_apart`).
A decimal finer than the gap is away from them because it is near to the float, and the others have so few digits that
they are apart, too, by `decimal_apart` (`halfway_apart`).  The few floats that this leaves out are read one by one
(`missed_read`).
-/
namespace RecordHold
namespace Ieee

/-! ## Numbers halfway between 32-bit floats -/

section Halfway
variable {x m n : Nat} {d : ℚ} {p : Int}

/-- The number halfway to the next float is an odd multiple of half a unit. -/
theorem exists_upper (x : Nat) : ∃ t m : Nat, x = t * 8388608 + m ∧ m < 16777216 ∧ (t = 0 ∨ 8388608 ≤ m) ∧
    binary32.upper x = (2 * m + 1 : Nat) * 2 ^ ((t : Int) - 150) ∧ binary32.unit x / 2 = 2 ^ ((t : Int) - 150) := by
  obtain ⟨t, m, hx⟩ := exists_digits binary32 x
  refine ⟨t, m, hx.place, hx.lt, hx.leads, ?_⟩
  have hexp : binary32.minExponent + (t : Int) = 1 + ((t : Int) - 150) := by
    have hmin : binary32.minExponent = -149 := rfl
    omega
  rw [hx.upper, hx.unit, hexp, zpow_one_add₀ (by norm_num)]
  push_cast
  constructor <;> ring

/-- The floats below the numbers halfway that a decimal comes very near to. -/
def missed : List Nat := nearMisses.map (fun x => x.1 * binary32.binade + x.2 / 2)

/-- **A decimal near a float is a number halfway to the next one, or apart from it.** -/
theorem halfway_apart (hx : x < binary32.infinity) (hmiss : x ∉ missed) (hd : d = n * 10 ^ p)
    (hnear : d ≤ binary32.upper x - binary32.unit x / 2 + 10 ^ p ∨
      binary32.upper x + binary32.unit x / 2 ≤ d + 10 ^ p) :
    d = binary32.upper x ∨ d ≤ binary32.upper x * (1 - 1 / 2 ^ 52) ∨ binary32.upper x * (1 + 1 / 2 ^ 52) ≤ d := by
  have hinf : binary32.infinity = 2139095040 := rfl
  obtain ⟨t, m, hplace, hlt, hlead, hupper, hunit⟩ := exists_upper x
  rw [hunit, hupper] at hnear
  rw [hupper]
  have hpow : (0 : ℚ) < 2 ^ ((t : Int) - 150) := zpow_pos (by norm_num) _
  have hm : ((2 * m + 1 : Nat) : ℚ) ≤ 2 ^ 25 := by
    have : 2 * m + 1 ≤ 2 ^ 25 := by omega
    exact_mod_cast this
  by_cases hfine : (10 : ℚ) ^ p ≤ 2 ^ ((t : Int) - 150) * (1 - 1 / 2 ^ 27)
  · -- the decimal is nearer to the float
    right
    have hmargin : ((2 * m + 1 : Nat) : ℚ) * 2 ^ ((t : Int) - 150) / 2 ^ 52 ≤ 2 ^ ((t : Int) - 150) / 2 ^ 27 := by
      rw [div_le_div_iff₀ (by norm_num) (by norm_num)]
      nlinarith
    exact hnear.imp (fun h => by linarith) (fun h => by linarith)
  · have hlead' := leadPlace_le (not_le.1 hfine)
    have hdecimal : d = ((n * 10 ^ (p - leadPlace t).toNat : Nat) : ℚ) * 10 ^ leadPlace t := by
      have hexp : p = ((p - leadPlace t).toNat : Int) + leadPlace t := by omega
      rw [hd]
      conv_lhs => rw [hexp, zpow_add₀ (by norm_num), zpow_natCast]
      push_cast
      ring
    rw [hdecimal]
    refine decimal_apart (by omega) (by omega) (by omega) (fun hknown => hmiss ?_) _
    refine List.mem_map.2 ⟨_, hknown, ?_⟩
    show t * 8388608 + (2 * m + 1) / 2 = x
    omega

/-- Few digits times a power of two are not divided by a high power of ten, for that has many factors of five. -/
theorem not_ten_pow_dvd {a r k : Nat} (hpos : 0 < a) (ha : a < 9007199254740992) (hk : 23 ≤ k) :
    ¬ 10 ^ k ∣ a * 2 ^ r := by
  intro h
  have hfive : 5 ^ 23 ∣ a * 2 ^ r :=
    Nat.dvd_trans (Nat.dvd_trans (Nat.pow_dvd_pow 5 hk) (pow_dvd_pow_of_dvd (by decide) k)) h
  have hcoprime : Nat.Coprime (5 ^ 23) (2 ^ r) := Nat.Coprime.pow _ _ (by decide)
  have hle := Nat.le_of_dvd hpos (hcoprime.dvd_of_dvd_mul_right hfive)
  omega

/-- **Few digits times a power of ten are few times a power of two** for small exponents only. -/
theorem exponent_lt_of_eq {q : Int} (hn : 0 < n) (hn' : n < 9007199254740992) (hm : 0 < m) (hm' : m < 9007199254740992)
    (h : (n : ℚ) * 10 ^ p = m * 2 ^ q) : p.natAbs < 23 := by
  by_contra hlarge
  have hq : (2 : ℚ) ^ q * 2 ^ (-q).toNat = 2 ^ q.toNat := by
    rw [← zpow_natCast, ← zpow_add₀ (by norm_num), ← zpow_natCast]
    congr 1
    omega
  rcases le_or_gt 0 p with hp | hp
  · have habs : p = (p.natAbs : Int) := by omega
    have hnat : n * 10 ^ p.natAbs * 2 ^ (-q).toNat = m * 2 ^ q.toNat := by
      rw [habs, zpow_natCast] at h
      have hscaled : (n : ℚ) * 10 ^ p.natAbs * 2 ^ (-q).toNat = m * 2 ^ q.toNat := by
        rw [h, ← hq, mul_assoc]
      exact_mod_cast hscaled
    refine not_ten_pow_dvd (r := q.toNat) hm hm' (not_lt.1 hlarge) ?_
    rw [← hnat, Nat.mul_right_comm]
    exact Nat.dvd_mul_left _ _
  · have habs : p = -(p.natAbs : Int) := by omega
    have hnat : n * 2 ^ (-q).toNat = m * 2 ^ q.toNat * 10 ^ p.natAbs := by
      rw [habs, zpow_neg, zpow_natCast, ← div_eq_mul_inv, div_eq_iff (by positivity)] at h
      have hscaled : (n : ℚ) * 2 ^ (-q).toNat = m * 2 ^ q.toNat * 10 ^ p.natAbs := by
        rw [h, ← hq]
        ring
      exact_mod_cast hscaled
    refine not_ten_pow_dvd (r := (-q).toNat) hn hn' (not_lt.1 hlarge) ?_
    rw [hnat]
    exact Nat.dvd_mul_left _ _

theorem exponent_of_halfway (hn : 0 < n) (hn' : n < 9007199254740992)
    (h : (n : ℚ) * 10 ^ p = binary32.upper x) : p.natAbs < 23 := by
  obtain ⟨t, m, -, hlt, -, hupper, -⟩ := exists_upper x
  rw [hupper] at h
  exact exponent_lt_of_eq hn hn' (by omega) (by omega) h

/-- **The numbers halfway between 32-bit floats are 64-bit floats.** -/
theorem exists_halfway (hx : x < binary32.infinity) :
    ∃ β < binary64.infinity, binary64.binade ≤ β ∧ binary64.absolute β = binary32.upper x := by
  have hinf : binary32.infinity = 2139095040 := rfl
  obtain ⟨t, m, hplace, hlt, -, hupper, -⟩ := exists_upper x
  obtain ⟨β, hfin, habs⟩ := exists_binary64 (m := 2 * m + 1) (q := (t : Int) - 150) (by omega) (by omega) (by omega)
  rw [hupper, ← habs]
  refine ⟨β, hfin, (absolute_le_iff (f := binary64)).1 ?_, rfl⟩
  have hfirst : binary64.absolute binary64.binade = 2 ^ (-1022 : Int) := by
    have hmin : binary64.minExponent = -1074 := rfl
    rw [Format.Digits.absolute (t := 0) (m := binary64.binade) ⟨by decide, by decide, .inl rfl⟩, cast_binade, hmin,
      ← zpow_add₀ (by norm_num)]
    rfl
  rw [hfirst, habs]
  calc (2 : ℚ) ^ (-1022 : Int) ≤ 2 ^ ((t : Int) - 150) := zpow_le_zpow_right₀ (by norm_num) (by omega)
    _ ≤ (2 * m + 1 : Nat) * 2 ^ ((t : Int) - 150) :=
        le_mul_of_one_le_left (zpow_pos (by norm_num) _).le (by exact_mod_cast Nat.le_add_left 1 _)

end Halfway

/-! ## The side of a number halfway -/

/-- **Two numbers are on the same side of a third one**, or all three are equal. -/
def SameSide (v w u : ℚ) : Prop := (v < u ↔ w < u) ∧ (u < v ↔ u < w)

section Side
variable {β x y : Nat} {d v w : ℚ}

/-- **A number on the same sides as a shortest decimal** of the numbers halfway around a float is rounded to that float. -/
theorem nearest_of_sameSide {f : Format} {mag z : Nat} {d : Decimal} (h : f.Shortest mag d) (heven : 2 ∣ f.binade)
    (hfin : mag < f.infinity) (hz : f.IsNearest w z) (hlow : SameSide d.value w (f.upper (mag - 1)))
    (hhigh : SameSide d.value w (f.upper mag)) : z = mag :=
  hz.eq_of_between heven hfin (.inr (not_lt.1 (fun hlt => absurd (hlow.1.2 hlt) (not_lt.2 h.low))))
    (not_lt.1 (fun hlt => absurd (hhigh.2.2 hlt) (not_lt.2 h.high)))
    (fun hodd => ⟨hlow.2.1 (h.odd hodd).1, hhigh.1.1 (h.odd hodd).2⟩)

/-- **A 64-bit float read off a decimal is on the same side of another float** if the decimal is apart from that one. -/
theorem side_of_apart (hβ : binary64.binade ≤ β) (hy : y < binary64.infinity)
    (h : binary64.IsNearest v y) (hv : Within (1 + 91 / 100 * roundoff) v d) :
    (d ≤ binary64.absolute β * (1 - 1 / 2 ^ 52) → y < β) ∧
      (binary64.absolute β * (1 + 1 / 2 ^ 52) ≤ d → β < y) := by
  have hb : (binary64.binade : ℚ) = 4503599627370496 := rfl
  have hunit := unit_le_absolute hβ
  have hpos := absolute_pos (f := binary64) (Nat.lt_of_lt_of_le (binade_pos binary64) hβ)
  obtain ⟨hv1, hv2⟩ := hv
  rw [roundoff] at hv1 hv2
  rw [hb] at hunit
  constructor
  · intro hd
    by_contra hge
    have hlow := (upper_mono (show β - 1 ≤ y - 1 by omega)).trans (h.upper_le (by have := binade_pos binary64; omega))
    have hmono := unit_mono (f := binary64) (show β - 1 ≤ β by omega)
    have hsucc := absolute_succ binary64 (β - 1)
    rw [Nat.sub_add_cancel (Nat.lt_of_lt_of_le (binade_pos binary64) hβ)] at hsucc
    rw [upper_eq] at hlow
    linarith
  · intro hd
    by_contra hle
    have hhigh := (h.le_upper hy).trans (upper_mono (show y ≤ β by omega))
    rw [upper_eq] at hhigh
    linarith

end Side

end Ieee

namespace Numeral

open Ieee

/-- The floats around the numbers halfway that a decimal comes very near to are read as they were. -/
theorem missed_read : ∀ negative : Bool, ∀ x ∈ missed, ∀ i < 2,
    (ofDecimal negative (plainExponent binary32 (binary32.shortest .even (x + i)).exponent)
      (binary32.shortest .even (x + i))).toFloat? binary32 = some (binary32.withSign negative (x + i)) := by
  decide +kernel

section Reading
variable {plain : Bool} {d : Decimal} {s x y n : Nat} {e : Int}

/-- **What is read is on the same side of a number halfway as the decimal.** -/
theorem read_side (hs : Scales plain d s e) (hpos : 0 < s) (hword : s < 9007199254740992) (he : e.natAbs < 309)
    (hscale : scale (n + 1) (binary64.nearest s 1) e = some y) (hx : x < binary32.infinity) (hmiss : x ∉ missed)
    (hnear : d.value ≤ binary32.upper x - binary32.unit x / 2 + 10 ^ d.place ∨
      binary32.upper x + binary32.unit x / 2 ≤ d.value + 10 ^ d.place) :
    SameSide d.value (binary64.absolute y) (binary32.upper x) := by
  have hbpos := upper_pos binary32 x
  obtain ⟨β, hfin, hβ, habs⟩ := exists_halfway hx
  obtain ⟨hy, v, hv, hwithin⟩ := scale_word hword he hscale
  rw [hs.value] at hwithin
  obtain ⟨hbelow, habove⟩ := side_of_apart hβ hy hv hwithin
  have hcases := halfway_apart hx hmiss (show d.value = Json.numberValue d.digits * 10 ^ d.place from rfl) hnear
  rw [← habs] at hcases hbpos ⊢
  rcases hcases with heq | hlow | hhigh
  · -- the decimal is halfway, and so short that nothing is rounded
    obtain ⟨-, hexact⟩ := scale_exact hword (exponent_of_halfway hpos hword (by rw [hs.value, heq, habs])) hscale
    rw [hs.value, heq] at hexact
    rw [heq, Nat.le_antisymm (hexact.le_of_le (le_refl _)) (hexact.ge_of_le hfin.le (le_refl _))]
    exact ⟨Iff.rfl, Iff.rfl⟩
  · have hlt : d.value < binary64.absolute β := by linarith
    have hread := absolute_lt (f := binary64) (hbelow hlow)
    exact ⟨iff_of_true hlt hread, iff_of_false hlt.asymm hread.asymm⟩
  · have hgt : binary64.absolute β < d.value := by linarith
    have hread := absolute_lt (f := binary64) (habove hhigh)
    exact ⟨iff_of_false hgt.asymm hread.asymm, iff_of_true hgt hread⟩

/-- **A finite 32-bit float that is written and read is what it was.** -/
theorem toFloat?_binary32 {bits : Nat} (hfin : binary32.isFinite bits = true) :
    (ofFinite binary32 bits).toFloat? binary32 =
      some (binary32.withSign (binary32.isNegative bits) (binary32.magnitude bits)) := by
  have hinf : binary32.magnitude bits < binary32.infinity := of_decide_eq_true hfin
  rcases Nat.eq_zero_or_pos (binary32.magnitude bits) with hzero | hpos
  · rw [toFloat?_zero (.inl rfl) hzero, hzero]
  by_cases hmissed : ∃ x ∈ missed, ∃ i < 2, binary32.magnitude bits = x + i
  · obtain ⟨x, hx, i, hi, hmag⟩ := hmissed
    unfold ofFinite
    simp only [if_neg hpos.ne']
    rw [hmag]
    exact missed_read _ x hx i hi
  obtain ⟨s, e, y, hscales, hs, -, hscale, hread⟩ := toFloat?_spec (.inl rfl) hfin hpos
  have hd := shortest_spec (.inl rfl : binary32 = binary32 ∨ binary32 = binary64) hpos .even
  have hbounds := place_bounds_binary32 hd hpos hinf
  have hplace := hd.place_le
  have hdigits := hd.digits_lt hpos
  have hb : binary32.binade = 8388608 := rfl
  rw [hb] at hdigits
  have he : e.natAbs < 309 := by
    rcases hscales.forms with ⟨-, rfl⟩ | ⟨-, -, rfl, -⟩ <;> omega
  have hword : s < 9007199254740992 := by
    rcases hscales.forms with ⟨rfl, -⟩ | ⟨hplain, hlt, -⟩
    · omega
    · have hrange : (binary32.shortest .even (binary32.magnitude bits)).exponent < 13 := (of_decide_eq_true hplain).2
      exact Nat.lt_of_lt_of_le hlt
        (Nat.le_trans (Nat.pow_le_pow_right (by decide) (by omega)) (by decide : 10 ^ 14 ≤ 9007199254740992))
  have hmiss : binary32.magnitude bits ∉ missed := fun h => hmissed ⟨_, h, 0, by decide, rfl⟩
  have hmiss' : binary32.magnitude bits - 1 ∉ missed := fun h => hmissed ⟨_, h, 1, by decide, by omega⟩
  have hbelow := hd.below
  have habove := hd.above
  have hsucc := absolute_succ binary32 (binary32.magnitude bits - 1)
  rw [Nat.sub_add_cancel hpos] at hsucc
  have hlow := read_side hscales hs hword he hscale (by omega) hmiss' (.inr (by rw [upper_eq]; linarith))
  have hhigh := read_side hscales hs hword he hscale hinf hmiss (.inl (by rw [upper_eq]; linarith))
  obtain ⟨hy, -⟩ := scale_word hword he hscale
  obtain ⟨z, hz, hconvert⟩ := isNearest_convert binary32 (Nat.lt_trans hy (by decide)) hy (binary32.isNegative bits)
  rw [hread, hconvert]
  rw [nearest_of_sameSide hd (by decide) hinf hz hlow hhigh]

end Reading

end Numeral
end RecordHold
