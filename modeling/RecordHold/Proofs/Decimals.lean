import Mathlib.Algebra.Order.Field.Power
import Mathlib.Tactic.FieldSimp
import Mathlib.Tactic.GCongr
import Mathlib.Tactic.Linarith
import Mathlib.Tactic.Positivity
import Mathlib.Tactic.Ring
import RecordHold.Ieee.Decimal
import RecordHold.Proofs.JsonText
/-!
# Proofs.Decimals — where the shortest decimal of a float lies

The search for the shortest decimal of a float goes through grids that get finer and finer.  It always comes upon one
that has a point in the neighbourhood of the float (`onGrid_twenty`): 20 digits are enough, for a float has less than 54
bits, so its neighbourhood extends from it by more than one part in `10 ^ 19` (`Neighbourhood.Broad`).  The decimal that
is found is that point, and so not above the neighbourhood (`shortest_le`).

Quotients of naturals are compared as rationals, and the powers of two and of ten that they are scaled by are integer
powers there.
-/
namespace RecordHold
namespace Ieee

/-! ## Quotients of naturals -/

theorem cast_tenTo (k : Nat) : ((tenTo k : Nat) : ℚ) = 10 ^ k := Nat.cast_pow 10 k

theorem cast_shiftLeft (n k : Nat) : ((n <<< k : Nat) : ℚ) = n * 2 ^ k := by
  rw [Nat.shiftLeft_eq, Nat.cast_mul, Nat.cast_pow, Nat.cast_ofNat]

/-- **A quotient scaled down** by a power of two. -/
theorem scaleDown_spec (num : Nat) {den : Nat} (hden : 0 < den) (e : Int) :
    0 < (scaleDown num den e).2 ∧
      ((scaleDown num den e).1 : ℚ) / (scaleDown num den e).2 = num / den * 2 ^ (-e) := by
  unfold scaleDown
  split
  · have habs : -e = (e.natAbs : Int) := by omega
    refine ⟨hden, ?_⟩
    show ((num <<< e.natAbs : Nat) : ℚ) / den = _
    rw [habs, zpow_natCast, cast_shiftLeft]
    ring
  · have habs : -e = -(e.natAbs : Int) := by omega
    refine ⟨by show 0 < den <<< e.natAbs; rw [Nat.shiftLeft_eq]; positivity, ?_⟩
    show (num : ℚ) / ((den <<< e.natAbs : Nat) : ℚ) = _
    rw [habs, zpow_neg, zpow_natCast, cast_shiftLeft]
    field_simp

/-! ## Digits -/

theorem digitsOf_lt (n : Nat) : ∀ d ∈ digitsOf n, d < 10 := by
  intro d hd
  obtain ⟨c, hc, rfl⟩ := List.mem_map.1 hd
  have hdigit := Nat.isDigit_of_mem_toDigits (by decide) (by decide) hc
  have hhigh : c.toNat ≤ 57 := (Char.isDigit_iff_toNat.1 hdigit).2
  omega

theorem dropTrailingZeros_subset {ds : List Nat} : ∀ d ∈ dropTrailingZeros ds, d ∈ ds := by
  intro d hd
  have hmem := (List.dropWhile_sublist _).mem (List.mem_reverse.1 hd)
  exact List.mem_reverse.1 hmem

theorem searchGrids_digits (tie : Tie) (v : Neighbourhood) (e : Int) : ∀ tries places : Nat,
    ∀ d ∈ (searchGrids tie v e tries places).digits, d < 10
  | 0,         places, d, hd => digitsOf_lt _ d (dropTrailingZeros_subset d hd)
  | tries + 1, places, d, hd => by
    unfold searchGrids at hd
    split at hd
    · exact digitsOf_lt _ d (dropTrailingZeros_subset d hd)
    · exact searchGrids_digits tie v e tries (places + 1) d hd

theorem numberValue_digitsOf (n : Nat) : Json.numberValue (digitsOf n) = n := by
  rw [digitsOf, ← Json.digitValues_digitBytes, Json.numberValue_digitBytes]

theorem length_digitsOf (n : Nat) : (digitsOf n).length = (Nat.toDigits 10 n).length := List.length_map _

theorem lt_ten_pow_length (n : Nat) : n < 10 ^ (digitsOf n).length := by
  rw [length_digitsOf]
  exact (Nat.length_toDigits_le_iff (by decide) (List.length_pos_iff.2 Nat.toDigits_ne_nil)).1 (Nat.le_refl _)

theorem ten_pow_length_le {n : Nat} (h : 0 < n) : 10 ^ ((digitsOf n).length - 1) ≤ n := by
  rw [length_digitsOf]
  by_cases hone : (Nat.toDigits 10 n).length - 1 = 0
  · rw [hone]
    exact h
  · refine Nat.le_of_not_lt (fun hlt => ?_)
    have hle := (Nat.length_toDigits_le_iff (by decide) (Nat.pos_of_ne_zero hone)).2 hlt
    omega

theorem foldl_zeros (z s : Nat) : (List.replicate z 0).foldl (fun n d => n * 10 + d) s = s * 10 ^ z := by
  induction z generalizing s with
  | zero => exact (Nat.mul_one s).symm
  | succ z ih =>
    rw [List.replicate_succ, List.foldl_cons, ih, Nat.pow_succ]
    ring

/-- What trailing zeros stand for. -/
theorem exists_zeros (ds : List Nat) : ∃ z, ds = dropTrailingZeros ds ++ List.replicate z 0 := by
  refine ⟨(ds.reverse.takeWhile (· == 0)).length, ?_⟩
  have hzero : ds.reverse.takeWhile (· == 0) = List.replicate (ds.reverse.takeWhile (· == 0)).length 0 :=
    List.eq_replicate_iff.2 ⟨rfl, fun d hd => by simpa using List.all_eq_true.1 List.all_takeWhile d hd⟩
  have hrev := congrArg List.reverse (List.takeWhile_append_dropWhile (p := (· == 0)) (l := ds.reverse))
  rw [List.reverse_append, List.reverse_reverse] at hrev
  rw [dropTrailingZeros, ← List.reverse_replicate, ← hzero]
  exact hrev.symm

/-- The power of ten below a quotient. -/
theorem floorLog10_le {num den : Nat} (hnum : 0 < num) (hden : 0 < den) :
    (10 : ℚ) ^ floorLog10 num den ≤ num / den := by
  have hdq : (0 : ℚ) < den := by exact_mod_cast hden
  rw [le_div_iff₀ hdq]
  unfold floorLog10
  split
  · rename_i hle
    have hpos : 0 < num / den := Nat.div_pos hle hden
    have hlen : 0 < (digitsOf (num / den)).length := by
      rw [length_digitsOf]
      exact List.length_pos_iff.2 Nat.toDigits_ne_nil
    have hexp : ((digitsOf (num / den)).length : Int) - 1 = (((digitsOf (num / den)).length - 1 : Nat) : Int) := by omega
    have hnat := Nat.mul_le_mul_right den (ten_pow_length_le hpos)
    rw [hexp, zpow_natCast]
    exact_mod_cast Nat.le_trans hnat (Nat.div_mul_le_self num den)
  · have hlt := (Nat.div_lt_iff_lt_mul hnum).1 (lt_ten_pow_length ((den - 1) / num))
    have hnat : den ≤ 10 ^ (digitsOf ((den - 1) / num)).length * num := by omega
    rw [zpow_neg, zpow_natCast, inv_mul_le_iff₀ (by positivity)]
    exact_mod_cast hnat

/-! ## Grids -/

variable {tie : Tie} {v : Neighbourhood} {e : Int} {p n : Nat}

/-- The unit of a grid of decimals, as a numerator over the scale. -/
def Neighbourhood.unit (v : Neighbourhood) (e : Int) (p : Nat) : Nat := (onGrid.scaleTen (e + 1 - p)).1 * v.den

/-- The scale of a grid. -/
def gridScale (e : Int) (p : Nat) : Nat := (onGrid.scaleTen (e + 1 - p)).2

/-- The point of a grid that is not above the value. -/
def Neighbourhood.down (v : Neighbourhood) (e : Int) (p : Nat) : Nat := v.value * gridScale e p / v.unit e p

/-- A power of ten is a quotient of naturals. -/
theorem scaleTen_spec (k : Int) : 0 < (onGrid.scaleTen k).1 ∧ 0 < (onGrid.scaleTen k).2 ∧
    ((onGrid.scaleTen k).1 : ℚ) = 10 ^ k * (onGrid.scaleTen k).2 := by
  unfold onGrid.scaleTen
  split
  · have habs : k = -(k.natAbs : Int) := by omega
    refine ⟨Nat.one_pos, Nat.pow_pos (by decide), ?_⟩
    rw [cast_tenTo, habs, zpow_neg, zpow_natCast, Int.natAbs_neg, Int.natAbs_natCast, Nat.cast_one,
      inv_mul_cancel₀ (by positivity)]
  · have habs : k = (k.natAbs : Int) := by omega
    refine ⟨Nat.pow_pos (by decide), Nat.one_pos, ?_⟩
    rw [cast_tenTo, Nat.cast_one, mul_one]
    conv_rhs => rw [habs, zpow_natCast]

/-- **Scale and unit of a grid.** -/
theorem grid_spec (hden : 0 < v.den) (e : Int) (p : Nat) : 0 < gridScale e p ∧ 0 < v.unit e p ∧
    (v.unit e p : ℚ) = 10 ^ (e + 1 - p) * v.den * gridScale e p := by
  obtain ⟨hunit, hscale, hpower⟩ := scaleTen_spec (e + 1 - p)
  refine ⟨hscale, Nat.mul_pos hunit hden, ?_⟩
  rw [Neighbourhood.unit, Nat.cast_mul, hpower, mul_right_comm]
  rfl

/-- **A neighbourhood in which 20 digits suffice**: it extends from its value by more than one part in `10 ^ 19`. -/
structure Neighbourhood.Broad (v : Neighbourhood) : Prop where
  den   : 0 < v.den
  value : 0 < v.value
  high  : v.value < v.high
  low   : v.value + v.low * 10 ^ 19 ≤ v.value * 10 ^ 19

theorem Neighbourhood.le_high {x : Nat} (h : v.contains x = true) : x ≤ v.high := by
  unfold contains at h
  split at h
  · exact (of_decide_eq_true h).2
  · exact Nat.le_of_lt (of_decide_eq_true h).2

theorem Neighbourhood.contains_of_lt {x : Nat} (hl : v.low < x) (hh : x < v.high) : v.contains x = true := by
  unfold contains
  split
  · exact decide_eq_true ⟨Nat.le_of_lt hl, Nat.le_of_lt hh⟩
  · exact decide_eq_true ⟨hl, hh⟩

/-- **A grid is hit within the neighbourhood**, at one of the two points around the value. -/
theorem onGrid_hit (h : onGrid tie v e p = some n) :
    ({ v with low := v.low * gridScale e p, high := v.high * gridScale e p } : Neighbourhood).contains
      (n * v.unit e p) = true ∧ (n = v.down e p ∨ n = v.down e p + 1) := by
  unfold onGrid at h
  simp only at h
  split at h
  · rename_i hdown _
    cases h
    exact ⟨hdown, .inl rfl⟩
  · rename_i _ hup
    cases h
    exact ⟨hup, .inr rfl⟩
  · cases h
  · rename_i hdown hup
    have hboth : n = v.down e p ∨ n = v.down e p + 1 := by
      split at h
      · cases h
        exact .inl rfl
      · split at h
        · cases h
          exact .inr rfl
        · split at h
          · cases h
            exact .inr rfl
          · cases h
            split
            · exact .inl rfl
            · exact .inr rfl
    refine ⟨?_, hboth⟩
    rcases hboth with rfl | rfl
    · exact hdown
    · exact hup

/-- **What is hit on a grid** is not below the value by a whole unit, and not above the neighbourhood. -/
theorem onGrid_spec (h : onGrid tie v e p = some n) :
    v.down e p ≤ n ∧ n * v.unit e p ≤ v.high * gridScale e p := by
  obtain ⟨hit, hn⟩ := onGrid_hit h
  exact ⟨by omega, Neighbourhood.le_high hit⟩

theorem onGrid_of_low (hv : v.Broad) (h : v.low * gridScale e p < v.down e p * v.unit e p) :
    ∃ n, onGrid tie v e p = some n := by
  obtain ⟨hscale, -, -⟩ := grid_spec hv.den e p
  have hhigh : v.down e p * v.unit e p < v.high * gridScale e p :=
    Nat.lt_of_le_of_lt (Nat.div_mul_le_self _ _) (Nat.mul_lt_mul_of_pos_right hv.high hscale)
  have hhit : ({ v with low := v.low * gridScale e p, high := v.high * gridScale e p } : Neighbourhood).contains
      (v.down e p * v.unit e p) = true := Neighbourhood.contains_of_lt h hhigh
  unfold Neighbourhood.down Neighbourhood.unit gridScale at hhit
  unfold onGrid
  simp only
  rw [hhit]
  split
  · exact ⟨_, rfl⟩
  · exact ⟨_, rfl⟩
  · rename_i hfalse _
    cases hfalse
  · split
    · exact ⟨_, rfl⟩
    · split
      · exact ⟨_, rfl⟩
      · split <;> exact ⟨_, rfl⟩

/-- The value spans a power of ten of the units of a grid. -/
theorem unit_le (hv : v.Broad) (hp : 1 ≤ p) :
    10 ^ (p - 1) * v.unit (floorLog10 v.value v.den) p ≤ v.value * gridScale (floorLog10 v.value v.den) p := by
  have hlog := floorLog10_le hv.value hv.den
  have hdq : (0 : ℚ) < v.den := by exact_mod_cast hv.den
  obtain ⟨-, -, hunit⟩ := grid_spec hv.den (floorLog10 v.value v.den) p
  have hsplit : (10 : ℚ) ^ (p - 1) * 10 ^ (floorLog10 v.value v.den + 1 - p) = 10 ^ floorLog10 v.value v.den := by
    rw [← zpow_natCast (10 : ℚ) (p - 1), ← zpow_add₀ (by norm_num)]
    congr 1
    omega
  rw [le_div_iff₀ hdq] at hlog
  have hq : (10 : ℚ) ^ (p - 1) * v.unit (floorLog10 v.value v.den) p ≤
      v.value * gridScale (floorLog10 v.value v.den) p := by
    rw [hunit, ← mul_assoc, ← mul_assoc, hsplit]
    gcongr
  exact_mod_cast hq

/-- **Twenty digits are enough.** -/
theorem onGrid_twenty (hv : v.Broad) (tie : Tie) : ∃ n, onGrid tie v (floorLog10 v.value v.den) 20 = some n := by
  obtain ⟨-, hpos, -⟩ := grid_spec hv.den (floorLog10 v.value v.den) 20
  have hfine := unit_le hv (p := 20) (by decide)
  refine onGrid_of_low hv ?_
  have hlow := Nat.mul_le_mul_right (gridScale (floorLog10 v.value v.den) 20) hv.low
  have hnext : v.value * gridScale (floorLog10 v.value v.den) 20 <
      v.down (floorLog10 v.value v.den) 20 * v.unit (floorLog10 v.value v.den) 20 +
        v.unit (floorLog10 v.value v.den) 20 := Nat.lt_div_mul_add hpos
  generalize v.down (floorLog10 v.value v.den) 20 * v.unit (floorLog10 v.value v.den) 20 = d at *
  generalize v.unit (floorLog10 v.value v.den) 20 = u at *
  generalize gridScale (floorLog10 v.value v.den) 20 = s at *
  have h1 : (v.value + v.low * 10 ^ 19) * s = v.value * s + v.low * s * 10 ^ 19 := by ring
  have h2 : v.value * 10 ^ 19 * s = v.value * s * 10 ^ 19 := by ring
  omega

/-- A search that would hit in the end comes upon a grid that is hit, and no grid before that is. -/
theorem searchGrids_spec (hlast : ∃ n, onGrid tie v e 20 = some n) : ∀ tries places : Nat, 1 ≤ places →
    places ≤ 20 → 20 < places + tries → (places = 1 ∨ onGrid tie v e (places - 1) = none) →
      ∃ p n, 1 ≤ p ∧ (p = 1 ∨ onGrid tie v e (p - 1) = none) ∧ onGrid tie v e p = some n ∧
        searchGrids tie v e tries places = .ofGrid n p e
  | 0,         places, _,  h20, hlt, _      => absurd hlt (by omega)
  | tries + 1, places, h1, h20, hlt, hfirst => by
    unfold searchGrids
    cases hg : onGrid tie v e places with
    | some n => exact ⟨places, n, h1, hfirst, hg, rfl⟩
    | none =>
      have hne : places ≠ 20 := by
        rintro rfl
        obtain ⟨n, hn⟩ := hlast
        rw [hg] at hn
        cases hn
      exact searchGrids_spec hlast tries (places + 1) (by omega) (by omega) (by omega) (.inr hg)

/-! ## The shortest decimal -/

/-- The number that a decimal is. -/
def Decimal.value (d : Decimal) : ℚ := Json.numberValue d.digits * 10 ^ (d.exponent + 1 - d.digits.length)

/-- **A decimal not above a bound**: it has digits, and neither its value nor the power of ten of its first digit is. -/
structure Decimal.AtMost (d : Decimal) (bound : ℚ) : Prop where
  digits   : d.digits ≠ []
  value    : d.value ≤ bound
  exponent : (10 : ℚ) ^ d.exponent ≤ bound

theorem Decimal.AtMost.trans {d : Decimal} {x y : ℚ} (h : d.AtMost x) (hxy : x ≤ y) : d.AtMost y :=
  ⟨h.digits, h.value.trans hxy, h.exponent.trans hxy⟩

/-- The power of ten that the last digit of a decimal counts. -/
def Decimal.place (d : Decimal) : Int := d.exponent + 1 - d.digits.length

/-- **A point of a grid is the decimal that it is written as**, whose last digit is not finer than the grid. -/
theorem ofGrid_spec (hp : 1 ≤ p) (hn : 10 ^ (p - 1) ≤ n) :
    (Decimal.ofGrid n p e).digits ≠ [] ∧ (Decimal.ofGrid n p e).value = n * 10 ^ (e + 1 - p) ∧
      e + 1 - p ≤ (Decimal.ofGrid n p e).place ∧ (10 : ℚ) ^ (Decimal.ofGrid n p e).exponent ≤ n * 10 ^ (e + 1 - p) := by
  have hpos : 0 < n := Nat.lt_of_lt_of_le (Nat.pow_pos (by decide)) hn
  obtain ⟨z, hz⟩ := exists_zeros (digitsOf n)
  have hvalue : Json.numberValue (dropTrailingZeros (digitsOf n)) * 10 ^ z = n := by
    have h := congrArg Json.numberValue hz
    rw [numberValue_digitsOf, Json.numberValue, List.foldl_append, foldl_zeros] at h
    exact h.symm
  have hlen : (digitsOf n).length = (dropTrailingZeros (digitsOf n)).length + z := by
    have h := congrArg List.length hz
    rwa [List.length_append, List.length_replicate] at h
  have hplaces : p ≤ (digitsOf n).length := by
    have hlt := (Nat.pow_lt_pow_iff_right (by decide)).1 (Nat.lt_of_le_of_lt hn (lt_ten_pow_length n))
    omega
  have hlow : 10 ^ ((digitsOf n).length - 1) ≤ n := ten_pow_length_le hpos
  unfold Decimal.ofGrid Decimal.place
  simp only
  generalize (digitsOf n).length = k at *
  generalize dropTrailingZeros (digitsOf n) = ds at *
  refine ⟨?_, ?_, ?_, ?_⟩
  · rintro rfl
    have hzero : Json.numberValue [] = 0 := rfl
    rw [hzero, Nat.zero_mul] at hvalue
    omega
  · have hexp : e + ((k - p : Nat) : Int) + 1 - ds.length = (z : Int) + (e + 1 - p) := by omega
    have hcast : (Json.numberValue ds : ℚ) * 10 ^ z = n := by exact_mod_cast hvalue
    unfold Decimal.value
    rw [hexp, zpow_add₀ (by norm_num), zpow_natCast, ← mul_assoc, hcast]
  · omega
  · have hexp : e + ((k - p : Nat) : Int) = ((k - 1 : Nat) : Int) + (e + 1 - p) := by omega
    show (10 : ℚ) ^ (e + ((k - p : Nat) : Int)) ≤ _
    rw [hexp, zpow_add₀ (by norm_num), zpow_natCast]
    gcongr
    exact_mod_cast hlow

theorem ofGrid_atMost (hp : 1 ≤ p) (hn : 10 ^ (p - 1) ≤ n) :
    (Decimal.ofGrid n p e).AtMost (n * 10 ^ (e + 1 - p)) := by
  obtain ⟨hne, hvalue, -, hexponent⟩ := ofGrid_spec (e := e) hp hn
  exact ⟨hne, hvalue.le, hexponent⟩

/-- **The decimal that is found is not above the neighbourhood** it is looked for in. -/
theorem searchGrids_atMost (hv : v.Broad) (tie : Tie) :
    (searchGrids tie v (floorLog10 v.value v.den) 20 1).AtMost (v.high / v.den) := by
  obtain ⟨p, n, hp, -, hgrid, hd⟩ :=
    searchGrids_spec (onGrid_twenty hv tie) 20 1 (Nat.le_refl 1) (by decide) (by decide) (.inl rfl)
  obtain ⟨hdown, hhigh⟩ := onGrid_spec hgrid
  obtain ⟨hscale, hpos, hunit⟩ := grid_spec hv.den (floorLog10 v.value v.den) p
  have hplaces : 10 ^ (p - 1) ≤ n :=
    Nat.le_trans ((Nat.le_div_iff_mul_le hpos).2 (unit_le hv hp)) hdown
  have hdq : (0 : ℚ) < v.den := by exact_mod_cast hv.den
  have hsq : (0 : ℚ) < gridScale (floorLog10 v.value v.den) p := by exact_mod_cast hscale
  have hle : (n : ℚ) * 10 ^ (floorLog10 v.value v.den + 1 - p) ≤ v.high / v.den := by
    have hq : (n : ℚ) * v.unit (floorLog10 v.value v.den) p ≤ v.high * gridScale (floorLog10 v.value v.den) p := by
      exact_mod_cast hhigh
    rw [hunit, ← mul_assoc, ← mul_assoc] at hq
    rw [le_div_iff₀ hdq]
    exact le_of_mul_le_mul_right hq hsq
  rw [hd]
  exact (ofGrid_atMost hp hplaces).trans hle

/-! ## Neighbourhoods of floats -/

section Float
variable {f : Format} {mag : Nat}

theorem broad_neighbourhood (hpos : 0 < (f.decode mag).1) (hlt : (f.decode mag).1 < 9007199254740992) :
    (f.neighbourhood mag).Broad := by
  obtain ⟨hden, hscale⟩ := scaleDown_spec 1 Nat.one_pos (2 - (f.decode mag).2)
  unfold Format.neighbourhood
  simp only
  generalize (f.decode mag).1 = m at *
  generalize (f.decode mag).2 = q at *
  have hs : 0 < (scaleDown 1 1 (2 - q)).1 := by
    refine Nat.pos_of_ne_zero (fun h0 => ?_)
    rw [h0, Nat.cast_zero, zero_div, Nat.cast_one, div_one, one_mul] at hscale
    exact absurd hscale.symm (by positivity)
  generalize (scaleDown 1 1 (2 - q)).1 = s at *
  generalize hd : (if m = f.binade ∧ f.binade < mag then 1 else 2) = d
  have hd2 : d = 1 ∨ d = 2 := by
    rw [← hd]
    split
    · exact .inl rfl
    · exact .inr rfl
  refine ⟨hden, by positivity, Nat.mul_lt_mul_of_pos_right (by omega) hs, ?_⟩
  show 4 * m * s + (4 * m - d) * s * 10 ^ 19 ≤ 4 * m * s * 10 ^ 19
  have hkey : 4 * m + (4 * m - d) * 10 ^ 19 ≤ 4 * m * 10 ^ 19 := by rcases hd2 with rfl | rfl <;> omega
  have h := Nat.mul_le_mul_right s hkey
  have h1 : (4 * m + (4 * m - d) * 10 ^ 19) * s = 4 * m * s + (4 * m - d) * s * 10 ^ 19 := by ring
  have h2 : 4 * m * 10 ^ 19 * s = 4 * m * s * 10 ^ 19 := by ring
  omega

theorem high_neighbourhood (f : Format) (mag : Nat) :
    ((f.neighbourhood mag).high : ℚ) / (f.neighbourhood mag).den =
      ((f.decode mag).1 + 1 / 2) * 2 ^ (f.decode mag).2 := by
  obtain ⟨-, hscale⟩ := scaleDown_spec 1 Nat.one_pos (2 - (f.decode mag).2)
  have hexp : -(2 - (f.decode mag).2) = (f.decode mag).2 + (-2 : Int) := by ring
  rw [Nat.cast_one, div_one, one_mul, hexp, zpow_add₀ (by norm_num)] at hscale
  unfold Format.neighbourhood
  simp only
  rw [Nat.cast_mul, mul_div_assoc, hscale]
  push_cast
  ring

/-- **The shortest decimal of a float** is at most half a unit of the last bit above it. -/
theorem shortest_atMost (hpos : 0 < (f.decode mag).1) (hlt : (f.decode mag).1 < 9007199254740992) (tie : Tie) :
    (f.shortest tie mag).AtMost (((f.decode mag).1 + 1 / 2) * 2 ^ (f.decode mag).2) := by
  rw [← high_neighbourhood]
  exact searchGrids_atMost (broad_neighbourhood hpos hlt) tie

end Float

end Ieee
end RecordHold
