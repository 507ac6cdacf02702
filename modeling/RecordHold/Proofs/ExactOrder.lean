import RecordHold.Proofs.Families
import RecordHold.Proofs.FloatValues
import RecordHold.Sample.UserValue
/-!
# Proofs.ExactOrder — numbers compare as what they stand for

An integer meets a float through the float nearest to it, and where the two meet the integer part of the float decides.
That is the order of the numbers themselves (`Number.compareIntFloat_exact`): rounding crosses no float, so an integer
whose float is below another one is below it, too; and the float of an integer is whole, so its integer part is all of
it.  Widening loses nothing, so numbers of all types compare exactly (`Scalar.compare_extended?`).  The NaNs are at the
two ends.

As the order of keys it is a total preorder of each family, and exact on numbers (`Value.compare_laws`).
-/
namespace RecordHold

open Ieee

/-! ## Integers and floats -/

/-- An integer among the extended numbers. -/
def Extended.ofInt (i : Int) : Extended := ((i : ℚ) : WithTop ℚ)

theorem Extended.ofInt_lt_ofInt {i j : Int} : Extended.ofInt i < Extended.ofInt j ↔ i < j := by
  unfold Extended.ofInt
  rw [WithBot.coe_lt_coe, WithTop.coe_lt_coe, Int.cast_lt]

theorem Extended.compare_ofInt (i j : Int) : compare (Extended.ofInt i) (Extended.ofInt j) = compare i j := by
  rcases Int.lt_trichotomy i j with h | rfl | h
  · rw [compare_lt_iff_lt.2 (ofInt_lt_ofInt.2 h), Int.compare_eq_lt.2 h]
  · rw [Std.ReflOrd.compare_self, Int.compare_eq_eq.2 rfl]
  · rw [compare_gt_iff_gt.2 (ofInt_lt_ofInt.2 h), Int.compare_eq_gt.2 h]

namespace Number
variable {i : Int} {bits : Nat} {v : Extended}

theorem cast_natAbs_of_nonneg (h : 0 ≤ i) : ((i.natAbs : Nat) : ℚ) / (1 : Nat) = i := by
  rw [Nat.cast_natAbs, abs_of_nonneg h, Nat.cast_one, div_one]

theorem cast_natAbs_of_neg (h : i < 0) : ((i.natAbs : Nat) : ℚ) / (1 : Nat) = -i := by
  rw [Nat.cast_natAbs, abs_of_neg h, Nat.cast_one, div_one, Int.cast_neg]

theorem rank_ofInt_of_nonneg (h : 0 ≤ i) : binary64.rank (binary64.ofInt i) = binary64.nearest i.natAbs 1 := by
  rw [Format.ofInt, rank_withSign (nearest_lt _), if_neg (by simpa using h)]

theorem rank_ofInt_of_neg (h : i < 0) :
    binary64.rank (binary64.ofInt i) = -1 - (binary64.nearest i.natAbs 1 : Int) := by
  rw [Format.ofInt, rank_withSign (nearest_lt _), if_pos (by simpa using h)]

/-- No integer rounds beyond the infinities. -/
theorem rank_ofInt_bounds (i : Int) : -1 - (binary64.infinity : Int) ≤ binary64.rank (binary64.ofInt i) ∧
    binary64.rank (binary64.ofInt i) ≤ binary64.infinity := by
  have hnear := IndexKey.nearest_le i.natAbs 1
  by_cases hi : i < 0
  · rw [rank_ofInt_of_neg hi]
    omega
  · rw [rank_ofInt_of_nonneg (Int.not_lt.1 hi)]
    omega

/-- A float that is not above an integer is not after the float of the integer. -/
theorem rank_le_ofInt (h : binary64.extended? bits = some v) (hle : v ≤ Extended.ofInt i) :
    binary64.rank bits ≤ binary64.rank (binary64.ofInt i) := by
  have hbounds := rank_ofInt_bounds i
  unfold Format.extended? at h
  rw [Format.rank.eq_def binary64 bits]
  generalize binary64.magnitude bits = g at *
  rcases signed?_eq_some h with ⟨hg, rfl⟩ | ⟨rfl, rfl⟩
  · have hg0 := absolute_nonneg binary64 g
    unfold Extended.ofInt Format.signed at hle
    rw [WithBot.coe_le_coe, WithTop.coe_le_coe] at hle
    cases hs : binary64.isNegative bits <;> simp only [hs, Bool.false_eq_true, if_true, if_false] at hle ⊢
    · -- the integer is not below zero, and the float not above it
      have hi : 0 ≤ i := by exact_mod_cast hg0.trans hle
      have hnear := le_nearest Nat.one_pos (Nat.le_of_lt hg) (hle.trans_eq (cast_natAbs_of_nonneg hi).symm)
      rw [rank_ofInt_of_nonneg hi]
      omega
    · by_cases hi : i < 0
      · have habs : ((i.natAbs : Nat) : ℚ) / (1 : Nat) ≤ binary64.absolute g := by
          rw [cast_natAbs_of_neg hi]
          linarith
        have hnear := nearest_le_of_le Nat.one_pos habs
        rw [rank_ofInt_of_neg hi]
        omega
      · rw [rank_ofInt_of_nonneg (Int.not_lt.1 hi)]
        omega
  · cases hs : binary64.isNegative bits <;> simp only [hs, Bool.false_eq_true, if_true, if_false] at hle ⊢
    · exact absurd hle (not_le.2 (WithBot.coe_lt_coe.2 (WithTop.coe_lt_top _)))
    · exact hbounds.1

/-- A float that is not below an integer is not before the float of the integer, unless they are zero and the float is
negative. -/
theorem ofInt_le_rank (h : binary64.extended? bits = some v) (hle : Extended.ofInt i ≤ v)
    (hz : Extended.ofInt i < v ∨ binary64.isNegativeZero bits = false) :
    binary64.rank (binary64.ofInt i) ≤ binary64.rank bits := by
  have hbounds := rank_ofInt_bounds i
  unfold Format.extended? at h
  unfold Format.isNegativeZero at hz
  rw [Format.rank.eq_def binary64 bits]
  generalize binary64.magnitude bits = g at *
  rcases signed?_eq_some h with ⟨hg, rfl⟩ | ⟨rfl, rfl⟩
  · have hg0 := absolute_nonneg binary64 g
    unfold Extended.ofInt Format.signed at hle hz
    rw [WithBot.coe_le_coe, WithTop.coe_le_coe] at hle
    rw [WithBot.coe_lt_coe, WithTop.coe_lt_coe] at hz
    cases hs : binary64.isNegative bits <;> simp only [hs, Bool.false_eq_true, if_true, if_false] at hle hz ⊢
    · by_cases hi : i < 0
      · rw [rank_ofInt_of_neg hi]
        omega
      · have hi' := Int.not_lt.1 hi
        have hnear := nearest_le_of_le Nat.one_pos ((cast_natAbs_of_nonneg hi').trans_le hle)
        rw [rank_ofInt_of_nonneg hi']
        omega
    · -- the integer is not above a negative float, and not at its zero
      have hiq : (i : ℚ) < 0 := by
        rcases hz with hlt | hz
        · linarith
        · have hpos : 0 < binary64.absolute g := absolute_pos (by simpa [Nat.pos_iff_ne_zero] using hz)
          linarith
      have hi : i < 0 := by exact_mod_cast hiq
      have habs : binary64.absolute g ≤ ((i.natAbs : Nat) : ℚ) / (1 : Nat) := by
        rw [cast_natAbs_of_neg hi]
        linarith
      have hnear := le_nearest Nat.one_pos (Nat.le_of_lt hg) habs
      rw [rank_ofInt_of_neg hi]
      omega
  · cases hs : binary64.isNegative bits <;> simp only [hs, Bool.false_eq_true, if_true, if_false] at hle ⊢
    · exact hbounds.2
    · exact absurd hle (not_le.2 (WithBot.bot_lt_coe _))

/-- An integer of 64 bits is rounded to a whole number, which is all that its float is. -/
theorem ofInt_whole (hi : i.natAbs ≤ 18446744073709551616) :
    ∃ w, binary64.extended? (binary64.ofInt i) = some (Extended.ofInt w) ∧
      binary64.truncate leastWhole greatestWhole (binary64.ofInt i) = w ∧
      binary64.isNegativeZero (binary64.ofInt i) = false := by
  obtain ⟨hfin, w, hw, hvalue⟩ := nearest_word hi
  have hlt := nearest_lt i.natAbs
  have hmag : binary64.magnitude (binary64.ofInt i) = binary64.nearest i.natAbs 1 := magnitude_withSign _ hlt
  have hneg : binary64.isNegative (binary64.ofInt i) = decide (i < 0) := isNegative_withSign _ hlt
  have hc : Bytes.capacity 16 = 340282366920938463463374607431768211456 := by decide
  refine ⟨if i < 0 then -(w : Int) else w, ?_, ?_, ?_⟩
  · unfold Format.extended? Format.signed? Format.signed Extended.ofInt
    rw [hmag, hneg, if_pos hfin, hvalue]
    by_cases h : i < 0 <;> simp [h]
  · rw [truncate_whole (by rw [hmag]; exact hfin) (by rw [hmag]; exact hvalue), hneg]
    · by_cases h : i < 0 <;> simp [h]
    · unfold leastWhole
      rw [hc]
      omega
    · unfold greatestWhole
      rw [hc]
      omega
  · -- a negative integer is not rounded to zero
    unfold Format.isNegativeZero
    rw [hmag, hneg]
    by_cases h : i < 0
    · have hone : 0 < binary64.nearest 1 1 := by decide
      have hmono : binary64.nearest 1 1 ≤ binary64.nearest i.natAbs 1 := nearest_mono (by omega)
      simp
      omega
    · simp [h]

/-- **An integer and a float compare as what they stand for.** -/
theorem compareIntFloat_exact (hi : i.natAbs ≤ 18446744073709551616) (hb : bits < 2 * binary64.signBit)
    (h : binary64.extended? bits = some v) :
    compareIntFloat i bits = (compare (Extended.ofInt i) v).then (compare (binary64.isNegativeZero bits) false) := by
  obtain ⟨w, hw, hwhole, hzero⟩ := ofInt_whole hi
  show (compare (binary64.rank (binary64.ofInt i)) (binary64.rank bits)).then
    (compare i (binary64.truncate leastWhole greatestWhole bits)) = _
  rcases Int.lt_trichotomy (binary64.rank (binary64.ofInt i)) (binary64.rank bits) with hlt | heq | hgt
  · have hlow : Extended.ofInt i < v := not_le.1 (fun hle => absurd (rank_le_ofInt h hle) (not_le.2 hlt))
    rw [Int.compare_eq_lt.2 hlt, compare_lt_iff_lt.2 hlow]
    rfl
  · obtain rfl := rank_injective (ofInt_lt i) hb heq
    rw [hw] at h
    obtain rfl := Option.some.inj h
    rw [Int.compare_eq_eq.2 rfl, hwhole, hzero, Extended.compare_ofInt, Std.ReflOrd.compare_self, Ordering.then_eq]
    rfl
  · rw [Int.compare_eq_gt.2 hgt]
    rcases lt_trichotomy (Extended.ofInt i) v with hlt | heq | hhigh
    · exact absurd (ofInt_le_rank h hlt.le (.inl hlt)) (not_le.2 hgt)
    · cases hz : binary64.isNegativeZero bits
      · exact absurd (ofInt_le_rank h heq.le (.inr hz)) (not_le.2 hgt)
      · rw [compare_eq_iff_eq.2 heq]
        rfl
    · rw [compare_gt_iff_gt.2 hhigh]
      rfl

/-! ## Numbers -/

/-- The number itself, if it is no NaN. -/
def extended? : Number → Option Extended
  | int i      => some (Extended.ofInt i)
  | float bits => binary64.extended? bits

def isNegativeZero : Number → Bool
  | int _      => false
  | float bits => binary64.isNegativeZero bits

/-- Is it a NaN of the sign? -/
def isNaN (negative : Bool) : Number → Bool
  | int _      => false
  | float bits => binary64.isNaNOf negative bits

theorem natAbs_le_of_number? {s : Scalar} (h : s.number? = some (.int i)) : i.natAbs ≤ 18446744073709551616 := by
  cases s with
  | int t j =>
    obtain rfl : j.val = i := Number.int.inj (Option.some.inj h)
    obtain ⟨j, hj⟩ := j
    unfold IntType.holds IntType.least IntType.greatest IntType.size at hj
    cases t <;> simp [IntType.signed, IntType.width, Bytes.capacity] at hj ⊢ <;> omega
  | _ => cases h

variable {a b : Scalar} {x y : Number} {u w : Extended}

/-- **Numbers compare as what they stand for**, the negative zero before every other zero. -/
theorem compare_exact (ha : a.number? = some x) (hb : b.number? = some y) (hu : x.extended? = some u)
    (hw : y.extended? = some w) :
    Number.compare x y = (compare u w).then (compare y.isNegativeZero x.isNegativeZero) := by
  cases x with
  | int i =>
    obtain rfl := Option.some.inj hu
    cases y with
    | int j =>
      obtain rfl := Option.some.inj hw
      show compare i j = (compare (Extended.ofInt i) (Extended.ofInt j)).then .eq
      rw [Extended.compare_ofInt, Ordering.then_eq]
    | float bits => exact compareIntFloat_exact (natAbs_le_of_number? ha) (IndexKey.bounded_number? hb) hw
  | float bits =>
    cases y with
    | int j =>
      obtain rfl := Option.some.inj hw
      show (compareIntFloat j bits).swap = _
      rw [compareIntFloat_exact (natAbs_le_of_number? hb) (IndexKey.bounded_number? ha) hu, Ordering.swap_then,
        ← Std.OrientedCmp.eq_swap, ← Std.OrientedCmp.eq_swap]
      rfl
    | float bits' => exact compareTotal_exact hu hw

/-- An integer never rounds to a NaN. -/
theorem isNaNOf_image (x : Number) (negative : Bool) : binary64.isNaNOf negative x.image = x.isNaN negative := by
  cases x with
  | int i =>
    obtain ⟨hlow, hhigh⟩ := rank_ofInt_bounds i
    show binary64.isNaNOf negative (binary64.ofInt i) = false
    rw [← Bool.not_eq_true]
    cases negative with
    | false =>
      rw [← lt_rank_iff]
      omega
    | true =>
      rw [← rank_lt_iff]
      omega
  | float bits => rfl

theorem compare_lt_of_rank (ha : a.number? = some x) (hb : b.number? = some y)
    (h : binary64.rank x.image < binary64.rank y.image) : Number.compare x y = .lt := by
  rw [IndexKey.number_compare_eq (IndexKey.bounded_number? ha) (IndexKey.bounded_number? hb), Format.compareTotal,
    Int.compare_eq_lt.2 h]
  rfl

/-- **Negative NaNs are below every other number.** -/
theorem compare_negativeNaN (ha : a.number? = some x) (hb : b.number? = some y) (hx : x.isNaN true = true)
    (hy : y.isNaN true = false) : Number.compare x y = .lt := by
  rw [← isNaNOf_image, ← rank_lt_iff] at hx
  rw [← isNaNOf_image, ← Bool.not_eq_true, ← rank_lt_iff] at hy
  exact compare_lt_of_rank ha hb (by omega)

/-- **Positive NaNs are above every other number.** -/
theorem compare_positiveNaN (ha : a.number? = some x) (hb : b.number? = some y) (hx : x.isNaN false = false)
    (hy : y.isNaN false = true) : Number.compare x y = .lt := by
  rw [← isNaNOf_image, ← Bool.not_eq_true, ← lt_rank_iff] at hx
  rw [← isNaNOf_image, ← lt_rank_iff] at hy
  exact compare_lt_of_rank ha hb (by omega)

end Number

/-! ## Scalars -/

namespace Scalar

/-- **The number that a scalar is**, in its own type: an integer, or what the pattern of a float stands for. -/
def extended? : Scalar → Option Extended
  | int _ i  => some (Extended.ofInt i.val)
  | f32 bits => binary32.extended? bits.toNat
  | f64 bits => binary64.extended? bits.toNat
  | _        => none

def isNegativeZero : Scalar → Bool
  | f32 bits => binary32.isNegativeZero bits.toNat
  | f64 bits => binary64.isNegativeZero bits.toNat
  | _        => false

/-- Is it a NaN of the sign? -/
def isNaN (negative : Bool) : Scalar → Bool
  | f32 bits => binary32.isNaNOf negative bits.toNat
  | f64 bits => binary64.isNaNOf negative bits.toNat
  | _        => false

variable {s a b : Scalar} {x : Number} {u v : Extended}

/-- **Widening loses nothing.** -/
theorem widened (h : s.number? = some x) : x.extended? = s.extended? ∧ x.isNegativeZero = s.isNegativeZero ∧
    ∀ negative, x.isNaN negative = s.isNaN negative := by
  cases s <;> cases h
  case f32 bits =>
    exact ⟨extended?_convert _, isNegativeZero_convert _, fun negative => isNaNOf_convert negative _⟩
  all_goals exact ⟨rfl, rfl, fun _ => rfl⟩

theorem number?_isSome_iff : (∃ x, s.number? = some x) ↔ s.family = .number := by
  cases s <;> simp [number?, family, kind, Kind.family]

theorem number?_of_extended? (h : s.extended? = some u) : ∃ x, s.number? = some x := by
  cases s <;> first | exact ⟨_, rfl⟩ | cases h

/-- Every number but a NaN stands for one. -/
theorem extended?_eq_none (h : s.family = .number) :
    s.extended? = none ↔ s.isNaN true = true ∨ s.isNaN false = true := by
  cases s with
  | int t i => simp [extended?, isNaN]
  | f32 bits => exact extended?_eq_none_iff
  | f64 bits => exact extended?_eq_none_iff
  | _ => cases h

theorem compare_of_number? {y : Number} (ha : a.number? = some x) (hb : b.number? = some y) :
    Scalar.compare a b = .ok (Number.compare x y) := by
  unfold Scalar.compare
  rw [ha, hb]

/-- **Numbers of all types compare as what they stand for**, the negative zero before every other zero. -/
theorem compare_extended? (ha : a.extended? = some u) (hb : b.extended? = some v) :
    Scalar.compare a b = .ok ((compare u v).then (compare b.isNegativeZero a.isNegativeZero)) := by
  obtain ⟨x, hx⟩ := number?_of_extended? ha
  obtain ⟨y, hy⟩ := number?_of_extended? hb
  obtain ⟨hxe, hxz, -⟩ := widened hx
  obtain ⟨hye, hyz, -⟩ := widened hy
  rw [compare_of_number? hx hy, Number.compare_exact hx hy (hxe.trans ha) (hye.trans hb), hxz, hyz]

theorem compare_negativeNaN (ha : a.isNaN true = true) (hb : b.family = .number) (hn : b.isNaN true = false) :
    Scalar.compare a b = .ok .lt := by
  have hfam : a.family = .number := by cases a <;> first | rfl | cases ha
  obtain ⟨x, hx⟩ := number?_isSome_iff.2 hfam
  obtain ⟨y, hy⟩ := number?_isSome_iff.2 hb
  rw [compare_of_number? hx hy,
    Number.compare_negativeNaN hx hy (((widened hx).2.2 true).trans ha) (((widened hy).2.2 true).trans hn)]

theorem compare_positiveNaN (hb : b.isNaN false = true) (ha : a.family = .number) (hn : a.isNaN false = false) :
    Scalar.compare a b = .ok .lt := by
  have hfam : b.family = .number := by cases b <;> first | rfl | cases hb
  obtain ⟨x, hx⟩ := number?_isSome_iff.2 ha
  obtain ⟨y, hy⟩ := number?_isSome_iff.2 hfam
  rw [compare_of_number? hx hy,
    Number.compare_positiveNaN hx hy (((widened hx).2.2 false).trans hn) (((widened hy).2.2 false).trans hb)]

/-! ## A total preorder -/

theorem compare_eq_ok_iff {o : Ordering} : Scalar.compare a b = .ok o ↔
    a.family = b.family ∧ compare (IndexKey.ofScalar a) (IndexKey.ofScalar b) = o := by
  rw [compare_eq]
  by_cases h : a.family = b.family
  · simp [h]
  · simp [h]

theorem compare_swap {o : Ordering} : Scalar.compare a b = .ok o ↔ Scalar.compare b a = .ok o.swap := by
  have hswap : compare (IndexKey.ofScalar b) (IndexKey.ofScalar a) =
      (compare (IndexKey.ofScalar a) (IndexKey.ofScalar b)).swap := Std.OrientedCmp.eq_swap
  rw [compare_eq_ok_iff, compare_eq_ok_iff, hswap, Ordering.swap_inj, eq_comm (a := a.family)]

theorem compare_trans {c : Scalar} {o o' : Ordering} (hab : Scalar.compare a b = .ok o)
    (hbc : Scalar.compare b c = .ok o') (ho : o ≠ .gt) (ho' : o' ≠ .gt) : Scalar.compare a c = .ok (o.then o') := by
  rw [compare_eq_ok_iff] at hab hbc ⊢
  obtain ⟨hfam, rfl⟩ := hab
  obtain ⟨hfam', rfl⟩ := hbc
  refine ⟨hfam.trans hfam', ?_⟩
  generalize IndexKey.ofScalar a = k, IndexKey.ofScalar b = l, IndexKey.ofScalar c = m at *
  cases hkl : compare k l with
  | eq => rw [Std.LawfulEqCmp.eq_of_compare hkl]; rfl
  | gt => exact absurd hkl ho
  | lt =>
    cases hlm : compare l m with
    | eq => rw [← Std.LawfulEqCmp.eq_of_compare hlm, hkl]; rfl
    | gt => exact absurd hlm ho'
    | lt => exact Std.TransCmp.lt_trans hkl hlm

end Scalar

namespace Value
variable {γ : Type} [Custom γ]

theorem compare_plain (a b : Scalar) : Value.compare (.plain a : Value γ) (.plain b) = Scalar.compare a b := rfl

/-- Two of the caller's own values compare either way, with reverse outcomes.  Nothing is asked of other pairs. -/
def Reversible : Value γ → Value γ → Prop
  | v@(custom c), w@(custom d) => ∀ o, Custom.compare c w = .ok o ↔ Custom.compare d v = .ok o.swap
  | _,            _            => True

theorem map_swap_eq_ok {r : Except QueryError Ordering} {o : Ordering} :
    r.map Ordering.swap = .ok o ↔ r = .ok o.swap := by
  cases r with
  | error e => exact ⟨fun h => (by cases h), fun h => (by cases h)⟩
  | ok o' =>
    show Except.ok o'.swap = .ok o ↔ _
    rw [Except.ok.injEq, Except.ok.injEq, ← Ordering.swap_inj, Ordering.swap_swap]

/-- **A comparison succeeds exactly if the reverse one does**, with the reverse outcome. -/
theorem compare_reverse {v w : Value γ} (h : v.Reversible w) {o : Ordering} :
    Value.compare v w = .ok o ↔ Value.compare w v = .ok o.swap := by
  cases v with
  | custom c =>
    cases w with
    | custom d => exact h o
    | plain b =>
      show Custom.compare c _ = .ok o ↔ (Custom.compare c _).map Ordering.swap = .ok o.swap
      rw [map_swap_eq_ok, Ordering.swap_swap]
  | plain a =>
    cases w with
    | custom d => exact map_swap_eq_ok
    | plain b => exact Scalar.compare_swap

/-- Versions and thresholds compare with one another either way. -/
theorem reversible_userValue : ∀ v w : Value UserValue, v.Reversible w
  | .custom (.version a b), .custom (.version c d) => fun o => by
    show Except.ok ((compare a c).then (compare b d)) = .ok o ↔
      Except.ok ((compare c a).then (compare d b)) = .ok o.swap
    rw [Except.ok.injEq, Except.ok.injEq, Std.OrientedOrd.eq_swap (a := c), Std.OrientedOrd.eq_swap (a := d),
      ← Ordering.swap_then, Ordering.swap_inj]
  | .custom (.threshold n), .custom (.threshold m) => fun o => by
    show Except.ok (compare n m) = .ok o ↔ Except.ok (compare m n) = .ok o.swap
    rw [Except.ok.injEq, Except.ok.injEq, Std.OrientedOrd.eq_swap (a := m), Ordering.swap_inj]
  | .custom (.version _ _), .custom (.threshold _) => fun o => ⟨fun h => (by cases h), fun h => (by cases h)⟩
  | .custom (.threshold _), .custom (.version _ _) => fun o => ⟨fun h => (by cases h), fun h => (by cases h)⟩
  | .plain _,               _                      => trivial
  | .custom _,              .plain _               => trivial

/-- **Comparison is an exact total preorder of each family.** -/
structure ExactOrder (γ : Type) [Custom γ] : Prop where
  /-- Scalars compare exactly with those of their family. -/
  comparable (a b : Scalar) : (∃ o, Value.compare (.plain a : Value γ) (.plain b) = .ok o) ↔ a.family = b.family
  refl (a : Scalar) : Value.compare (.plain a : Value γ) (.plain a) = .ok .eq
  reverse (a b : Scalar) (o : Ordering) : Value.compare (.plain a : Value γ) (.plain b) = .ok o ↔
    Value.compare (.plain b : Value γ) (.plain a) = .ok o.swap
  /-- Two steps up make one, strictly so if either is strict. -/
  trans {a b c : Scalar} {o o' : Ordering} : Value.compare (.plain a : Value γ) (.plain b) = .ok o →
    Value.compare (.plain b : Value γ) (.plain c) = .ok o' → o ≠ .gt → o' ≠ .gt →
    Value.compare (.plain a : Value γ) (.plain c) = .ok (o.then o')
  /-- Numbers compare as what they stand for, and only the negative zero is set apart, below the other zeros. -/
  numbers {a b : Scalar} {u v : Extended} : a.extended? = some u → b.extended? = some v →
    Value.compare (.plain a : Value γ) (.plain b) =
      .ok ((Ord.compare u v).then (Ord.compare b.isNegativeZero a.isNegativeZero))
  /-- All numbers but the NaNs stand for one. -/
  numberOrNaN {a : Scalar} : a.family = .number → (a.extended? = none ↔ a.isNaN true = true ∨ a.isNaN false = true)
  negativeNaN {a b : Scalar} : a.isNaN true = true → b.family = .number → b.isNaN true = false →
    Value.compare (.plain a : Value γ) (.plain b) = .ok .lt
  positiveNaN {a b : Scalar} : a.family = .number → a.isNaN false = false → b.isNaN false = true →
    Value.compare (.plain a : Value γ) (.plain b) = .ok .lt
  /-- The caller's own values compare with all others either way, if they do so among themselves. -/
  custom {v w : Value γ} (o : Ordering) : v.Reversible w →
    (Value.compare v w = .ok o ↔ Value.compare w v = .ok o.swap)

/-- **Comparison is exact, total, and a preorder.** -/
theorem compare_laws (γ : Type) [Custom γ] : ExactOrder γ where
  comparable _ _ :=
    ⟨fun ⟨_, ho⟩ => (Scalar.compare_eq_ok_iff.1 ho).1, fun h => ⟨_, Scalar.compare_eq_ok_iff.2 ⟨h, rfl⟩⟩⟩
  refl _ := Scalar.compare_eq_ok_iff.2 ⟨rfl, Std.ReflOrd.compare_self⟩
  reverse _ _ _ := Scalar.compare_swap
  trans := Scalar.compare_trans
  numbers := Scalar.compare_extended?
  numberOrNaN := Scalar.extended?_eq_none
  negativeNaN := Scalar.compare_negativeNaN
  positiveNaN ha hn hb := Scalar.compare_positiveNaN hb ha hn
  custom _ h := compare_reverse h

/-- The number between two floats next to each other, the two zeros, and two versions. -/
theorem compare_laws_sample :
    Value.compare (.plain (.f64 0x4340000000000000) : Value UserValue) (.plain (.f64 0x4340000000000001)) = .ok .lt ∧
      Value.compare (.plain (.f32 0x80000000) : Value UserValue) (.plain (.int .u8 ⟨0, by decide⟩)) = .ok .lt ∧
      Value.compare (.custom (.version 1 3) : Value UserValue) (.custom (.version 1 2)) = .ok .gt := by
  have laws := compare_laws UserValue
  have hbelow : Value.compare (.plain (.f64 0x4340000000000000) : Value UserValue)
      (.plain (.int .i64 ⟨9007199254740993, by decide⟩)) = .ok .lt := by
    rw [compare_plain, Scalar.compare_eq_ok_iff]
    exact ⟨rfl, by decide +kernel⟩
  have habove : Value.compare (.plain (.int .i64 ⟨9007199254740993, by decide⟩) : Value UserValue)
      (.plain (.f64 0x4340000000000001)) = .ok .lt := by
    rw [compare_plain, Scalar.compare_eq_ok_iff]
    exact ⟨rfl, by decide +kernel⟩
  have hzero : Scalar.extended? (.f32 0x80000000) = some (Extended.ofInt 0) := by
    show binary32.signed? true 0 = _
    unfold Format.signed? Format.signed Extended.ofInt
    rw [absolute_zero]
    simp [show 0 < binary32.infinity by decide]
  have hzero' : Scalar.extended? (.int .u8 ⟨0, by decide⟩) = some (Extended.ofInt 0) := rfl
  have hcompare := laws.numbers hzero hzero'
  rw [Std.ReflOrd.compare_self] at hcompare
  exact ⟨laws.trans hbelow habove (by decide) (by decide), hcompare, (laws.custom .gt (reversible_userValue _ _)).2 rfl⟩

end Value
end RecordHold
