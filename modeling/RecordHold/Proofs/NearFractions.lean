import Mathlib.Tactic.LinearCombination
import RecordHold.Proofs.ShortestDecimals
/-!
# Proofs.NearFractions — few decimals are near a number halfway between two floats

The numbers halfway between 32-bit floats are `m * 2 ^ q` with `m` of 25 bits.  A decimal `s * 10 ^ p` is near to one if
`m / s` is a good approximation of `10 ^ p / 2 ^ q`, better than one part in `2 ^ 52`, and with numerators that small there
are hardly any.  For each unit the closest fractions below and above are found by going down the tree of fractions
(`closest`).  Every other fraction is made of more than one of both (`Straddle.split`), so it has a large numerator or is
farther away than they are (`Straddle.apart`).  The search is not trusted: what it comes upon is checked (`Sieved`), for
each of the 254 units in turn (`all_sieved`).
-/
namespace RecordHold
namespace Ieee

/-! ## Fractions next to each other -/

/-- **Two numbers are apart** by one part in `2 ^ 52` of the second one. -/
def Apart (n d : Nat) : Prop := n * 2 ^ 52 + d ≤ d * 2 ^ 52 ∨ d * 2 ^ 52 + d ≤ n * 2 ^ 52

instance (n d : Nat) : Decidable (Apart n d) := inferInstanceAs (Decidable (_ ∨ _))

theorem apart_iff {n d : Nat} : Apart n d ↔ (d : Int) ≤ 2 ^ 52 * (n - d) ∨ (d : Int) ≤ 2 ^ 52 * (d - n) := by
  unfold Apart
  omega

theorem Apart.mul {n d : Nat} (h : Apart n d) (i : Nat) : Apart (n * i) (d * i) := by
  unfold Apart at *
  rw [Nat.mul_right_comm n, Nat.mul_right_comm d, ← Nat.add_mul, ← Nat.add_mul]
  exact h.imp (Nat.mul_le_mul_right i) (Nat.mul_le_mul_right i)

/-- **Fractions next to each other** around `a / b`, the lower one not above it and the upper one above it. -/
structure Straddle (a b : Nat) (l u : Nat × Nat) : Prop where
  below : b * l.1 ≤ a * l.2
  above : a * u.2 < b * u.1
  next  : u.1 * l.2 = l.1 * u.2 + 1

instance (a b : Nat) (l u : Nat × Nat) : Decidable (Straddle a b l u) :=
  decidable_of_iff (b * l.1 ≤ a * l.2 ∧ a * u.2 < b * u.1 ∧ u.1 * l.2 = l.1 * u.2 + 1)
    ⟨fun h => ⟨h.1, h.2.1, h.2.2⟩, fun h => ⟨h.below, h.above, h.next⟩⟩

namespace Straddle

variable {a b s m bound : Nat} {l u : Nat × Nat}

/-- **Every fraction is made of the two**, with whole numbers that may be negative. -/
theorem split (h : Straddle a b l u) (s m : Nat) :
    ∃ i j : Int, (s : Int) = i * l.2 + j * u.2 ∧ (m : Int) = i * l.1 + j * u.1 := by
  have hnext : (u.1 * l.2 : Int) = l.1 * u.2 + 1 := by exact_mod_cast h.next
  refine ⟨u.1 * s - u.2 * m, l.2 * m - l.1 * s, ?_, ?_⟩
  · linear_combination (-s : Int) * hnext
  · linear_combination (-m : Int) * hnext

/-- A multiple of a fraction is apart if the fraction is. -/
theorem multiple {x : Nat × Nat} {i : Int} (hpos : 0 < m) (hs : (s : Int) = i * x.2) (hm : (m : Int) = i * x.1) :
    Apart (a * s) (b * m) ∨ (¬ Apart (a * x.2) (b * x.1) ∧ ∃ n, s = x.2 * n ∧ m = x.1 * n) := by
  obtain ⟨n, rfl⟩ : ∃ n : Nat, i = n := by
    refine Int.eq_ofNat_of_zero_le (not_lt.1 (fun hi => ?_))
    have := mul_nonneg (show 0 ≤ -i by omega) (Int.natCast_nonneg x.1)
    linarith
  have hs' : s = x.2 * n := by
    rw [Nat.mul_comm]
    exact_mod_cast hs
  have hm' : m = x.1 * n := by
    rw [Nat.mul_comm]
    exact_mod_cast hm
  by_cases happart : Apart (a * x.2) (b * x.1)
  · refine .inl ?_
    rw [hs', hm', ← Nat.mul_assoc, ← Nat.mul_assoc]
    exact happart.mul n
  · exact .inr ⟨happart, n, hs', hm'⟩

/-- A multiple of one fraction less one of the other is away from `a / b` by both errors together. -/
theorem mixed_le {b bound i j p p' δ δ' : Int} (hb : 0 ≤ b) (hi : 0 < i) (hj : j < 0) (hp' : 0 ≤ p') (hδ : 0 ≤ δ)
    (hδ' : 0 ≤ δ') (hm : i * p + j * p' ≤ bound) (h : b * p ≤ 2 ^ 52 * δ ∨ b * bound ≤ 2 ^ 52 * δ') :
    b * (i * p + j * p') ≤ 2 ^ 52 * (i * δ - j * δ') := by
  have hsmall : 0 ≤ i * δ := mul_nonneg hi.le hδ
  have hsmall' : 0 ≤ -j * δ' := mul_nonneg (by omega) hδ'
  rcases h with h | h
  · have hless : b * (j * p') ≤ 0 := by
      have := mul_nonneg hb (mul_nonneg (show 0 ≤ -j by omega) hp')
      linarith
    have hscaled := mul_le_mul_of_nonneg_left h hi.le
    linarith
  · have hscaled : b * (i * p + j * p') ≤ b * bound := mul_le_mul_of_nonneg_left hm hb
    have hone : δ' ≤ -j * δ' := le_mul_of_one_le_left hδ' (by omega)
    linarith

/-- **A fraction with a small numerator is apart from `a / b`**, unless it is a multiple of one of the two: either that one
is apart, or the other one is so far away that nothing made of both is near. -/
theorem apart (h : Straddle a b l u) (hpos : 0 < m) (hsum : m < l.1 + u.1) (hm : m ≤ bound)
    (hl : Apart (a * l.2) (b * l.1) ∨ b * bound + a * u.2 * 2 ^ 52 ≤ b * u.1 * 2 ^ 52)
    (hu : Apart (a * u.2) (b * u.1) ∨ b * bound + b * l.1 * 2 ^ 52 ≤ a * l.2 * 2 ^ 52) :
    Apart (a * s) (b * m) ∨ (¬ Apart (a * l.2) (b * l.1) ∧ ∃ i, s = l.2 * i ∧ m = l.1 * i) ∨
      (¬ Apart (a * u.2) (b * u.1) ∧ ∃ j, s = u.2 * j ∧ m = u.1 * j) := by
  obtain ⟨i, j, hs, hmul⟩ := h.split s m
  have hbelow : (b * l.1 : Int) ≤ a * l.2 := by exact_mod_cast h.below
  have habove : (a * u.2 : Int) < b * u.1 := by exact_mod_cast h.above
  have herror : (a * s - b * m : Int) = i * (a * l.2 - b * l.1) - j * (b * u.1 - a * u.2) := by
    linear_combination (a : Int) * hs - (b : Int) * hmul
  have hmpos : (0 : Int) < i * l.1 + j * u.1 := hmul ▸ by exact_mod_cast hpos
  have hmlt : (i * l.1 + j * u.1 : Int) < l.1 + u.1 := hmul ▸ by exact_mod_cast hsum
  have hmle : (i * l.1 + j * u.1 : Int) ≤ bound := hmul ▸ by exact_mod_cast hm
  have hl' : (b * l.1 : Int) ≤ 2 ^ 52 * (a * l.2 - b * l.1) ∨ (b * bound : Int) ≤ 2 ^ 52 * (b * u.1 - a * u.2) := by
    unfold Apart at hl
    zify at hl
    omega
  have hu' : (b * u.1 : Int) ≤ 2 ^ 52 * (b * u.1 - a * u.2) ∨ (b * bound : Int) ≤ 2 ^ 52 * (a * l.2 - b * l.1) := by
    unfold Apart at hu
    zify at hu
    omega
  have hl1 := Int.natCast_nonneg l.1
  have hu1 := Int.natCast_nonneg u.1
  rcases Int.lt_trichotomy j 0 with hj | rfl | hj
  · rcases le_or_gt i 0 with hi | hi
    · -- both negative
      have hi' := mul_nonneg (show 0 ≤ -i by omega) hl1
      have hj' := mul_nonneg (show 0 ≤ -j by omega) hu1
      linarith
    · refine .inl (apart_iff.2 (.inl ?_))
      push_cast
      rw [herror, hmul]
      exact mixed_le (Int.natCast_nonneg b) hi hj hu1 (by omega) (by omega) hmle hl'
  · rw [zero_mul, add_zero] at hs hmul
    exact (multiple hpos hs hmul).imp_right .inl
  · rcases Int.lt_trichotomy i 0 with hi | rfl | hi
    · refine .inl (apart_iff.2 (.inr ?_))
      have herror' : (b * m - a * s : Int) = j * (b * u.1 - a * u.2) - i * (a * l.2 - b * l.1) := by linarith
      push_cast
      rw [herror', hmul, add_comm]
      exact mixed_le (Int.natCast_nonneg b) hj hi hl1 (sub_nonneg.2 habove.le) (sub_nonneg.2 hbelow) (by linarith) hu'
    · rw [zero_mul, zero_add] at hs hmul
      exact (multiple hpos hs hmul).imp_right .inr
    · -- both positive
      have hi' := le_mul_of_one_le_left hl1 (show 1 ≤ i by omega)
      have hj' := le_mul_of_one_le_left hu1 (show 1 ≤ j by omega)
      linarith

end Straddle

/-- The closest fractions to `a / b` with numerators up to a bound, by whole runs of steps down the tree of fractions. -/
def closest (a b bound : Nat) : Nat → Nat × Nat → Nat × Nat → (Nat × Nat) × (Nat × Nat)
  | 0,        l, u => (l, u)
  | fuel + 1, l, u =>
    let i := min ((a * l.2 - b * l.1) / (b * u.1 - a * u.2)) ((bound - l.1) / u.1)
    let l := (l.1 + i * u.1, l.2 + i * u.2)
    let rest := a * l.2 - b * l.1
    let room := (bound - u.1) / l.1
    let j := if rest = 0 then room else min ((b * u.1 - a * u.2 - 1) / rest) room
    closest a b bound fuel l (u.1 + j * l.1, u.2 + j * l.2)

/-! ## Halves of units of 32-bit floats

The half of a unit of the last bit is `2 ^ (t - 150)` for a `t` below 254.  Decimals that are not finer than it end at
`leadPlace t` or before. -/

/-- The first power of ten above half a unit, less one part in `2 ^ 27` of it. -/
def leadPlace (t : Nat) : Int := floorLog10 (2 ^ t * 134217727) (2 ^ 177) + 1

/-- The quotient of that power of ten and half a unit. -/
def leadRatio (t : Nat) : Nat × Nat :=
  ((onGrid.scaleTen (leadPlace t)).1 * 2 ^ 150, (onGrid.scaleTen (leadPlace t)).2 * 2 ^ t)

/-- The odd numbers of half units that a decimal is very near to. -/
def nearMisses : List (Nat × Nat) := [(42, 22841339), (43, 22841339), (100, 28874659)]

/-- **The certificate for a unit**: two fractions next to each other, and if one of them is near, it is exact or known,
and the other one is far away. -/
structure Sieved (t : Nat) (l u : Nat × Nat) : Prop where
  straddle : Straddle (leadRatio t).1 (leadRatio t).2 l u
  sum      : 33554432 ≤ l.1 + u.1
  lower    : Apart ((leadRatio t).1 * l.2) ((leadRatio t).2 * l.1) ∨
    (leadRatio t).2 * 33554432 + (leadRatio t).1 * u.2 * 2 ^ 52 ≤ (leadRatio t).2 * u.1 * 2 ^ 52 ∧
      ((leadRatio t).1 * l.2 = (leadRatio t).2 * l.1 ∨ (t, l.1) ∈ nearMisses)
  upper    : Apart ((leadRatio t).1 * u.2) ((leadRatio t).2 * u.1) ∨
    (leadRatio t).2 * 33554432 + (leadRatio t).2 * l.1 * 2 ^ 52 ≤ (leadRatio t).1 * l.2 * 2 ^ 52 ∧ (t, u.1) ∈ nearMisses

instance (t : Nat) (l u : Nat × Nat) : Decidable (Sieved t l u) :=
  decidable_of_iff (_ ∧ _ ∧ _ ∧ _)
    ⟨fun h => ⟨h.1, h.2.1, h.2.2.1, h.2.2.2⟩, fun h => ⟨h.straddle, h.sum, h.lower, h.upper⟩⟩

/-- The fractions that are looked for: 20 runs are enough for numerators of 25 bits. -/
def closestLead (t : Nat) : (Nat × Nat) × (Nat × Nat) :=
  let (a, b) := leadRatio t
  closest a b 33554431 20 (a / b, 1) (a / b + 1, 1)

/-- **Every unit has a certificate.** -/
theorem all_sieved : ∀ t < 254, Sieved t (closestLead t).1 (closestLead t).2 := by
  decide +kernel

section Lead
variable {t s m : Nat}

/-- **A decimal that is not finer than half a unit is apart from an odd number of these halves**, if it is not that number
and no known exception. -/
theorem lead_apart (ht : t < 254) (hpos : 0 < m) (hm : m < 33554432) (s : Nat) :
    (leadRatio t).1 * s = (leadRatio t).2 * m ∨ Apart ((leadRatio t).1 * s) ((leadRatio t).2 * m) ∨
      (t, m) ∈ nearMisses := by
  have h := all_sieved t ht
  generalize (closestLead t).1 = l at h
  generalize (closestLead t).2 = u at h
  have hsum := h.sum
  -- the numerator of an exception is too large for any other multiple of it
  have hknown {p n : Nat} (hp : (t, p) ∈ nearMisses) (hmul : m = p * n) : (t, m) ∈ nearMisses := by
    have hlarge : 16777216 ≤ p := by
      have hall : ∀ x ∈ nearMisses, 16777216 ≤ x.2 := by decide
      exact hall _ hp
    have hn : n = 1 := by
      have h0 : n ≠ 0 := by
        rintro rfl
        omega
      by_contra h1
      have := Nat.mul_le_mul hlarge (show 2 ≤ n by omega)
      omega
    rwa [hmul, hn, Nat.mul_one]
  rcases h.straddle.apart (s := s) hpos (by omega) hm.le (h.lower.imp_right And.left) (h.upper.imp_right And.left) with
    happart | ⟨hnot, n, rfl, hmul⟩ | ⟨hnot, n, rfl, hmul⟩
  · exact .inr (.inl happart)
  · rcases (h.lower.resolve_left hnot).2 with hexact | hmiss
    · left
      rw [hmul, ← Nat.mul_assoc, hexact, Nat.mul_assoc]
    · exact .inr (.inr (hknown hmiss hmul))
  · exact .inr (.inr (hknown (h.upper.resolve_left hnot).2 hmul))

theorem leadRatio_spec (t : Nat) : 0 < (leadRatio t).2 ∧
    ((leadRatio t).1 : ℚ) * 2 ^ ((t : Int) - 150) = 10 ^ leadPlace t * (leadRatio t).2 := by
  obtain ⟨-, hscale, hpower⟩ := scaleTen_spec (leadPlace t)
  have hexp : (2 : ℚ) ^ 150 * 2 ^ ((t : Int) - 150) = 2 ^ t := by
    rw [← zpow_natCast, ← zpow_add₀ (by norm_num), ← zpow_natCast]
    congr 1
    omega
  unfold leadRatio
  refine ⟨Nat.mul_pos hscale (Nat.pow_pos (by decide)), ?_⟩
  rw [Nat.cast_mul, Nat.cast_mul, hpower, Nat.cast_pow, Nat.cast_pow, Nat.cast_ofNat, mul_assoc, hexp, mul_assoc]

/-- **A decimal is apart from a number halfway between floats.** -/
theorem decimal_apart (ht : t < 254) (hpos : 0 < m) (hm : m < 33554432) (hmiss : (t, m) ∉ nearMisses) (s : Nat) :
    (s : ℚ) * 10 ^ leadPlace t = m * 2 ^ ((t : Int) - 150) ∨
      (s : ℚ) * 10 ^ leadPlace t ≤ m * 2 ^ ((t : Int) - 150) * (1 - 1 / 2 ^ 52) ∨
      (m : ℚ) * 2 ^ ((t : Int) - 150) * (1 + 1 / 2 ^ 52) ≤ s * 10 ^ leadPlace t := by
  obtain ⟨hden, hratio⟩ := leadRatio_spec t
  have hdenq : (0 : ℚ) < (leadRatio t).2 := by exact_mod_cast hden
  have hpow : (0 : ℚ) < 2 ^ ((t : Int) - 150) := zpow_pos (by norm_num) _
  -- both numbers in units of the same size
  have hdecimal : (s : ℚ) * 10 ^ leadPlace t * (leadRatio t).2 =
      ((leadRatio t).1 * s : Nat) * 2 ^ ((t : Int) - 150) := by
    rw [mul_assoc, ← hratio]
    push_cast
    ring
  have hhalves : (m : ℚ) * 2 ^ ((t : Int) - 150) * (leadRatio t).2 =
      ((leadRatio t).2 * m : Nat) * 2 ^ ((t : Int) - 150) := by
    push_cast
    ring
  rcases lead_apart ht hpos hm s with hexact | happart | hknown
  · left
    rw [hexact, ← hhalves] at hdecimal
    exact mul_right_cancel₀ hdenq.ne' hdecimal
  · right
    unfold Apart at happart
    generalize (leadRatio t).1 * s = n at *
    generalize (leadRatio t).2 * m = d at *
    rcases happart with hbelow | habove
    · have hbelowq : (n : ℚ) * 2 ^ 52 + d ≤ d * 2 ^ 52 := by exact_mod_cast hbelow
      refine .inl (le_of_mul_le_mul_right ?_ hdenq)
      rw [hdecimal, mul_right_comm, hhalves]
      nlinarith
    · have haboveq : (d : ℚ) * 2 ^ 52 + d ≤ n * 2 ^ 52 := by exact_mod_cast habove
      refine .inr (le_of_mul_le_mul_right ?_ hdenq)
      rw [hdecimal, mul_right_comm, hhalves]
      nlinarith
  · exact absurd hknown hmiss

/-- A power of ten that is not finer than half a unit is not below the first one. -/
theorem leadPlace_le {p : Int} (h : (2 : ℚ) ^ ((t : Int) - 150) * (1 - 1 / 2 ^ 27) < 10 ^ p) : leadPlace t ≤ p := by
  have hfloor := @floorLog10_le (2 ^ t * 134217727) (2 ^ 177) (by positivity) (by positivity)
  have hexp : (2 : ℚ) ^ ((t : Int) - 150) * 2 ^ 150 = 2 ^ t := by
    rw [← zpow_natCast, ← zpow_add₀ (by norm_num), ← zpow_natCast]
    congr 1
    omega
  have hquot : ((2 ^ t * 134217727 : Nat) : ℚ) / (2 ^ 177 : Nat) = 2 ^ ((t : Int) - 150) * (1 - 1 / 2 ^ 27) := by
    rw [Nat.cast_mul, Nat.cast_pow, Nat.cast_ofNat, ← hexp]
    push_cast
    norm_num
    ring
  rw [hquot] at hfloor
  have hlt := (zpow_lt_zpow_iff_right₀ (by norm_num : (1 : ℚ) < 10)).1 (hfloor.trans_lt h)
  unfold leadPlace
  omega

end Lead

end Ieee
end RecordHold
