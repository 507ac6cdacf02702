import RecordHold.IndexKey
import RecordHold.Proofs.Rising
import RecordHold.Proofs.Rounding
/-!
# Proofs.IndexOrder — index keys sort the way their scalars compare

Scalars compare exactly if their index keys carry the same tag, and then as the keys do byte by byte (`compare_eq`).  So
equal keys are equal scalars to every comparison, and keys of two families are never equal.

Each part of a key keeps the order of what it writes: words most significant byte first (`compare_ofNatBE`), escaped
byte strings (`compare_escaped`), and numbers by their float and then their whole part (`compare_number`).
-/
namespace RecordHold

open Std Ieee

/-! ## Words -/

theorem compare_cons {κ : Type} [Ord κ] (a b : κ) (s t : List κ) :
    compare (a :: s) (b :: t) = (compare a b).then (compare s t) := by
  rw [List.compare_eq_compareLex, List.compareLex_cons_cons]

theorem compare_append {κ : Type} [Ord κ] : ∀ {s s' : List κ}, s.length = s'.length → ∀ t t' : List κ,
    compare (s ++ t) (s' ++ t') = (compare s s').then (compare t t')
  | [],     [],      _, t, t' => by rw [List.compare_eq_compareLex, List.compareLex_nil_nil]; rfl
  | a :: s, b :: s', h, t, t' => by
    rw [List.cons_append, List.cons_append, compare_cons, compare_cons, compare_append (Nat.succ.inj h),
      Ordering.then_assoc]

theorem compare_uint8 (a b : UInt8) : compare a b = compare a.toNat b.toNat := by
  show compareOfLessAndEq a b = compareOfLessAndEq a.toNat b.toNat
  unfold compareOfLessAndEq
  simp only [UInt8.lt_iff_toNat_lt, ← UInt8.toNat_inj]

/-- Two numbers compare as their sums with a third. -/
theorem compare_shifted {m n : Nat} {i j s : Int} (hm : (m : Int) = i + s) (hn : (n : Int) = j + s) :
    compare m n = compare i j := by
  show compareOfLessAndEq m n = compareOfLessAndEq i j
  unfold compareOfLessAndEq
  have hlt : m < n ↔ i < j := by omega
  have heq : m = n ↔ i = j := by omega
  simp only [hlt, heq]

theorem compare_div_mod (a b d : Nat) :
    (compare (a / d) (b / d)).then (compare (a % d) (b % d)) = compare a b := by
  have ha := Nat.div_add_mod a d
  have hb := Nat.div_add_mod b d
  rcases Nat.lt_trichotomy (a / d) (b / d) with h | h | h
  · have hlt : a < b := Nat.lt_of_not_le (fun hle => absurd (@Nat.div_le_div_right b a d hle) (Nat.not_le_of_lt h))
    rw [Nat.compare_eq_lt.2 h, Nat.compare_eq_lt.2 hlt]
    rfl
  · rw [Nat.compare_eq_eq.2 h]
    rw [h] at ha
    show compareOfLessAndEq _ _ = compareOfLessAndEq _ _
    unfold compareOfLessAndEq
    have hlt : a % d < b % d ↔ a < b := by omega
    have heq : a % d = b % d ↔ a = b := by omega
    simp only [hlt, heq]
  · have hgt : b < a := Nat.lt_of_not_le (fun hle => absurd (@Nat.div_le_div_right a b d hle) (Nat.not_le_of_lt h))
    rw [Nat.compare_eq_gt.2 h, Nat.compare_eq_gt.2 hgt]
    rfl

theorem Bytes.ofNatBE_succ (n v : Nat) : Bytes.ofNatBE (n + 1) v = Bytes.ofNatBE n (v / 256) ++ [UInt8.ofNat v] := by
  rw [ofNatBE, ofNatBE, ofNatLE, List.reverse_cons]

theorem Bytes.length_ofNatBE (n v : Nat) : (Bytes.ofNatBE n v).length = n := by
  rw [ofNatBE, List.length_reverse, length_ofNatLE]

/-- **Words written most significant byte first** compare as their numbers. -/
theorem Bytes.compare_ofNatBE : ∀ {n a b : Nat}, a < Bytes.capacity n → b < Bytes.capacity n →
    compare (Bytes.ofNatBE n a) (Bytes.ofNatBE n b) = compare a b
  | 0,     a, b, ha, hb => by
    obtain rfl : a = 0 := Nat.lt_one_iff.1 ha
    obtain rfl : b = 0 := Nat.lt_one_iff.1 hb
    rfl
  | n + 1, a, b, ha, hb => by
    rw [capacity_succ] at ha hb
    have ih := compare_ofNatBE (Nat.div_lt_of_lt_mul ha) (Nat.div_lt_of_lt_mul hb)
    rw [ofNatBE_succ, ofNatBE_succ, compare_append (by rw [length_ofNatBE, length_ofNatBE]), ih, compare_cons,
      compare_uint8, UInt8.toNat_ofNat', UInt8.toNat_ofNat', List.compare_eq_compareLex, List.compareLex_nil_nil,
      Ordering.then_eq, compare_div_mod]

/-! ## Byte strings -/

namespace IndexKey

theorem zero_lt_of_ne {b : UInt8} (h : b ≠ 0) : compare 0 b = .lt := by
  rw [compare_uint8, Nat.compare_eq_lt]
  exact Nat.pos_of_ne_zero (fun h0 => h (UInt8.toNat_inj.1 h0))

theorem compare_nil_escaped (b : UInt8) (t : Bytes) : compare (escaped []) (escaped (b :: t)) = .lt := by
  unfold escaped
  split
  · rfl
  · rename_i hb
    rw [compare_cons, zero_lt_of_ne hb]
    rfl

/-- **Escaped byte strings** compare as the strings. -/
theorem compare_escaped : ∀ a b : Bytes, compare (escaped a) (escaped b) = compare a b
  | [],     []     => rfl
  | [],     b :: t => compare_nil_escaped b t
  | a :: s, []     => by
    rw [OrientedCmp.gt_of_lt (compare_nil_escaped a s)]
    rfl
  | a :: s, b :: t => by
    have ih := compare_escaped s t
    rw [compare_cons, escaped, escaped]
    by_cases ha : a = 0 <;> by_cases hb : b = 0
    · rw [if_pos ha, if_pos hb, compare_cons, compare_cons, ih, ha, hb]
      rfl
    · rw [if_pos ha, if_neg hb, compare_cons, ha, zero_lt_of_ne hb]
      rfl
    · rw [if_neg ha, if_pos hb, compare_cons, hb, OrientedCmp.gt_of_lt (zero_lt_of_ne ha)]
      rfl
    · rw [if_neg ha, if_neg hb, compare_cons, ih]

/-! ## Numbers -/

theorem orderedFloat_eq {bits : Nat} (h : bits < 2 * binary64.signBit) :
    (orderedFloat bits : Int) = binary64.rank bits + binary64.signBit := by
  have hm := magnitude_of_lt h
  unfold orderedFloat Format.rank
  rw [hm]
  unfold Format.isNegative
  by_cases hs : binary64.signBit ≤ bits
  · simp only [hs, decide_true, if_true]
    omega
  · simp only [hs, decide_false, Bool.false_eq_true, if_false]
    omega

theorem orderedFloat_lt {bits : Nat} (h : bits < 2 * binary64.signBit) : orderedFloat bits < Bytes.capacity 8 := by
  have hc : Bytes.capacity 8 = 2 * binary64.signBit := by decide
  unfold orderedFloat Format.isNegative
  by_cases hs : binary64.signBit ≤ bits
  · simp only [hs, decide_true, if_true]
    omega
  · simp only [hs, decide_false, Bool.false_eq_true, if_false]
    omega

/-- The number is one a scalar can be: an integer of at most 128 bits, or a pattern of 64. -/
def Bounded : Number → Prop
  | .int i      => Number.leastWhole ≤ i ∧ i ≤ Number.greatestWhole
  | .float bits => bits < 2 * binary64.signBit

theorem image_lt {x : Number} (h : Bounded x) : x.image < 2 * binary64.signBit := by
  cases x with
  | int i => exact ofInt_lt i
  | float bits => exact h

theorem whole_bounds {x : Number} (h : Bounded x) : Number.leastWhole ≤ x.whole ∧ x.whole ≤ Number.greatestWhole := by
  cases x with
  | int i => exact h
  | float bits => exact truncate_bounds (by decide) (by decide) bits

/-- A number compares by its float first and its whole part second. -/
theorem number_compare_eq {x y : Number} (hx : Bounded x) (hy : Bounded y) :
    Number.compare x y = (binary64.compareTotal x.image y.image).then (compare x.whole y.whole) := by
  cases x with
  | int a =>
    cases y with
    | int b =>
      show compare a b =
        (compare (binary64.rank (binary64.ofInt a)) (binary64.rank (binary64.ofInt b))).then (compare a b)
      rcases Int.lt_trichotomy a b with h | h | h
      · have hm := ofInt_mono (Int.le_of_lt h)
        rw [Int.compare_eq_lt.2 h]
        rcases Int.lt_or_eq_of_le hm with hlt | heq
        · rw [Int.compare_eq_lt.2 hlt]
          rfl
        · rw [Int.compare_eq_eq.2 heq]
          rfl
      · rw [h, ReflOrd.compare_self, ReflOrd.compare_self]
        rfl
      · have hm := ofInt_mono (Int.le_of_lt h)
        rw [Int.compare_eq_gt.2 h]
        rcases Int.lt_or_eq_of_le hm with hlt | heq
        · rw [Int.compare_eq_gt.2 hlt]
          rfl
        · rw [Int.compare_eq_eq.2 heq.symm]
          rfl
    | float b => rfl
  | float a =>
    cases y with
    | int b =>
      show ((compare (binary64.rank _) (binary64.rank _)).then (compare _ _)).swap = _
      rw [Ordering.swap_then, ← OrientedCmp.eq_swap, ← OrientedCmp.eq_swap]
      rfl
    | float b =>
      show compare (binary64.rank a) (binary64.rank b) = (compare (binary64.rank a) (binary64.rank b)).then _
      cases hc : compare (binary64.rank a) (binary64.rank b) with
      | eq =>
        obtain rfl := rank_injective hx hy (Int.compare_eq_eq.1 hc)
        show Ordering.eq = compare _ _
        rw [ReflOrd.compare_self]
      | lt => rfl
      | gt => rfl

/-- **Written numbers** compare as the numbers. -/
theorem compare_number {x y : Number} (hx : Bounded x) (hy : Bounded y) :
    compare (number x) (number y) = Number.compare x y := by
  have hw : ∀ {x : Number}, Bounded x → (orderedInt 16 x.whole : Int) = x.whole + (Bytes.capacity 16 / 2 : Nat) ∧
      orderedInt 16 x.whole < Bytes.capacity 16 := by
    intro x h
    obtain ⟨hlo, hhi⟩ := whole_bounds h
    have hc : Bytes.capacity 16 = 340282366920938463463374607431768211456 := by decide
    unfold orderedInt
    unfold Number.leastWhole at hlo
    unfold Number.greatestWhole at hhi
    rw [hc] at hlo hhi ⊢
    omega
  rw [number_compare_eq hx hy, number, number, compare_append (by rw [Bytes.length_ofNatBE, Bytes.length_ofNatBE]),
    Bytes.compare_ofNatBE (orderedFloat_lt (image_lt hx)) (orderedFloat_lt (image_lt hy)),
    compare_shifted (orderedFloat_eq (image_lt hx)) (orderedFloat_eq (image_lt hy)),
    Bytes.compare_ofNatBE (hw hx).2 (hw hy).2, compare_shifted (hw hx).1 (hw hy).1]
  rfl

/-! ## Scalars -/

theorem nearest_le (n d : Nat) : binary64.nearest n d ≤ binary64.infinity := by
  unfold Format.nearest
  split
  · exact Nat.zero_le _
  · exact Nat.min_le_left _ _

theorem widened_lt (bits : Nat) : binary32.convert binary64 bits < 2 * binary64.signBit := by
  by_cases hnan : binary32.infinity < binary32.magnitude bits
  · obtain ⟨wide, -, hlt, heq⟩ := convert_of_nan hnan
    rw [heq]
    exact withSign_lt hlt
  · have hi : binary64.infinity < binary64.signBit := by decide
    unfold Format.convert
    refine withSign_lt ?_
    split
    · exact Nat.lt_of_le_of_lt (nearest_le _ _) hi
    · rw [if_pos (by omega)]
      exact hi

theorem bounded_number? {s : Scalar} {x : Number} (h : s.number? = some x) : Bounded x := by
  cases s with
  | int t i =>
    obtain rfl : Number.int i.val = x := Option.some.inj h
    obtain ⟨v, hv⟩ := i
    have hc : Bytes.capacity 16 = 340282366920938463463374607431768211456 := by decide
    show Number.leastWhole ≤ v ∧ v ≤ Number.greatestWhole
    unfold Number.leastWhole Number.greatestWhole
    rw [hc]
    unfold IntType.holds IntType.least IntType.greatest IntType.size at hv
    cases t <;> simp [IntType.signed, IntType.width, Bytes.capacity] at hv <;> omega
  | f32 bits =>
    obtain rfl : Number.float _ = x := Option.some.inj h
    exact widened_lt _
  | f64 bits =>
    obtain rfl : Number.float _ = x := Option.some.inj h
    have hs : binary64.signBit = 9223372036854775808 := by decide
    have hb := bits.toNat_lt
    show bits.toNat < 2 * binary64.signBit
    omega
  | _ => cases h

theorem tag_number? {s : Scalar} {x : Number} (h : s.number? = some x) :
    ofScalar s = 0x20 :: number x := by
  cases s <;> cases h <;> rfl

/-- **Instants** compare as their seconds and nanoseconds are written. -/
theorem compare_time (a b : Instant) :
    compare (body (.time a)) (body (.time b)) = Instant.compare a b := by
  have hw : ∀ t : Instant, (orderedInt 8 t.seconds : Int) = t.seconds + (Bytes.capacity 8 / 2 : Nat) ∧
      orderedInt 8 t.seconds < Bytes.capacity 8 ∧ t.nanos < Bytes.capacity 4 := by
    intro t
    obtain ⟨hlo, hhi⟩ := t.in_range
    have hn := t.nanos_lt
    obtain ⟨-, -, hc', hc⟩ := Bytes.capacity_words
    unfold orderedInt
    unfold firstSecond at hlo
    unfold lastSecond at hhi
    rw [hc, hc']
    omega
  show compare (Bytes.ofNatBE 8 _ ++ Bytes.ofNatBE 4 _) (Bytes.ofNatBE 8 _ ++ Bytes.ofNatBE 4 _) = _
  rw [compare_append (by rw [Bytes.length_ofNatBE, Bytes.length_ofNatBE]),
    Bytes.compare_ofNatBE (hw a).2.1 (hw b).2.1, Bytes.compare_ofNatBE (hw a).2.2 (hw b).2.2,
    compare_shifted (hw a).1 (hw b).1]
  rfl

theorem compare_same_tag {t : UInt8} (a b : Bytes) : compare (t :: a) (t :: b) = compare a b := by
  rw [compare_cons, ReflOrd.compare_self]
  rfl

/-- **Scalars compare as their index keys**, and only with scalars of the same tag. -/
theorem compare_eq (a b : Scalar) : Scalar.compare a b =
    if tag a.kind = tag b.kind then .ok (compare (ofScalar a) (ofScalar b))
    else .error (.uncomparable a.kind.name b.kind.name) := by
  unfold Scalar.compare
  cases ha : a.number? with
  | some x =>
    cases hb : b.number? with
    | some y =>
      have hx := bounded_number? ha
      have hy := bounded_number? hb
      have ht : tag a.kind = tag b.kind := by
        have h := tag_number? ha
        have h' := tag_number? hb
        unfold ofScalar at h h'
        rw [(List.cons.inj h).1, (List.cons.inj h').1]
      simp only
      rw [if_pos ht, tag_number? ha, tag_number? hb, compare_same_tag, compare_number hx hy]
    | none => cases a <;> cases ha <;> cases b <;> first | rfl | cases hb
  | none =>
    cases a with
    | bool x => cases b with
      | bool y => cases x <;> cases y <;> rfl
      | _ => rfl
    | string x => cases b with
      | string y =>
        show Except.ok _ = Except.ok (compare (0x30 :: escaped _) (0x30 :: escaped _))
        rw [compare_same_tag, compare_escaped]
      | _ => rfl
    | bytes x => cases b with
      | bytes y =>
        show Except.ok _ = Except.ok (compare (0x40 :: escaped _) (0x40 :: escaped _))
        rw [compare_same_tag, compare_escaped]
      | _ => rfl
    | time x => cases b with
      | time y =>
        show Except.ok _ = Except.ok (compare (0x50 :: body (.time x)) (0x50 :: body (.time y)))
        rw [compare_same_tag, compare_time]
      | _ => rfl
    | _ => cases ha

end IndexKey
end RecordHold
