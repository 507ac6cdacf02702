import RecordHold.Proofs.Narrowing
/-!
# Proofs.Families — keys order exactly as scalars compare

A scalar compares with those of its family and with no others (`Scalar.compare_eq`).  Each family has the keys of one
range to itself: a key is in the range of a family exactly if its scalar is of that family (`familyRange_contains`).
Inside the range the byte order is the order of comparison (`key_order`).
-/
namespace RecordHold

open Std

/-- What a scalar is compared among: numbers of every type together, and each other type by itself. -/
inductive Family where
  | bool | number | string | bytes | time
deriving DecidableEq, Repr

def Kind.family : Kind → Family
  | .bool                => .bool
  | .int _ | .f32 | .f64 => .number
  | .string              => .string
  | .bytes               => .bytes
  | .time                => .time

def Scalar.family (s : Scalar) : Family := s.kind.family

namespace IndexKey

/-- Each family has a tag of its own. -/
theorem tag_eq_iff {a b : Kind} : tag a = tag b ↔ a.family = b.family := by
  cases a <;> cases b <;> simp [tag, Kind.family]

/-- The keys from the start of a family up to its end. -/
def familyRange (k : Kind) : KeyRange := ⟨.included (familyStart k), .excluded (familyEnd k)⟩

/-- **The range of a family has just the keys of that family.** -/
theorem familyRange_contains (s : Scalar) (k : Kind) :
    (familyRange k).contains (ofScalar s) = true ↔ s.family = k.family := by
  have hend := lt_familyEnd s k
  have hstart := familyStart_le s k
  unfold Scalar.family familyRange KeyRange.contains KeyRange.aboveLower KeyRange.belowUpper
  rw [← tag_eq_iff, Bool.and_eq_true, bne_iff_ne, beq_iff_eq, hstart, hend]
  exact ⟨fun h => tag_eq_of_le h.2 h.1, fun h => by rw [h]; exact ⟨Nat.le_refl _, Nat.le_refl _⟩⟩

theorem lt_own_familyEnd (s : Scalar) : compare (ofScalar s) (familyEnd s.kind) = .lt :=
  (lt_familyEnd s s.kind).2 (Nat.le_refl _)

end IndexKey

/-- **Scalars of one family compare as their keys**, and those of different families do not compare. -/
theorem Scalar.compare_eq (a b : Scalar) : Scalar.compare a b =
    if a.family = b.family then .ok (compare (IndexKey.ofScalar a) (IndexKey.ofScalar b))
    else .error (.uncomparable a.kind.name b.kind.name) := by
  rw [IndexKey.compare_eq]
  by_cases h : a.family = b.family
  · rw [if_pos h, if_pos (IndexKey.tag_eq_iff.2 h)]
  · rw [if_neg h, if_neg (fun ht => h (IndexKey.tag_eq_iff.1 ht))]

theorem Scalar.family_eq_of_ofScalar_eq {a b : Scalar} (h : IndexKey.ofScalar a = IndexKey.ofScalar b) :
    a.family = b.family := IndexKey.tag_eq_iff.1 (List.cons.inj h).1

/-- **Index keys order exactly as scalars compare.**  Every scalar has a key.  Two keys of one family are in the order
in which the scalars compare, and keys of different families are never the same.  A key lies strictly between the start
and the end of its own family, and outside the range of every other family. -/
theorem IndexKey.key_order {γ : Type} [Custom γ] (a b : Scalar) :
    ∃ k l, (Value.plain a : Value γ).indexKey = .ok k ∧ (Value.plain b : Value γ).indexKey = .ok l ∧
      (a.family = b.family →
        Value.compare (.plain a : Value γ) (.plain b) = .ok (compare k l) ∧
          (k = l ↔ Value.compare (.plain a : Value γ) (.plain b) = .ok .eq)) ∧
      (a.family ≠ b.family → k ≠ l) ∧
      compare (familyStart a.kind) k = .lt ∧ compare k (familyEnd a.kind) = .lt ∧
      ∀ m : Kind, m.family ≠ a.family → (familyRange m).contains k = false := by
  refine ⟨ofScalar a, ofScalar b, rfl, rfl, fun h => ⟨?_, ofScalar_eq_iff⟩, fun h he => ?_, familyStart_lt a,
    lt_own_familyEnd a, fun m hm => ?_⟩
  · show Scalar.compare a b = _
    rw [Scalar.compare_eq, if_pos h]
  · exact h (Scalar.family_eq_of_ofScalar_eq he)
  · rw [← Bool.not_eq_true, familyRange_contains]
    exact hm.symm

/-- The keys of a float and of an integer that rounds to it: the integer part keeps them apart. -/
theorem IndexKey.key_order_tie :
    ∃ k l, (Value.plain (.f64 0x4340000000000000) : Value UserValue).indexKey = .ok k ∧
      (Value.plain (.int .i64 ⟨9007199254740993, by decide⟩) : Value UserValue).indexKey = .ok l ∧
      Value.compare (.plain (.f64 0x4340000000000000) : Value UserValue)
        (.plain (.int .i64 ⟨9007199254740993, by decide⟩)) = .ok (compare k l) ∧
      compare k l = .lt ∧ (familyRange .string).contains k = false := by
  obtain ⟨k, l, hk, hl, hsame, -, -, -, hother⟩ := key_order (γ := UserValue) (.f64 0x4340000000000000)
    (.int .i64 ⟨9007199254740993, by decide⟩)
  cases hk
  cases hl
  exact ⟨_, _, rfl, rfl, (hsame rfl).1, by decide +kernel, hother .string (by decide)⟩

end RecordHold
