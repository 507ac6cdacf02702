import RecordHold.Proofs.IndexOrder
import RecordHold.Proofs.Paging
import RecordHold.Query.Plan
import RecordHold.Record
import RecordHold.Sample.UserValue
/-!
# Proofs.Narrowing — the planned ranges hold exactly the keys that the criteria hold on

What it means that a criterion holds on a value is said once (`Criterion.Holds`), without the order in which a test
asks and without its failures; a test that succeeds answers it (`test_eq_ok`).  The ranges that the policy plans for
a list of criteria contain the index key of a scalar exactly if every criterion of the list holds on it
(`ranges_exact`), and no key is in two of them (`ranges_apart`).  None of them is empty (`ranges_inhabited`), so being
apart puts them in strictly ascending order (`plan_exact`).
-/
namespace RecordHold

open Std

/-! ## What a criterion says -/

namespace Criterion
variable {γ : Type} [Custom γ]

/-- **A criterion holds on a value**: it compares and the outcome is accepted, equals one of the list, matches, or
satisfies the predicate. -/
def Holds (c : Criterion γ) (v : Value γ) : Prop :=
  match c with
  | relates r operand => ∃ o, Value.compare v operand = .ok o ∧ r.accepts o = true
  | oneOf operands    => ∃ w ∈ operands, Value.compare v w = .ok .eq
  | matching p        => p.occursIn (subject v) = true
  | satisfies f       => f v = .ok true

theorem isOneOf_eq_ok {v : Value γ} : ∀ {ws : List (Value γ)} {a : Bool}, isOneOf v ws = .ok a →
    (a = true ↔ ∃ w ∈ ws, Value.compare v w = .ok .eq)
  | [],      a, h => by
    cases h
    simp
  | w :: ws, a, h => by
    unfold isOneOf at h
    simp only [List.mem_cons, exists_eq_or_imp]
    split at h
    · cases h
    · rename_i hc
      cases h
      exact ⟨fun _ => Or.inl hc, fun _ => rfl⟩
    · rename_i o hne hc
      have hn : ¬ Value.compare v w = .ok .eq := fun he => by
        rw [hc] at he
        cases he
        exact hne rfl
      rw [isOneOf_eq_ok h]
      exact ⟨Or.inr, fun ho => ho.resolve_left hn⟩

/-- **A test that succeeds answers whether the criterion holds.** -/
theorem test_eq_ok {c : Criterion γ} {v : Value γ} {a : Bool} (h : c.test v = .ok a) : a = true ↔ c.Holds v := by
  cases c with
  | relates r operand =>
    obtain ⟨o, ho, rfl⟩ := Except.map_eq_ok h
    refine ⟨fun ha => ⟨o, ho, ha⟩, ?_⟩
    rintro ⟨o', ho', ha⟩
    rw [ho] at ho'
    cases ho'
    exact ha
  | oneOf ws => exact isOneOf_eq_ok h
  | matching p =>
    cases h
    exact Iff.rfl
  | satisfies f =>
    show a = true ↔ f v = .ok true
    change (f v).mapError _ = _ at h
    cases hf : f v with
    | error e => rw [hf] at h; cases h
    | ok b =>
      rw [hf] at h
      cases h
      simp

end Criterion

/-! ## Families of keys -/

namespace IndexKey

theorem toNat_tag_succ (k : Kind) : (tag k + 1).toNat = (tag k).toNat + 1 := by
  cases k <;> rfl

theorem compare_nil_ne_gt (b : Bytes) : compare [] b ≠ .gt := by
  cases b with
  | nil => decide
  | cons x t => exact compare_le_of_lt rfl

/-- A key is below the end of a family if its tag is not above the family's. -/
theorem lt_familyEnd (s : Scalar) (k : Kind) :
    compare (ofScalar s) (familyEnd k) = .lt ↔ (tag s.kind).toNat ≤ (tag k).toNat := by
  unfold ofScalar familyEnd
  rw [compare_cons, compare_uint8, toNat_tag_succ]
  rcases Nat.lt_trichotomy (tag s.kind).toNat ((tag k).toNat + 1) with h | h | h
  · rw [Nat.compare_eq_lt.2 h]
    exact ⟨fun _ => by omega, fun _ => rfl⟩
  · rw [Nat.compare_eq_eq.2 h]
    show compare (body s) [] = .lt ↔ _
    have hn : compare (body s) [] ≠ .lt := fun hb => compare_nil_ne_gt (body s) (OrientedCmp.gt_of_lt hb)
    exact ⟨fun hb => absurd hb hn, fun _ => by omega⟩
  · rw [Nat.compare_eq_gt.2 h]
    exact ⟨fun hb => (by cases hb), fun _ => by omega⟩

/-- A key is not below the start of a family if its tag is not below the family's. -/
theorem familyStart_le (s : Scalar) (k : Kind) :
    compare (familyStart k) (ofScalar s) ≠ .gt ↔ (tag k).toNat ≤ (tag s.kind).toNat := by
  unfold ofScalar familyStart
  rw [compare_cons, compare_uint8]
  rcases Nat.lt_trichotomy (tag k).toNat (tag s.kind).toNat with h | h | h
  · rw [Nat.compare_eq_lt.2 h]
    exact ⟨fun _ => by omega, fun _ hg => (by cases hg)⟩
  · rw [Nat.compare_eq_eq.2 h]
    exact ⟨fun _ => by omega, fun _ => compare_nil_ne_gt _⟩
  · rw [Nat.compare_eq_gt.2 h]
    exact ⟨fun hb => absurd rfl hb, fun _ => by omega⟩

theorem escaped_ne_nil (b : Bytes) : escaped b ≠ [] := by
  unfold escaped
  split
  · exact List.cons_ne_nil _ _
  · split <;> exact List.cons_ne_nil _ _

theorem number_ne_nil (x : Number) : number x ≠ [] := by
  intro h
  have hlen := congrArg List.length h
  rw [number, List.length_append, Bytes.length_ofNatBE, Bytes.length_ofNatBE, List.length_nil] at hlen
  omega

/-- There is more to a key than its tag. -/
theorem body_ne_nil : ∀ s : Scalar, body s ≠ []
  | .bool _   => List.cons_ne_nil _ _
  | .int _ _  => number_ne_nil _
  | .f32 _    => number_ne_nil _
  | .f64 _    => number_ne_nil _
  | .string _ => escaped_ne_nil _
  | .bytes _  => escaped_ne_nil _
  | .time _   => List.cons_ne_nil _ _

theorem compare_nil_of_ne_nil {b : Bytes} (h : b ≠ []) : compare [] b = .lt := by
  obtain ⟨x, t, rfl⟩ := List.exists_cons_of_ne_nil h
  rfl

/-- **A key is strictly inside the range of its family.** -/
theorem familyStart_lt (s : Scalar) : compare (familyStart s.kind) (ofScalar s) = .lt := by
  unfold ofScalar familyStart
  rw [compare_same_tag, compare_nil_of_ne_nil (body_ne_nil s)]

/-- Keys ascend by their tags first. -/
theorem tag_le_of_compare {a b : Scalar} (h : compare (ofScalar a) (ofScalar b) ≠ .gt) :
    (tag a.kind).toNat ≤ (tag b.kind).toNat := by
  unfold ofScalar at h
  rw [compare_cons, compare_uint8] at h
  refine Nat.le_of_not_lt (fun hlt => h ?_)
  rw [Nat.compare_eq_gt.2 hlt]
  rfl

theorem tag_eq_of_le {a b : Kind} (h : (tag a).toNat ≤ (tag b).toNat) (h' : (tag b).toNat ≤ (tag a).toNat) :
    tag a = tag b := UInt8.toNat_inj.1 (Nat.le_antisymm h h')

/-- **Two scalars compare equal exactly if their keys are the same.** -/
theorem ofScalar_eq_iff {a b : Scalar} : ofScalar a = ofScalar b ↔ Scalar.compare a b = .ok .eq := by
  rw [compare_eq]
  constructor
  · intro h
    rw [if_pos (List.cons.inj h).1, h, ReflOrd.compare_self]
  · intro h
    split at h
    · exact LawfulEqCmp.eq_of_compare (Except.ok.inj h)
    · cases h

/-- A comparison with an accepted outcome is one of keys of one family. -/
theorem compare_ok_iff {a b : Scalar} {p : Ordering → Bool} :
    (∃ o, Scalar.compare a b = .ok o ∧ p o = true) ↔
      tag a.kind = tag b.kind ∧ p (compare (ofScalar a) (ofScalar b)) = true := by
  rw [compare_eq]
  by_cases h : tag a.kind = tag b.kind
  · rw [if_pos h]
    constructor
    · rintro ⟨o, ho, hp⟩
      cases ho
      exact ⟨h, hp⟩
    · rintro ⟨-, hp⟩
      exact ⟨_, rfl, hp⟩
  · rw [if_neg h]
    constructor
    · rintro ⟨o, ho, -⟩
      cases ho
    · exact fun hp => absurd hp.1 h

end IndexKey

/-! ## Keys of a list, each once -/

namespace Policy

theorem loop_spec : ∀ (as : List Bytes) (a : Bytes) (acc : List Bytes),
    (a :: as).Pairwise (fun x y => compare x y ≠ .gt) → Rising (a :: acc).reverse →
    Rising (List.eraseRepsBy.loop (· == ·) a as acc) ∧
      ∀ k, k ∈ List.eraseRepsBy.loop (· == ·) a as acc ↔ k ∈ acc ∨ k ∈ a :: as
  | [],      a, acc, _, hr => by
    refine ⟨hr, fun k => ?_⟩
    rw [List.eraseRepsBy.loop, List.mem_reverse, List.mem_cons, List.mem_singleton, or_comm]
  | b :: bs, a, acc, hp, hr => by
    unfold List.eraseRepsBy.loop
    by_cases hab : a = b
    · subst hab
      obtain ⟨hr', hm⟩ := loop_spec bs a acc hp.of_cons hr
      simp only [beq_self_eq_true]
      refine ⟨hr', fun k => ?_⟩
      rw [hm, List.mem_cons, List.mem_cons, List.mem_cons]
      grind
    · have hlt : compare a b = .lt := by
        have hle := List.rel_of_pairwise_cons hp (List.mem_cons_self)
        cases hc : compare a b with
        | lt => rfl
        | eq => exact absurd (LawfulEqCmp.eq_of_compare hc) hab
        | gt => exact absurd hc hle
      have hr' : Rising (b :: a :: acc).reverse := by
        rw [List.reverse_cons]
        refine Rising.append hr (List.pairwise_singleton _ _) (fun x hx y hy => ?_)
        rw [List.mem_singleton] at hy
        subst hy
        rw [List.mem_reverse, List.mem_cons] at hx
        rcases hx with rfl | hx
        · exact hlt
        · rw [List.reverse_cons] at hr
          have hxa := (List.pairwise_append.1 hr).2.2 x (List.mem_reverse.2 hx) a List.mem_cons_self
          exact TransCmp.lt_trans hxa hlt
      obtain ⟨hr'', hm⟩ := loop_spec bs b (a :: acc) hp.of_cons hr'
      simp only [beq_eq_false_iff_ne.2 hab]
      refine ⟨hr'', fun k => ?_⟩
      rw [hm, List.mem_cons, List.mem_cons, List.mem_cons]
      grind

/-- **The keys of a list of scalars**, ascending and each once. -/
theorem distinctKeys_spec (l : List Scalar) :
    Rising (distinctKeys l) ∧ ∀ k, k ∈ distinctKeys l ↔ ∃ s ∈ l, IndexKey.ofScalar s = k := by
  have hle : ∀ x y : Bytes, (compare x y != .gt) = true ↔ compare x y ≠ .gt := fun x y => bne_iff_ne
  have hsorted : ((l.map IndexKey.ofScalar).mergeSort (fun a b => compare a b != .gt)).Pairwise
      (fun x y => compare x y ≠ .gt) := by
    refine List.Pairwise.imp (fun h => (hle _ _).1 h) (List.pairwise_mergeSort (fun a b c hab hbc => ?_)
      (fun a b => ?_) _)
    · exact (hle a c).2 (compare_le_trans ((hle a b).1 hab) ((hle b c).1 hbc))
    · rw [Bool.or_eq_true, hle, hle]
      by_cases hg : compare a b = .gt
      · exact Or.inr (compare_le_of_lt (OrientedCmp.lt_of_gt hg))
      · exact Or.inl hg
  have hmem : ∀ k, k ∈ (l.map IndexKey.ofScalar).mergeSort (fun a b => compare a b != .gt) ↔
      ∃ s ∈ l, IndexKey.ofScalar s = k := fun k => by rw [List.mem_mergeSort, List.mem_map]
  unfold distinctKeys List.eraseReps
  generalize (l.map IndexKey.ofScalar).mergeSort (fun a b => compare a b != .gt) = keys at hsorted hmem
  cases keys with
  | nil => exact ⟨Rising.nil, hmem⟩
  | cons a as =>
    obtain ⟨hr, hm⟩ := loop_spec as a [] hsorted (List.pairwise_singleton _ _)
    refine ⟨hr, fun k => ?_⟩
    rw [← hmem]
    exact (hm k).trans ⟨fun h => h.resolve_left List.not_mem_nil, Or.inr⟩

/-! ## Plans -/

variable {γ : Type}

theorem scalars_spec : ∀ {ws : List (Value γ)} {l : List Scalar}, scalars ws = some l → ws = l.map .plain
  | [],              l, h => by
    cases h
    rfl
  | .plain s :: ws,  l, h => by
    obtain ⟨l', hl, rfl⟩ := Option.map_eq_some_iff.1 h
    rw [List.map_cons, ← scalars_spec hl]
  | .custom _ :: ws, l, h => by cases h

variable [Custom γ] in
/-- A relational range holds the keys that the relation accepts. -/
theorem relationRange_exact {rel : Relation} {w : Scalar} {r : KeyRange} (h : relationRange rel w = some r)
    (s : Scalar) :
    r.contains (IndexKey.ofScalar s) = true ↔ Criterion.Holds (γ := γ) (.relates rel (.plain w)) (.plain s) := by
  show _ ↔ ∃ o, Scalar.compare s w = .ok o ∧ rel.accepts o = true
  rw [IndexKey.compare_ok_iff]
  have hend := IndexKey.lt_familyEnd s w.kind
  have hstart := IndexKey.familyStart_le s w.kind
  have hsw : compare (IndexKey.ofScalar s) (IndexKey.ofScalar w) ≠ .gt → _ := IndexKey.tag_le_of_compare
  have hws : compare (IndexKey.ofScalar w) (IndexKey.ofScalar s) ≠ .gt → _ := IndexKey.tag_le_of_compare
  have htag : IndexKey.tag s.kind = IndexKey.tag w.kind ↔
      (IndexKey.tag s.kind).toNat ≤ (IndexKey.tag w.kind).toNat ∧
        (IndexKey.tag w.kind).toNat ≤ (IndexKey.tag s.kind).toNat :=
    ⟨fun he => by rw [he]; exact ⟨Nat.le_refl _, Nat.le_refl _⟩, fun hle => IndexKey.tag_eq_of_le hle.1 hle.2⟩
  have hswap : compare (IndexKey.ofScalar w) (IndexKey.ofScalar s) =
      (compare (IndexKey.ofScalar s) (IndexKey.ofScalar w)).swap := OrientedCmp.eq_swap
  unfold relationRange at h
  cases rel <;> cases h <;>
    simp only [KeyRange.exact, KeyRange.contains, KeyRange.aboveLower, KeyRange.belowUpper, Bool.and_eq_true,
      beq_iff_eq, bne_iff_ne, hend, hstart, htag, hswap, Relation.accepts]
  all_goals
    rw [hswap] at hws
    generalize compare (IndexKey.ofScalar s) (IndexKey.ofScalar w) = o at hsw hws ⊢
    cases o <;> simp only [Ordering.swap_lt, Ordering.swap_eq, Ordering.swap_gt] at hws ⊢ <;> simp_all

variable [Custom γ] in
/-- **A plan is exact**: a key is in its ranges exactly if every criterion holds on the scalar of the key. -/
theorem ranges_exact {cs : List (Criterion γ)} {rs : List KeyRange} (h : ranges cs = some rs) (s : Scalar) :
    (∃ r ∈ rs, r.contains (IndexKey.ofScalar s) = true) ↔ ∀ c ∈ cs, c.Holds (.plain s) := by
  unfold ranges at h
  split at h
  · cases h
    simp [KeyRange.contains_all]
  · obtain ⟨r, hr, rfl⟩ := Option.map_eq_some_iff.1 h
    simpa using relationRange_exact hr s
  · obtain ⟨l, hl, rfl⟩ := Option.map_eq_some_iff.1 h
    rw [scalars_spec hl]
    have hone : Criterion.Holds (γ := γ) (.oneOf (l.map .plain)) (.plain s) ↔
        ∃ w ∈ l, Scalar.compare s w = .ok .eq := by
      constructor
      · rintro ⟨v, hv, he⟩
        obtain ⟨w, hw, rfl⟩ := List.mem_map.1 hv
        exact ⟨w, hw, he⟩
      · rintro ⟨w, hw, he⟩
        exact ⟨_, List.mem_map_of_mem hw, he⟩
    simp only [List.mem_singleton, forall_eq, hone]
    constructor
    · rintro ⟨r, hr, hc⟩
      obtain ⟨k, hk, rfl⟩ := List.mem_map.1 hr
      obtain ⟨w, hw, he⟩ := ((distinctKeys_spec l).2 _).1 hk
      exact ⟨w, hw, IndexKey.ofScalar_eq_iff.1 ((KeyRange.contains_exact.1 hc).trans he.symm)⟩
    · rintro ⟨w, hw, he⟩
      exact ⟨_, List.mem_map_of_mem (((distinctKeys_spec l).2 _).2 ⟨w, hw, rfl⟩),
        KeyRange.contains_exact.2 (IndexKey.ofScalar_eq_iff.2 he)⟩
  · cases h

/-- **Ranges in ascending order, no two of which share a key.** -/
def Apart (rs : List KeyRange) : Prop :=
  rs.Pairwise (fun r r' => ∀ k k', r.contains k = true → r'.contains k' = true → compare k k' = .lt)

theorem ranges_apart {cs : List (Criterion γ)} {rs : List KeyRange} (h : ranges cs = some rs) : Apart rs := by
  unfold ranges at h
  split at h
  · cases h
    exact List.pairwise_singleton _ _
  · obtain ⟨r, -, rfl⟩ := Option.map_eq_some_iff.1 h
    exact List.pairwise_singleton _ _
  · obtain ⟨l, -, rfl⟩ := Option.map_eq_some_iff.1 h
    unfold Apart
    rw [List.pairwise_map]
    refine List.Pairwise.imp (fun hab k k' hk hk' => ?_) (distinctKeys_spec l).1
    rw [KeyRange.contains_exact.1 hk, KeyRange.contains_exact.1 hk']
    exact hab
  · cases h

/-- A key that goes on is above its beginning. -/
theorem lt_append_zero (k : Bytes) : compare k (k ++ [0]) = .lt := by
  induction k with
  | nil => rfl
  | cons b t ih => rw [List.cons_append, IndexKey.compare_same_tag, ih]

/-- What a key goes on with leaves it below the end of its family. -/
theorem append_lt_familyEnd (s : Scalar) (t : Bytes) :
    compare (IndexKey.ofScalar s ++ t) (IndexKey.familyEnd s.kind) = .lt := by
  unfold IndexKey.ofScalar IndexKey.familyEnd
  rw [List.cons_append, compare_cons, compare_uint8, IndexKey.toNat_tag_succ, Nat.compare_eq_lt.2 (Nat.lt_succ_self _)]
  rfl

theorem relationRange_inhabited {rel : Relation} {w : Scalar} {r : KeyRange} (h : relationRange rel w = some r) :
    ∃ k, r.contains k = true := by
  have hstart := IndexKey.familyStart_lt w
  unfold relationRange at h
  cases rel <;> cases h
  case eq => exact ⟨_, KeyRange.contains_exact.2 rfl⟩
  case gt =>
    refine ⟨IndexKey.ofScalar w ++ [0], ?_⟩
    simp [KeyRange.contains, KeyRange.aboveLower, KeyRange.belowUpper, lt_append_zero, append_lt_familyEnd]
  case ge =>
    refine ⟨IndexKey.ofScalar w, ?_⟩
    simp [KeyRange.contains, KeyRange.aboveLower, KeyRange.belowUpper, IndexKey.lt_familyEnd]
  all_goals
    refine ⟨IndexKey.familyStart w.kind, ?_⟩
    simp [KeyRange.contains, KeyRange.aboveLower, KeyRange.belowUpper, hstart]

/-- **No planned range is empty.** -/
theorem ranges_inhabited {cs : List (Criterion γ)} {rs : List KeyRange} (h : ranges cs = some rs) :
    ∀ r ∈ rs, ∃ k, r.contains k = true := by
  unfold ranges at h
  split at h
  · cases h
    exact List.forall_mem_singleton.2 ⟨[], KeyRange.contains_all []⟩
  · obtain ⟨r, hr, rfl⟩ := Option.map_eq_some_iff.1 h
    exact List.forall_mem_singleton.2 (relationRange_inhabited hr)
  · obtain ⟨l, -, rfl⟩ := Option.map_eq_some_iff.1 h
    intro r hr
    obtain ⟨k, -, rfl⟩ := List.mem_map.1 hr
    exact ⟨k, KeyRange.contains_exact.2 rfl⟩
  · cases h

/-- Of ranges that are apart, a key is in one at most. -/
theorem Apart.unique {rs : List KeyRange} (h : Apart rs) {k : Bytes} {i j : Fin rs.length}
    (hi : rs[i].contains k = true) (hj : rs[j].contains k = true) : i = j := by
  have hne : ∀ {i j : Fin rs.length}, i < j → rs[i].contains k = true → rs[j].contains k = true → False := by
    intro i j hlt hi hj
    have hself := List.pairwise_iff_getElem.1 h i j i.isLt j.isLt hlt k k hi hj
    rw [ReflOrd.compare_self] at hself
    cases hself
  rcases Nat.lt_trichotomy i j with hlt | heq | hgt
  · exact (hne hlt hi hj).elim
  · exact Fin.ext heq
  · exact (hne hgt hj hi).elim

variable [Custom γ] in
/-- **A plan is exact.**  The key of a scalar is in one of the ranges exactly if every criterion holds on the scalar.
The ranges are inhabited, in ascending order and apart, so no key is in two of them. -/
theorem plan_exact {cs : List (Criterion γ)} {rs : List KeyRange} (h : ranges cs = some rs) :
    (∀ s : Scalar, ∃ k, (Value.plain s : Value γ).indexKey = .ok k ∧
        ((∃ r ∈ rs, r.contains k = true) ↔ ∀ c ∈ cs, c.Holds (.plain s))) ∧
      (∀ r ∈ rs, ∃ k, r.contains k = true) ∧
      Apart rs ∧
      ∀ (k : Bytes) (i j : Fin rs.length), rs[i].contains k = true → rs[j].contains k = true → i = j :=
  ⟨fun s => ⟨_, rfl, ranges_exact h s⟩, ranges_inhabited h, ranges_apart h,
    fun _ _ _ => (ranges_apart h).unique⟩

/-- Four operands, three of them one number in different types. -/
def threes : List Scalar := [.int .i8 ⟨3, by decide⟩, .f64 0x4008000000000000, .string "a", .int .u64 ⟨3, by decide⟩]

/-- The plan for a list that names one number three times, with a text: the key of yet another three is in it. -/
theorem plan_exact_threes :
    (ranges [Criterion.oneOf (threes.map (Value.plain (γ := UserValue)))] =
        some ((distinctKeys threes).map .exact)) ∧
      Apart ((distinctKeys threes).map .exact) ∧
      ∃ r ∈ (distinctKeys threes).map KeyRange.exact,
        r.contains (IndexKey.ofScalar (.f32 0x40400000)) = true := by
  have hplan : ranges [Criterion.oneOf (threes.map (Value.plain (γ := UserValue)))] =
      some ((distinctKeys threes).map .exact) := rfl
  obtain ⟨hexact, -, hapart, -⟩ := plan_exact hplan
  obtain ⟨k, hk, hiff⟩ := hexact (.f32 0x40400000)
  cases hk
  have heq : Scalar.compare (.f32 0x40400000) (.int .i8 ⟨3, by decide⟩) = .ok .eq :=
    IndexKey.ofScalar_eq_iff.1 (by decide +kernel)
  exact ⟨hplan, hapart, hiff.2 (List.forall_mem_singleton.2 ⟨_, List.mem_cons_self, heq⟩)⟩

end Policy
end RecordHold
