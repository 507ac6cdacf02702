import RecordHold.Proofs.Operations
import RecordHold.Proofs.Yields
/-!
# Proofs.Neighbours — what one record type notices of another

What a reader of a record type gets depends on the buckets of that type only, its own and those of its indexes
(`AgreeOn.sameAnswers`).  So calls on another type go unnoticed as long as the two have no bucket in common (`Apart`).

Whether they have is a question of names, since all buckets share one name space and an index bucket is named by two
texts with a colon between.  Two bucket names keep apart whatever the fields are called exactly if they differ, neither
names an index of the other, and neither is the other continued after a colon (`separate_iff`).  Names that are only
different need not keep apart.
-/
namespace RecordHold

open Std Buckets

variable {γ σ : Type} {T U : RecordType γ} {c : Codec} {b b' : Buckets}

/-! ## Scans -/

/-- **Two states agree on the buckets of a record type.** -/
def AgreeOn (U : RecordType γ) (b b' : Buckets) : Prop := ∀ n ∈ U.buckets, b'.get? n = b.get? n

namespace AgreeOn

variable {n : String}

theorem bucket (h : AgreeOn U b b') (hn : n ∈ U.buckets) : b'.bucket n = b.bucket n := by
  unfold Buckets.bucket
  rw [h n hn]

theorem lookup (h : AgreeOn U b b') (hn : n ∈ U.buckets) (key : Bytes) : b'.lookup n key = b.lookup n key := by
  unfold Buckets.lookup
  rw [h.bucket hn]

theorem scan (h : AgreeOn U b b') (hn : n ∈ U.buckets) (r : KeyRange) (limit : Nat) :
    b'.scan n r limit = b.scan n r limit := by
  unfold Buckets.scan
  rw [h.bucket hn]

end AgreeOn

namespace Scan

/-- **A scan reads buckets of a record type**, and looks its keys up there. -/
structure Reads (U : RecordType γ) (s : Scan) : Prop where
  bucket : s.bucket = U.bucket
  index  : ∀ n ranges resume, s.source = .index n ranges resume → n ∈ U.buckets

theorem reads_start (U : RecordType γ) (cl : Clause γ) (policy : Policy γ) (n : Nat) :
    (Scan.start U.bucket U.indexes cl policy n).Reads U := by
  refine ⟨rfl, fun m ranges resume h => ?_⟩
  have hsource : cl.source U policy = .index m ranges resume := h
  unfold Clause.source at hsource
  cases hp : cl.planned U policy with
  | none =>
    rw [hp] at hsource
    cases hsource
  | some p =>
    rw [hp] at hsource
    cases hsource
    exact RecordType.index_mem (Clause.planned_eq_some hp).2.1

theorem Reads.refill {s : Scan} (hs : s.Reads U) : (s.refill c b).Reads U := by
  refine ⟨(bucket_refill s).trans hs.bucket, fun n ranges resume h => ?_⟩
  unfold Scan.refill at h
  split at h
  · split at h
    · exact hs.index n ranges resume h
    · cases h
  · exact hs.index n ranges resume h
  · rename_i m r rs res hsrc
    have hm := hs.index m (r :: rs) res hsrc
    split at h
    · rw [hsrc] at h
      cases h
      exact hm
    · simp only at h
      split at h <;> simp only at h <;> split at h <;> cases h <;> exact hm

variable {s : Scan}

theorem refill_congr (h : AgreeOn U b b') (hs : s.Reads U) : s.refill c b' = s.refill c b := by
  unfold refill
  split
  · rw [hs.bucket, h.scan U.bucket_mem]
  · rfl
  · rename_i m r rs resume hsrc
    rw [h.scan (hs.index m (r :: rs) resume hsrc)]

theorem resolve_congr (h : AgreeOn U b b') (k : Candidate) : resolve b' U.bucket k = resolve b U.bucket k := by
  cases k with
  | loaded e     => rfl
  | deferred key => rw [resolve, resolve, h.lookup U.bucket_mem]

theorem resolveAll_congr (h : AgreeOn U b b') : ∀ buffer : List Candidate,
    resolveAll b' U.bucket buffer = resolveAll b U.bucket buffer
  | []          => rfl
  | k :: buffer => by
    rw [resolveAll, resolveAll, resolve_congr h, resolveAll_congr h buffer]

/-- A scan comes upon the same in states that agree. -/
theorem yield_congr (h : AgreeOn U b b') : ∀ (fuel : Nat) {s : Scan}, s.Reads U →
    yield c b' U.bucket fuel s = yield c b U.bucket fuel s
  | 0,        _, _  => rfl
  | fuel + 1, s, hs => by
    rw [yield, yield, resolveAll_congr h, refill_congr h hs, yield_congr h fuel hs.refill]

theorem batchBound_congr (h : AgreeOn U b b') (hs : s.Reads U) : s.batchBound b' = s.batchBound b := by
  unfold batchBound
  split
  · rw [hs.bucket, h.bucket U.bucket_mem]
  · rename_i n ranges resume hsrc
    rw [h.bucket (hs.index n ranges resume hsrc)]

end Scan

/-! ## Readers -/

namespace Visitor

variable [Custom γ] {v w : Visitor U σ} {x : Executor γ} {q : Query γ} {narrowed : Bool}

omit [Custom γ] in
theorem yieldOf_congr (h : AgreeOn U b b') (x : Executor γ) (q : Query γ) : yieldOf x U b' q = yieldOf x U b q := by
  have hs := Scan.reads_start U q.clause x.policy x.batchSize
  unfold yieldOf
  simp only [Scan.batchBound_congr h hs, Scan.yield_congr h _ hs]

/-- Two visitors that differ in what they see do the same with the same entries. -/
theorem considerAll_sameVisits (hseen : v.seen = w.seen) (hvisit : v.visit = w.visit) : ∀ (l : List Entry) (s : σ),
    v.considerAll c q narrowed l s = w.considerAll c q narrowed l s
  | [],     s => rfl
  | e :: l, s => by
    have hone : v.consider c q narrowed e s = w.consider c q narrowed e s := by
      unfold consider
      rw [hseen, hvisit]
    rw [considerAll_cons, considerAll_cons, hone]
    exact congrArg _ (funext (considerAll_sameVisits hseen hvisit l))

theorem visitAll_congr (h : AgreeOn U b b') (hv : v.Reads b') (hw : w.Reads b) (hseen : v.seen = w.seen)
    (hvisit : v.visit = w.visit) (qs : List (Query γ)) (s : σ) : v.visitAll x qs s = w.visitAll x qs s := by
  induction qs generalizing s with
  | nil => rfl
  | cons q qs ih =>
    have hnode : v.node x q s = w.node x q s := by
      rw [node_yield hv, node_yield hw, yieldOf_congr h]
      unfold take
      rw [considerAll_sameVisits hseen hvisit]
    rw [visitAll, visitAll, hnode]
    rcases w.node x q s with ⟨e | _ | _, s'⟩
    · rfl
    · rfl
    · exact ih s'

/-- **A traversal reads the same in states that agree.** -/
theorem traverse_congr (h : AgreeOn U b b') (hv : v.Reads b') (hw : w.Reads b) (hseen : v.seen = w.seen)
    (hvisit : v.visit = w.visit) (q : Query γ) (s : σ) : v.traverse x q s = w.traverse x q s := by
  rw [traverse_eq, traverse_eq]
  exact visitAll_congr h hv hw hseen hvisit q.nodes s

end Visitor

variable [Custom γ]

/-- **Two states give the same answers** to whoever reads a record type. -/
structure SameAnswers (U : RecordType γ) (b b' : Buckets) : Prop where
  get     : ∀ (x : Executor γ) key, Hold.get x U key b' = Hold.get x U key b
  find    : ∀ (x : Executor γ) q, Hold.find x U q b' = Hold.find x U q b
  findOne : ∀ (x : Executor γ) q, Hold.findOne x U q b' = Hold.findOne x U q b
  count   : ∀ (x : Executor γ) q, Hold.count x U q b' = Hold.count x U q b

/-- **The answers depend on the buckets of the record type only.** -/
theorem AgreeOn.sameAnswers (h : AgreeOn U b b') : SameAnswers U b b' where
  get x key := by
    have hload : ∀ k, Hold.load x U k b' = Hold.load x U k b := by
      intro k
      unfold Hold.load
      rw [h.lookup U.bucket_mem]
    unfold Hold.get
    simp only [hload]
  find x q := by
    unfold Hold.find Executor.select
    rw [Visitor.traverse_congr (v := Executor.selector U b') (w := Executor.selector U b) h (fun _ => rfl) (fun _ => rfl)
      rfl rfl]
  findOne x q := by
    unfold Hold.findOne Executor.first
    rw [Visitor.traverse_congr (v := Executor.finder U b') (w := Executor.finder U b) h (fun _ => rfl) (fun _ => rfl)
      rfl rfl]
  count x q := by
    unfold Hold.count Executor.count
    rw [Visitor.traverse_congr (v := Executor.counter U b') (w := Executor.counter U b) h (fun _ => rfl) (fun _ => rfl)
      rfl rfl]

/-! ## Names -/

/-- **Two record types have no bucket in common.** -/
def Apart (T U : RecordType γ) : Prop := ∀ n ∈ T.buckets, n ∉ U.buckets

instance (T U : RecordType γ) : Decidable (Apart T U) := inferInstanceAs (Decidable (∀ n ∈ T.buckets, n ∉ U.buckets))

/-- A name goes on with a colon after another one. -/
def Continues (a n : String) : Prop := (a.toList ++ [':']) <+: n.toList

instance (a n : String) : Decidable (Continues a n) := inferInstanceAs (Decidable (_ <+: _))

/-- **Two bucket names keep apart**: they differ, neither names an index of the other, and neither is the other
continued after a colon. -/
structure Separate (a n : String) : Prop where
  ne    : a ≠ n
  left  : ¬ Continues ("_index:" ++ n) a
  right : ¬ Continues ("_index:" ++ a) n
  apart : ¬ Continues a n ∧ ¬ Continues n a

theorem continues_iff {a n : String} : Continues a n ↔ ∃ t, a ++ ":" ++ t = n := by
  constructor
  · rintro ⟨l, hl⟩
    refine ⟨String.ofList l, String.toList_inj.1 ?_⟩
    simp only [String.toList_append, String.toList_ofList]
    exact hl
  · rintro ⟨t, rfl⟩
    unfold Continues
    rw [String.toList_append, String.toList_append]
    exact List.prefix_append _ _

/-- A name that goes on after an index prefix and a bucket is that of an index of the bucket. -/
theorem continues_index_iff {a n : String} : Continues ("_index:" ++ n) a ↔ ∃ g, indexBucket n g = a := continues_iff

/-- One list with a colon behind it begins another, if both go on to the same. -/
theorem continues_of_append : ∀ {a n f g : List Char}, a ++ ':' :: f = n ++ ':' :: g →
    a = n ∨ (a ++ [':']) <+: n ∨ (n ++ [':']) <+: a
  | [],     [],     _, _, _ => .inl rfl
  | [],     c :: n, _, _, h => by
    obtain ⟨rfl, -⟩ := List.cons.inj h
    exact .inr (.inl ⟨n, rfl⟩)
  | c :: a, [],     _, _, h => by
    obtain ⟨rfl, -⟩ := List.cons.inj h
    exact .inr (.inr ⟨a, rfl⟩)
  | c :: a, d :: n, _, _, h => by
    obtain ⟨rfl, h'⟩ := List.cons.inj h
    rcases continues_of_append h' with rfl | hp | hp
    · exact .inl rfl
    · exact .inr (.inl (List.cons_prefix_cons.2 ⟨rfl, hp⟩))
    · exact .inr (.inr (List.cons_prefix_cons.2 ⟨rfl, hp⟩))

/-- A bucket and its continuation share an index bucket, for the colon may stand in either name. -/
theorem Continues.indexBucket_eq {a n : String} (h : Continues a n) : ∃ f g, indexBucket a f = indexBucket n g := by
  obtain ⟨t, rfl⟩ := continues_iff.1 h
  exact ⟨t ++ ":", "", by simp only [indexBucket, String.append_assoc, String.append_empty]⟩

/-- **Two buckets have an index bucket in common** for some fields exactly if they are the same, or one is the other
continued after a colon. -/
theorem indexBucket_eq_iff {a n : String} :
    (∃ f g, indexBucket a f = indexBucket n g) ↔ a = n ∨ Continues a n ∨ Continues n a := by
  constructor
  · rintro ⟨f, g, he⟩
    have hl := congrArg String.toList he
    simp only [indexBucket, String.toList_append, List.append_assoc] at hl
    rcases continues_of_append (List.append_cancel_left hl) with ha | ha | ha
    · exact .inl (String.toList_inj.1 ha)
    · exact .inr (.inl ha)
    · exact .inr (.inr ha)
  · rintro (rfl | h | h)
    · exact ⟨"", "", rfl⟩
    · exact h.indexBucket_eq
    · obtain ⟨g, f, he⟩ := h.indexBucket_eq
      exact ⟨f, g, he.symm⟩

omit [Custom γ] in
/-- **Record types whose bucket names keep apart have no bucket in common.** -/
theorem Separate.apart_buckets (h : Separate T.bucket U.bucket) : Apart T U := by
  intro n hT hU
  rcases List.mem_cons.1 hT with rfl | hT
  · rcases List.mem_cons.1 hU with hU | hU
    · exact h.ne hU
    · obtain ⟨g, -, hg⟩ := List.mem_map.1 hU
      exact h.left (continues_index_iff.2 ⟨g, hg⟩)
  · obtain ⟨f, -, rfl⟩ := List.mem_map.1 hT
    rcases List.mem_cons.1 hU with hU | hU
    · exact h.right (continues_index_iff.2 ⟨f, hU⟩)
    · obtain ⟨g, -, hg⟩ := List.mem_map.1 hU
      rcases indexBucket_eq_iff.1 ⟨f, g, hg.symm⟩ with he | hc | hc
      · exact h.ne he
      · exact h.apart.1 hc
      · exact h.apart.2 hc

omit [Custom γ] in
/-- **Only such names keep record types apart**: with any other two, some types have a bucket in common. -/
theorem separate_iff {a n : String} :
    Separate a n ↔ ∀ T U : RecordType γ, T.bucket = a → U.bucket = n → Apart T U := by
  constructor
  · rintro h T U rfl rfl
    exact h.apart_buckets
  · intro h
    have hnone : ∀ f g : String, ∀ m ∈ [a, indexBucket a f], m ∉ [n, indexBucket n g] :=
      fun f g => h (.ofNames a [f]) (.ofNames n [g]) rfl rfl
    have hindexes : ∀ f g, indexBucket a f ≠ indexBucket n g := by
      intro f g he
      exact hnone f g (indexBucket a f) (by simp) (by simp [he])
    refine ⟨fun he => ?_, fun hc => ?_, fun hc => ?_, fun hc => ?_, fun hc => ?_⟩
    · exact hnone "" "" a (by simp) (by simp [he])
    · obtain ⟨g, hg⟩ := continues_index_iff.1 hc
      exact hnone "" g a (by simp) (by simp [hg])
    · obtain ⟨f, hf⟩ := continues_index_iff.1 hc
      exact hnone f "" n (by simp [hf]) (by simp)
    · obtain ⟨f, g, he⟩ := hc.indexBucket_eq
      exact hindexes f g he
    · obtain ⟨g, f, he⟩ := hc.indexBucket_eq
      exact hindexes f g he.symm

/-! ## Calls on another record type -/

/-- One call after the other, each in a transaction of its own. -/
def Store.callAll (x : Executor γ) (s : Store) (calls : List (Call γ)) : Store :=
  calls.foldl (fun s call => (s.alone (call.run x)).2) s

/-- One call after the other in one transaction, which keeps what a failing call wrote. -/
def Buckets.callAll (x : Executor γ) (b : Buckets) (calls : List (Call γ)) : Buckets :=
  calls.foldl (fun b call => ((call.run x).runOn b).2) b

omit [Custom γ] in
theorem Write.Stays.alone {ε α : Type} {names : List String} {w : Write ε α} (hw : w.Stays names) (s : Store) :
    Within names s.committed (s.alone w).2.committed := by
  have hb := hw s.committed
  unfold Store.alone
  rcases hrun : w.runOn s.committed with ⟨e | a, m⟩
  · exact Within.refl _ _
  · rw [hrun] at hb
    exact hb

theorem Store.within_callAll (x : Executor γ) : ∀ {calls : List (Call γ)} (s : Store), (∀ call ∈ calls, call.type = T) →
    Within T.buckets s.committed (s.callAll x calls).committed
  | [],            s, _ => Within.refl _ _
  | call :: calls, s, h => by
    have hcall := (call.stays x).alone s
    rw [h call List.mem_cons_self] at hcall
    exact hcall.trans (within_callAll x _ (fun c hc => h c (List.mem_cons_of_mem _ hc)))

theorem Buckets.within_callAll (x : Executor γ) : ∀ {calls : List (Call γ)} (b : Buckets),
    (∀ call ∈ calls, call.type = T) → Within T.buckets b (b.callAll x calls)
  | [],            b, _ => Within.refl _ _
  | call :: calls, b, h => by
    have hcall := call.stays x b
    rw [h call List.mem_cons_self] at hcall
    exact hcall.trans (within_callAll x _ (fun c hc => h c (List.mem_cons_of_mem _ hc)))

omit [Custom γ] in
theorem Within.agreeOn (h : Within T.buckets b b') (hapart : Apart T U) : AgreeOn U b b' :=
  fun n hn => h.others n (fun hT => hapart n hT hn)

/-- **Calls on one record type go unnoticed by another** if the two have no bucket in common, be it calls in transactions
of their own or in one transaction, those that fail included, from whatever state they start and whoever reads.  And two
types have none, whatever their fields are called, exactly if their bucket names keep apart. -/
theorem RecordType.undisturbed :
    (∀ (T U : RecordType γ), Apart T U → ∀ (x : Executor γ) (calls : List (Call γ)), (∀ call ∈ calls, call.type = T) →
        (∀ s : Store, SameAnswers U s.committed (s.callAll x calls).committed) ∧
          ∀ b : Buckets, SameAnswers U b (b.callAll x calls)) ∧
      ∀ a n : String, Separate a n ↔ ∀ T U : RecordType γ, T.bucket = a → U.bucket = n → Apart T U := by
  refine ⟨fun T U hapart x calls hcalls => ⟨fun s => ?_, fun b => ?_⟩, fun a n => separate_iff⟩
  · exact ((Store.within_callAll x s hcalls).agreeOn hapart).sameAnswers
  · exact ((Buckets.within_callAll x b hcalls).agreeOn hapart).sameAnswers

/-- Readings are not disturbed by calls on persons, the second of which fails. -/
theorem RecordType.undisturbed_readings :
    let calls : List (Call UserValue) := [.insert Sample.person.type Sample.firstKey Sample.tim,
      .update Sample.person.type Sample.thirdKey Sample.ann, .deleteMatching Sample.person.type none]
    Separate Sample.person.bucket Sample.reading.bucket ∧ (∀ call ∈ calls, call.type = Sample.person.type) ∧
      SameAnswers Sample.reading.type Sample.people (Sample.people.callAll Sample.stepwise calls) := by
  intro calls
  have hsep : Separate Sample.person.bucket Sample.reading.bucket :=
    ⟨by decide, by decide, by decide, by decide, by decide⟩
  have hcalls : ∀ call ∈ calls, call.type = Sample.person.type := by
    intro call hcall
    simp only [calls, List.mem_cons, List.not_mem_nil, or_false] at hcall
    rcases hcall with rfl | rfl | rfl <;> rfl
  obtain ⟨hsame, hnames⟩ := RecordType.undisturbed (γ := UserValue)
  have hapart := (hnames _ _).1 hsep Sample.person.type Sample.reading.type rfl rfl
  exact ⟨hsep, hcalls, (hsame _ _ hapart Sample.stepwise calls hcalls).2 Sample.people⟩

/-- A bucket may be named like an index of persons: then a person among them spoils its count.  And an index `B:C` of `A`
is also the index `C` of `A:B`: a query for the number 5 finds the number 7 once the other type has a 5 under its key. -/
theorem RecordType.disturbed :
    let shadow := (Sample.numbered "_index:Person:Name" "Id").type
    let inner := (Sample.numbered "A" "B:C").type
    let outer := (Sample.numbered "A:B" "C").type
    let x : Executor UserValue := Sample.stepwise
    let before := (Hold.insert x Sample.firstKey (Sample.number "A" "B:C" ⟨7, by decide⟩)).runOn SortedMap.empty
    let fives : Query UserValue := .node ((Clause.empty.nominate "B:C").add "B:C"
      (.relates .eq (.plain (.int .u8 ⟨5, by decide⟩)))) []
    Sample.person.bucket ≠ shadow.bucket ∧ Hold.count x shadow none SortedMap.empty = .ok 0 ∧
      Hold.count x shadow none
        (Buckets.callAll x SortedMap.empty [.insert Sample.person.type Sample.firstKey Sample.tim]) ≠ .ok 0 ∧
      inner.bucket ≠ outer.bucket ∧ Hold.find x inner (some fives) before.2 = .ok [] ∧
      Hold.find x inner (some fives) (Buckets.callAll x before.2
          [.insert outer Sample.firstKey (Sample.number "A:B" "C" ⟨5, by decide⟩)]) =
        .ok [Sample.number "A" "B:C" ⟨7, by decide⟩] := by
  decide +kernel

end RecordHold
