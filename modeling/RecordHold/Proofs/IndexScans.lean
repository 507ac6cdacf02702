import RecordHold.Proofs.Pulling
import RecordHold.Sample.People
/-!
# Proofs.IndexScans — every candidate of an index, once and in order

A scan of index ranges comes upon the keys that the entries in these ranges list, range by range, entry by entry and in the
order of each list, less the keys that have no record (`rest_index`).  A range may have any bounds, ranges may overlap or be
crossed, and the last batch of a range may be full or not: a full one is followed by another, which may be empty, and only
a batch with fewer entries than asked for ends its range.  So the sizes of batches do not show in what is pulled
(`index_exact`).

Nothing is asked of the index but that its entries in the ranges can be read.
-/
namespace RecordHold

open Std Buckets

variable {γ : Type} {c : Codec} {b : Buckets}

/-- The entries of those of the keys that are stored, in order. -/
def Buckets.entriesOf (b : Buckets) (name : String) (keys : List Bytes) : List Entry :=
  keys.filterMap (fun k => (b.value? name k).map (k, ·))

/-- The keys that index entries list, in order. -/
def Codec.keysIn (c : Codec) (l : List Entry) : List Bytes := l.flatMap (fun e => c.keysOf e.2)

/-- Index entries that can be read: each lists keys, none of them empty. -/
def Codec.Legible (c : Codec) (l : List Entry) : Prop := ∀ e ∈ l, ∃ ks, c.keyList? e.2 = .ok ks ∧ [] ∉ ks.keys

theorem Codec.legible_iff {l : List Entry} :
    l.all (fun e => (c.keyList? e.2).toOption.any (fun ks => ks.keys.all (fun k => !k.isEmpty))) = true ↔ c.Legible l := by
  simp only [List.all_eq_true, Option.any_eq_true, toOption_eq_some, Bool.not_eq_true', List.isEmpty_eq_false_iff]
  refine forall_congr' (fun e => forall_congr' (fun _ => exists_congr (fun ks => and_congr_right (fun _ => ?_))))
  exact ⟨fun h hk => h [] hk rfl, fun h k hk he => h (he ▸ hk)⟩

instance (c : Codec) (l : List Entry) : Decidable (c.Legible l) := decidable_of_iff _ Codec.legible_iff

theorem Codec.Legible.nil_notMem {l : List Entry} (h : c.Legible l) : [] ∉ c.keysIn l := by
  intro hk
  obtain ⟨e, he, hk⟩ := List.mem_flatMap.1 hk
  obtain ⟨ks, hks, hne⟩ := h e he
  rw [keysOf, hks] at hk
  exact hne hk

namespace Scan

/-- **A batch that can be read** gives the keys it lists. -/
theorem listedKeys_legible {l : List Entry} (h : c.Legible l) : listedKeys c l = .ok (c.keysIn l) := by
  rw [listedKeys_eq (fun e he => (h e he).imp (fun _ hks => hks.1))]
  unfold postings Codec.keysIn
  rw [List.map_flatMap]
  simp only [List.map_map]
  exact congrArg (fun f => Except.ok (l.flatMap f)) (funext (fun e => List.map_id _))

/-- Keys stand for their entries, and a key without an entry for nothing. -/
theorem resolveAll_deferred {name : String} (hn : name ≠ "") : ∀ {keys : List Bytes}, [] ∉ keys →
    resolveAll b name (keys.map .deferred) = ⟨b.entriesOf name keys, none⟩
  | [],        _ => rfl
  | k :: keys, h => by
    have hk : k ≠ [] := fun he => h (he ▸ List.mem_cons_self)
    have ih := resolveAll_deferred hn (fun hmem => h (List.mem_cons_of_mem k hmem))
    rw [List.map_cons, resolveAll, resolve, b.lookup_of_ne hn hk, entriesOf, List.filterMap_cons]
    cases b.value? name k with
    | none => exact ih
    | some raw =>
      simp only [Except.map, Option.map_some, ih]
      rfl

/-- The ranges that are left: of the first, what comes after the last key read. -/
def rangesLeft : List KeyRange → Option Bytes → List KeyRange
  | [],      _      => []
  | r :: rs, resume => r.resumeAfter resume :: rs

theorem rangesLeft_none (ranges : List KeyRange) : rangesLeft ranges none = ranges := by
  cases ranges <;> rfl

/-- **A scan under way over ranges of an index**, with these keys in its buffer. -/
structure Along (c : Codec) (b : Buckets) (bucket : String) (ranges : List KeyRange) (resume : Option Bytes)
    (keys : List Bytes) (s : Scan) : Prop where
  source    : s.source = .index bucket ranges resume
  buffer    : s.buffer = keys.map .deferred
  exhausted : s.exhausted = false
  failure   : s.failure = none
  batchSize : 1 ≤ s.batchSize
  keys      : [] ∉ keys
  legible   : ∀ r ∈ rangesLeft ranges resume, c.Legible (within r (b.bucket bucket).entries)

/-- The keys that the ranges left list. -/
def keysLeft (c : Codec) (b : Buckets) (bucket : String) (ranges : List KeyRange) (resume : Option Bytes) : List Bytes :=
  (rangesLeft ranges resume).flatMap (fun r => c.keysIn (within r (b.bucket bucket).entries))

variable {s : Scan} {bucket : String} {r : KeyRange} {rs ranges : List KeyRange} {resume : Option Bytes}
  {keys : List Bytes}

/-- **One more batch** takes the first of the keys that the ranges left list, and leaves the others. -/
theorem Along.refill (h : Along c b bucket (r :: rs) resume keys s) (hbucket : bucket ≠ "") :
    ∃ ranges' resume' keys', Along c b bucket ranges' resume' keys' (s.refill c b) ∧
      keysLeft c b bucket (r :: rs) resume = keys' ++ keysLeft c b bucket ranges' resume' := by
  obtain ⟨name, source, n, buffer, exhausted, failure⟩ := s
  obtain ⟨hsrc, -, hx, hf, hn, -, hlegible⟩ := h
  simp only at hsrc hx hf hn
  subst hsrc hx hf
  have hscan := b.scan_eq hbucket (r.resumeAfter resume) n
  have hbatch := within_batch (b.bucket bucket).ascending r resume hn
  have hfirst : c.Legible (within (r.resumeAfter resume) (b.bucket bucket).entries) := hlegible _ List.mem_cons_self
  have hrest : ∀ r' ∈ rs, c.Legible (within r' (b.bucket bucket).entries) := fun r' hr' =>
    hlegible r' (List.mem_cons_of_mem _ hr')
  have hread : c.Legible ((within (r.resumeAfter resume) (b.bucket bucket).entries).take n) := fun e he =>
    hfirst e (List.mem_of_mem_take he)
  simp only [Scan.refill, hscan, listedKeys_legible hread]
  generalize (within (r.resumeAfter resume) (b.bucket bucket).entries).take n = batch at hbatch hread
  rcases hbatch with ⟨hlt, hW⟩ | ⟨hlt, e, he, hW⟩
  · -- the batch was the last of its range, and the next range begins at its beginning
    refine ⟨rs, none, c.keysIn batch, ?_, ?_⟩
    · simp only [hlt, if_true]
      exact ⟨rfl, rfl, rfl, rfl, hn, hread.nil_notMem, by rwa [rangesLeft_none]⟩
    · unfold keysLeft
      rw [rangesLeft_none, rangesLeft, List.flatMap_cons, hW]
  · refine ⟨r :: rs, some e.1, c.keysIn batch, ?_, ?_⟩
    · simp only [hlt, if_false, lastKey, he]
      refine ⟨rfl, rfl, rfl, rfl, hn, hread.nil_notMem, fun r' hr' => ?_⟩
      rcases List.mem_cons.1 hr' with rfl | hr'
      · intro x hx
        exact hfirst x (hW ▸ List.mem_append_right batch hx)
      · exact hrest r' hr'
    · unfold keysLeft rangesLeft
      rw [List.flatMap_cons, List.flatMap_cons, hW, Codec.keysIn, List.flatMap_append, List.append_assoc]
      rfl

/-- **What a scan of an index has still to come upon**: the stored entries of the keys in its buffer, and of those that the
ranges left list. -/
theorem rest_index (hbucket : bucket ≠ "") : ∀ (n : Nat) {s : Scan}
    {ranges : List KeyRange} {resume : Option Bytes} {keys : List Bytes}, s.need b ≤ n → s.bucket ≠ "" →
    Along c b bucket ranges resume keys s →
    s.rest c b = ⟨b.entriesOf s.bucket (keys ++ keysLeft c b bucket ranges resume), none⟩
  | 0,     s, _,      _,      _,    hneed, _,     _ => absurd (s.need_pos b) (by omega)
  | n + 1, s, ranges, resume, keys, hneed, hname, h => by
    rw [rest_eq h.batchSize, h.buffer, resolveAll_deferred hname h.keys, if_neg (by simp [h.exhausted])]
    unfold entriesOf
    rw [List.filterMap_append]
    cases ranges with
    | nil =>
      have hrefill : s.refill c b = { s with buffer := [], exhausted := true } := by
        unfold Scan.refill
        rw [h.source]
      have hdone : (s.refill c b).rest c b = ⟨[], none⟩ := by
        rw [hrefill, rest_eq (s := { s with buffer := [], exhausted := true }) h.batchSize]
        rfl
      rw [hdone, hrefill]
      simp only [h.failure]
      rfl
    | cons r rs =>
      obtain ⟨ranges', resume', keys', h', hleft⟩ := h.refill hbucket
      have hlt := need_refill h.batchSize h.exhausted h'.failure
      have ih := rest_index hbucket n (by omega) (by rwa [bucket_refill]) h'
      rw [h'.failure, ih, hleft, bucket_refill]
      rfl

/-- **An index scan comes upon every candidate, in order, and then ends.**  Pulled again and again in a store that does
not change, it gives for each range of the plan, for each index entry in it and for each key that the entry lists the
stored entry of that key, if there is one, and nothing else; the pull after the last of them has none, and nothing fails.
The size of a batch appears nowhere in what is pulled. -/
theorem index_exact (c : Codec) (b : Buckets) {bucket : String} (hbucket : bucket ≠ "") {indexes : List String}
    {cl : Clause γ} {policy : Policy γ} {field : String} {ranges : List KeyRange} (hfield : cl.index = some field)
    (hindex : field ∈ indexes) (hplan : policy (cl.on field) = some ranges)
    (hlegible : ∀ r ∈ ranges, c.Legible (within r (b.bucket (indexBucket bucket field)).entries)) (batchSize n : Nat) :
    let found := ranges.flatMap (fun r => (within r (b.bucket (indexBucket bucket field)).entries).flatMap
      (fun e => (c.keysOf e.2).filterMap (fun k => (b.value? bucket k).map (k, ·))))
    let w := ((Scan.start bucket indexes cl policy batchSize).walk b).run c (List.replicate n .pull)
    w.pulled = found.take n ∧ (w.ended = true ↔ found.length < n) ∧ w.scan.finish = .ok () ∧ w.buckets = b := by
  intro found w
  have hsource : (Scan.start bucket indexes cl policy batchSize).source =
      .index (indexBucket bucket field) ranges none := by
    simp only [Scan.start, hfield, if_pos hindex, hplan, Option.map_some]
  have halong : Along c b (indexBucket bucket field) ranges none [] (Scan.start bucket indexes cl policy batchSize) :=
    ⟨hsource, rfl, rfl, rfl, Nat.le_max_left _ _, List.not_mem_nil, by rwa [rangesLeft_none]⟩
  have hrest : (Scan.start bucket indexes cl policy batchSize).rest c b = ⟨found, none⟩ := by
    rw [rest_index (indexBucket_ne_empty bucket field) _ (Nat.le_refl _) hbucket halong, keysLeft, rangesLeft_none,
      List.nil_append, entriesOf, List.filterMap_flatMap]
    simp only [Codec.keysIn, List.filterMap_flatMap]
    rfl
  obtain ⟨hb, hpulled, hended, hfailure⟩ := Walk.run_pulls (c := c) b n [] halong.batchSize halong.failure
  rw [hrest] at hpulled hended hfailure
  refine ⟨hpulled, hended, ?_, hb⟩
  have hnone : w.scan.failure = none := hfailure.trans (ite_self none)
  rw [finish, hnone]

/-- An index that lists one key three times and one without a record, read one entry at a time and over all of it twice. -/
theorem index_exact_tangled :
    let w := ((Scan.start "Person" ["Name"] Sample.lateOrOlder.clause Sample.overlapping 1).walk Sample.tangled).run
      .binary (List.replicate 11 .pull)
    (∀ r ∈ [KeyRange.all, .all],
      Codec.binary.Legible (within r (Sample.tangled.bucket (indexBucket "Person" "Name")).entries)) ∧
      w.pulled.map Prod.fst = [[2], [1], [3], [1], [1], [2], [1], [3], [1], [1]] ∧ w.ended = true ∧
      w.scan.finish = .ok () := by
  intro w
  have hfield : Sample.lateOrOlder.clause.index = some "Name" := rfl
  have hindex : "Name" ∈ ["Name"] := by decide
  have hplan : Sample.overlapping (Sample.lateOrOlder.clause.on "Name") = some [.all, .all] := rfl
  have hlegible : ∀ r ∈ [KeyRange.all, .all],
      Codec.binary.Legible (within r (Sample.tangled.bucket (indexBucket "Person" "Name")).entries) := by
    decide +kernel
  have hbucket : "Person" ≠ "" := by decide
  obtain ⟨hpulled, hended, hfinish, -⟩ :=
    index_exact .binary Sample.tangled hbucket hfield hindex hplan hlegible 1 11
  exact ⟨hlegible, by rw [hpulled]; decide +kernel, hended.2 (by decide +kernel), hfinish⟩

end Scan
end RecordHold
