import RecordHold.Proofs.Consistency
import RecordHold.Proofs.Paging
import RecordHold.Query.Scan
import RecordHold.Sample.People
/-!
# Proofs.Candidates — what a scan has left to yield

A scan is confined to a source, and what a source has left in a state is a list of entries (`Source.left`): the rest
of the primary bucket, or the entries that the rest of the index ranges list.  One more batch takes the first of it
and leaves the others (`refill_primary`, `refill_index`).

Records may be removed while a scan is under way.  Of the keys that are not gone, a smaller consistent state has the
same left, in the same order (`Shrunk.left_filter`).
-/
namespace RecordHold

open Std Buckets

/-! ## The pairs that index entries list -/

/-- The keys that an index entry lists. -/
def Codec.keysOf (c : Codec) (raw : Bytes) : List Bytes :=
  match c.keyList? raw with
  | .ok l    => l.keys
  | .error _ => []

/-- The pairs of an index key and a primary key that index entries list, in order. -/
def postings (c : Codec) (l : List Entry) : List (Bytes × Bytes) := l.flatMap (fun e => (c.keysOf e.2).map (e.1, ·))

/-- Pairs in order of their first parts, and then of their second. -/
def Pairwise₂ (l : List (Bytes × Bytes)) : Prop :=
  l.Pairwise (fun p q => compare p.1 q.1 = .lt ∨ (p.1 = q.1 ∧ compare p.2 q.2 = .lt))

theorem Pairwise₂.ext {l l' : List (Bytes × Bytes)} (h : Pairwise₂ l) (h' : Pairwise₂ l') (hm : ∀ p, p ∈ l ↔ p ∈ l') :
    l = l' := by
  have hirr : ∀ p : Bytes × Bytes, ¬ (compare p.1 p.1 = .lt ∨ (p.1 = p.1 ∧ compare p.2 p.2 = .lt)) := by
    intro p
    rw [ReflOrd.compare_self, ReflOrd.compare_self]
    simp
  have hnd : ∀ {l : List (Bytes × Bytes)}, Pairwise₂ l → l.Nodup := fun hl =>
    List.Pairwise.imp (fun {p q} hpq he => by subst he; exact hirr p hpq) hl
  refine List.Perm.eq_of_pairwise (fun p q _ _ hpq hqp => ?_) h h' ((List.perm_ext_iff_of_nodup (hnd h) (hnd h')).2 hm)
  exfalso
  rcases hpq with hpq | ⟨he, hpq⟩
  · rcases hqp with hqp | ⟨he, -⟩
    · exact compare_lt_asymm hpq hqp
    · exact ne_of_compare_lt hpq he.symm
  · rcases hqp with hqp | ⟨-, hqp⟩
    · exact ne_of_compare_lt hqp he.symm
    · exact compare_lt_asymm hpq hqp

section Lists
variable {c : Codec} {b : Buckets} {bucket : String} {P : Bytes → Bytes → Prop} {keys : List Bytes}

/-- **An index entry is read as its list.** -/
theorem Lists.read (h : Lists c b bucket P) (hs : Sized keys) (hP : ∀ i k, P i k → k ∈ keys) {e : Entry}
    (he : e ∈ (b.bucket bucket).entries) :
    ∃ l, Rising l ∧ l ≠ [] ∧ (∀ k, k ∈ l ↔ P e.1 k) ∧ c.keyList? e.2 = .ok ⟨l⟩ := by
  obtain ⟨l, hr, hm, hv⟩ := h e.1
  have hv' : some e.2 = c.posting l := (mem_bucket.1 he).symm.trans hv
  unfold Codec.posting at hv'
  by_cases hl : l = []
  · rw [if_pos hl] at hv'
    cases hv'
  · rw [if_neg hl] at hv'
    refine ⟨l, hr, hl, hm, ?_⟩
    rw [Option.some.inj hv']
    exact c.keyList?_keyList (hs.of_subset hr (fun k hk => hP e.1 k ((hm k).1 hk)))

theorem Lists.keysOf (h : Lists c b bucket P) (hs : Sized keys) (hP : ∀ i k, P i k → k ∈ keys) {e : Entry}
    (he : e ∈ (b.bucket bucket).entries) : Rising (c.keysOf e.2) ∧ ∀ k, k ∈ c.keysOf e.2 ↔ P e.1 k := by
  obtain ⟨l, hr, -, hm, hread⟩ := h.read hs hP he
  unfold Codec.keysOf
  rw [hread]
  exact ⟨hr, hm⟩

/-- **The pairs of a part of an index** are the related ones whose index key is in that part. -/
theorem Lists.mem_postings (h : Lists c b bucket P) (hs : Sized keys) (hP : ∀ i k, P i k → k ∈ keys) (r : KeyRange)
    {p : Bytes × Bytes} :
    p ∈ postings c (within r (b.bucket bucket).entries) ↔ r.contains p.1 = true ∧ P p.1 p.2 := by
  obtain ⟨i, k⟩ := p
  unfold postings within
  rw [List.mem_flatMap]
  constructor
  · rintro ⟨e, he, hk⟩
    obtain ⟨he, hr⟩ := List.mem_filter.1 he
    obtain ⟨k', hk', hp⟩ := List.mem_map.1 hk
    cases hp
    exact ⟨hr, ((h.keysOf hs hP he).2 k).1 hk'⟩
  · rintro ⟨hr, hp⟩
    obtain ⟨l, -, hm, hv⟩ := h i
    have hne : l ≠ [] := List.ne_nil_of_mem ((hm k).2 hp)
    rw [Codec.posting, if_neg hne] at hv
    have he : (i, c.keyList ⟨l⟩) ∈ (b.bucket bucket).entries := mem_bucket.2 hv
    exact ⟨_, List.mem_filter.2 ⟨he, hr⟩, List.mem_map.2 ⟨k, ((h.keysOf hs hP he).2 k).2 hp, rfl⟩⟩

theorem Lists.pairwise_postings (h : Lists c b bucket P) (hs : Sized keys) (hP : ∀ i k, P i k → k ∈ keys)
    (r : KeyRange) : Pairwise₂ (postings c (within r (b.bucket bucket).entries)) := by
  have hasc : Ascending (within r (b.bucket bucket).entries) := (b.bucket bucket).ascending.within r
  have hmem : ∀ e ∈ within r (b.bucket bucket).entries, Rising (c.keysOf e.2) := fun e he =>
    (h.keysOf hs hP (List.mem_filter.1 he).1).1
  generalize within r (b.bucket bucket).entries = l at hasc hmem
  unfold Pairwise₂ postings
  rw [List.pairwise_flatMap]
  constructor
  · intro e he
    rw [List.pairwise_map]
    exact List.Pairwise.imp (fun hab => Or.inr ⟨rfl, hab⟩) (hmem e he)
  · refine List.Pairwise.imp (fun {e e'} hlt p hp q hq => ?_) hasc
    obtain ⟨k, -, rfl⟩ := List.mem_map.1 hp
    obtain ⟨k', -, rfl⟩ := List.mem_map.1 hq
    exact Or.inl hlt

end Lists

/-! ## Sources -/

/-- The entry of a stored key. -/
def Buckets.entry (b : Buckets) (name : String) (key : Bytes) : Entry := (key, (b.value? name key).getD [])

/-- The entries of the keys that a part of an index lists. -/
def listed (c : Codec) (b : Buckets) (name bucket : String) (r : KeyRange) : List Entry :=
  (postings c (within r (b.bucket bucket).entries)).map (fun p => b.entry name p.2)

/-- **What a source has left** in a state. -/
def Source.left (c : Codec) (b : Buckets) (name : String) : Source → List Entry
  | .primary resume                  => within (KeyRange.all.resumeAfter resume) (b.bucket name).entries
  | .index _ [] _                    => []
  | .index bucket (r :: rs) resume   => (r.resumeAfter resume :: rs).flatMap (listed c b name bucket)

/-- More batches than a source can still give. -/
def Source.need (b : Buckets) (name : String) : Source → Nat
  | .primary resume                  => (within (KeyRange.all.resumeAfter resume) (b.bucket name).entries).length + 2
  | .index _ [] _                    => 2
  | .index bucket (r :: rs) resume   =>
    (within (r.resumeAfter resume) (b.bucket bucket).entries).length + 1 +
      rs.length * ((b.bucket bucket).size + 1) + 2

/-- A source of a record type: its bucket, which needs a name to be scanned, or one of its indexes. -/
def Source.Of {γ : Type} (T : RecordType γ) : Source → Prop
  | .primary _        => T.bucket ≠ ""
  | .index bucket _ _ => ∃ f ∈ T.indexes, bucket = indexBucket T.bucket f

variable {γ : Type} [Custom γ] {T : RecordType γ} {c : Codec} {b v w : Buckets}

/-- **A state of a store**, consistent for a record type: every bucket and key has a name, and the keys of the type are
sized. -/
structure Sound (T : RecordType γ) (c : Codec) (b : Buckets) : Prop where
  consistent : Consistent T c b
  named      : b.Named
  sized      : Sized (b.bucket T.bucket).keys

theorem sound_people : Sound Sample.person.type .binary Sample.people :=
  ⟨by decide +kernel, by decide +kernel, by decide +kernel⟩

theorem mem_keys_of_under {f : String} (i k : Bytes) (h : Under (b.rows T c) f i k) : k ∈ (b.bucket T.bucket).keys :=
  Index.mem_keys_of_under_rows (fun _ => mem_keys_of_rows) h

theorem entry_of_value? {name : String} {k raw : Bytes} (h : b.value? name k = some raw) :
    b.entry name k = (k, raw) := by
  rw [Buckets.entry, h]
  rfl

/-- An entry of the record type's bucket. -/
def EntryOf (T : RecordType γ) (b : Buckets) (e : Entry) : Prop := b.value? T.bucket e.1 = some e.2

/-- **A key that an index lists has an entry.** -/
theorem Sound.entryOf_posting (h : Sound T c b) {f : String} (hf : f ∈ T.indexes) {l : List Entry}
    (hl : ∀ e ∈ l, e ∈ (b.bucket (indexBucket T.bucket f)).entries) {p : Bytes × Bytes} (hp : p ∈ postings c l) :
    EntryOf T b (b.entry T.bucket p.2) := by
  obtain ⟨e, he, hpe⟩ := List.mem_flatMap.1 hp
  obtain ⟨k, hk, rfl⟩ := List.mem_map.1 hpe
  obtain ⟨r, hr, -⟩ := (((h.consistent.lists f hf).keysOf h.sized mem_keys_of_under (hl e he)).2 k).1 hk
  obtain ⟨raw, hv, -⟩ := rows_eq_some.1 hr
  rw [entry_of_value? hv]
  exact hv

/-- What is left are stored entries. -/
theorem Sound.mem_left (h : Sound T c b) {src : Source} (hsrc : src.Of T) {e : Entry}
    (he : e ∈ src.left c b T.bucket) : EntryOf T b e := by
  cases src with
  | primary resume => exact mem_bucket.1 (List.mem_filter.1 he).1
  | index bucket ranges resume =>
    obtain ⟨f, hf, rfl⟩ := hsrc
    cases ranges with
    | nil => cases he
    | cons r rs =>
      obtain ⟨r', -, he⟩ := List.mem_flatMap.1 he
      obtain ⟨p, hp, rfl⟩ := List.mem_map.1 he
      exact h.entryOf_posting hf (fun e he => (List.mem_filter.1 he).1) hp

/-! ## A store that loses records -/

/-- Nothing is stored that was not before. -/
def Less (T : RecordType γ) (b v : Buckets) : Prop :=
  ∀ k raw, v.value? T.bucket k = some raw → b.value? T.bucket k = some raw

/-- **A state that has lost some records**, none but those with the given keys. -/
structure Shrunk (T : RecordType γ) (c : Codec) (b v : Buckets) (gone : List Bytes) : Prop where
  consistent : Consistent T c v
  named      : v.Named
  less       : Less T b v
  kept       : ∀ k, k ∉ gone → v.value? T.bucket k = b.value? T.bucket k

theorem Shrunk.refl (h : Sound T c b) (gone : List Bytes) : Shrunk T c b b gone :=
  ⟨h.consistent, h.named, fun _ _ => id, fun _ _ => rfl⟩

omit [Custom γ] in
theorem Less.mem_keys (h : Less T b v) {k : Bytes} (hk : k ∈ (v.bucket T.bucket).keys) :
    k ∈ (b.bucket T.bucket).keys := by
  obtain ⟨raw, hv⟩ := (v.bucket T.bucket).mem_keys.1 hk
  exact (b.bucket T.bucket).mem_keys.2 ⟨raw, h k raw hv⟩

omit [Custom γ] in
theorem Less.rows (h : Less T b v) {k : Bytes} {r : Record T} (hr : v.rows T c k = some r) :
    b.rows T c k = some r := by
  obtain ⟨raw, hv, hd⟩ := rows_eq_some.1 hr
  exact rows_eq_some.2 ⟨raw, h k raw hv, hd⟩

omit [Custom γ] in
theorem Less.sized (h : Less T b v) (hs : Sized (b.bucket T.bucket).keys) : Sized (v.bucket T.bucket).keys :=
  hs.of_subset (v.bucket T.bucket).rising_keys (fun _ hk => h.mem_keys hk)

theorem Shrunk.sound {gone : List Bytes} (h : Shrunk T c b v gone) (hs : Sized (b.bucket T.bucket).keys) :
    Sound T c v := ⟨h.consistent, h.named, h.less.sized hs⟩

/-- Is a key not among these? -/
def fresh (gone : List Bytes) (e : Entry) : Bool := decide (e.1 ∉ gone)

theorem fresh_iff {gone : List Bytes} {e : Entry} : fresh gone e = true ↔ e.1 ∉ gone := decide_eq_true_iff

/-- Of the keys that are not gone, an index lists the same for a range. -/
theorem Shrunk.listed_filter {gone : List Bytes} (h : Shrunk T c b v gone) (hb : Sound T c b) {f : String}
    (hf : f ∈ T.indexes) (r : KeyRange) :
    (listed c v T.bucket (indexBucket T.bucket f) r).filter (fresh gone) =
      (listed c b T.bucket (indexBucket T.bucket f) r).filter (fresh gone) := by
  have hv := h.sound hb.sized
  have hv' := hv.consistent.lists f hf
  have hb' := hb.consistent.lists f hf
  unfold listed
  rw [List.filter_map, List.filter_map]
  have hpairs : (postings c (within r (v.bucket (indexBucket T.bucket f)).entries)).filter
        (fresh gone ∘ fun p => v.entry T.bucket p.2) =
      (postings c (within r (b.bucket (indexBucket T.bucket f)).entries)).filter
        (fresh gone ∘ fun p => b.entry T.bucket p.2) := by
    refine Pairwise₂.ext (List.Pairwise.filter _ (hv'.pairwise_postings hv.sized mem_keys_of_under r))
      (List.Pairwise.filter _ (hb'.pairwise_postings hb.sized mem_keys_of_under r)) (fun ⟨i, k⟩ => ?_)
    rw [List.mem_filter, List.mem_filter, hv'.mem_postings hv.sized mem_keys_of_under r,
      hb'.mem_postings hb.sized mem_keys_of_under r]
    simp only [Function.comp_apply, fresh_iff, Buckets.entry]
    refine and_congr_left (fun hk => and_congr_right (fun _ => ?_))
    unfold Under Buckets.rows
    rw [h.kept k hk]
  rw [hpairs]
  refine List.map_congr_left (fun p hp => ?_)
  have hk := (List.mem_filter.1 hp).2
  rw [Function.comp_apply, fresh_iff] at hk
  unfold Buckets.entry
  rw [h.kept p.2 hk]

/-- **Of the keys that are not gone, the same is left**, in the same order. -/
theorem Shrunk.left_filter {gone : List Bytes} (h : Shrunk T c b v gone) (hb : Sound T c b) {src : Source}
    (hsrc : src.Of T) :
    (src.left c v T.bucket).filter (fresh gone) = (src.left c b T.bucket).filter (fresh gone) := by
  cases src with
  | primary resume =>
    unfold Source.left within
    refine Ascending.ext (List.Pairwise.filter _ ((v.bucket T.bucket).ascending.within _))
      (List.Pairwise.filter _ ((b.bucket T.bucket).ascending.within _)) (fun ⟨k, raw⟩ => ?_)
    rw [List.mem_filter, List.mem_filter, List.mem_filter, List.mem_filter, mem_bucket, mem_bucket, fresh_iff]
    constructor
    · rintro ⟨⟨hv, hc⟩, hk⟩
      exact ⟨⟨by rw [← h.kept k hk]; exact hv, hc⟩, hk⟩
    · rintro ⟨⟨hv, hc⟩, hk⟩
      exact ⟨⟨by rw [h.kept k hk]; exact hv, hc⟩, hk⟩
  | index bucket ranges resume =>
    obtain ⟨f, hf, rfl⟩ := hsrc
    cases ranges with
    | nil => rfl
    | cons r rs =>
      unfold Source.left
      rw [List.filter_flatMap, List.filter_flatMap]
      simp only [h.listed_filter hb hf]

/-! ## One more batch -/

/-- The entry a candidate stands for in a state. -/
def Candidate.entry (b : Buckets) (name : String) : Candidate → Entry
  | .loaded e     => e
  | .deferred key => b.entry name key

/-- A candidate is an entry of the record type's bucket, or a key that has one. -/
def Candidate.Of (T : RecordType γ) (b : Buckets) (cand : Candidate) : Prop := EntryOf T b (cand.entry b T.bucket)

/-- A scan for a record type, with all well so far. -/
structure Scan.Of (T : RecordType γ) (s : Scan) : Prop where
  bucket    : s.bucket = T.bucket
  source    : s.source.Of T
  batchSize : 1 ≤ s.batchSize
  failure   : s.failure = none

/-- What a scan has left behind its buffer. -/
def Scan.left (c : Codec) (b : Buckets) (s : Scan) : List Entry :=
  if s.exhausted then [] else s.source.left c b s.bucket

omit [Custom γ] in
/-- A candidate of a state that has lost records stands for what it did before. -/
theorem Candidate.Of.less (h : Less T b v) {cand : Candidate} (hc : cand.Of T v) :
    cand.Of T b ∧ cand.entry b T.bucket = cand.entry v T.bucket := by
  cases cand with
  | loaded e => exact ⟨h _ _ hc, rfl⟩
  | deferred k =>
    have hk := h k _ hc
    have he : b.entry T.bucket k = v.entry T.bucket k := entry_of_value? hk
    refine ⟨?_, he⟩
    show b.value? T.bucket (b.entry T.bucket k).1 = some (b.entry T.bucket k).2
    rw [he]
    exact hk

theorem Scan.Of.mem_left {s : Scan} (hs : s.Of T) (hb : Sound T c b) : ∀ e ∈ s.left c b, EntryOf T b e := by
  intro e he
  unfold Scan.left at he
  rw [hs.bucket] at he
  split at he
  · cases he
  · exact hb.mem_left hs.source he

/-- How many batches at most a scan has before it. -/
def Scan.need (b : Buckets) (s : Scan) : Nat := if s.exhausted then 1 else s.source.need b s.bucket

theorem Scan.need_pos (b : Buckets) (s : Scan) : 0 < s.need b := by
  unfold Scan.need Source.need
  split
  · exact Nat.one_pos
  · split <;> omega

/-- **One more batch lowers the need**, unless it fails. -/
theorem Scan.need_refill {s : Scan} (hn : 1 ≤ s.batchSize) (hx : s.exhausted = false)
    (hok : (s.refill c b).failure = none) : (s.refill c b).need b < s.need b := by
  obtain ⟨name, source, n, buffer, exhausted, failure⟩ := s
  simp only at hn hx
  subst hx
  cases source with
  | primary resume =>
    simp only [Scan.refill] at hok ⊢
    cases hscan : b.scan name (KeyRange.all.resumeAfter resume) n with
    | error e =>
      rw [hscan] at hok
      cases hok
    | ok batch =>
      obtain ⟨-, rfl⟩ := scan_eq_ok hscan
      have hbatch := within_batch (b.bucket name).ascending KeyRange.all resume hn
      simp only [Bool.false_or]
      generalize (within (KeyRange.all.resumeAfter resume) (b.bucket name).entries).take n = batch at hbatch
      rcases hbatch with ⟨hlt, -⟩ | ⟨hlt, e, he, hW⟩
      · simp [Scan.need, Source.need, hlt]
      · have hpos : 0 < batch.length := by omega
        have hlen := congrArg List.length hW
        rw [List.length_append] at hlen
        simp only [Scan.need, hlt, decide_false, Bool.false_eq_true, if_false, Source.need, Scan.lastKey, he]
        omega
  | index bucket ranges resume =>
    cases ranges with
    | nil => simp [Scan.need, Scan.refill, Source.need]
    | cons r rs =>
      simp only [Scan.refill] at hok ⊢
      cases hscan : b.scan bucket (r.resumeAfter resume) n with
      | error e =>
        rw [hscan] at hok
        cases hok
      | ok batch =>
        obtain ⟨-, rfl⟩ := scan_eq_ok hscan
        have hbatch := within_batch (b.bucket bucket).ascending r resume hn
        rw [hscan] at hok
        simp only at hok ⊢
        generalize (within (r.resumeAfter resume) (b.bucket bucket).entries).take n = batch at hbatch hok
        cases hkeys : Scan.listedKeys c batch with
        | error e =>
          rw [hkeys] at hok
          cases hok
        | ok keys =>
          simp only
          rcases hbatch with ⟨hlt, hW⟩ | ⟨hlt, e, he, hW⟩
          · have hlen := congrArg List.length hW
            simp only [Scan.need, hlt, if_true, Bool.false_eq_true, if_false]
            cases rs with
            | nil =>
              simp only [Source.need]
              omega
            | cons r' rs =>
              have hle : (within (r'.resumeAfter none) (b.bucket bucket).entries).length ≤ (b.bucket bucket).size :=
                List.length_filter_le _ _
              simp only [Source.need, List.length_cons, Nat.add_mul]
              omega
          · have hpos : 0 < batch.length := by omega
            have hlen := congrArg List.length hW
            rw [List.length_append] at hlen
            simp only [Scan.need, hlt, if_false, Bool.false_eq_true, Source.need, Scan.lastKey, he]
            omega

/-- **What one more batch does**: it takes the first entries of what is left. -/
structure Refilled (T : RecordType γ) (c : Codec) (v : Buckets) (s s' : Scan) : Prop where
  scan     : s'.Of T
  narrowed : s'.narrowed = s.narrowed
  buffer   : ∀ cand ∈ s'.buffer, cand.Of T v
  split    : s.left c v = s'.buffer.map (Candidate.entry v T.bucket) ++ s'.left c v
  need     : s'.need v < s.need v

omit [Custom γ] in
theorem refill_primary {s : Scan} (hs : s.Of T) (hx : s.exhausted = false) {resume : Option Bytes}
    (hsrc : s.source = .primary resume) : Refilled T c v s (s.refill c v) := by
  obtain ⟨bucket, source, n, buffer, exhausted, failure⟩ := s
  obtain ⟨hb, hsource, hn, hf⟩ := hs
  simp only at hb hsource hn hf hx hsrc
  subst hb hf hx hsrc
  have hmem : ∀ e ∈ (within (KeyRange.all.resumeAfter resume) (v.bucket T.bucket).entries).take n,
      v.value? T.bucket e.1 = some e.2 := fun e he =>
    mem_bucket.1 (List.mem_filter.1 (List.mem_of_mem_take he)).1
  have hbuf : ∀ l : List Entry, (l.map Candidate.loaded).map (Candidate.entry v T.bucket) = l := by
    intro l
    rw [List.map_map]
    exact List.map_id l
  have hrefill := v.scan_eq hsource (KeyRange.all.resumeAfter resume) n
  have hbatch := within_batch (v.bucket T.bucket).ascending KeyRange.all resume hn
  have hneed := Scan.need_refill (c := c) (b := v)
    (s := ⟨T.bucket, .primary resume, n, buffer, false, none⟩) hn rfl
  simp only [Scan.refill, hrefill, Bool.false_or] at hneed ⊢
  generalize hB : (within (KeyRange.all.resumeAfter resume) (v.bucket T.bucket).entries).take n = batch at *
  have hall : ∀ cand ∈ batch.map Candidate.loaded, cand.Of T v := by
    intro cand hcand
    obtain ⟨e, he, rfl⟩ := List.mem_map.1 hcand
    exact hmem e he
  rcases hbatch with ⟨hlt, hW⟩ | ⟨hlt, e, he, hW⟩
  · refine ⟨⟨rfl, hsource, hn, rfl⟩, rfl, hall, ?_, hneed trivial⟩
    simp only [Scan.left, hlt, decide_true, if_true, Bool.false_eq_true, if_false, List.append_nil, hbuf]
    exact hW
  · refine ⟨⟨rfl, hsource, hn, rfl⟩, rfl, hall, ?_, hneed trivial⟩
    simp only [Scan.left, hlt, decide_false, Bool.false_eq_true, if_false, hbuf, Scan.lastKey, he]
    exact hW

theorem listedKeys_eq : ∀ {l : List Entry}, (∀ e ∈ l, ∃ ks, c.keyList? e.2 = .ok ks) →
    Scan.listedKeys c l = .ok ((postings c l).map Prod.snd)
  | [],     _ => rfl
  | e :: l, h => by
    obtain ⟨ks, hks⟩ := h e List.mem_cons_self
    have ih := listedKeys_eq (fun e he => h e (List.mem_cons_of_mem _ he))
    have he : c.keysOf e.2 = ks.keys := by rw [Codec.keysOf, hks]
    rw [Scan.listedKeys, hks, postings, List.flatMap_cons, List.map_append, List.map_map, he]
    simp only [ih]
    show Except.ok (ks.keys ++ _) = _
    rw [show ks.keys.map (Prod.snd ∘ (e.1, ·)) = ks.keys from List.map_id _]
    rfl

omit [Custom γ] in
theorem entries_deferred (name : String) (l : List (Bytes × Bytes)) :
    ((l.map Prod.snd).map Candidate.deferred).map (Candidate.entry v name) = l.map (fun p => v.entry name p.2) := by
  rw [List.map_map, List.map_map]
  rfl

/-- **A batch of an index can be read**, and each key it lists is a candidate. -/
theorem Sound.listedKeys (hv : Sound T c v) {f : String} (hf : f ∈ T.indexes) {l : List Entry}
    (hl : ∀ e ∈ l, e ∈ (v.bucket (indexBucket T.bucket f)).entries) :
    Scan.listedKeys c l = .ok ((postings c l).map Prod.snd) ∧
      ∀ cand ∈ ((postings c l).map Prod.snd).map Candidate.deferred, cand.Of T v := by
  constructor
  · refine listedKeys_eq (fun e he => ?_)
    obtain ⟨ks, -, -, -, hks⟩ := (hv.consistent.lists f hf).read hv.sized mem_keys_of_under (hl e he)
    exact ⟨_, hks⟩
  · intro cand hcand
    obtain ⟨k, hk, rfl⟩ := List.mem_map.1 hcand
    obtain ⟨p, hp, rfl⟩ := List.mem_map.1 hk
    exact hv.entryOf_posting hf hl hp

theorem refill_index (hv : Sound T c v) {s : Scan} (hs : s.Of T) (hx : s.exhausted = false) {bucket : String}
    {ranges : List KeyRange} {resume : Option Bytes} (hsrc : s.source = .index bucket ranges resume) :
    Refilled T c v s (s.refill c v) := by
  obtain ⟨name, source, n, buffer, exhausted, failure⟩ := s
  obtain ⟨hb, hsource, hn, hf⟩ := hs
  simp only at hb hsource hn hf hx hsrc
  subst hb hf hx hsrc
  obtain ⟨f, hmem, rfl⟩ := hsource
  cases ranges with
  | nil =>
    refine ⟨⟨rfl, ⟨f, hmem, rfl⟩, hn, rfl⟩, rfl, fun _ hc => (nomatch hc), rfl, ?_⟩
    simp [Scan.need, Scan.refill, Source.need]
  | cons r rs =>
    have hrefill := v.scan_eq (indexBucket_ne_empty T.bucket f) (r.resumeAfter resume) n
    have hbatch := within_batch (v.bucket (indexBucket T.bucket f)).ascending r resume hn
    have hin : ∀ e ∈ (within (r.resumeAfter resume) (v.bucket (indexBucket T.bucket f)).entries).take n,
        e ∈ (v.bucket (indexBucket T.bucket f)).entries := fun e he =>
      (List.mem_filter.1 (List.mem_of_mem_take he)).1
    have hneed := Scan.need_refill (c := c) (b := v)
      (s := ⟨T.bucket, .index (indexBucket T.bucket f) (r :: rs) resume, n, buffer, false, none⟩) hn rfl
    simp only [Scan.refill, hrefill] at hneed ⊢
    generalize hB : (within (r.resumeAfter resume) (v.bucket (indexBucket T.bucket f)).entries).take n = batch at *
    obtain ⟨hkeys, hall⟩ := hv.listedKeys hmem hin
    have hbuf := entries_deferred (v := v) T.bucket (postings c batch)
    simp only [hkeys] at hneed ⊢
    have hlisted : listed c v T.bucket (indexBucket T.bucket f) (r.resumeAfter resume) =
        (postings c (within (r.resumeAfter resume) (v.bucket (indexBucket T.bucket f)).entries)).map
          (fun p => v.entry T.bucket p.2) := rfl
    rcases hbatch with ⟨hlt, hW⟩ | ⟨hlt, e, he, hW⟩
    · -- the range has come to its end
      simp only [hlt, if_true] at hneed ⊢
      refine ⟨⟨rfl, ⟨f, hmem, rfl⟩, hn, rfl⟩, rfl, hall, ?_, hneed trivial⟩
      simp only [Scan.left, Bool.false_eq_true, if_false, Source.left, hbuf, List.flatMap_cons, hlisted, hW]
      cases rs <;> rfl
    · simp only [hlt, if_false] at hneed ⊢
      refine ⟨⟨rfl, ⟨f, hmem, rfl⟩, hn, rfl⟩, rfl, hall, ?_, hneed trivial⟩
      simp only [Scan.left, Bool.false_eq_true, if_false, Source.left, hbuf, List.flatMap_cons,
        Scan.lastKey, he, listed]
      rw [hW, postings, List.flatMap_append, List.map_append, List.append_assoc]
      rfl

theorem refill_spec (hv : Sound T c v) {s : Scan} (hs : s.Of T) (hx : s.exhausted = false) :
    Refilled T c v s (s.refill c v) := by
  cases hsrc : s.source with
  | primary resume => exact refill_primary hs hx hsrc
  | index bucket ranges resume => exact refill_index hv hs hx hsrc

/-! ## Needs shrink with the store -/

theorem Sound.mem_index (hv : Sound T c v) {f : String} (hf : f ∈ T.indexes) {i : Bytes} :
    i ∈ (v.bucket (indexBucket T.bucket f)).keys ↔ ∃ k, Under (v.rows T c) f i k := by
  obtain ⟨l, -, hm, hl⟩ := hv.consistent.lists f hf i
  rw [Codec.posting] at hl
  show i ∈ (v.bucket (indexBucket T.bucket f)).entries.map Prod.fst ↔ _
  rw [SortedMap.mem_keys]
  change (∃ raw, v.value? (indexBucket T.bucket f) i = some raw) ↔ _
  rw [hl]
  cases l with
  | nil => simpa using hm
  | cons k t => simpa using ⟨k, (hm k).1 List.mem_cons_self⟩

theorem length_within_le {b v : Buckets} {name : String} (h : ∀ k ∈ (v.bucket name).keys, k ∈ (b.bucket name).keys)
    (r : KeyRange) :
    (within r (v.bucket name).entries).length ≤ (within r (b.bucket name).entries).length := by
  have hkeys : ∀ w : Buckets, (within r (w.bucket name).entries).map Prod.fst =
      (w.bucket name).keys.filter (r.contains ·) := by
    intro w
    rw [within, SortedMap.keys, List.filter_map]
    rfl
  have hv := congrArg List.length (hkeys v)
  have hb := congrArg List.length (hkeys b)
  rw [List.length_map] at hv hb
  rw [hv, hb]
  refine ((v.bucket name).rising_keys.filter _).nodup.length_le_of_subset (fun k hk => ?_)
  obtain ⟨hk, hr⟩ := List.mem_filter.1 hk
  exact List.mem_filter.2 ⟨h k hk, hr⟩

/-- A state with fewer records needs no more batches. -/
theorem Less.need_le (h : Less T b v) (hb : Sound T c b) (hv : Sound T c v) {s : Scan} (hs : s.Of T) :
    s.need v ≤ s.need b := by
  obtain ⟨name, source, n, buffer, exhausted, failure⟩ := s
  obtain ⟨hname, hsrc, -, -⟩ := hs
  simp only at hname hsrc
  subst hname
  unfold Scan.need
  cases exhausted with
  | true => exact Nat.le_refl _
  | false =>
    simp only [Bool.false_eq_true, if_false]
    cases source with
    | primary resume =>
      have hlen := length_within_le (fun k hk => h.mem_keys hk) (KeyRange.all.resumeAfter resume)
      simp only [Source.need]
      omega
    | index bucket ranges resume =>
      obtain ⟨f, hf, rfl⟩ := hsrc
      have hsub : ∀ k ∈ (v.bucket (indexBucket T.bucket f)).keys, k ∈ (b.bucket (indexBucket T.bucket f)).keys := by
        intro i hi
        obtain ⟨k, r, hr, hu⟩ := (hv.mem_index hf).1 hi
        exact (hb.mem_index hf).2 ⟨k, r, h.rows hr, hu⟩
      have hsize : (v.bucket (indexBucket T.bucket f)).size ≤ (b.bucket (indexBucket T.bucket f)).size := by
        have hlen := length_within_le hsub KeyRange.all
        have hall : ∀ l : List Entry, within KeyRange.all l = l := fun l =>
          List.filter_eq_self.2 (fun e _ => KeyRange.contains_all e.1)
        rwa [hall, hall] at hlen
      cases ranges with
      | nil => exact Nat.le_refl _
      | cons r rs =>
        have hlen := length_within_le hsub (r.resumeAfter resume)
        have hmul := Nat.mul_le_mul_left rs.length (Nat.add_le_add_right hsize 1)
        simp only [Source.need]
        omega

end RecordHold
