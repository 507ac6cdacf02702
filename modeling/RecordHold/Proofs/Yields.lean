import RecordHold.Proofs.Traversing
/-!
# Proofs.Yields — what a traversal comes upon in a store at rest

A visitor that only reads sees one state from beginning to end.  What a scan comes upon is then the same for every such
visitor: some entries, one after the other, and perhaps a failure behind them (`Scan.yield`).  A node considers the
entries of its scan in turn and fails where the scan failed (`node_yield`).

Nothing is asked of the state.  An index may list a key twice, under several values, or without a record: the entries of
a yield are stored entries all the same (`yield_stored`), and a key is visited only if it has not been handled before.
So whatever the visit of a stored record with a new key keeps, a traversal keeps (`traverse_reading`).
-/
namespace RecordHold

open Std Buckets

variable {γ σ : Type} {T : RecordType γ} {c : Codec} {b : Buckets}

/-! ## Yields -/

/-- **What a scan comes upon**: entries, and the failure it ends with, if it does. -/
structure Yield where
  entries : List Entry
  failure : Option QueryError

/-- One yield, and another one behind it unless it ended with a failure. -/
def Yield.andThen (y z : Yield) : Yield :=
  match y.failure with
  | some _ => y
  | none   => ⟨y.entries ++ z.entries, z.failure⟩

/-- An answer, and the next one if it is to go on. -/
def Answer.andThen (a : Answer σ) (next : σ → Answer σ) : Answer σ :=
  match a with
  | (.ok true, s) => next s
  | answer        => answer

/-- What an answer has and the next one keeps, both together leave. -/
theorem Answer.keeps_andThen {J : σ → Prop} {a : Answer σ} {next : σ → Answer σ} (h : J a.2)
    (hnext : ∀ {s}, J s → J (next s).2) : J (a.andThen next).2 := by
  rcases a with ⟨e | _ | _, s⟩
  · exact h
  · exact h
  · exact hnext h

/-- The answer after a scan. -/
def Yield.close (y : Yield) (s : σ) : Answer σ :=
  match y.failure with
  | some e => (.error e, s)
  | none   => (.ok true, s)

theorem Yield.cons_andThen (e : Entry) (l : List Entry) (f : Option QueryError) (z : Yield) :
    Yield.andThen ⟨e :: l, f⟩ z = ⟨e :: (Yield.andThen ⟨l, f⟩ z).entries, (Yield.andThen ⟨l, f⟩ z).failure⟩ := by
  cases f <;> rfl

theorem Yield.mem_andThen {y z : Yield} {e : Entry} (h : e ∈ (y.andThen z).entries) :
    e ∈ y.entries ∨ e ∈ z.entries := by
  unfold andThen at h
  split at h
  · exact Or.inl h
  · exact List.mem_append.1 h

namespace Scan

/-- What candidates stand for, up to the first whose look-up fails. -/
def resolveAll (b : Buckets) (name : String) : List Candidate → Yield
  | []     => ⟨[], none⟩
  | k :: t =>
    match resolve b name k with
    | .error e     => ⟨[], some (.store e)⟩
    | .ok none     => resolveAll b name t
    | .ok (some e) => ⟨e :: (resolveAll b name t).entries, (resolveAll b name t).failure⟩

/-- **What a scan comes upon in a state that does not change**, reading as many batches as there is fuel for. -/
def yield (codec : Codec) (b : Buckets) (name : String) : Nat → Scan → Yield
  | 0,        _    => ⟨[], none⟩
  | fuel + 1, scan =>
    (resolveAll b name scan.buffer).andThen
      (if scan.exhausted then ⟨[], none⟩
      else
        match (scan.refill codec b).failure with
        | some e => ⟨[], some e⟩
        | none   => yield codec b name fuel (scan.refill codec b))

/-! ## What another batch leaves as it is -/

theorem bucket_refill (s : Scan) : (s.refill c b).bucket = s.bucket := by
  unfold refill
  split
  · split <;> rfl
  · rfl
  · split
    · rfl
    · simp only
      split <;> rfl

theorem batchSize_refill (s : Scan) : (s.refill c b).batchSize = s.batchSize := by
  unfold refill
  split
  · split <;> rfl
  · rfl
  · split
    · rfl
    · simp only
      split <;> rfl

theorem narrowed_refill (s : Scan) : (s.refill c b).narrowed = s.narrowed := by
  obtain ⟨name, source, n, buffer, exhausted, failure⟩ := s
  cases source with
  | primary resume =>
    simp only [refill]
    cases b.scan name (KeyRange.all.resumeAfter resume) n <;> rfl
  | index bucket ranges resume =>
    cases ranges with
    | nil => rfl
    | cons r rs =>
      simp only [refill]
      cases b.scan bucket (r.resumeAfter resume) n with
      | error e => rfl
      | ok batch =>
        simp only
        by_cases hn : batch.length < n <;> cases listedKeys c batch <;> simp only [hn, if_true, if_false] <;> rfl

/-! ## The entries of a yield are stored -/

/-- The entries that candidates bring along are stored. -/
def Loaded (T : RecordType γ) (b : Buckets) (buffer : List Candidate) : Prop :=
  ∀ e, .loaded e ∈ buffer → EntryOf T b e

theorem resolve_stored {k : Candidate} {e : Entry} (hk : ∀ e, k = .loaded e → EntryOf T b e)
    (h : resolve b T.bucket k = .ok (some e)) : EntryOf T b e := by
  cases k with
  | loaded e' =>
    cases h
    exact hk e rfl
  | deferred key =>
    obtain ⟨o, ho, hmap⟩ := Except.map_eq_ok h
    obtain ⟨raw, rfl, rfl⟩ := Option.map_eq_some_iff.1 hmap
    exact (lookup_eq_ok ho).2.2

theorem resolveAll_stored : ∀ {buffer : List Candidate}, Loaded T b buffer →
    ∀ e ∈ (resolveAll b T.bucket buffer).entries, EntryOf T b e
  | [],     _, e, he => by cases he
  | k :: t, h, e, he => by
    have ih := resolveAll_stored (fun e he => h e (List.mem_cons_of_mem k he))
    unfold resolveAll at he
    split at he
    · cases he
    · exact ih e he
    · rename_i x hx
      rcases List.mem_cons.1 he with rfl | he
      · exact resolve_stored (fun e hk => h e (hk ▸ List.mem_cons_self)) hx
      · exact ih e he

theorem scan_stored {name : String} {r : KeyRange} {n : Nat} {batch : List Entry} (h : b.scan name r n = .ok batch) :
    ∀ e ∈ batch, b.value? name e.1 = some e.2 := by
  intro e he
  obtain ⟨-, rfl⟩ := scan_eq_ok h
  exact mem_bucket.1 (List.mem_filter.1 (List.mem_of_mem_take he)).1

theorem refill_loaded {s : Scan} (hs : s.bucket = T.bucket) : Loaded T b (s.refill c b).buffer := by
  intro e he
  unfold refill at he
  split at he
  · split at he
    · cases he
    · rename_i batch hbatch
      obtain ⟨e', he', heq⟩ := List.mem_map.1 he
      cases heq
      rw [hs] at hbatch
      exact scan_stored hbatch e he'
  · cases he
  · split at he
    · cases he
    · simp only at he
      split at he
      · cases he
      · obtain ⟨k, -, heq⟩ := List.mem_map.1 he
        cases heq

/-- **The entries a scan comes upon are stored**, whatever its index lists. -/
theorem yield_stored : ∀ (fuel : Nat) {s : Scan}, s.bucket = T.bucket → Loaded T b s.buffer →
    ∀ e ∈ (yield c b T.bucket fuel s).entries, EntryOf T b e
  | 0,        _, _,  _,  e, he => by cases he
  | fuel + 1, s, hs, hl, e, he => by
    unfold yield at he
    rcases Yield.mem_andThen he with he | he
    · exact resolveAll_stored hl e he
    · split at he
      · cases he
      · split at he
        · cases he
        · exact yield_stored fuel ((bucket_refill s).trans hs) (refill_loaded hs) e he

end Scan

/-! ## Reading visitors -/

namespace Visitor

variable [Custom γ] {v : Visitor T σ} {x : Executor γ} {q : Query γ} {narrowed : Bool}

/-- Consider the entries of a yield, and fail if it did. -/
def take (v : Visitor T σ) (codec : Codec) (q : Query γ) (narrowed : Bool) (y : Yield) (s : σ) : Answer σ :=
  (v.considerAll codec q narrowed y.entries s).andThen y.close

theorem considerAll_cons (e : Entry) (l : List Entry) (s : σ) :
    v.considerAll c q narrowed (e :: l) s =
      (v.consider c q narrowed e s).andThen (v.considerAll c q narrowed l) := rfl

theorem take_andThen (y z : Yield) (s : σ) :
    v.take c q narrowed (y.andThen z) s = (v.take c q narrowed y s).andThen (v.take c q narrowed z) := by
  unfold take Yield.andThen
  rcases hf : y.failure with _ | e
  · simp only
    rw [considerAll_append]
    rcases v.considerAll c q narrowed y.entries s with ⟨e | _ | _, s'⟩
    · rfl
    · rfl
    · simp only [Answer.andThen, Yield.close, hf]
  · simp only
    rcases v.considerAll c q narrowed y.entries s with ⟨e | _ | _, s'⟩
    · rfl
    · rfl
    · simp only [Answer.andThen, Yield.close, hf]

/-- **A visitor only reads**: it sees one state all along. -/
def Reads (v : Visitor T σ) (b : Buckets) : Prop := ∀ s, v.view s = b

theorem drain_yield (hv : v.Reads b) : ∀ (buffer : List Candidate) (s : σ),
    v.drain c q narrowed buffer s = v.take c q narrowed (Scan.resolveAll b T.bucket buffer) s
  | [],     s => rfl
  | k :: t, s => by
    rw [drain, hv s, Scan.resolveAll]
    rcases Scan.resolve b T.bucket k with e | _ | e
    · rfl
    · exact drain_yield hv t s
    · simp only [take, considerAll_cons]
      rcases v.consider c q narrowed e s with ⟨x | _ | _, s'⟩
      · rfl
      · rfl
      · exact drain_yield hv t s'

theorem drainAll_yield (hv : v.Reads b) : ∀ (fuel : Nat) (scan : Scan) (s : σ),
    v.drainAll c q fuel scan s = v.take c q scan.narrowed (scan.yield c b T.bucket fuel) s
  | 0,        scan, s => rfl
  | fuel + 1, scan, s => by
    rw [drainAll, Scan.yield, take_andThen, drain_yield hv]
    rcases v.take c q scan.narrowed (Scan.resolveAll b T.bucket scan.buffer) s with ⟨e | _ | _, s'⟩
    · rfl
    · rfl
    · simp only [Answer.andThen, hv s']
      by_cases hx : scan.exhausted = true
      · rw [if_pos hx, if_pos hx]
        rfl
      · rw [if_neg hx, if_neg hx]
        rcases (scan.refill c b).failure with _ | e
        · simp only
          rw [drainAll_yield hv fuel, Scan.narrowed_refill]
        · rfl

/-- What the scan for a query's clause comes upon. -/
def yieldOf (x : Executor γ) (T : RecordType γ) (b : Buckets) (q : Query γ) : Yield :=
  let scan := Scan.start T.bucket T.indexes q.clause x.policy x.batchSize
  scan.yield x.codec b T.bucket (scan.batchBound b)

/-- **A node takes what its scan comes upon.** -/
theorem node_yield (hv : v.Reads b) (s : σ) :
    v.node x q s = v.take x.codec q (Scan.start T.bucket T.indexes q.clause x.policy x.batchSize).narrowed
      (yieldOf x T b q) s := by
  unfold node yieldOf
  simp only [hv s]
  exact drainAll_yield hv _ _ s

omit [Custom γ] in
theorem yieldOf_stored (x : Executor γ) (q : Query γ) : ∀ e ∈ (yieldOf x T b q).entries, EntryOf T b e :=
  Scan.yield_stored _ rfl (fun _ he => nomatch he)

/-! ## What reading keeps -/

variable {J : σ → Prop}

/-- **The visit of a stored record with a new key** keeps a property of the visitor's state. -/
def KeepsNew (v : Visitor T σ) (c : Codec) (b : Buckets) (J : σ → Prop) : Prop :=
  ∀ {key r s}, J s → (v.seen s).contains key = false → b.rows T c key = some r → J (v.visit key r s).2

theorem consider_reading (hJ : v.KeepsNew c b J) {e : Entry} (he : EntryOf T b e) {s : σ} (hs : J s) :
    J (v.consider c q narrowed e s).2 := by
  unfold consider
  split
  · exact hs
  · rename_i hnew
    split
    · exact hs
    · rename_i r hd
      split
      · exact hs
      · exact hs
      · exact hJ hs (by simpa using hnew) (rows_eq_some.2 ⟨e.2, he, hd⟩)

theorem considerAll_reading (hJ : v.KeepsNew c b J) : ∀ {l : List Entry} {s : σ}, (∀ e ∈ l, EntryOf T b e) → J s →
    J (v.considerAll c q narrowed l s).2
  | [],     s, _, hs => hs
  | e :: l, s, h, hs => by
    rw [considerAll_cons]
    exact Answer.keeps_andThen (consider_reading hJ (h e List.mem_cons_self) hs)
      (considerAll_reading hJ (fun e he => h e (List.mem_cons_of_mem _ he)))

theorem take_reading (hJ : v.KeepsNew c b J) {y : Yield} (hy : ∀ e ∈ y.entries, EntryOf T b e) {s : σ} (hs : J s) :
    J (v.take c q narrowed y s).2 := by
  refine Answer.keeps_andThen (considerAll_reading hJ hy hs) (fun {s} hs => ?_)
  unfold Yield.close
  split <;> exact hs

theorem visitAll_reading (hv : v.Reads b) (hJ : v.KeepsNew x.codec b J) (qs : List (Query γ)) {s : σ} (hs : J s) :
    J (v.visitAll x qs s).2 := by
  induction qs generalizing s with
  | nil => exact hs
  | cons q qs ih =>
    have hn : J (v.node x q s).2 := by
      rw [node_yield hv]
      exact take_reading hJ (yieldOf_stored x q) hs
    exact Answer.keeps_andThen hn ih

/-- **What every visit of a new stored record keeps, a traversal that only reads keeps**, whatever the state it reads
and whether it succeeds or fails. -/
theorem traverse_reading (hv : v.Reads b) (hJ : v.KeepsNew x.codec b J) (q : Query γ) {s : σ} (hs : J s) :
    J (v.traverse x q s).2 := by
  rw [traverse_eq]
  exact visitAll_reading hv hJ q.nodes hs

end Visitor
end RecordHold
