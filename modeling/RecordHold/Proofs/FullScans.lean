import RecordHold.Proofs.Pulling
import RecordHold.Proofs.Readers
/-!
# Proofs.FullScans — finding without an index

A scan that is not narrowed considers all entries of a record type's bucket, in key order (`yieldOf_full`).  No state is
asked to be consistent: every key comes once, so a node decodes and asks every entry that the nodes before it have left,
takes the records that it accepts and leaves the other entries (`Query.gather`, `considerAll_sifts`).  Finding gives what
all nodes have taken, or fails at the first entry that is no record or gives no answer (`find_full`).  Without a query
all records are accepted.
-/
namespace RecordHold

open Std Buckets

variable {γ : Type} {T : RecordType γ} {c : Codec} {b : Buckets}

/-! ## All entries of a bucket -/

namespace Scan

/-- The candidates are entries, each of them read already. -/
def AllLoaded (buffer : List Candidate) : Prop := ∃ l : List Entry, buffer = l.map .loaded

theorem resolveAll_loaded (b : Buckets) (name : String) : ∀ l : List Entry,
    resolveAll b name (l.map .loaded) = ⟨l, none⟩
  | []     => rfl
  | e :: l => by
    rw [List.map_cons, resolveAll, resolve, resolveAll_loaded b name l]

theorem entries_loaded (name : String) (l : List Entry) :
    (l.map Candidate.loaded).map (Candidate.entry b name) = l := by
  rw [List.map_map]
  exact List.map_id l

/-- One more batch of a bucket holds entries. -/
theorem allLoaded_refill {s : Scan} {resume : Option Bytes} (hsrc : s.source = .primary resume) :
    AllLoaded (s.refill c b).buffer := by
  unfold refill
  rw [hsrc]
  simp only
  split
  · exact ⟨[], rfl⟩
  · exact ⟨_, rfl⟩

theorem primary_of_not_narrowed {s : Scan} (h : s.narrowed = false) : ∃ resume, s.source = .primary resume := by
  unfold narrowed at h
  split at h
  · cases h
  · exact ⟨_, ‹_›⟩

/-- **A scan of a bucket comes upon what it has left of it**, given fuel enough. -/
theorem yield_primary : ∀ (fuel : Nat) {s : Scan} {l : List Entry}, s.Of T → s.narrowed = false →
    s.buffer = l.map .loaded → s.need b ≤ fuel → yield c b T.bucket fuel s = ⟨l ++ s.left c b, none⟩
  | 0,        s, _, _,  _,  _,    hfuel => absurd (s.need_pos b) (by omega)
  | fuel + 1, s, l, hs, hn, hbuf, hfuel => by
    unfold yield
    rw [hbuf, resolveAll_loaded]
    by_cases hx : s.exhausted = true
    · rw [if_pos hx, Scan.left, if_pos hx]
      rfl
    · obtain ⟨resume, hsrc⟩ := primary_of_not_narrowed hn
      obtain ⟨l', hl'⟩ := allLoaded_refill (c := c) (b := b) hsrc
      have hre := refill_primary (c := c) (v := b) hs (by simpa using hx) hsrc
      have ih := yield_primary fuel hre.scan (hre.narrowed.trans hn) hl' (by have := hre.need; omega)
      have hsplit := hre.split
      rw [hl', entries_loaded] at hsplit
      rw [if_neg hx, hre.scan.failure, hsplit]
      simp only
      rw [ih]
      rfl

variable {cl : Clause γ} {policy : Policy γ} {indexes : List String} {n : Nat}

theorem start_of_not_narrowed {bucket : String} (h : (start bucket indexes cl policy n).narrowed = false) :
    start bucket indexes cl policy n = ⟨bucket, .primary none, max 1 n, [], false, none⟩ := by
  unfold start narrowed at h
  unfold start
  simp only at h ⊢
  split at h
  · cases h
  · rename_i resume hsource
    split at hsource
    · cases hsource
    · rfl

/-- **A scan that is not narrowed comes upon all entries** of a bucket with a name. -/
theorem yield_full (hT : T.bucket ≠ "") (h : (start T.bucket indexes cl policy n).narrowed = false) {fuel : Nat}
    (hfuel : (start T.bucket indexes cl policy n).need b ≤ fuel) :
    yield c b T.bucket fuel (start T.bucket indexes cl policy n) = ⟨(b.bucket T.bucket).entries, none⟩ := by
  have hstart := start_of_not_narrowed h
  have hscan : (start T.bucket indexes cl policy n).Of T := by
    rw [hstart]
    exact ⟨rfl, hT, Nat.le_max_left _ _, rfl⟩
  have hleft : (start T.bucket indexes cl policy n).left c b = (b.bucket T.bucket).entries := by
    rw [hstart]
    exact List.filter_eq_self.2 (fun e _ => KeyRange.contains_all e.1)
  rw [yield_primary fuel hscan h (l := []) rfl hfuel, hleft]
  rfl

end Scan

theorem Visitor.yieldOf_full {x : Executor γ} {q : Query γ} (hT : T.bucket ≠ "")
    (h : (Scan.start T.bucket T.indexes q.clause x.policy x.batchSize).narrowed = false) (b : Buckets) :
    yieldOf x T b q = ⟨(b.bucket T.bucket).entries, none⟩ :=
  Scan.yield_full hT h (Scan.need_le_batchBound b _)

/-! ## The records accepted -/

variable [Custom γ] {q : Query γ}

/-- **What a node takes from entries**: the records that its clause accepts, and beside them the entries that it leaves.
The first entry that is no record, or gives no answer, ends it. -/
def Query.gather (q : Query γ) (T : RecordType γ) (c : Codec) :
    List Entry → Except QueryError (List (Record T) × List Entry)
  | []     => .ok ([], [])
  | e :: l =>
    match Record.decode T c e.2 with
    | .error x => .error (.decode x)
    | .ok r    =>
      match q.matchesRecord c false e.1 r with
      | .error x  => .error x
      | .ok false => (gather q T c l).map (fun p => (p.1, e :: p.2))
      | .ok true  => (gather q T c l).map (fun p => (r :: p.1, p.2))

/-- What nodes take one after the other, each from what those before it left. -/
def Query.gatherAll (T : RecordType γ) (c : Codec) : List (Query γ) → List Entry → Except QueryError (List (Record T))
  | [],      _ => .ok []
  | q :: qs, l =>
    match q.gather T c l with
    | .error x       => .error x
    | .ok (rs, left) => (gatherAll T c qs left).map (rs ++ ·)

/-- The first node has gathered if all nodes have. -/
theorem Query.gather_of_gatherAll {qs : List (Query γ)} {l : List Entry} {rs : List (Record T)}
    (h : gatherAll T c (q :: qs) l = .ok rs) : ∃ p, q.gather T c l = .ok p := by
  unfold gatherAll at h
  cases hg : q.gather T c l with
  | error x =>
    rw [hg] at h
    cases h
  | ok p => exact ⟨p, rfl⟩

/-- All entries are gathered from if each of them is a record and gives an answer. -/
theorem Query.gather_isOk_iff : ∀ {l : List Entry},
    (∃ p, q.gather T c l = .ok p) ↔
      ∀ e ∈ l, ∃ r a, Record.decode T c e.2 = .ok r ∧ q.matchesRecord c false e.1 r = .ok a
  | []     => ⟨fun _ _ he => (nomatch he), fun _ => ⟨_, rfl⟩⟩
  | e :: l => by
    rw [List.forall_mem_cons, ← gather_isOk_iff, gather]
    cases Record.decode T c e.2 with
    | error x => exact ⟨fun ⟨_, h⟩ => (nomatch h), fun ⟨⟨_, _, h, _⟩, _⟩ => (nomatch h)⟩
    | ok r =>
      simp only
      cases hm : q.matchesRecord c false e.1 r with
      | error x =>
        refine ⟨fun ⟨_, h⟩ => (nomatch h), ?_⟩
        rintro ⟨⟨r', a, hr, ha⟩, -⟩
        cases hr
        rw [hm] at ha
        cases ha
      | ok a =>
        have hhead : ∃ r' a', (Except.ok r : Except CodecError (Record T)) = .ok r' ∧
            q.matchesRecord c false e.1 r' = .ok a' := ⟨r, a, rfl, hm⟩
        have hmap : ∀ f : List (Record T) × List Entry → List (Record T) × List Entry,
            (∃ p, (q.gather T c l).map f = .ok p) ↔ ∃ p, q.gather T c l = .ok p := by
          intro f
          cases q.gather T c l with
          | error x => exact ⟨fun ⟨_, h⟩ => (nomatch h), fun ⟨_, h⟩ => (nomatch h)⟩
          | ok p => exact ⟨fun _ => ⟨p, rfl⟩, fun _ => ⟨f p, rfl⟩⟩
        rw [and_iff_right hhead]
        cases a <;> exact hmap _

/-- What a selection of an answer comes to: its records, or the failure. -/
def Executor.recordsOf (a : Answer (Executor.Selection T)) : Except QueryError (List (Record T)) :=
  a.1.map (fun _ => a.2.records)

namespace Executor

/-- **A selection that a node has gone through entries with**: records are appended, and of the entries those are left
whose keys are still not matched. -/
structure Sifted (l : List Entry) (s s' : Selection T) (rs : List (Record T)) (left : List Entry) : Prop where
  rising  : Rising s'.matched.keys
  records : s'.records = s.records ++ rs
  left    : l.filter (fresh s'.matched.keys) = left
  keeps   : ∀ k ∈ s.matched.keys, k ∈ s'.matched.keys
  within  : ∀ k ∈ s'.matched.keys, k ∈ s.matched.keys ∨ k ∈ l.map Prod.fst

/-- An answer says what was gathered: it fails as that did, or goes on with the entries sifted. -/
def Sifts (l : List Entry) (s : Selection T) (a : Answer (Selection T)) :
    Except QueryError (List (Record T) × List Entry) → Prop
  | .error x       => a.1 = .error x
  | .ok (rs, left) => ∃ s', a = (.ok true, s') ∧ Sifted l s s' rs left

variable {l : List Entry} {s s' t : Selection T} {e : Entry} {rs : List (Record T)} {left : List Entry}

omit [Custom γ] in
/-- What an answer says of entries it says of more of them, if the selection sifted is that of more. -/
theorem Sifts.map {l' : List Entry} {a : Answer (Selection T)} {g : Except QueryError (List (Record T) × List Entry)}
    {f : List (Record T) × List Entry → List (Record T) × List Entry} (h : Sifts l t a g)
    (hf : ∀ {s' rs left}, Sifted l t s' rs left → Sifted l' s s' (f (rs, left)).1 (f (rs, left)).2) :
    Sifts l' s a (g.map f) := by
  cases g with
  | error x => exact h
  | ok p =>
    obtain ⟨s', ha, hs⟩ := h
    exact ⟨s', ha, hf hs⟩

omit [Custom γ] in
/-- An entry with a matched key is passed over. -/
theorem Sifted.seen (h : Sifted l s s' rs left) (he : e.1 ∈ s.matched.keys) : Sifted (e :: l) s s' rs left := by
  refine ⟨h.rising, h.records, ?_, h.keeps, fun k hk => (h.within k hk).imp_right (List.mem_cons_of_mem _)⟩
  rw [List.filter_cons, if_neg (fun hf => fresh_iff.1 hf (h.keeps e.1 he)), h.left]

omit [Custom γ] in
/-- An entry that the clause does not accept is left. -/
theorem Sifted.leave (h : Sifted l s s' rs left) (he : e.1 ∉ s.matched.keys) (hl : e.1 ∉ l.map Prod.fst) :
    Sifted (e :: l) s s' rs (e :: left) := by
  have hnew : e.1 ∉ s'.matched.keys := fun hk => (h.within e.1 hk).elim he hl
  refine ⟨h.rising, h.records, ?_, h.keeps, fun k hk => (h.within k hk).imp_right (List.mem_cons_of_mem _)⟩
  rw [List.filter_cons, if_pos (fresh_iff.2 hnew), h.left]

omit [Custom γ] in
/-- The record of an entry that the clause accepts comes before those of the entries behind it. -/
theorem Sifted.take {r : Record T} (hs : Rising s.matched.keys)
    (h : Sifted l ⟨(s.matched.insert e.1).2, s.records ++ [r]⟩ s' rs left) : Sifted (e :: l) s s' (r :: rs) left := by
  have hmem := (KeyList.insert_spec hs e.1).2
  have he : e.1 ∈ s'.matched.keys := h.keeps e.1 ((hmem e.1).2 (Or.inl rfl))
  refine ⟨h.rising, ?_, ?_, fun k hk => h.keeps k ((hmem k).2 (Or.inr hk)), fun k hk => ?_⟩
  · rw [h.records, List.append_assoc, List.singleton_append]
  · rw [List.filter_cons, if_neg (fun hf => fresh_iff.1 hf he), h.left]
  · rcases h.within k hk with hk | hk
    · exact ((hmem k).1 hk).symm.imp_right (fun hk => List.mem_cons.2 (Or.inl hk))
    · exact Or.inr (List.mem_cons_of_mem _ hk)

/-- **Going through entries gathers from those with new keys**, if no key comes twice. -/
theorem considerAll_sifts : ∀ {l : List Entry} {s : Selection T}, (l.map Prod.fst).Nodup → Rising s.matched.keys →
    Sifts l s ((selector T b).considerAll c q false l s) (q.gather T c (l.filter (fresh s.matched.keys)))
  | [],     s, _,   hs => ⟨s, rfl, hs, (List.append_nil _).symm, rfl, fun _ => id, fun _ => Or.inl⟩
  | e :: l, s, hnd, hs => by
    rw [List.map_cons, List.nodup_cons] at hnd
    rw [Visitor.considerAll_cons, List.filter_cons]
    by_cases he : e.1 ∈ s.matched.keys
    · rw [if_neg (fun hf => fresh_iff.1 hf he), Visitor.consider_seen (v := selector T b) hs he]
      have ih : Sifts (e :: l) s _ _ := (considerAll_sifts hnd.2 hs).map (f := id) (fun h => h.seen he)
      rwa [Except.map_id] at ih
    · have hseen : s.matched.contains e.1 = false :=
        Bool.eq_false_iff.2 (fun h => he ((KeyList.contains_iff hs).1 h))
      rw [if_pos (fresh_iff.2 he), Query.gather, Visitor.consider]
      show Sifts _ _ (Answer.andThen (if s.matched.contains e.1 = true then _ else _) _) _
      rw [hseen]
      cases Record.decode T c e.2 with
      | error x => rfl
      | ok r =>
        simp only
        rcases hm : q.matchesRecord c false e.1 r with x | _ | _
        · rfl
        · exact (considerAll_sifts hnd.2 hs).map (fun h => h.leave he hnd.1)
        · obtain ⟨hr, hmem⟩ := KeyList.insert_spec hs e.1
          have hsame : l.filter (fresh (s.matched.insert e.1).2.keys) = l.filter (fresh s.matched.keys) := by
            refine List.filter_congr (fun y hy => ?_)
            have hne : y.1 ≠ e.1 := fun h => hnd.1 (h ▸ List.mem_map_of_mem hy)
            exact decide_eq_decide.2 (not_congr ((hmem y.1).trans (or_iff_right hne)))
          have ih := considerAll_sifts (s := ⟨(s.matched.insert e.1).2, s.records ++ [r]⟩) hnd.2 hr
          rw [hsame] at ih
          exact ih.map (Sifted.take hs)

end Executor

/-! ## All nodes -/

/-- An answer that fails nowhere behind its entries is the answer to them. -/
theorem Answer.andThen_close {σ : Type} (a : Answer σ) (l : List Entry) : a.andThen (Yield.close ⟨l, none⟩) = a := by
  rcases a with ⟨e | _ | _, s⟩ <;> rfl

namespace Executor

variable {x : Executor γ} {s : Selection T}

/-- **A node that no index narrows goes through the whole bucket.** -/
theorem node_full (hT : T.bucket ≠ "") (hq : q.clause.planned T x.policy = none) (s : Selection T) :
    (selector T b).node x q s = (selector T b).considerAll x.codec q false (b.bucket T.bucket).entries s := by
  have hfull : (Scan.start T.bucket T.indexes q.clause x.policy x.batchSize).narrowed = false := by
    rw [Clause.narrowed_start, hq]
    rfl
  rw [Visitor.node_yield (v := selector T b) (fun _ => rfl), Visitor.yieldOf_full hT hfull, hfull]
  exact Answer.andThen_close _ _

/-- **Nodes that no index narrows gather from the bucket**, each what those before it left. -/
theorem visitAll_gathers (hT : T.bucket ≠ "") : ∀ {qs : List (Query γ)} {s : Selection T},
    (∀ q ∈ qs, q.clause.planned T x.policy = none) → Rising s.matched.keys →
    recordsOf ((selector T b).visitAll x qs s) =
      (Query.gatherAll T x.codec qs ((b.bucket T.bucket).entries.filter (fresh s.matched.keys))).map (s.records ++ ·)
  | [],      s, _, _  => congrArg Except.ok (List.append_nil _).symm
  | q :: qs, s, h, hs => by
    have hsift := considerAll_sifts (c := x.codec) (b := b) (q := q) (b.bucket T.bucket).rising_keys.nodup hs
    rw [Visitor.visitAll, node_full hT (h q List.mem_cons_self), Query.gatherAll]
    cases hg : q.gather T x.codec ((b.bucket T.bucket).entries.filter (fresh s.matched.keys)) with
    | error y =>
      rw [hg] at hsift
      rcases hall : (selector T b).considerAll x.codec q false (b.bucket T.bucket).entries s with ⟨y' | _ | _, s'⟩
      · rw [hall] at hsift
        cases hsift
        rfl
      · rw [hall] at hsift
        cases hsift
      · rw [hall] at hsift
        cases hsift
    | ok p =>
      rw [hg] at hsift
      obtain ⟨s', hrun, hS⟩ := hsift
      have ih := visitAll_gathers hT (fun q' hq' => h q' (List.mem_cons_of_mem q hq')) hS.rising
      rw [hS.left] at ih
      rw [hrun]
      simp only
      rw [ih, hS.records]
      cases Query.gatherAll T x.codec qs p.2 with
      | error y => rfl
      | ok rs => exact congrArg Except.ok (List.append_assoc _ _ _)

end Executor

theorem Hold.ofQuery_eq_ok {α : Type} {x : Except QueryError α} {a : α} : ofQuery x = .ok a ↔ x = .ok a := by
  cases x <;> simp [ofQuery]

/-- **A query that no index narrows finds what its nodes gather from the bucket**, or reports the first entry that is no
record or gives no answer. -/
theorem Hold.find_full {x : Executor γ} {q : Option (Query γ)} (hT : T.bucket ≠ "")
    (hq : ∀ n ∈ (Executor.orAll q).nodes, n.clause.planned T x.policy = none) (b : Buckets) :
    Hold.find x T q b =
      ofQuery (Query.gatherAll T x.codec (Executor.orAll q).nodes (b.bucket T.bucket).entries) := by
  have hall := Executor.visitAll_gathers (b := b) (s := ⟨.empty, []⟩) hT hq Rising.nil
  have hfresh : (b.bucket T.bucket).entries.filter (fresh []) = (b.bucket T.bucket).entries :=
    List.filter_eq_self.2 (fun e _ => fresh_iff.2 List.not_mem_nil)
  have hnil : (([] : List (Record T)) ++ ·) = id := funext List.nil_append
  unfold Hold.find Executor.select Answer.done
  rw [Visitor.traverse_eq]
  rw [show KeyList.empty.keys = [] from rfl, hfresh, hnil, Except.map_id, id] at hall
  rw [← hall]
  unfold Executor.recordsOf
  rcases (Executor.selector T b).visitAll x (Executor.orAll q).nodes ⟨.empty, []⟩ with ⟨e | a, s⟩ <;> rfl

/-- **Finding everything succeeds exactly if every entry is a record.** -/
theorem Hold.find_none_isOk_iff (x : Executor γ) (hT : T.bucket ≠ "") (b : Buckets) :
    (∃ rs, Hold.find x T none b = .ok rs) ↔
      ∀ k raw, b.value? T.bucket k = some raw → ∃ r, Record.decode T x.codec raw = .ok r := by
  have hfind := Hold.find_full (x := x) (q := none) hT (List.forall_mem_singleton.2 rfl) b
  have hone : (∃ rs, Query.gatherAll T x.codec [Query.empty] (b.bucket T.bucket).entries = .ok rs) ↔
      ∃ p, Query.empty.gather T x.codec (b.bucket T.bucket).entries = .ok p := by
    refine ⟨fun ⟨_, h⟩ => Query.gather_of_gatherAll h, fun ⟨p, hp⟩ => ⟨p.1 ++ [], ?_⟩⟩
    rw [Query.gatherAll, hp]
    rfl
  simp only [hfind, ofQuery_eq_ok]
  rw [show (Executor.orAll none).nodes = [Query.empty] from rfl, hone, Query.gather_isOk_iff]
  constructor
  · intro h k raw hv
    obtain ⟨r, _, hr, -⟩ := h (k, raw) (mem_bucket.2 hv)
    exact ⟨r, hr⟩
  · intro h e he
    obtain ⟨r, hr⟩ := h e.1 e.2 (mem_bucket.1 he)
    exact ⟨r, true, hr, rfl⟩

end RecordHold
