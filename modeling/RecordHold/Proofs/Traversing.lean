import RecordHold.Proofs.Visiting
/-!
# Proofs.Traversing — node after node

A node of a query considers the candidates of its clause (`node_eq`), and a traversal of a query is its nodes in
order, depth first, up to the first failure (`traverse_eq`).  So two visitors that keep a relation of their states
through every visit keep it through a whole traversal, and answer alike (`traverse_alongside`).
-/
namespace RecordHold

open Std Buckets

variable {γ σ τ : Type} [Custom γ] {T : RecordType γ} {c : Codec} {b : Buckets}

/-! ## The candidates of a clause -/

/-- The field and the ranges a clause is narrowed to, if it is. -/
def Clause.planned (cl : Clause γ) (T : RecordType γ) (policy : Policy γ) : Option (String × List KeyRange) :=
  match cl.index with
  | none       => none
  | some field => if field ∈ T.indexes then (policy (cl.on field)).map (field, ·) else none

/-- Where the candidates of a clause come from. -/
def Clause.source (cl : Clause γ) (T : RecordType γ) (policy : Policy γ) : Source :=
  match cl.planned T policy with
  | some (field, ranges) => .index (indexBucket T.bucket field) ranges none
  | none                 => .primary none

omit [Custom γ] in
theorem Clause.planned_eq_some {cl : Clause γ} {policy : Policy γ} {f : String} {rs : List KeyRange}
    (h : cl.planned T policy = some (f, rs)) :
    cl.index = some f ∧ f ∈ T.indexes ∧ policy (cl.on f) = some rs := by
  unfold planned at h
  cases hi : cl.index with
  | none => rw [hi] at h; cases h
  | some g =>
    rw [hi] at h
    simp only at h
    split at h
    · rename_i hg
      obtain ⟨rs', hp, he⟩ := Option.map_eq_some_iff.1 h
      cases he
      exact ⟨rfl, hg, hp⟩
    · cases h

omit [Custom γ] in
/-- Only a bucket without a name is no source. -/
theorem Clause.unnamed_of_not {cl : Clause γ} {policy : Policy γ} (h : ¬ (cl.source T policy).Of T) :
    T.bucket = "" ∧ cl.planned T policy = none := by
  unfold Clause.source at h
  cases hp : cl.planned T policy with
  | none =>
    rw [hp] at h
    exact ⟨Decidable.byContradiction h, rfl⟩
  | some p =>
    rw [hp] at h
    exact absurd ⟨p.1, (Clause.planned_eq_some hp).2.1, rfl⟩ h

omit [Custom γ] in
theorem Clause.start_eq (cl : Clause γ) (policy : Policy γ) (n : Nat) :
    Scan.start T.bucket T.indexes cl policy n = ⟨T.bucket, cl.source T policy, max 1 n, [], false, none⟩ := rfl

omit [Custom γ] in
theorem Clause.narrowed_start (cl : Clause γ) (policy : Policy γ) (n : Nat) :
    (Scan.start T.bucket T.indexes cl policy n).narrowed = (cl.planned T policy).isSome := by
  rw [start_eq, Scan.narrowed, source]
  cases cl.planned T policy <;> rfl

/-! ## A node -/

namespace Visitor

variable {v : Visitor T σ} {w : Visitor T τ} {Inv : σ → Prop} {Inv' : τ → Prop} {x : Executor γ} {q : Query γ}
  {narrowed : Bool} {s : σ}

/-- **A node considers the candidates of its clause**, as they are in the state at the beginning. -/
theorem node_eq (F : v.Faithful x.codec b Inv) (hb : Sound T x.codec b) (hs : Inv s)
    (hsrc : (q.clause.source T x.policy).Of T) :
    v.node x q s = v.considerAll x.codec q (q.clause.planned T x.policy).isSome
      ((q.clause.source T x.policy).left x.codec b T.bucket) s := by
  have hscan : (Scan.start T.bucket T.indexes q.clause x.policy x.batchSize).Of T :=
    ⟨rfl, hsrc, Nat.le_max_left _ _, rfl⟩
  have hfuel : (Scan.start T.bucket T.indexes q.clause x.policy x.batchSize).need (v.view s) ≤
      (Scan.start T.bucket T.indexes q.clause x.policy x.batchSize).batchBound (v.view s) := by
    rw [Clause.start_eq]
    simp only [Scan.need, Scan.batchBound, Bool.false_eq_true, if_false]
    cases q.clause.source T x.policy with
    | primary resume => exact Nat.add_le_add_right (List.length_filter_le _ _) 2
    | index bucket ranges resume =>
      cases ranges with
      | nil => exact Nat.le_add_left _ _
      | cons r rs =>
        have hle : (within (r.resumeAfter resume) ((v.view s).bucket bucket).entries).length ≤
            ((v.view s).bucket bucket).size := List.length_filter_le _ _
        simp only [Source.need, List.length_cons, Nat.succ_mul]
        omega
  have hrun := drainAll_eq (q := q) F hb _ hscan (fun _ hc => by cases hc) hs hfuel
  rw [Clause.narrowed_start] at hrun
  exact hrun

/-- A scan with nothing in its buffer fails if its next batch does. -/
theorem drainAll_failed {scan : Scan} {e : QueryError} (fuel : Nat) (hbuf : scan.buffer = [])
    (hx : scan.exhausted = false) (hf : (scan.refill c (v.view s)).failure = some e) :
    v.drainAll c q (fuel + 1) scan s = (.error e, s) := by
  rw [drainAll, hbuf, drain]
  simp only
  rw [if_neg (by simp [hx]), hf]

/-- A bucket without a name cannot be scanned. -/
theorem node_unnamed (hT : T.bucket = "") (hp : q.clause.planned T x.policy = none) :
    v.node x q s = (.error (.store .emptyBucketName), s) := by
  have hsrc : q.clause.source T x.policy = .primary none := by rw [Clause.source, hp]
  unfold node
  rw [Clause.start_eq, hsrc]
  refine drainAll_failed _ rfl rfl ?_
  rw [Scan.refill]
  simp only
  rw [Buckets.scan, if_pos hT]

end Visitor

/-! ## All nodes -/

mutual
/-- A query and its branches, depth first. -/
def Query.nodes : Query γ → List (Query γ)
  | .node c qs => .node c qs :: Query.nodesOfAll qs

def Query.nodesOfAll : List (Query γ) → List (Query γ)
  | []      => []
  | q :: qs => q.nodes ++ Query.nodesOfAll qs
end

namespace Visitor

variable {v : Visitor T σ} {w : Visitor T τ} {Inv : σ → Prop} {Inv' : τ → Prop} {x : Executor γ} {q : Query γ}
  {narrowed : Bool} {s : σ}

/-- Node after node. -/
def visitAll (v : Visitor T σ) (x : Executor γ) : List (Query γ) → σ → Answer σ
  | [],      s => (.ok true, s)
  | q :: qs, s =>
    match v.node x q s with
    | (.ok true, s) => visitAll v x qs s
    | answer        => answer

theorem visitAll_append (l l' : List (Query γ)) (s : σ) :
    v.visitAll x (l ++ l') s = match v.visitAll x l s with
      | (.ok true, s) => v.visitAll x l' s
      | answer        => answer := by
  induction l generalizing s with
  | nil => rfl
  | cons q l ih =>
    rw [List.cons_append, visitAll, visitAll]
    rcases v.node x q s with ⟨e | _ | _, s'⟩
    · rfl
    · rfl
    · exact ih s'

mutual
/-- **A traversal visits the nodes in order.** -/
theorem traverse_eq : ∀ (q : Query γ) (s : σ), v.traverse x q s = v.visitAll x q.nodes s
  | .node c qs, s => by
    rw [traverse, Query.nodes, visitAll]
    rcases v.node x (.node c qs) s with ⟨e | _ | _, s'⟩
    · rfl
    · rfl
    · exact traverseAll_eq qs s'

theorem traverseAll_eq : ∀ (qs : List (Query γ)) (s : σ), v.traverseAll x qs s = v.visitAll x (Query.nodesOfAll qs) s
  | [],      s => rfl
  | q :: qs, s => by
    rw [traverseAll, Query.nodesOfAll, visitAll_append, traverse_eq q s]
    rcases v.visitAll x q.nodes s with ⟨e | _ | _, s'⟩
    · rfl
    · rfl
    · exact traverseAll_eq qs s'
end

/-- No node stops a faithful visitor, but for a failure. -/
theorem visitAll_spec (F : v.Faithful x.codec b Inv) (hb : Sound T x.codec b) (qs : List (Query γ)) (s : σ)
    (hs : Inv s) : (v.visitAll x qs s).1 ≠ .ok false ∧ Inv (v.visitAll x qs s).2 := by
  induction qs generalizing s with
  | nil => exact ⟨fun h => (by cases h), hs⟩
  | cons q qs ih =>
    have hnode : (v.node x q s).1 ≠ .ok false ∧ Inv (v.node x q s).2 := by
      by_cases hsrc : (q.clause.source T x.policy).Of T
      · rw [node_eq F hb hs hsrc]
        obtain ⟨hi, -, hne⟩ := considerAll_spec q (q.clause.planned T x.policy).isSome F hb
          (fun e he => hb.mem_left hsrc (e := e) he) hs
        exact ⟨hne, hi⟩
      · obtain ⟨hT, hp⟩ := Clause.unnamed_of_not hsrc
        rw [node_unnamed hT hp]
        exact ⟨fun h => (by cases h), hs⟩
    rw [visitAll]
    rcases hv : v.node x q s with ⟨e | _ | _, s'⟩
    · rw [hv] at hnode
      exact ⟨fun h => (by cases h), hnode.2⟩
    · rw [hv] at hnode
      exact absurd rfl hnode.1
    · rw [hv] at hnode
      exact ih s' hnode.2

/-! ## Two visitors side by side -/

/-- A relation of the states of two visitors that their visits keep. -/
structure Alongside (v : Visitor T σ) (w : Visitor T τ) (c : Codec) (b : Buckets) (Rel : σ → τ → Prop) :
    Prop where
  seen  : ∀ {s t}, Rel s t → v.seen s = w.seen t
  visit : ∀ {s t key r s' t'}, Rel s t → key ∉ (v.seen s).keys → b.rows T c key = some r →
    v.visit key r s = (.ok true, s') → w.visit key r t = (.ok true, t') → Rel s' t'

variable {Rel : σ → τ → Prop}

theorem considerAll_alongside (F : v.Faithful c b Inv) (G : w.Faithful c b Inv') (A : v.Alongside w c b Rel)
    (hb : Sound T c b) : ∀ {l : List Entry} {s : σ} {t : τ}, (∀ e ∈ l, EntryOf T b e) → Inv s → Inv' t → Rel s t →
    (v.considerAll c q narrowed l s).1 = (w.considerAll c q narrowed l t).1 ∧
      Rel (v.considerAll c q narrowed l s).2 (w.considerAll c q narrowed l t).2
  | [],     s, t, _, _,  _,  hR => ⟨rfl, hR⟩
  | e :: l, s, t, h, hs, ht, hR => by
    have ih : ∀ {s' t'}, Inv s' → Inv' t' → Rel s' t' → _ := fun hs' ht' hR' =>
      considerAll_alongside F G A hb
        (fun x hx => h x (List.mem_cons_of_mem _ hx)) hs' ht' hR'
    have he := h e List.mem_cons_self
    rw [considerAll, considerAll]
    by_cases hn : e.1 ∈ (v.seen s).keys
    · rw [consider_seen (F.rising hs) hn, consider_seen (G.rising ht) (by rw [← A.seen hR]; exact hn)]
      exact ih hs ht hR
    · obtain ⟨r, hd, -⟩ := hb.consistent.readable e.1 e.2 he
      have hr : b.rows T c e.1 = some r := rows_eq_some.2 ⟨e.2, he, hd⟩
      have hn' : e.1 ∉ (w.seen t).keys := by rw [← A.seen hR]; exact hn
      rw [consider_new F hs hn hd, consider_new G ht hn' hd]
      cases q.matchesRecord c narrowed e.1 r with
      | error x => exact ⟨rfl, hR⟩
      | ok a =>
        cases a with
        | false => exact ih hs ht hR
        | true =>
          obtain ⟨s', hv, hs', -⟩ := F.visit hs hn hr
          obtain ⟨t', hw, ht', -⟩ := G.visit ht hn' hr
          simp only [hv, hw]
          exact ih hs' ht' (A.visit hR hn hr hv hw)

/-- **Two visitors side by side answer alike** at a node, also where its bucket cannot be scanned. -/
theorem node_alongside (F : v.Faithful x.codec b Inv) (G : w.Faithful x.codec b Inv')
    (A : v.Alongside w x.codec b Rel) (hb : Sound T x.codec b) {t : τ} (hs : Inv s) (ht : Inv' t) (hR : Rel s t) :
    (v.node x q s).1 = (w.node x q t).1 ∧ Rel (v.node x q s).2 (w.node x q t).2 ∧
      Inv (v.node x q s).2 ∧ Inv' (w.node x q t).2 := by
  by_cases hsrc : (q.clause.source T x.policy).Of T
  · have hl := fun e he => hb.mem_left hsrc (e := e) he
    rw [node_eq F hb hs hsrc, node_eq G hb ht hsrc]
    obtain ⟨h1, h2⟩ := considerAll_alongside F G A hb hl hs ht hR
    exact ⟨h1, h2, (considerAll_spec _ _ F hb hl hs).1, (considerAll_spec _ _ G hb hl ht).1⟩
  · obtain ⟨hT, hp⟩ := Clause.unnamed_of_not hsrc
    rw [node_unnamed hT hp, node_unnamed hT hp]
    exact ⟨rfl, hR, hs, ht⟩

theorem visitAll_alongside (F : v.Faithful x.codec b Inv) (G : w.Faithful x.codec b Inv')
    (A : v.Alongside w x.codec b Rel) (hb : Sound T x.codec b) : ∀ {qs : List (Query γ)} {s : σ} {t : τ},
    Inv s → Inv' t → Rel s t →
    (v.visitAll x qs s).1 = (w.visitAll x qs t).1 ∧ Rel (v.visitAll x qs s).2 (w.visitAll x qs t).2 ∧
      Inv (v.visitAll x qs s).2 ∧ Inv' (w.visitAll x qs t).2
  | [],      s, t, hs, ht, hR => ⟨rfl, hR, hs, ht⟩
  | q :: qs, s, t, hs, ht, hR => by
    obtain ⟨h1, h2, h3, h4⟩ := node_alongside (q := q) F G A hb hs ht hR
    rw [visitAll, visitAll]
    rcases hv : v.node x q s with ⟨a, s'⟩
    rcases hw : w.node x q t with ⟨a', t'⟩
    rw [hv, hw] at h1 h2
    rw [hv] at h3
    rw [hw] at h4
    simp only at h1 h2 h3 h4
    subst h1
    rcases a with e | _ | _
    · exact ⟨rfl, h2, h3, h4⟩
    · exact ⟨rfl, h2, h3, h4⟩
    · exact visitAll_alongside F G A hb h3 h4 h2

theorem traverse_alongside (F : v.Faithful x.codec b Inv) (G : w.Faithful x.codec b Inv')
    (A : v.Alongside w x.codec b Rel) (hb : Sound T x.codec b) (q : Query γ) (s : σ) (t : τ) (hs : Inv s) (ht : Inv' t)
    (hR : Rel s t) :
    (v.traverse x q s).1 = (w.traverse x q t).1 ∧ Rel (v.traverse x q s).2 (w.traverse x q t).2 ∧
      Inv (v.traverse x q s).2 ∧ Inv' (w.traverse x q t).2 := by
  rw [traverse_eq, traverse_eq]
  exact visitAll_alongside F G A hb hs ht hR

end Visitor
end RecordHold
