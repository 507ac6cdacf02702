import RecordHold.Proofs.FullScans
import RecordHold.Proofs.Portions
import RecordHold.Proofs.StoredTimes
import RecordHold.Sample.People
/-!
# Proofs.KeyCriteria — a criterion on a key asks its value

A key is stored as bytes whose order says nothing, so a criterion reads it back first, as the type of its operand.  A key
that is read back unchanged as that type is tested as the value it is the key of (`testKey_scalar`), with the same yes, no
or failure.  Under the binary codec every key is the form of a value that is, so the clauses of a query on keys alone say
of a record what they say of the value of its key (`Clause.OnKeys.accepts_scalar`), and the query, branches and all, finds
the records whose key values pass (`key_criteria_exact`).  An index that such a query nominates has no criteria to answer:
it is walked from end to end, which changes the order in which the records come and nothing else.
-/
namespace RecordHold

open Std Buckets

variable {γ : Type} [Custom γ] {T : RecordType γ} {c : Codec} {b : Buckets}

namespace Criterion

omit [Custom γ] in
/-- **A criterion that reads keys as a type**: its operand has that type, or the first one of its list.  A pattern reads
texts; an empty list does not read at all. -/
def ReadsAs (k : Kind) : Criterion γ → Prop
  | relates _ v    => ∃ s, v = .plain s ∧ s.kind = k
  | oneOf []       => True
  | oneOf (v :: _) => ∃ s, v = .plain s ∧ s.kind = k
  | matching _     => k = .string
  | satisfies _    => False

theorem ReadsAs.keyValue {cr : Criterion γ} {s : Scalar} (h : cr.ReadsAs s.kind)
    (hread : c.scalar? s.kind (c.scalar s) = .ok s) :
    cr.keyValue c (c.scalar s) = .ok (some (.plain s)) ∨ cr = .oneOf [] := by
  match cr, h with
  | relates _ _, ⟨t, rfl, ht⟩ | oneOf (_ :: _), ⟨t, rfl, ht⟩ =>
    refine Or.inl ?_
    simp only [Criterion.keyValue, Value.decodeLike, ht, hread, Except.map]
  | oneOf [], _ => exact Or.inr rfl
  | matching _, h =>
    refine Or.inl ?_
    rw [show s.kind = .string from h] at hread
    simp only [Criterion.keyValue, hread, Except.map]

/-- **A key that is read back unchanged is tested as its value.** -/
theorem testKey_scalar {cr : Criterion γ} {s : Scalar} (h : cr.ReadsAs s.kind)
    (hread : c.scalar? s.kind (c.scalar s) = .ok s) : cr.testKey c (c.scalar s) = cr.test (.plain s) := by
  rcases h.keyValue hread with hval | rfl
  · rw [testKey, hval]
  · rfl

omit [Custom γ] in
theorem allAccept_congr {ask ask' : Criterion γ → Except QueryError Bool} : ∀ {cs : List (Criterion γ)},
    (∀ cr ∈ cs, ask cr = ask' cr) → allAccept ask cs = allAccept ask' cs
  | [],       _ => rfl
  | cr :: cs, h => by
    rw [allAccept, allAccept, h cr List.mem_cons_self,
      allAccept_congr (fun cr' h' => h cr' (List.mem_cons_of_mem cr h'))]

end Criterion

/-- **Two scalars of one type compare.** -/
theorem Scalar.compare_of_kind {s t : Scalar} (h : s.kind = t.kind) : ∃ o, Scalar.compare s t = .ok o := by
  cases s <;> cases t <;> simp_all [Scalar.kind, Scalar.compare, Scalar.number?]

/-! ## Clauses on keys -/

/-- **A clause on keys of a type**: all of its criteria are on the key, and read keys as the type. -/
def Clause.OnKeys (cl : Clause γ) (k : Kind) : Prop :=
  ∀ p ∈ cl.criteria.entries, p.1 = keyField ∧ ∀ cr ∈ p.2, cr.ReadsAs k

/-- What a clause says of the value of a key. -/
def Clause.answer (cl : Clause γ) (s : Scalar) : Except QueryError Bool :=
  Criterion.allAccept (fun cr => cr.test (.plain s)) (cl.on keyField)

/-- Does a clause say yes to the value of a key? -/
def Clause.passes (cl : Clause γ) (s : Scalar) : Bool :=
  match cl.answer s with
  | .ok a    => a
  | .error _ => false

section OnKeys
variable {cl : Clause γ} {k : Kind} {key : Bytes} {r : Record T}

omit [Custom γ] in
theorem Clause.OnKeys.reads (h : cl.OnKeys k) : ∀ cr ∈ cl.on keyField, cr.ReadsAs k := by
  intro cr hcr
  rcases cl.on_eq keyField with hnil | hmem
  · rw [hnil] at hcr
    cases hcr
  · exact (h _ hmem).2 cr hcr

omit [Custom γ] in
/-- A field that is nominated has no criteria. -/
theorem Clause.OnKeys.on_eq_nil (h : cl.OnKeys k) {f : String} (hf : f ≠ keyField) : cl.on f = [] :=
  (cl.on_eq f).resolve_right (fun hmem => hf (h _ hmem).1)

/-- **A clause on keys asks the criteria on the key** and nothing else, narrowed or not. -/
theorem Clause.OnKeys.accepts_eq (h : cl.OnKeys k) (narrowed : Bool) :
    Query.accepts c cl narrowed key r cl.criteria.entries =
      Criterion.allAccept (fun cr => cr.testKey c key) (cl.on keyField) := by
  have hasc := cl.criteria.ascending
  match hl : cl.criteria.entries with
  | [] =>
    rcases cl.on_eq keyField with hnil | hmem
    · rw [hnil]
      rfl
    · rw [hl] at hmem
      cases hmem
  | [(f, cs)] =>
    have hmem : (f, cs) ∈ cl.criteria.entries := by
      rw [hl]
      exact List.mem_cons_self
    obtain rfl : f = keyField := (h _ hmem).1
    rw [Clause.mem_on hmem, Query.accepts, if_pos rfl, Query.accepts]
    rcases Criterion.allAccept (fun cr => cr.testKey c key) cs with e | _ | _ <;> rfl
  | p :: p' :: _ =>
    rw [hl] at hasc
    have hp : p.1 = keyField := (h p (hl ▸ List.mem_cons_self)).1
    have hp' : p'.1 = keyField := (h p' (hl ▸ List.mem_cons_of_mem _ List.mem_cons_self)).1
    exact absurd (hp.trans hp'.symm) (ne_of_compare_lt (List.rel_of_pairwise_cons hasc List.mem_cons_self))

/-- **A clause on keys says of a record what it says of the value of its key**, if that is read back. -/
theorem Clause.OnKeys.accepts_scalar (h : cl.OnKeys k) (narrowed : Bool) {s : Scalar} (hs : s.kind = k)
    (hread : c.scalar? k (c.scalar s) = .ok s) :
    Query.accepts c cl narrowed (c.scalar s) r cl.criteria.entries = cl.answer s := by
  subst hs
  rw [h.accepts_eq]
  exact Criterion.allAccept_congr (fun cr hcr => Criterion.testKey_scalar (h.reads cr hcr) hread)

end OnKeys

/-! ## Queries on keys -/

/-- **What nodes say of the value of a key, one after the other**: the first that says yes, or fails, has said it. -/
def Query.answer : List (Query γ) → Scalar → Except QueryError Bool
  | [],      _ => .ok false
  | n :: ns, s =>
    match n.clause.answer s with
    | .error e  => .error e
    | .ok true  => .ok true
    | .ok false => answer ns s

/-- **Rows with keys of one type**: stored are their records, each under the form of a value that is read back. -/
structure KeyRows (T : RecordType γ) (c : Codec) (k : Kind) (l : List Entry) (rows : List (Scalar × Record T)) : Prop where
  keys   : ∀ p ∈ rows, p.1.kind = k ∧ c.scalar? k (c.scalar p.1) = .ok p.1
  stored : l.map (fun e => (e.1, Record.decode T c e.2)) = rows.map (fun p => (c.scalar p.1, .ok p.2))

/-- **The records of the rows whose key values pass**, node by node: what a node has passed no later one is asked. -/
def Query.passing : List (Query γ) → List (Scalar × Record T) → List (Record T)
  | [],      _    => []
  | n :: ns, rows =>
    (rows.filter (fun p => n.clause.passes p.1)).map Prod.snd ++ passing ns (rows.filter (fun p => !n.clause.passes p.1))

namespace Query

variable {q : Query γ} {k : Kind}

/-- **A node on keys takes the records of the rows that pass**, and leaves the other rows. -/
theorem gather_rows (hq : q.clause.OnKeys k) : ∀ {rows : List (Scalar × Record T)} {l : List Entry},
    KeyRows T c k l rows → (∀ p ∈ rows, ∃ a, q.clause.answer p.1 = .ok a) →
    ∃ left, q.gather T c l = .ok ((rows.filter (fun p => q.clause.passes p.1)).map Prod.snd, left) ∧
      KeyRows T c k left (rows.filter (fun p => !q.clause.passes p.1))
  | [],             [],     h, _    => ⟨[], rfl, h⟩
  | [],             e :: l, h, _    => by cases h.stored
  | p :: rows,      [],     h, _    => by cases h.stored
  | (s, r) :: rows, e :: l, h, hans => by
    obtain ⟨hkind, hread⟩ := h.keys (s, r) List.mem_cons_self
    obtain ⟨hhead, htail⟩ := List.cons.inj h.stored
    obtain ⟨hkey, hdecode⟩ := Prod.mk.inj hhead
    obtain ⟨a, ha⟩ := hans (s, r) List.mem_cons_self
    obtain ⟨left, hleft, hrows⟩ := gather_rows hq ⟨fun p hp => h.keys p (List.mem_cons_of_mem _ hp), htail⟩
      (fun p hp => hans p (List.mem_cons_of_mem _ hp))
    have hanswer : q.matchesRecord c false e.1 r = .ok a := by
      rw [hkey]
      exact (hq.accepts_scalar false hkind hread).trans ha
    have hpass : q.clause.passes s = a := by
      unfold Clause.passes
      rw [ha]
    rw [gather, hdecode]
    simp only [hanswer]
    rw [hleft, List.filter_cons, List.filter_cons, hpass]
    cases a with
    | true => exact ⟨left, rfl, hrows⟩
    | false =>
      refine ⟨e :: left, rfl, List.forall_mem_cons.2 ⟨⟨hkind, hread⟩, hrows.keys⟩, ?_⟩
      exact List.cons_eq_cons.2 ⟨hhead, hrows.stored⟩

/-- A node that has gathered from rows has an answer to every key value. -/
theorem answers_of_gather (hq : q.clause.OnKeys k) {rows : List (Scalar × Record T)} {l : List Entry}
    (h : KeyRows T c k l rows) (hok : ∃ g, q.gather T c l = .ok g) : ∀ p ∈ rows, ∃ a, q.clause.answer p.1 = .ok a := by
  intro p hp
  obtain ⟨hkind, hread⟩ := h.keys p hp
  have hmem : (c.scalar p.1, Except.ok p.2) ∈ l.map (fun e => (e.1, Record.decode T c e.2)) := by
    rw [h.stored]
    exact List.mem_map.2 ⟨p, hp, rfl⟩
  obtain ⟨e, he, heq⟩ := List.mem_map.1 hmem
  obtain ⟨hkey, hdecode⟩ := Prod.mk.inj heq
  obtain ⟨r, a, -, hans⟩ := gather_isOk_iff.1 hok e he
  refine ⟨a, (hq.accepts_scalar (r := r) false hkind hread).symm.trans ?_⟩
  rw [← hkey]
  exact hans

/-- Nodes have an answer to a key value if the first has one, and so have the others where it says no. -/
theorem answer_cons_isOk {ns : List (Query γ)} {s : Scalar} : (∃ a, answer (q :: ns) s = .ok a) ↔
    (∃ a, q.clause.answer s = .ok a) ∧ (q.clause.passes s = false → ∃ a, answer ns s = .ok a) := by
  rw [answer, Clause.passes]
  rcases q.clause.answer s with e | _ | _
  · exact iff_of_false (fun ⟨_, h⟩ => by cases h) (fun ⟨⟨_, h⟩, _⟩ => by cases h)
  · exact ⟨fun h => ⟨⟨false, rfl⟩, fun _ => h⟩, fun h => h.2 rfl⟩
  · exact iff_of_true ⟨true, rfl⟩ ⟨⟨true, rfl⟩, fun h => absurd h.symm Bool.false_ne_true⟩

/-- **Nodes on keys gather the records of the rows that pass**, if every key value gets an answer. -/
theorem gatherAll_rows : ∀ {ns : List (Query γ)} {rows : List (Scalar × Record T)} {l : List Entry},
    (∀ n ∈ ns, n.clause.OnKeys k) → KeyRows T c k l rows → ∀ rs,
      gatherAll T c ns l = .ok rs ↔ (∀ p ∈ rows, ∃ a, answer ns p.1 = .ok a) ∧ rs = passing ns rows
  | [],      rows, l, _,   _, rs => by
    rw [gatherAll, passing, Except.ok.injEq, and_iff_right (fun p _ => ⟨false, rfl⟩)]
    exact eq_comm
  | n :: ns, rows, l, hns, h, rs => by
    have hn := hns n List.mem_cons_self
    have hanswers : (∀ p ∈ rows, ∃ a, answer (n :: ns) p.1 = .ok a) ↔
        (∀ p ∈ rows, ∃ a, n.clause.answer p.1 = .ok a) ∧
          ∀ p ∈ rows.filter (fun p => !n.clause.passes p.1), ∃ a, answer ns p.1 = .ok a := by
      simp only [List.mem_filter, and_imp, Bool.not_eq_true', answer_cons_isOk, ← forall₂_and]
    rw [hanswers]
    by_cases hall : ∀ p ∈ rows, ∃ a, n.clause.answer p.1 = .ok a
    · obtain ⟨left, hgather, hleft⟩ := gather_rows hn h hall
      have ih := gatherAll_rows (fun m hm => hns m (List.mem_cons_of_mem n hm)) hleft
      rw [gatherAll, hgather, passing, and_iff_right hall]
      constructor
      · intro hrs
        obtain ⟨rs', hrs', rfl⟩ := Except.map_eq_ok hrs
        obtain ⟨hans, rfl⟩ := (ih rs').1 hrs'
        exact ⟨hans, rfl⟩
      · rintro ⟨hans, rfl⟩
        show Except.map _ (gatherAll T c ns left) = _
        rw [(ih _).2 ⟨hans, rfl⟩]
        rfl
    · exact iff_of_false (fun hrs => hall (answers_of_gather hn h (gather_of_gatherAll hrs))) (fun hr => hall hr.1.1)

end Query

omit [Custom γ] in
/-- Entries whose keys are read back, and which are records, are rows. -/
theorem exists_keyRows {k : Kind} : ∀ {l : List Entry},
    (∀ e ∈ l, ∃ s : Scalar, s.kind = k ∧ c.scalar? k (c.scalar s) = .ok s ∧ e.1 = c.scalar s) →
    (∀ e ∈ l, ∃ r, Record.decode T c e.2 = .ok r) → ∃ rows, KeyRows T c k l rows
  | [],     _, _ => ⟨[], ⟨fun _ hp => (nomatch hp), rfl⟩⟩
  | e :: l, hkeys, hrecords => by
    obtain ⟨s, hkind, hread, hkey⟩ := hkeys e List.mem_cons_self
    obtain ⟨r, hr⟩ := hrecords e List.mem_cons_self
    obtain ⟨rows, h⟩ := exists_keyRows (fun e he => hkeys e (List.mem_cons_of_mem _ he))
      (fun e he => hrecords e (List.mem_cons_of_mem _ he))
    refine ⟨(s, r) :: rows, List.forall_mem_cons.2 ⟨⟨hkind, hread⟩, h.keys⟩, ?_⟩
    rw [List.map_cons, List.map_cons, h.stored, hkey, hr]

/-- **The keys of a bucket have one type**: each is the binary form of a value of it. -/
def Buckets.KeyedBy (b : Buckets) (name : String) (k : Kind) : Prop :=
  ∀ e ∈ (b.bucket name).entries, ∃ s : Scalar, s.kind = k ∧ s.Sized ∧ e.1 = Codec.binary.scalar s

/-- The binary form of a value is that of one that is read back: of the value as a clock tells it. -/
theorem Buckets.KeyedBy.read {name : String} {k : Kind} (h : b.KeyedBy name k) :
    ∀ e ∈ (b.bucket name).entries, ∃ s : Scalar, s.kind = k ∧
      Codec.binary.scalar? k (Codec.binary.scalar s) = .ok s ∧ e.1 = Codec.binary.scalar s := by
  intro e he
  obtain ⟨s, rfl, hs, hkey⟩ := h e he
  have hread := Codec.scalar?_binary hs
  have htold : Codec.binary.scalar s.told = Codec.binary.scalar s := by
    cases s with
    | time t => exact Codec.binary.scalar_time_eq_iff.2 (Instant.told_of_told t.told_told)
    | _      => rfl
  refine ⟨s.told, ?_, htold.symm ▸ hread, hkey.trans htold.symm⟩
  cases s <;> rfl

/-! ## A nominated index -/

/-- **A clause on keys is no better off without its index**: the ranges planned for a field without criteria hold every
record, and a scan of them asks what a full scan asks. -/
theorem Clause.OnKeys.standsIn {q : Query γ} {k : Kind} {p : Policy γ} (h : q.clause.OnKeys k) (hb : Sound T c b)
    (hT : T.bucket ≠ "") (hq : q.clause.index ≠ some keyField) (hp : ∀ cs, p cs = none) :
    Executor.StandsIn T c b Policy.ranges p q := by
  have E := q.clause.exact_of_none (T := T) (c := c) hp
  have E' : q.clause.Exact T Policy.ranges c := Clause.exact_ranges hq
  refine ⟨E', E, fun _ => Classical.byContradiction (fun hno => hT (Clause.unnamed_of_not hno).1),
    fun e he r hd => ⟨?_, fun a ha => ?_⟩⟩
  · have hent := (E.candidates hb).entries e he
    refine ((E'.candidates hb).members hent hd).2 (fun f rs hplan => ?_)
    obtain ⟨hindex, -, -⟩ := Clause.planned_eq_some hplan
    have hf : f ≠ keyField := fun hf => hq (hf ▸ hindex)
    refine (E'.exact hplan (hb.consistent.indexable (rows_eq_some.2 ⟨e.2, hent, hd⟩)) e.1).2 (fun cr hcr => ?_)
    rw [h.on_eq_nil hf] at hcr
    cases hcr
  · unfold Query.matchesRecord at ha ⊢
    rw [h.accepts_eq] at ha ⊢
    exact ha

/-- Finding under one policy succeeds under another that stands in for it, with the same records in another order. -/
theorem Hold.find_replanned {m n : Nat} {p p' : Policy γ} (hb : Sound T c b) {q : Option (Query γ)}
    (hq : ∀ node ∈ (Executor.orAll q).nodes, Executor.StandsIn T c b p p' node) {rs : List (Record T)}
    (h : Hold.find ⟨c, m, p⟩ T q b = .ok rs) : ∃ rs', Hold.find ⟨c, n, p'⟩ T q b = .ok rs' ∧ rs'.Perm rs := by
  unfold Hold.find at h ⊢
  rcases hrun : Executor.select ⟨c, m, p⟩ T b q ⟨.empty, []⟩ with ⟨e | _, s⟩
  · rw [hrun] at h
    cases h
  · rw [hrun] at h
    cases h
    obtain ⟨s', hrun', -, hperm⟩ := Executor.select_replanned m n hb hq Rising.nil hrun
    exact ⟨s'.records, by rw [hrun']; rfl, hperm⟩

section Finding
variable {k : Kind} {q : Query γ}

/-- **Without an index, a query on keys finds the rows that pass.** -/
theorem Query.find_onKeys {x : Executor γ} (hx : x.codec = .binary) (hT : T.bucket ≠ "")
    (hq : ∀ n ∈ q.nodes, n.clause.OnKeys k) (hfull : ∀ n ∈ q.nodes, n.clause.planned T x.policy = none)
    (hkeys : b.KeyedBy T.bucket k) (rs : List (Record T)) : Hold.find x T (some q) b = .ok rs ↔
      ∃ rows, KeyRows T .binary k (b.bucket T.bucket).entries rows ∧
        (∀ p ∈ rows, ∃ a, Query.answer q.nodes p.1 = .ok a) ∧ rs = Query.passing q.nodes rows := by
  rw [Hold.find_full (q := some q) hT hfull, hx, Hold.ofQuery_eq_ok]
  constructor
  · intro h
    -- the first node goes through every entry, so every entry is a record
    have hrecords : ∀ e ∈ (b.bucket T.bucket).entries, ∃ r, Record.decode T .binary e.2 = .ok r := by
      intro e he
      rw [Executor.orAll, Option.getD_some, Query.nodes_eq] at h
      obtain ⟨r, _, hr, -⟩ := Query.gather_isOk_iff.1 (Query.gather_of_gatherAll h) e he
      exact ⟨r, hr⟩
    obtain ⟨rows, hrows⟩ := exists_keyRows hkeys.read hrecords
    exact ⟨rows, hrows, (Query.gatherAll_rows hq hrows rs).1 h⟩
  · rintro ⟨rows, hrows, h⟩
    exact (Query.gatherAll_rows hq hrows rs).2 h

/-- **With the planned ranges of the indexes it nominates, a query on keys finds the same**, if the indexes are sound. -/
theorem Query.find_onKeys_planned {n : Nat} (hb : Sound T .binary b) (hT : T.bucket ≠ "") (hf : q.Formed)
    (hq : ∀ n ∈ q.nodes, n.clause.OnKeys k) (hkeys : b.KeyedBy T.bucket k) :
    ∃ rows, KeyRows T .binary k (b.bucket T.bucket).entries rows ∧
      ((∃ rs, Hold.find ⟨.binary, n, Policy.ranges⟩ T (some q) b = .ok rs) ↔
        ∀ p ∈ rows, ∃ a, Query.answer q.nodes p.1 = .ok a) ∧
      ∀ rs, Hold.find ⟨.binary, n, Policy.ranges⟩ T (some q) b = .ok rs → rs.Perm (Query.passing q.nodes rows) := by
  have hrecords : ∀ e ∈ (b.bucket T.bucket).entries, ∃ r, Record.decode T .binary e.2 = .ok r := fun e he =>
    (hb.consistent.readable e.1 e.2 (mem_bucket.1 he)).imp (fun _ => And.left)
  obtain ⟨rows, hrows⟩ := exists_keyRows hkeys.read hrecords
  have hnone : ∀ cs, (Policy.full : Policy γ) cs = none := fun _ => rfl
  have hfull : ∀ rs, Hold.find ⟨.binary, n, Policy.full⟩ T (some q) b = .ok rs ↔
      (∀ p ∈ rows, ∃ a, Query.answer q.nodes p.1 = .ok a) ∧ rs = Query.passing q.nodes rows := by
    intro rs
    rw [Hold.find_full (q := some q) hT (fun n _ => n.clause.planned_of_none hnone), Hold.ofQuery_eq_ok]
    exact Query.gatherAll_rows hq hrows rs
  have hwide : ∀ node ∈ q.nodes, Executor.StandsIn T .binary b Policy.ranges Policy.full node := fun node hn =>
    (hq node hn).standsIn hb hT (hf node hn) hnone
  have hnarrow : ∀ node ∈ q.nodes, Executor.StandsIn T .binary b Policy.full Policy.ranges node := fun node hn =>
    Executor.StandsIn.ranges hnone hb (hf node hn)
  have hwider : ∀ rs, Hold.find ⟨.binary, n, Policy.ranges⟩ T (some q) b = .ok rs →
      (∀ p ∈ rows, ∃ a, Query.answer q.nodes p.1 = .ok a) ∧ rs.Perm (Query.passing q.nodes rows) := by
    intro rs h
    obtain ⟨rs', h', hperm⟩ := Hold.find_replanned (n := n) (q := some q) hb hwide h
    obtain ⟨hans, rfl⟩ := (hfull rs').1 h'
    exact ⟨hans, hperm.symm⟩
  refine ⟨rows, hrows, ⟨fun ⟨rs, h⟩ => (hwider rs h).1, fun hans => ?_⟩, fun rs h => (hwider rs h).2⟩
  obtain ⟨rs', h', -⟩ := Hold.find_replanned (n := n) (q := some q) hb hnarrow ((hfull _).2 ⟨hans, rfl⟩)
  exact ⟨rs', h'⟩

end Finding

/-- **A criterion on a key asks the value of the key.**  Whichever codec has written the key, if it reads the value back
unchanged, and the criterion reads keys as its type, the test of the stored key comes to the test of the value: to the same
yes, no or failure.  A comparison within one type never fails.  So under the binary codec a query on keys alone, with any
branches and over a bucket whose keys all have the type that its criteria read, finds exactly the records whose key values
pass, node by node and for each node in key order, if no node is narrowed to an index; it fails only if an entry is no
record, or the test of a value fails.  Where nodes nominate indexes, which have to be sound, it finds the same records in
another order, and fails in the same cases. -/
theorem Query.key_criteria_exact :
    (∀ (c : Codec) (s : Scalar) (cr : Criterion γ), c.scalar? s.kind (c.scalar s) = .ok s → cr.ReadsAs s.kind →
      cr.testKey c (c.scalar s) = cr.test (.plain s)) ∧
    (∀ (r : Relation) (s v : Scalar), s.kind = v.kind →
      ∃ a, (Criterion.relates r (.plain v) : Criterion γ).test (.plain s) = .ok a) ∧
    ∀ (T : RecordType γ) (b : Buckets) (k : Kind) (q : Query γ), T.bucket ≠ "" → (∀ n ∈ q.nodes, n.clause.OnKeys k) →
      b.KeyedBy T.bucket k →
      (∀ x : Executor γ, x.codec = .binary → (∀ n ∈ q.nodes, n.clause.planned T x.policy = none) →
        ∀ rs, Hold.find x T (some q) b = .ok rs ↔
          ∃ rows, KeyRows T .binary k (b.bucket T.bucket).entries rows ∧
            (∀ p ∈ rows, ∃ a, Query.answer q.nodes p.1 = .ok a) ∧ rs = Query.passing q.nodes rows) ∧
      (∀ x : Executor γ, x.codec = .binary → x.policy = Policy.ranges → Sound T .binary b → q.Formed →
        ∃ rows, KeyRows T .binary k (b.bucket T.bucket).entries rows ∧
          ((∃ rs, Hold.find x T (some q) b = .ok rs) ↔ ∀ p ∈ rows, ∃ a, Query.answer q.nodes p.1 = .ok a) ∧
          ∀ rs, Hold.find x T (some q) b = .ok rs → rs.Perm (Query.passing q.nodes rows)) := by
  refine ⟨fun c s cr hread h => Criterion.testKey_scalar h hread, fun r s v h => ?_,
    fun T b k q hT hq hkeys => ⟨fun x hx hfull => Query.find_onKeys hx hT hq hfull hkeys, fun x hx hp hb hf => ?_⟩⟩
  · obtain ⟨o, ho⟩ := Scalar.compare_of_kind h
    exact ⟨r.accepts o, by simp only [Criterion.test, Value.compare, ho, Except.map]⟩
  · obtain ⟨codec, n, policy⟩ := x
    subst hx hp
    exact Query.find_onKeys_planned hb hT hf hq hkeys

/-- Three people under keys of one byte, in the order of their names or of their keys.  Of a list that holds a value of the
caller's, a key fails as its value does. -/
theorem Query.key_criteria_exact_people :
    let two : Scalar := .int .u8 ⟨2, by decide⟩
    let listed : Criterion UserValue := .oneOf [.plain (.int .u8 ⟨3, by decide⟩), .custom (.version 1 0)]
    let full : Executor UserValue := ⟨.binary, 1, Policy.full⟩
    listed.testKey .json (Codec.json.scalar two) = listed.test (.plain two) ∧
      listed.test (.plain two) = .error (.uncomparable "Version" "other") ∧
      (∃ a, (Criterion.relates .ge (.plain two) : Criterion UserValue).test (.plain two) = .ok a) ∧
      Hold.find full Sample.person.type (some Sample.aroundTwo) Sample.people =
        .ok [Sample.tim, Sample.ann, Sample.elderTim] ∧
      (∃ rows : List (Scalar × Record Sample.person.type),
        KeyRows Sample.person.type .binary (.int .u8) (Sample.people.bucket "Person").entries rows ∧
          [Sample.tim, Sample.ann, Sample.elderTim] = Query.passing Sample.aroundTwo.nodes rows) ∧
      Hold.find Sample.stepwise Sample.person.type (some Sample.aroundTwo) Sample.people =
        .ok [Sample.ann, Sample.tim, Sample.elderTim] ∧
      ∃ rows : List (Scalar × Record Sample.person.type),
        KeyRows Sample.person.type .binary (.int .u8) (Sample.people.bucket "Person").entries rows ∧
          [Sample.ann, Sample.tim, Sample.elderTim].Perm (Query.passing Sample.aroundTwo.nodes rows) := by
  intro two listed full
  obtain ⟨htest, hcompare, hfind⟩ := Query.key_criteria_exact (γ := UserValue)
  have hkeys : Sample.people.KeyedBy "Person" (.int .u8) := by
    have hbytes : ∀ e ∈ (Sample.people.bucket "Person").entries, e.1 = [1] ∨ e.1 = [2] ∨ e.1 = [3] := by decide +kernel
    intro e he
    rcases hbytes e he with h | h | h
    · exact ⟨.int .u8 ⟨1, by decide⟩, rfl, trivial, h⟩
    · exact ⟨two, rfl, trivial, h⟩
    · exact ⟨.int .u8 ⟨3, by decide⟩, rfl, trivial, h⟩
  have hnodes : ∀ n ∈ Sample.aroundTwo.nodes, n.clause.OnKeys (.int .u8) := by
    refine List.forall_mem_cons.2 ⟨?_, List.forall_mem_singleton.2 ?_⟩ <;>
      exact List.forall_mem_singleton.2 ⟨rfl, List.forall_mem_singleton.2 ⟨two, rfl, rfl⟩⟩
  have hformed : Sample.aroundTwo.Formed := List.forall_mem_cons.2 ⟨by decide, List.forall_mem_singleton.2 (by decide)⟩
  obtain ⟨hfull, hplanned⟩ := hfind Sample.person.type Sample.people (.int .u8) Sample.aroundTwo (by decide) hnodes hkeys
  have hfound : Hold.find full Sample.person.type (some Sample.aroundTwo) Sample.people =
      .ok [Sample.tim, Sample.ann, Sample.elderTim] := toOption_eq_some.1 (by decide +kernel)
  have hfound' : Hold.find Sample.stepwise Sample.person.type (some Sample.aroundTwo) Sample.people =
      .ok [Sample.ann, Sample.tim, Sample.elderTim] := toOption_eq_some.1 (by decide +kernel)
  obtain ⟨rows, hrows, -, hpass⟩ := (hfull full rfl (fun n _ => n.clause.planned_of_none (fun _ => rfl)) _).1 hfound
  obtain ⟨rows', hrows', -, hperm⟩ := hplanned Sample.stepwise rfl rfl sound_people hformed
  have hread : Codec.json.scalar? two.kind (Codec.json.scalar two) = .ok two :=
    Codec.scalar?_json.2 (Scalar.survives (by decide) trivial)
  exact ⟨htest .json two listed hread ⟨_, rfl, rfl⟩, rfl, hcompare .ge two two rfl, hfound, ⟨rows, hrows, hpass⟩, hfound',
    rows', hrows', hperm _ hfound'⟩

end RecordHold
