import RecordHold.Proofs.Narrowing
import RecordHold.Proofs.Traversing
import RecordHold.Query.Build
/-!
# Proofs.Answering — what a clause says of a record

A clause holds on a record and its key when each of its criteria does (`Clause.Holds`), which leaves out in which
order they are asked and what fails.  A clause that is asked and gives an answer says whether it holds
(`accepts_eq_ok`), also where its nominated field is not asked again, provided that the criteria on it hold.  And a
clause that gives an answer with all fields asked gives the same one then (`accepts_narrowed`).
-/
namespace RecordHold

open Std Buckets

variable {γ : Type}

/-! ## Queries that are built -/

namespace Query

/-- **A query never nominates the primary key**, whose criteria no index answers. -/
def Formed (q : Query γ) : Prop := ∀ n ∈ q.nodes, n.clause.index ≠ some keyField

theorem index_nominate_ne (cl : Clause γ) (field : String) : (cl.nominate field).index ≠ some keyField := by
  unfold Clause.nominate
  simp only
  split
  · nofun
  · rename_i h
    exact fun he => h (Option.some.inj he)

theorem nodes_eq (q : Query γ) : q.nodes = q :: nodesOfAll q.branches := by
  cases q
  rfl

theorem nodesOfAll_append (l : List (Query γ)) (q : Query γ) : nodesOfAll (l ++ [q]) = nodesOfAll l ++ q.nodes := by
  induction l with
  | nil => simp [nodesOfAll]
  | cons x l ih => rw [List.cons_append, nodesOfAll, nodesOfAll, ih, List.append_assoc]

/-- A query is well formed if its clause is and its branches are. -/
theorem formed_iff {q : Query γ} :
    q.Formed ↔ q.clause.index ≠ some keyField ∧ ∀ n ∈ nodesOfAll q.branches, n.clause.index ≠ some keyField := by
  unfold Formed
  rw [nodes_eq, List.forall_mem_cons]

theorem formed_empty : (empty : Query γ).Formed := formed_iff.2 ⟨nofun, nofun⟩

theorem map_checkField {field : String} {f : Unit → Query γ} {q : Query γ} (h : (checkField field).map f = .ok q) :
    q = f () := by
  obtain ⟨⟨⟩, -, rfl⟩ := Except.map_eq_ok h
  rfl

mutual
theorem formed_take : ∀ (step : QueryStep γ) {q q' : Query γ}, q.Formed → take step q = .ok q' → q'.Formed
  | .whereField field x, q, q', _, h => by
    rw [map_checkField h]
    exact formed_iff.2 ⟨index_nominate_ne (γ := γ) .empty field, nofun⟩
  | .and field x,        q, q', hq, h => by
    rw [map_checkField h]
    exact formed_iff.2 ⟨(formed_iff.1 hq).1, (formed_iff.1 hq).2⟩
  | .or branch,          q, q', hq, h => by
    obtain ⟨q₁, hb, rfl⟩ := Except.map_eq_ok h
    have h₁ := formed_takeAll branch formed_empty hb
    refine formed_iff.2 ⟨(formed_iff.1 hq).1, fun n hn => ?_⟩
    rw [Query.or, branches, nodesOfAll_append, List.mem_append] at hn
    exact hn.elim ((formed_iff.1 hq).2 n) (h₁ n)
  | .nominate field,     q, q', hq, h => by
    rw [map_checkField h]
    exact formed_iff.2 ⟨index_nominate_ne _ field, (formed_iff.1 hq).2⟩

theorem formed_takeAll : ∀ (steps : List (QueryStep γ)) {q q' : Query γ}, q.Formed → takeAll steps q = .ok q' →
    q'.Formed
  | [],            q, q', hq, h => by
    cases h
    exact hq
  | step :: steps, q, q', hq, h => by
    unfold takeAll at h
    split at h
    · cases h
    · rename_i q₁ h₁
      exact formed_takeAll steps (formed_take step hq h₁) h
end

/-- **Every query that is built is well formed.** -/
theorem formed_build {steps : List (QueryStep γ)} {q : Query γ} (h : build steps = .ok q) : q.Formed :=
  formed_takeAll steps formed_empty h

end Query

/-! ## Criteria on fields -/

theorem Clause.mem_on {cl : Clause γ} {field : String} {cs : List (Criterion γ)}
    (h : (field, cs) ∈ cl.criteria.entries) : cl.on field = cs := by
  unfold Clause.on
  rw [cl.criteria.mem_entries.1 h]
  rfl

theorem Clause.on_eq {cl : Clause γ} (field : String) :
    cl.on field = [] ∨ (field, cl.on field) ∈ cl.criteria.entries := by
  cases h : cl.criteria.get? field with
  | none =>
    unfold Clause.on
    rw [h]
    exact Or.inl rfl
  | some cs =>
    have hm := cl.criteria.mem_entries.2 h
    rw [Clause.mem_on hm]
    exact Or.inr hm

variable [Custom γ] {T : RecordType γ} {c : Codec} {b : Buckets} {key : Bytes} {r : Record T}


/-- **A criterion on a field holds on a record and its key**: on the primary key as a test of the key says, on a
field if the record has the field and the criterion holds on its value. -/
def Criterion.HoldsIn (cr : Criterion γ) (codec : Codec) (field : String) (key : Bytes) (r : Record T) : Prop :=
  if field = keyField then cr.testKey codec key = .ok true else ∃ v, r.field field = some v ∧ cr.Holds v

/-- **A clause holds on a record and its key**: all of its criteria do. -/
def Clause.Holds (cl : Clause γ) (codec : Codec) (key : Bytes) (r : Record T) : Prop :=
  ∀ e ∈ cl.criteria.entries, ∀ cr ∈ e.2, cr.HoldsIn codec e.1 key r

namespace Criterion

theorem both_eq_ok {first second : Except QueryError Bool} {a : Bool} (h : both first second = .ok a) :
    (first = .ok true ∧ second = .ok a) ∨ (first = .ok false ∧ a = false) := by
  rcases first with e | _ | _
  · cases h
  · cases h
    exact Or.inr ⟨rfl, rfl⟩
  · exact Or.inl ⟨rfl, h⟩

omit [Custom γ] in
/-- Criteria that are all asked, up to the first no, answer for all of them. -/
theorem allAccept_eq_ok {ask : Criterion γ → Except QueryError Bool} {H : Criterion γ → Prop}
    (hask : ∀ cr a, ask cr = .ok a → (a = true ↔ H cr)) :
    ∀ {cs : List (Criterion γ)} {a : Bool}, allAccept ask cs = .ok a → (a = true ↔ ∀ cr ∈ cs, H cr)
  | [],       a, h => by
    cases h
    simp
  | cr :: cs, a, h => by
    rw [List.forall_mem_cons]
    rcases both_eq_ok h with ⟨h1, h2⟩ | ⟨h1, rfl⟩
    · rw [allAccept_eq_ok hask h2]
      have := (hask cr true h1).1 rfl
      exact ⟨fun hcs => ⟨this, hcs⟩, And.right⟩
    · have := mt (hask cr false h1).2
      exact ⟨nofun, fun hcs => absurd hcs.1 (this nofun)⟩

end Criterion

namespace Query

open Criterion

theorem testKey_holdsIn {codec : Codec} (cr : Criterion γ) (a : Bool) (h : cr.testKey codec key = .ok a) :
    a = true ↔ cr.HoldsIn codec keyField key r := by
  unfold HoldsIn
  rw [if_pos rfl, h, Except.ok.injEq]

theorem test_holdsIn {codec : Codec} {field : String} {v : Value γ} (hk : field ≠ keyField)
    (hv : r.field field = some v) (cr : Criterion γ) (a : Bool) (h : cr.test v = .ok a) :
    a = true ↔ cr.HoldsIn codec field key r := by
  unfold HoldsIn
  rw [if_neg hk, test_eq_ok h, hv]
  simp

/-- **A clause that gives an answer says whether it holds**; the criteria that are not asked again hold. -/
theorem accepts_eq_ok {cl : Clause γ} {narrowed : Bool} : ∀ {l : List (String × List (Criterion γ))} {a : Bool},
    (narrowed = true → ∀ e ∈ l, cl.index = some e.1 → ∀ cr ∈ e.2, cr.HoldsIn c e.1 key r) →
    accepts c cl narrowed key r l = .ok a → (a = true ↔ ∀ e ∈ l, ∀ cr ∈ e.2, cr.HoldsIn c e.1 key r)
  | [],              a, _,  h => by
    cases h
    simp
  | (field, cs) :: t, a, hn, h => by
    have ih : ∀ {a}, accepts c cl narrowed key r t = .ok a → _ :=
      accepts_eq_ok (fun hw e he => hn hw e (List.mem_cons_of_mem _ he))
    -- what the first field says, and then the others
    have hcons : ∀ {first : Except QueryError Bool},
        (∀ a, first = .ok a → (a = true ↔ ∀ cr ∈ cs, cr.HoldsIn c field key r)) →
        both first (accepts c cl narrowed key r t) = .ok a →
        (a = true ↔ ∀ e ∈ (field, cs) :: t, ∀ cr ∈ e.2, cr.HoldsIn c e.1 key r) := by
      intro first hfirst hboth
      rw [List.forall_mem_cons]
      rcases both_eq_ok hboth with ⟨h1, h2⟩ | ⟨h1, rfl⟩
      · rw [ih h2]
        have := (hfirst true h1).1 rfl
        exact ⟨fun hcs => ⟨this, hcs⟩, And.right⟩
      · have := mt (hfirst false h1).2
        exact ⟨nofun, fun hcs => absurd hcs.1 (this nofun)⟩
    unfold accepts at h
    by_cases hk : field = keyField
    · rw [if_pos hk] at h
      subst hk
      exact hcons (fun a ha => allAccept_eq_ok (fun cr a => testKey_holdsIn cr a) ha) h
    · rw [if_neg hk] at h
      by_cases hi : narrowed = true ∧ cl.index = some field
      · rw [if_pos hi] at h
        rw [ih h, List.forall_mem_cons]
        exact ⟨fun hcs => ⟨hn hi.1 _ List.mem_cons_self hi.2, hcs⟩, And.right⟩
      · rw [if_neg hi] at h
        cases hv : r.field field with
        | none =>
          rw [hv] at h
          cases h
        | some v =>
          rw [hv] at h
          exact hcons (fun a ha => allAccept_eq_ok (fun cr a => test_holdsIn hk hv cr a) ha) h

/-- **An answer with all fields asked is the answer with the nominated one left out**, if the criteria on it hold. -/
theorem accepts_narrowed {cl : Clause γ} : ∀ {l : List (String × List (Criterion γ))} {a : Bool},
    (∀ e ∈ l, cl.index = some e.1 → ∀ cr ∈ e.2, cr.HoldsIn c e.1 key r) →
    accepts c cl false key r l = .ok a → accepts c cl true key r l = .ok a
  | [],               a, _,  h => h
  | (field, cs) :: t, a, hn, h => by
    have ih : ∀ {a}, accepts c cl false key r t = .ok a → accepts c cl true key r t = .ok a :=
      accepts_narrowed (fun e he => hn e (List.mem_cons_of_mem _ he))
    have hcons : ∀ {first : Except QueryError Bool}, both first (accepts c cl false key r t) = .ok a →
        both first (accepts c cl true key r t) = .ok a := by
      intro first hboth
      rcases both_eq_ok hboth with ⟨h1, h2⟩ | ⟨h1, rfl⟩
      · rw [h1]
        exact ih h2
      · rw [h1]
        rfl
    unfold accepts at h ⊢
    by_cases hk : field = keyField
    · rw [if_pos hk] at h ⊢
      exact hcons h
    · rw [if_neg hk, if_neg (by simp)] at h
      rw [if_neg hk]
      cases hv : r.field field with
      | none =>
        rw [hv] at h
        cases h
      | some v =>
        rw [hv] at h
        simp only at h
        by_cases hi : cl.index = some field
        · rw [if_pos ⟨rfl, hi⟩]
          rcases both_eq_ok h with ⟨-, h2⟩ | ⟨h1, -⟩
          · exact ih h2
          · -- the criteria on the nominated field hold, so they were not what said no
            have hall := hn _ List.mem_cons_self hi
            exact absurd ((allAccept_eq_ok (fun cr a => test_holdsIn hk hv cr a) h1).2 hall) nofun
        · rw [if_neg (fun h => hi h.2)]
          exact hcons h

end Query

/-! ## The nominated field -/

/-- The index key of a record's field is the key of the scalar in it. -/
theorem scalar_of_keyFor {f : String} {i : Bytes} (h : Index.keyFor r f = .ok i) :
    ∃ s, r.field f = some (.plain s) ∧ i = IndexKey.ofScalar s := by
  unfold Index.keyFor at h
  cases hv : r.field f with
  | none =>
    rw [hv] at h
    cases h
  | some v =>
    rw [hv] at h
    cases v with
    | plain s =>
      cases h
      exact ⟨s, rfl, rfl⟩
    | custom x => cases h

/-- **The planned ranges hold the index key of a record** exactly if the criteria on the nominated field hold on it. -/
theorem Clause.planned_exact {cl : Clause γ} {f : String} {rs : List KeyRange}
    (hp : cl.planned T Policy.ranges = some (f, rs)) (hf : f ≠ keyField) {i : Bytes} (hi : Index.keyFor r f = .ok i) :
    (∃ rg ∈ rs, rg.contains i = true) ↔ ∀ cr ∈ cl.on f, cr.HoldsIn c f key r := by
  obtain ⟨-, -, hrs⟩ := Clause.planned_eq_some hp
  obtain ⟨s, hs, rfl⟩ := scalar_of_keyFor hi
  rw [Policy.ranges_exact hrs s]
  refine forall_congr' (fun cr => forall_congr' (fun _ => ?_))
  unfold Criterion.HoldsIn
  rw [if_neg hf, hs]
  simp

end RecordHold
