import RecordHold.Proofs.Answering
import RecordHold.Query.Draft
import RecordHold.Sample.People
/-!
# Proofs.Building — what builder calls make of a query

Calls fail at the first name that is none (`run_eq_error`).  Where all names are, what the calls since the last start
have made can be read off them: the criteria on a field are the tests that came while it was active, the branches are the
queries of the branches, and the index is the last nomination (`takeAll_ok`).  No list of criteria is empty, so the
criteria by field determine the whole clause (`Clause.Tidy.ext`), and the order of calls on different fields does not
matter.
-/
namespace RecordHold

open Std

variable {γ : Type}

/-! ## Names of fields -/

/-- The empty name is one, and so is every name that begins with an upper-case letter. -/
def isField (field : String) : Bool := field.toList.head?.all isUppercase

theorem checkField_eq (field : String) :
    checkField field = if isField field then .ok () else .error (.invalidFieldName field) := by
  unfold checkField isField
  split
  · rename_i h
    rw [h]
    exact (if_pos rfl).symm
  · rename_i c t h
    rw [h, List.head?_cons, Option.all_some]

theorem isField_keyField : isField keyField = true := by decide

theorem isField_cons {field : String} {c : Char} {t : List Char} (h : field.toList = c :: t) :
    isField field = isUppercase c := by
  rw [isField, h, List.head?_cons, Option.all_some]

/-- A property of all runs is shown line by line. -/
theorem Runs.forall_ofLines {p : Run → Prop} {lines : List String} (h : ∀ s ∈ lines, ∀ r ∈ ofString s, p r) :
    ∀ r ∈ ofLines lines, p r := by
  intro r hr
  obtain ⟨s, hs, hrs⟩ := List.mem_flatMap.1 hr
  exact h s hs r hrs

/-- All upper-case characters but `A` to `Z` come after those that have seven bits. -/
theorem uppercase_runs : ∀ r ∈ uppercase, r = ⟨0x41, 0x5A, 1⟩ ∨ 0x80 ≤ r.lo := by
  apply Runs.forall_ofLines
  simp only [List.forall_mem_cons, List.not_mem_nil, false_implies, implies_true, and_true]
  repeat' apply And.intro
  -- the characters of a line are not found by evaluation, but are those that it is written with
  all_goals
    rw [Runs.ofString, Runs.words, String.toList_ofList]
    decide +kernel

theorem mem_uppercase_capitals : ⟨0x41, 0x5A, 1⟩ ∈ uppercase := by
  refine List.mem_flatMap.2 ⟨_, List.mem_cons_self, ?_⟩
  rw [Runs.ofString, Runs.words, String.toList_ofList]
  decide +kernel

/-- **Of the characters that have seven bits, `A` to `Z` are upper-case.** -/
theorem isUppercase_of_ascii {c : Char} (h : c.toNat < 0x80) : isUppercase c = true ↔ 0x41 ≤ c.toNat ∧ c.toNat ≤ 0x5A := by
  rw [isUppercase, Runs.has, List.any_eq_true]
  constructor
  · rintro ⟨r, hr, hhas⟩
    rw [Run.has, Bool.and_eq_true, Bool.and_eq_true, decide_eq_true_eq, decide_eq_true_eq] at hhas
    rcases uppercase_runs r hr with rfl | hlo
    · exact hhas.1
    · omega
  · intro hc
    exact ⟨_, mem_uppercase_capitals, by simp [Run.has, hc, Nat.mod_one]⟩

/-- The first name that is none decides. -/
theorem forM_checkField {e : QueryError} : ∀ {names : List String},
    forM names checkField = .error e ↔ ∃ pre name post, names = pre ++ name :: post ∧
      (∀ n ∈ pre, isField n = true) ∧ isField name = false ∧ e = .invalidFieldName name
  | [] => by simp [pure, Except.pure]
  | n :: names => by
    have ih := @forM_checkField e names
    rw [List.forM_cons, checkField_eq]
    cases hn : isField n with
    | true =>
      refine Iff.trans ih ⟨?_, ?_⟩
      · rintro ⟨pre, name, post, rfl, hpre, hname, he⟩
        exact ⟨n :: pre, name, post, rfl, List.forall_mem_cons.2 ⟨hn, hpre⟩, hname, he⟩
      · rintro ⟨pre, name, post, hnames, hpre, hname, he⟩
        cases pre with
        | nil =>
          cases hnames
          rw [hn] at hname
          cases hname
        | cons _ pre =>
          cases hnames
          exact ⟨pre, name, post, rfl, (List.forall_mem_cons.1 hpre).2, hname, he⟩
    | false =>
      constructor
      · intro h
        cases h
        exact ⟨[], n, names, rfl, nofun, hn, rfl⟩
      · rintro ⟨pre, name, post, hnames, hpre, hname, rfl⟩
        cases pre with
        | nil =>
          cases hnames
          rfl
        | cons _ pre =>
          cases hnames
          have hfield := hpre n List.mem_cons_self
          rw [hn] at hfield
          cases hfield

mutual
/-- The fields that a call names, in the order that they are asked in. -/
def BuilderCall.named : BuilderCall γ → List String
  | .start field | .and field | .nominate field => [field]
  | .test _    => []
  | .or branch => BuilderCall.namedIn branch

def BuilderCall.namedIn : List (BuilderCall γ) → List String
  | []     => []
  | c :: t => c.named ++ BuilderCall.namedIn t
end

namespace Draft

open BuilderCall

theorem map_one (field : String) {α : Type} (f : Unit → α) :
    ((checkField field).map f).map (fun _ => ()) = forM [field] checkField := by
  rw [List.forM_cons]
  cases checkField field <;> rfl

mutual
theorem take_named : ∀ (c : BuilderCall γ) (d : Draft γ),
    (take c d).map (fun _ => ()) = forM c.named checkField
  | .start field,    _ => map_one field _
  | .and field,      _ => map_one field _
  | .test _,         _ => rfl
  | .or branch,      d => by
    have ih := takeAll_named branch empty
    rw [named, ← ih, take]
    cases takeAll branch empty <;> rfl
  | .nominate field, d => by
    rw [named, ← map_one field (fun _ => ()), take, nominate, Query.nominate]
    cases checkField field <;> rfl

/-- **Calls ask for one name after the other**, whatever the draft is. -/
theorem takeAll_named : ∀ (calls : List (BuilderCall γ)) (d : Draft γ),
    (takeAll calls d).map (fun _ => ()) = forM (namedIn calls) checkField
  | [],         _ => rfl
  | c :: calls, d => by
    have hc := take_named c d
    rw [namedIn, List.forM_append, ← hc, takeAll]
    cases h : take c d with
    | error e => rfl
    | ok d'   => exact takeAll_named calls d'
end

/-- **Building fails at the first name that is none.** -/
theorem run_eq_error {calls : List (BuilderCall γ)} {e : QueryError} :
    run calls = .error e ↔ ∃ pre name post, namedIn calls = pre ++ name :: post ∧
      (∀ n ∈ pre, isField n = true) ∧ isField name = false ∧ e = .invalidFieldName name := by
  rw [← forM_checkField, ← takeAll_named calls empty]
  show run calls = .error e ↔ (run calls).map (fun _ => ()) = .error e
  cases run calls <;> simp [Except.map]

theorem exists_run {calls : List (BuilderCall γ)} (h : ∀ n ∈ namedIn calls, isField n = true) :
    ∃ d, run calls = .ok d := by
  cases hrun : run calls with
  | ok d => exact ⟨d, rfl⟩
  | error e =>
    obtain ⟨pre, name, post, hnames, -, hname, -⟩ := run_eq_error.1 hrun
    rw [h name (by rw [hnames]; exact List.mem_append_right pre List.mem_cons_self)] at hname
    cases hname

/-- **What a call that succeeds makes of a draft.** -/
inductive Taken (d : Draft γ) : BuilderCall γ → Draft γ → Prop where
  | start (field : String) : isField field = true →
      Taken d (.start field) ⟨.node (Clause.empty.nominate field) [], field⟩
  | and (field : String) : isField field = true → Taken d (.and field) { d with active := field }
  | test (x : Criterion γ) : Taken d (.test x) (d.push x)
  | or (branch : List (BuilderCall γ)) (b : Draft γ) : run branch = .ok b → Taken d (.or branch) (d.or b.query)
  | nominate (field : String) : isField field = true →
      Taken d (.nominate field) ⟨.node (d.query.clause.nominate field) d.query.branches, d.active⟩

theorem map_checkField_eq_ok {field : String} {α : Type} {f : Unit → α} {a : α}
    (h : (checkField field).map f = .ok a) : isField field = true ∧ a = f () := by
  rw [checkField_eq] at h
  cases hf : isField field with
  | true =>
    rw [hf] at h
    cases h
    exact ⟨rfl, rfl⟩
  | false =>
    rw [hf] at h
    cases h

theorem taken_of_ok {c : BuilderCall γ} {d d' : Draft γ} (h : take c d = .ok d') : Taken d c d' := by
  cases c with
  | start field =>
    obtain ⟨hf, rfl⟩ := map_checkField_eq_ok h
    exact .start field hf
  | and field =>
    obtain ⟨hf, rfl⟩ := map_checkField_eq_ok h
    exact .and field hf
  | test x =>
    cases h
    exact .test x
  | or branch =>
    obtain ⟨b, hb, rfl⟩ := Except.map_eq_ok h
    exact .or branch b hb
  | nominate field =>
    obtain ⟨q, hq, rfl⟩ := Except.map_eq_ok h
    obtain ⟨hf, rfl⟩ := map_checkField_eq_ok hq
    exact .nominate field hf

theorem takeAll_cons_eq_ok {c : BuilderCall γ} {calls : List (BuilderCall γ)} {d d' : Draft γ}
    (h : takeAll (c :: calls) d = .ok d') : ∃ m, take c d = .ok m ∧ takeAll calls m = .ok d' := by
  unfold takeAll at h
  split at h
  · cases h
  · exact ⟨_, ‹_›, h⟩

end Draft

/-! ## Criteria by field -/

namespace Clause

theorem on_add (cl : Clause γ) (field f : String) (x : Criterion γ) :
    (cl.add field x).on f = if f = field then cl.on field ++ [x] else cl.on f := by
  unfold on add
  simp only [SortedMap.get?_insert]
  by_cases hf : f = field
  · subst hf
    rw [if_pos ReflOrd.compare_self, if_pos rfl]
    rfl
  · rw [if_neg (fun hc => hf (LawfulEqCmp.eq_of_compare hc)), if_neg hf]

/-- **Criteria stand under names of fields, and none of their lists is empty.** -/
def Tidy (cl : Clause γ) : Prop := ∀ e ∈ cl.criteria.entries, isField e.1 = true ∧ e.2 ≠ []

theorem Tidy.add {cl : Clause γ} (h : cl.Tidy) {field : String} (hf : isField field = true) (x : Criterion γ) :
    (cl.add field x).Tidy := by
  intro e he
  rcases SortedMap.mem_place he with rfl | he
  · exact ⟨hf, List.append_ne_nil_of_right_ne_nil _ (List.cons_ne_nil x [])⟩
  · exact h e he

theorem Tidy.mem_iff {cl : Clause γ} (h : cl.Tidy) {field : String} {cs : List (Criterion γ)} :
    (field, cs) ∈ cl.criteria.entries ↔ cl.on field = cs ∧ cs ≠ [] := by
  constructor
  · exact fun hmem => ⟨mem_on hmem, (h _ hmem).2⟩
  · rintro ⟨rfl, hne⟩
    exact (on_eq field).resolve_left hne

/-- A clause has no criteria exactly if no field has any. -/
theorem Tidy.isEmpty_iff {cl : Clause γ} (h : cl.Tidy) : cl.criteria.isEmpty = true ↔ ∀ f, cl.on f = [] := by
  unfold SortedMap.isEmpty
  rw [List.isEmpty_iff]
  constructor
  · intro hnil f
    rcases @on_eq _ cl f with hf | hf
    · exact hf
    · rw [hnil] at hf
      cases hf
  · intro hall
    refine List.eq_nil_iff_forall_not_mem.2 (fun e he => ?_)
    obtain ⟨hon, hne⟩ := h.mem_iff.1 he
    exact hne (hon ▸ hall e.1)

/-- **A tidy clause is determined by its index and its criteria by field.** -/
theorem Tidy.ext {cl cl' : Clause γ} (h : cl.Tidy) (h' : cl'.Tidy) (hindex : cl.index = cl'.index)
    (hon : ∀ f, cl.on f = cl'.on f) : cl = cl' := by
  obtain ⟨index, entries, hasc⟩ := cl
  obtain ⟨index', entries', hasc'⟩ := cl'
  obtain rfl : index = index' := hindex
  obtain rfl : entries = entries' := hasc.ext hasc' (fun ⟨f, cs⟩ => by
    have hmem := @Tidy.mem_iff _ _ h f cs
    rw [hon f] at hmem
    exact hmem.trans h'.mem_iff.symm)
  rfl

end Clause

namespace Draft

open BuilderCall

/-- **All clauses of a draft are tidy**, and its active field has a name. -/
def Tidy (d : Draft γ) : Prop := isField d.active = true ∧ ∀ n ∈ d.query.nodes, n.clause.Tidy

theorem tidy_iff {d : Draft γ} : d.Tidy ↔
    isField d.active = true ∧ d.query.clause.Tidy ∧ ∀ n ∈ Query.nodesOfAll d.query.branches, n.clause.Tidy := by
  unfold Tidy
  rw [Query.nodes_eq, List.forall_mem_cons]

theorem tidy_empty : (empty : Draft γ).Tidy := tidy_iff.2 ⟨isField_keyField, nofun, nofun⟩

mutual
theorem tidy_take : ∀ (c : BuilderCall γ) {d d' : Draft γ}, d.Tidy → take c d = .ok d' → d'.Tidy
  | .or branch, d, d', hd, h => by
    obtain ⟨b, hb, rfl⟩ := Except.map_eq_ok h
    have hbranch := tidy_takeAll branch tidy_empty hb
    obtain ⟨hactive, hclause, hbranches⟩ := tidy_iff.1 hd
    refine tidy_iff.2 ⟨hactive, hclause, fun n hn => ?_⟩
    rw [or, Query.or, Query.branches, Query.nodesOfAll_append, List.mem_append] at hn
    exact hn.elim (hbranches n) (hbranch.2 n)
  | .start field, d, d', _, h => by
    cases taken_of_ok h with
    | start _ hf => exact tidy_iff.2 ⟨hf, nofun, nofun⟩
  | .and field, d, d', hd, h => by
    cases taken_of_ok h with
    | and _ hf => exact ⟨hf, hd.2⟩
  | .test x, d, d', hd, h => by
    cases h
    obtain ⟨hactive, hclause, hbranches⟩ := tidy_iff.1 hd
    exact tidy_iff.2 ⟨hactive, hclause.add hactive x, hbranches⟩
  | .nominate field, d, d', hd, h => by
    cases taken_of_ok h with
    | nominate _ hf =>
      obtain ⟨hactive, hclause, hbranches⟩ := tidy_iff.1 hd
      exact tidy_iff.2 ⟨hactive, hclause, hbranches⟩

theorem tidy_takeAll : ∀ (calls : List (BuilderCall γ)) {d d' : Draft γ}, d.Tidy → takeAll calls d = .ok d' → d'.Tidy
  | [],         _, _, hd, h => by
    cases h
    exact hd
  | c :: calls, _, _, hd, h => by
    obtain ⟨m, hm, hrest⟩ := takeAll_cons_eq_ok h
    exact tidy_takeAll calls (tidy_take c hd hm) hrest
end

end Draft

/-! ## What calls say -/

namespace BuilderCall

def isStart : BuilderCall γ → Bool
  | .start _ => true
  | _        => false

/-- The calls from the last start on, or all if there is none. -/
def sinceStart : List (BuilderCall γ) → List (BuilderCall γ)
  | []     => []
  | c :: t => if t.any isStart then sinceStart t else c :: t

/-- The tests that come while a field is active; at first another one may be. -/
def criteriaOn (field : String) : String → List (BuilderCall γ) → List (Criterion γ)
  | _,      []                       => []
  | _,      .start f :: t            => criteriaOn field f t
  | _,      .and f :: t              => criteriaOn field f t
  | active, .test x :: t             => if field = active then x :: criteriaOn field active t else criteriaOn field active t
  | active, .or _ :: t               => criteriaOn field active t
  | active, .nominate _ :: t         => criteriaOn field active t

def branch? : BuilderCall γ → Option (List (BuilderCall γ))
  | .or branch => some branch
  | _          => none

def nominated? : BuilderCall γ → Option String
  | .start field | .nominate field => some field
  | _                              => none

/-- A field as an index; the key is none. -/
def asIndex (field : String) : Option String := if field = keyField then none else some field

/-- The index that was nominated last. -/
def nomination (calls : List (BuilderCall γ)) : Option String := (calls.filterMap nominated?).getLast?.bind asIndex

theorem not_start_tail_sinceStart : ∀ (calls : List (BuilderCall γ)), ∀ c ∈ (sinceStart calls).tail, c.isStart = false
  | [],     c, hc => nomatch hc
  | a :: t, c, hc => by
    rw [sinceStart] at hc
    split at hc
    · exact not_start_tail_sinceStart t c hc
    · rename_i hnone
      exact Bool.eq_false_iff.2 (fun hstart => hnone (List.any_eq_true.2 ⟨c, hc, hstart⟩))

end BuilderCall

namespace Draft

open BuilderCall

/-- What was called before the last start has no effect. -/
theorem takeAll_sinceStart : ∀ {calls : List (BuilderCall γ)} {d d' : Draft γ}, takeAll calls d = .ok d' →
    calls.any isStart = true → ∀ d₀, takeAll (sinceStart calls) d₀ = .ok d'
  | c :: calls, d, d', h, hany, d₀ => by
    obtain ⟨m, hm, hrest⟩ := takeAll_cons_eq_ok h
    rw [sinceStart]
    by_cases htail : calls.any isStart = true
    · rw [if_pos htail]
      exact takeAll_sinceStart hrest htail d₀
    · rw [if_neg htail]
      rw [List.any_cons, Bool.or_eq_true] at hany
      cases c with
      | start field =>
        unfold takeAll
        rw [show take (.start field) d₀ = .ok m from hm]
        exact hrest
      | _ => cases hany.resolve_right htail

theorem run_sinceStart {calls : List (BuilderCall γ)} {d : Draft γ} (h : run calls = .ok d) :
    run (sinceStart calls) = .ok d := by
  cases calls with
  | nil => exact h
  | cons c t =>
    by_cases hany : (c :: t).any isStart = true
    · exact takeAll_sinceStart h hany empty
    · have htail : ¬ t.any isStart = true := fun ht => hany (by rw [List.any_cons, ht, Bool.or_true])
      rw [sinceStart, if_neg htail]
      exact h

/-- The query that calls make. -/
def built (calls : List (BuilderCall γ)) : Except QueryError (Query γ) := (run calls).map query

theorem built_eq {calls : List (BuilderCall γ)} {d : Draft γ} (h : run calls = .ok d) : built calls = .ok d.query := by
  rw [built, h]
  rfl

/-- **Calls add to a draft** what they say, if they do not start anew: criteria by field, and for each branch the query
that its calls make. -/
theorem takeAll_ok : ∀ {calls : List (BuilderCall γ)} {d d' : Draft γ}, takeAll calls d = .ok d' →
    (∀ c ∈ calls, c.isStart = false) →
      (∀ f, d'.query.clause.on f = d.query.clause.on f ++ criteriaOn f d.active calls) ∧
        ∃ qs, d'.query.branches = d.query.branches ++ qs ∧ (calls.filterMap branch?).map built = qs.map .ok
  | [],         d, d', h, _ => by
    cases h
    exact ⟨fun f => (List.append_nil _).symm, [], (List.append_nil _).symm, rfl⟩
  | c :: calls, d, d', h, hstart => by
    obtain ⟨m, hm, hrest⟩ := takeAll_cons_eq_ok h
    obtain ⟨hc, hcalls⟩ := List.forall_mem_cons.1 hstart
    obtain ⟨hon, qs, hbranches, hqs⟩ := takeAll_ok hrest hcalls
    cases taken_of_ok hm with
    | start field _ => cases hc
    | and field _ => exact ⟨hon, qs, hbranches, hqs⟩
    | test x =>
      refine ⟨fun f => ?_, qs, hbranches, hqs⟩
      rw [hon, criteriaOn, show (d.push x).query.clause = d.query.clause.add d.active x from rfl, Clause.on_add]
      by_cases hf : f = d.active
      · rw [if_pos hf, if_pos hf, hf, List.append_assoc]
        rfl
      · rw [if_neg hf, if_neg hf]
        rfl
    | or branch b hb =>
      refine ⟨hon, b.query :: qs, ?_, ?_⟩
      · rw [hbranches, List.append_cons]
        rfl
      · rw [List.filterMap_cons, branch?, List.map_cons, List.map_cons, built_eq hb, hqs]
    | nominate field _ => exact ⟨hon, qs, hbranches, hqs⟩

/-- **What calls since the last start have made.** -/
theorem run_ok {calls : List (BuilderCall γ)} {d : Draft γ} (h : run calls = .ok d)
    (hstart : ∀ c ∈ calls.tail, c.isStart = false) :
    (∀ f, d.query.clause.on f = criteriaOn f keyField calls) ∧
      (calls.filterMap branch?).map built = d.query.branches.map .ok := by
  cases calls with
  | nil =>
    cases h
    exact ⟨fun f => rfl, rfl⟩
  | cons c t =>
    by_cases hc : c.isStart = false
    · obtain ⟨hon, qs, hbranches, hqs⟩ := takeAll_ok h (List.forall_mem_cons.2 ⟨hc, hstart⟩)
      rw [hbranches]
      exact ⟨hon, hqs⟩
    · obtain ⟨m, hm, hrest⟩ := takeAll_cons_eq_ok h
      obtain ⟨hon, qs, hbranches, hqs⟩ := takeAll_ok hrest hstart
      cases taken_of_ok hm with
      | start field _ =>
        rw [hbranches]
        exact ⟨hon, hqs⟩
      | _ => exact absurd rfl hc

/-- **The index is the one nominated last.** -/
theorem index_takeAll : ∀ {calls : List (BuilderCall γ)} {d d' : Draft γ}, takeAll calls d = .ok d' →
    d'.query.clause.index = match (calls.filterMap nominated?).getLast? with
      | none       => d.query.clause.index
      | some field => asIndex field
  | [],         d, d', h => by
    cases h
    rfl
  | c :: calls, d, d', h => by
    obtain ⟨m, hm, hrest⟩ := takeAll_cons_eq_ok h
    have ih := index_takeAll hrest
    have hcons (field : String) : (field :: calls.filterMap nominated?).getLast? =
        some ((calls.filterMap nominated?).getLast?.getD field) := List.getLast?_cons
    rw [ih]
    cases taken_of_ok hm with
    | start field _ | nominate field _ =>
      rw [List.filterMap_cons, nominated?, hcons]
      cases (calls.filterMap nominated?).getLast? <;> rfl
    | and | test | or => rfl

/-- The index of a query depends on nothing but nominations. -/
theorem index_run {calls : List (BuilderCall γ)} {d : Draft γ} (h : run calls = .ok d) :
    d.query.clause.index = nomination calls := by
  rw [index_takeAll h, nomination]
  cases (calls.filterMap nominated?).getLast? <;> rfl

/-! ## Steps -/

theorem takeAll_append (d : Draft γ) : ∀ (calls more : List (BuilderCall γ)) ,
    takeAll (calls ++ more) d = (takeAll calls d).bind (takeAll more)
  | [],         _    => rfl
  | c :: calls, more => by
    rw [List.cons_append, takeAll, takeAll]
    cases take c d with
    | error e => rfl
    | ok m    => exact takeAll_append m calls more

mutual
theorem takeAll_calls : ∀ (s : QueryStep γ) (d : Draft γ), (takeAll s.calls d).map query = Query.take s d.query
  | .whereField field x, d => by
    unfold Query.take Query.whereField
    rw [QueryStep.calls, takeAll, take, start]
    cases checkField field <;> rfl
  | .and field x,        d => by
    unfold Query.take Query.and
    rw [QueryStep.calls, takeAll, take, and]
    cases checkField field <;> rfl
  | .or branch,          d => by
    have ih := takeAll_callsOf branch empty
    unfold Query.take
    rw [QueryStep.calls, takeAll, take, show (Query.empty : Query γ) = empty.query from rfl, ← ih]
    cases takeAll (QueryStep.callsOf branch) empty <;> rfl
  | .nominate field,     d => by
    unfold Query.take Query.nominate
    rw [QueryStep.calls, takeAll, take, nominate, Query.nominate]
    cases checkField field <;> rfl

theorem takeAll_callsOf : ∀ (steps : List (QueryStep γ)) (d : Draft γ),
    (takeAll (QueryStep.callsOf steps) d).map query = Query.takeAll steps d.query
  | [],         _ => rfl
  | s :: steps, d => by
    have hs := takeAll_calls s d
    unfold Query.takeAll
    rw [QueryStep.callsOf, takeAll_append, ← hs]
    cases takeAll s.calls d with
    | error e => rfl
    | ok m    => exact takeAll_callsOf steps m
end

/-- **A query of steps is the query that their calls make.** -/
theorem build_eq_built (steps : List (QueryStep γ)) : Query.build steps = built (QueryStep.callsOf steps) :=
  (takeAll_callsOf steps empty).symm

/-! ## Order does not matter -/

/-- **Calls that say the same make the same query.** -/
theorem query_ext {calls calls' : List (BuilderCall γ)} {d d' : Draft γ} (h : run calls = .ok d)
    (h' : run calls' = .ok d')
    (hcriteria : ∀ f, criteriaOn f keyField (sinceStart calls) = criteriaOn f keyField (sinceStart calls'))
    (hbranches : ((sinceStart calls).filterMap branch?).map built = ((sinceStart calls').filterMap branch?).map built)
    (hnomination : nomination calls = nomination calls') : d.query = d'.query := by
  obtain ⟨hon, hbuilt⟩ := run_ok (run_sinceStart h) (not_start_tail_sinceStart calls)
  obtain ⟨hon', hbuilt'⟩ := run_ok (run_sinceStart h') (not_start_tail_sinceStart calls')
  have hclause : d.query.clause = d'.query.clause := by
    refine Clause.Tidy.ext (tidy_iff.1 (tidy_takeAll _ tidy_empty h)).2.1 (tidy_iff.1 (tidy_takeAll _ tidy_empty h')).2.1
      ?_ (fun f => ?_)
    · rw [index_run h, index_run h', hnomination]
    · rw [hon, hon', hcriteria]
  have hqs : d.query.branches = d'.query.branches :=
    (List.map_inj_right (fun _ _ => Except.ok.inj)).1 (hbuilt.symm.trans (hbranches.trans hbuilt'))
  obtain ⟨⟨clause, branches⟩, _⟩ := d
  obtain ⟨⟨clause', branches'⟩, _⟩ := d'
  obtain rfl : clause = clause' := hclause
  obtain rfl : branches = branches' := hqs
  rfl

/-- **Queries are built exactly as they are called for.**  Building fails at the first name that is none.  Otherwise all
criteria, those of branches included, stand under names of fields, and no list of them is empty; the criteria on a field
are those called for while it was active, the branches and the nomination are those called for, and a query is empty if
it has no index, no criterion and no branch.  Calls that differ only in how they mix fields make queries that have the
same text and accept the same records. -/
theorem run_exact [Custom γ] (calls : List (BuilderCall γ)) :
    (∀ e, run calls = .error e ↔ ∃ pre name post, namedIn calls = pre ++ name :: post ∧
      (∀ n ∈ pre, isField n = true) ∧ isField name = false ∧ e = .invalidFieldName name) ∧
    ∀ d, run calls = .ok d →
      (∀ n ∈ d.query.nodes, n.clause.Tidy) ∧
      (∀ f, d.query.clause.on f = criteriaOn f keyField (sinceStart calls)) ∧
      ((sinceStart calls).filterMap branch?).map built = d.query.branches.map .ok ∧
      d.query.clause.index = nomination calls ∧
      (d.query.isEmpty = true ↔
        d.query.clause.index = none ∧ (∀ f, d.query.clause.on f = []) ∧ d.query.branches = []) ∧
      ∀ calls' d', run calls' = .ok d' →
        (∀ f, criteriaOn f keyField (sinceStart calls) = criteriaOn f keyField (sinceStart calls')) →
        ((sinceStart calls).filterMap branch?).map built = ((sinceStart calls').filterMap branch?).map built →
        nomination calls = nomination calls' →
          d.query.text = d'.query.text ∧
          ∀ (T : RecordType γ) (codec : Codec) (narrowed : Bool) (key : Bytes) (r : Record T),
            d.query.matchesRecord codec narrowed key r = d'.query.matchesRecord codec narrowed key r := by
  refine ⟨fun e => run_eq_error, fun d h => ?_⟩
  have htidy := tidy_takeAll calls tidy_empty h
  obtain ⟨hon, hbuilt⟩ := run_ok (run_sinceStart h) (not_start_tail_sinceStart calls)
  refine ⟨htidy.2, hon, hbuilt, index_run h, ?_, fun calls' d' h' hcriteria hbranches hnomination => ?_⟩
  · rw [Query.isEmpty, Bool.and_eq_true, Bool.and_eq_true, (tidy_iff.1 htidy).2.1.isEmpty_iff,
      Option.isNone_iff_eq_none, List.isEmpty_iff, and_assoc]
  · rw [query_ext h h' hcriteria hbranches hnomination]
    exact ⟨rfl, fun T codec narrowed key r => rfl⟩

/-- Two ways to call for a criterion on names, two on ages, a branch and the index of names; and a name that is none. -/
theorem run_exact_mixed :
    let named : BuilderCall UserValue := .test (.relates .ne (.plain (.string "Tim")))
    let young : BuilderCall UserValue := .test (.relates .lt (.plain (.int .u32 ⟨40, by decide⟩)))
    let grown : BuilderCall UserValue := .test (.relates .gt (.plain (.int .u32 ⟨20, by decide⟩)))
    let calls := [.start "Name", named, .and "Age", young, .or [.and "Age", grown], .and "Age", grown]
    let calls' := [.start "Age", young, .nominate "Name", grown, .or [.and "Age", grown], .and "Name", named]
    (∃ d d', run calls = .ok d ∧ run calls' = .ok d' ∧ d.query.text = d'.query.text ∧
      d.query.matchesRecord .binary true [1] Sample.tim = d'.query.matchesRecord .binary true [1] Sample.tim) ∧
    run [.start "Name", named, .and "Age", .or [.and "age"], .nominate "name"] = .error (.invalidFieldName "age") := by
  intro named young grown calls calls'
  have hfields : ∀ n ∈ ["Name", "Age"], isField n = true := by
    rw [List.forall_mem_cons, List.forall_mem_singleton, isField_cons String.toList_ofList,
      isField_cons String.toList_ofList]
    exact ⟨(isUppercase_of_ascii (by decide)).2 (by decide), (isUppercase_of_ascii (by decide)).2 (by decide)⟩
  have hlower : isField "age" = false := by
    rw [isField_cons String.toList_ofList, Bool.eq_false_iff]
    exact fun h => absurd ((isUppercase_of_ascii (by decide)).1 h) (by decide)
  obtain ⟨d, h⟩ := @exists_run _ calls (fun n hn => hfields n (by revert hn n; decide))
  obtain ⟨d', h'⟩ := @exists_run _ calls' (fun n hn => hfields n (by revert hn n; decide))
  have hcriteria (f : String) :
      criteriaOn f keyField (sinceStart calls) = criteriaOn f keyField (sinceStart calls') := by
    show (if f = "Name" then _ else _) = (if f = "Age" then _ else _)
    by_cases hname : f = "Name"
    · subst hname
      rfl
    · by_cases hage : f = "Age"
      · subst hage
        rfl
      · simp [criteriaOn, hname, hage, named, young, grown]
  obtain ⟨-, -, -, -, -, hsame⟩ := (run_exact calls).2 d h
  obtain ⟨htext, hmatch⟩ := hsame calls' d' h' hcriteria rfl rfl
  refine ⟨⟨d, d', h, h', htext, hmatch Sample.person.type .binary true [1] Sample.tim⟩, ?_⟩
  exact ((run_exact _).1 _).2 ⟨["Name", "Age"], "age", ["name"], rfl, hfields, hlower, rfl⟩

end Draft
end RecordHold
