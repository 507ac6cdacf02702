import RecordHold.Proofs.Answering
import RecordHold.Proofs.Deleting
/-!
# Proofs.Selecting — what selecting returns

A node that is answered without a failure contributes the stored records its clause holds on and no earlier node did,
each once and in the order of its scan (`select_node`).  That takes two things: the entries considered are the right
ones and come in the right order (`Candidates`), which a plan that is exact for the clause brings about
(`Clause.Exact`), and asking about them selects those with a yes (`select_entries`).
-/
namespace RecordHold

open Std Buckets

variable {γ : Type} [Custom γ] {T : RecordType γ} {c : Codec} {b : Buckets}

/-! ## Considering entries one after the other -/

namespace Executor

variable {q : Query γ} {narrowed : Bool}

theorem selector_new (q : Query γ) (narrowed : Bool) (hb : Sound T c b) {s : Selection T}
    (hs : Rising s.matched.keys) {e : Entry} {r : Record T} (hn : e.1 ∉ s.matched.keys)
    (hd : Record.decode T c e.2 = .ok r) :
    (selector T b).consider c q narrowed e s = match q.matchesRecord c narrowed e.1 r with
      | .error x  => (.error x, s)
      | .ok false => (.ok true, s)
      | .ok true  => (.ok true, ⟨(s.matched.insert e.1).2, s.records ++ [r]⟩) :=
  Visitor.consider_new (selector_faithful hb) hs hn hd

/-- **Every new entry is asked about** in a selection that succeeds, if no key comes twice. -/
theorem asked (hb : Sound T c b) : ∀ {l : List Entry} {s s' : Selection T}, (∀ e ∈ l, EntryOf T b e) →
    (l.map Prod.fst).Nodup → Rising s.matched.keys →
    (selector T b).considerAll c q narrowed l s = (.ok true, s') →
    ∀ e ∈ l, e.1 ∉ s.matched.keys → ∀ r, Record.decode T c e.2 = .ok r → ∃ a, q.matchesRecord c narrowed e.1 r = .ok a
  | [],     _, _,  _, _,   _,  _, e, he => by cases he
  | x :: l, s, s', h, hnd, hs, hrun, e, he => by
    intro hn r hd
    have hl := fun e he => h e (List.mem_cons_of_mem x he)
    rw [List.map_cons, List.nodup_cons] at hnd
    unfold Visitor.considerAll at hrun
    by_cases hx : x.1 ∈ s.matched.keys
    · rw [Visitor.consider_seen hs hx] at hrun
      rcases List.mem_cons.1 he with rfl | he
      · exact absurd hx hn
      · exact asked hb hl hnd.2 hs hrun e he hn r hd
    · obtain ⟨r', hd', -⟩ := hb.consistent.readable x.1 x.2 (h x List.mem_cons_self)
      rw [selector_new q narrowed hb hs hx hd'] at hrun
      rcases List.mem_cons.1 he with rfl | he
      · rw [hd] at hd'
        cases hd'
        cases hm : q.matchesRecord c narrowed e.1 r with
        | error y =>
          rw [hm] at hrun
          cases hrun
        | ok a => exact ⟨a, rfl⟩
      · rcases hm : q.matchesRecord c narrowed x.1 r' with y | _ | _
        · rw [hm] at hrun
          cases hrun
        · rw [hm] at hrun
          exact asked hb hl hnd.2 hs hrun e he hn r hd
        · rw [hm] at hrun
          obtain ⟨hr', hmem⟩ := KeyList.insert_spec hs x.1
          refine asked hb hl hnd.2 hr' hrun e he (fun hk => ?_) r hd
          rcases (hmem e.1).1 hk with hk | hk
          · exact hnd.1 (List.mem_map.2 ⟨e, he, hk⟩)
          · exact hn hk

/-- **What a selection has appended**: a portion of records under new keys, those with a property, in an order. -/
structure Appended (M : Bytes → Record T → Prop) (R : Bytes × Record T → Bytes × Record T → Prop)
    (s s' : Selection T) (part : List (Bytes × Record T)) : Prop where
  records : s'.records = s.records ++ part.map Prod.snd
  rising  : Rising s'.matched.keys
  matched : ∀ k, k ∈ s'.matched.keys ↔ k ∈ s.matched.keys ∨ ∃ r, (k, r) ∈ part
  members : ∀ k r, (k, r) ∈ part ↔ M k r
  ordered : part.Pairwise R

/-- A key and a record that an entry of a list is read as. -/
def Decoded (T : RecordType γ) (c : Codec) (l : List Entry) (k : Bytes) (r : Record T) : Prop :=
  ∃ raw, (k, raw) ∈ l ∧ Record.decode T c raw = .ok r

omit [Custom γ] in
theorem decoded_cons {x : Entry} {l : List Entry} {k : Bytes} {r r' : Record T} (hd : Record.decode T c x.2 = .ok r) :
    Decoded T c (x :: l) k r' ↔ (k = x.1 ∧ r' = r) ∨ Decoded T c l k r' := by
  constructor
  · rintro ⟨raw, hm, hdr⟩
    rcases List.mem_cons.1 hm with he | hm
    · rw [← he, hdr] at hd
      exact Or.inl ⟨congrArg Prod.fst he, Except.ok.inj hd⟩
    · exact Or.inr ⟨raw, hm, hdr⟩
  · rintro (⟨rfl, rfl⟩ | ⟨raw, hm, hdr⟩)
    · exact ⟨x.2, List.mem_cons_self, hd⟩
    · exact ⟨raw, List.mem_cons_of_mem x hm, hdr⟩

section Appended
variable {P : Bytes → Record T → Prop} {R : Bytes × Record T → Bytes × Record T → Prop} {l : List Entry} {x : Entry}
  {s s' : Selection T} {r : Record T} {part : List (Bytes × Record T)}

omit [Custom γ] in
/-- A first entry that is passed over, or answered with a no, adds nothing. -/
theorem Appended.skip (hA : Appended (fun k r => k ∉ s.matched.keys ∧ P k r ∧ Decoded T c l k r) R s s' part)
    (hd : Record.decode T c x.2 = .ok r) (hno : x.1 ∉ s.matched.keys → ¬ P x.1 r) :
    Appended (fun k r => k ∉ s.matched.keys ∧ P k r ∧ Decoded T c (x :: l) k r) R s s' part := by
  refine ⟨hA.records, hA.rising, hA.matched, fun k r' => ?_, hA.ordered⟩
  rw [hA.members, decoded_cons hd]
  refine and_congr_right (fun hk => and_congr_right (fun hP => ?_))
  refine ⟨Or.inr, fun ho => ho.resolve_left ?_⟩
  rintro ⟨rfl, rfl⟩
  exact hno hk hP

omit [Custom γ] in
/-- A first entry that is answered with a yes comes before what the others add. -/
theorem Appended.take
    (hA : Appended (fun k r => k ∉ (s.matched.insert x.1).2.keys ∧ P k r ∧ Decoded T c l k r) R
      ⟨(s.matched.insert x.1).2, s.records ++ [r]⟩ s' part)
    (hs : Rising s.matched.keys) (hd : Record.decode T c x.2 = .ok r) (hx : x.1 ∉ s.matched.keys) (hP : P x.1 r)
    (hfirst : ∀ k r', Decoded T c l k r' → k ≠ x.1 ∧ R (x.1, r) (k, r')) :
    Appended (fun k r => k ∉ s.matched.keys ∧ P k r ∧ Decoded T c (x :: l) k r) R s s' ((x.1, r) :: part) := by
  have hmk := (KeyList.insert_spec hs x.1).2
  refine ⟨?_, hA.rising, fun k => ?_, fun k r' => ?_, ?_⟩
  · rw [hA.records, List.map_cons, List.append_assoc]
    rfl
  · rw [hA.matched, hmk]
    simp only [List.mem_cons, Prod.mk.injEq]
    grind
  · rw [List.mem_cons, Prod.mk.injEq, hA.members, decoded_cons hd, hmk]
    constructor
    · rintro (⟨rfl, rfl⟩ | ⟨hk, hP', hl⟩)
      · exact ⟨hx, hP, Or.inl ⟨rfl, rfl⟩⟩
      · exact ⟨fun h => hk (Or.inr h), hP', Or.inr hl⟩
    · rintro ⟨hk, hP', he | hl⟩
      · exact Or.inl he
      · exact Or.inr ⟨fun h => h.elim (hfirst k r' hl).1 hk, hP', hl⟩
  · exact List.Pairwise.cons (fun p hp => (hfirst p.1 p.2 ((hA.members p.1 p.2).1 hp).2.2).2) hA.ordered

end Appended

/-- **A selection whose every new entry gets an answer** succeeds, and appends the records with a yes. -/
theorem select_entries (hb : Sound T c b) {P : Bytes → Record T → Prop}
    {R : Bytes × Record T → Bytes × Record T → Prop} : ∀ {l : List Entry} {s : Selection T},
    (∀ e ∈ l, EntryOf T b e) → (l.map Prod.fst).Nodup →
    l.Pairwise (fun e e' => ∀ r r', Record.decode T c e.2 = .ok r → Record.decode T c e'.2 = .ok r' →
      R (e.1, r) (e'.1, r')) →
    Rising s.matched.keys →
    (∀ e ∈ l, e.1 ∉ s.matched.keys → ∀ r, Record.decode T c e.2 = .ok r →
      ∃ a, q.matchesRecord c narrowed e.1 r = .ok a ∧ (a = true ↔ P e.1 r)) →
    ∃ s' part, (selector T b).considerAll c q narrowed l s = (.ok true, s') ∧
      Appended (fun k r => k ∉ s.matched.keys ∧ P k r ∧ Decoded T c l k r) R s s' part
  | [],     s, _, _,   _,  hs, _ => ⟨s, [], rfl, by simp, hs, by simp, by simp [Decoded], List.Pairwise.nil⟩
  | x :: l, s, h, hnd, hR, hs, hask => by
    obtain ⟨r, hd, -⟩ := hb.consistent.readable x.1 x.2 (h x List.mem_cons_self)
    have hl := fun e he => h e (List.mem_cons_of_mem x he)
    rw [List.map_cons, List.nodup_cons] at hnd
    have hfirst : ∀ k r', Decoded T c l k r' → k ≠ x.1 ∧ R (x.1, r) (k, r') := by
      rintro k r' ⟨raw, hm, hdr⟩
      refine ⟨?_, List.rel_of_pairwise_cons hR hm r r' hd hdr⟩
      rintro rfl
      exact hnd.1 (List.mem_map.2 ⟨_, hm, rfl⟩)
    by_cases hskip : (selector T b).consider c q narrowed x s = (.ok true, s) ∧ (x.1 ∉ s.matched.keys → ¬ P x.1 r)
    · obtain ⟨hcons, hno⟩ := hskip
      obtain ⟨s', part, hrun, hA⟩ :=
        select_entries hb hl hnd.2 hR.of_cons hs (fun e he => hask e (List.mem_cons_of_mem x he))
      refine ⟨s', part, ?_, hA.skip hd hno⟩
      rw [Visitor.considerAll, hcons]
      exact hrun
    · have hx : x.1 ∉ s.matched.keys := fun hx =>
        hskip ⟨Visitor.consider_seen hs hx, fun hn => absurd hx hn⟩
      obtain ⟨a, ha, haP⟩ := hask x List.mem_cons_self hx r hd
      have hcons := selector_new q narrowed hb hs hx hd
      rw [ha] at hcons
      cases a with
      | false => exact absurd ⟨hcons, fun _ hP => absurd (haP.2 hP) Bool.false_ne_true⟩ hskip
      | true =>
        obtain ⟨hins, hmk⟩ := KeyList.insert_spec hs x.1
        obtain ⟨s', part, hrun, hA⟩ :=
          select_entries (s := ⟨(s.matched.insert x.1).2, s.records ++ [r]⟩) hb hl hnd.2 hR.of_cons hins
            (fun e he hn => hask e (List.mem_cons_of_mem x he) (fun hk => hn ((hmk e.1).2 (Or.inr hk))))
        refine ⟨s', (x.1, r) :: part, ?_, hA.take hs hd hx (haP.1 rfl) hfirst⟩
        rw [Visitor.considerAll, hcons]
        exact hrun

end Executor

/-! ## The candidates of a clause -/

/-- **The order of a scan**: by key, or by the index key of the field the clause is narrowed to and then by key. -/
def Clause.Before (cl : Clause γ) (T : RecordType γ) (policy : Policy γ) (p q : Bytes × Record T) : Prop :=
  match cl.planned T policy with
  | none        => compare p.1 q.1 = .lt
  | some (f, _) => ∃ i j, Index.keyFor p.2 f = .ok i ∧ Index.keyFor q.2 f = .ok j ∧
      (compare i j = .lt ∨ (i = j ∧ compare p.1 q.1 = .lt))

/-- Two records in scan order have different keys, or else one key would have two records. -/
theorem Clause.Before.ne {cl : Clause γ} {policy : Policy γ} {p q : Bytes × Record T} (h : cl.Before T policy p q) :
    p ≠ q := by
  rintro rfl
  unfold Clause.Before at h
  split at h
  · exact ne_of_compare_lt h rfl
  · obtain ⟨i, j, hi, hj, hlt⟩ := h
    rw [hi] at hj
    cases hj
    rcases hlt with hlt | ⟨-, hlt⟩ <;> exact ne_of_compare_lt hlt rfl

/-- A record whose index key for a field lies in one of some ranges. -/
def InRanges (f : String) (rs : List KeyRange) (r : Record T) : Prop :=
  ∃ i, Index.keyFor r f = .ok i ∧ ∃ rg ∈ rs, rg.contains i = true

/-- **What the candidates of a clause are**: stored entries, no key twice, in scan order; all of them, or those whose
index keys lie in the planned ranges. -/
structure Candidates (cl : Clause γ) (T : RecordType γ) (policy : Policy γ) (c : Codec) (b : Buckets) (l : List Entry) :
    Prop where
  entries : ∀ e ∈ l, EntryOf T b e
  nodup   : (l.map Prod.fst).Nodup
  ordered : l.Pairwise (fun e e' => ∀ r r', Record.decode T c e.2 = .ok r → Record.decode T c e'.2 = .ok r' →
    cl.Before T policy (e.1, r) (e'.1, r'))
  members : ∀ {e r}, EntryOf T b e → Record.decode T c e.2 = .ok r →
    (e ∈ l ↔ ∀ f rs, cl.planned T policy = some (f, rs) → InRanges f rs r)

theorem candidates_primary {cl : Clause γ} {policy : Policy γ} (hp : cl.planned T policy = none) :
    Candidates cl T policy c b ((cl.source T policy).left c b T.bucket) := by
  have hl : (cl.source T policy).left c b T.bucket = (b.bucket T.bucket).entries := by
    rw [Clause.source, hp]
    exact List.filter_eq_self.2 (fun e _ => KeyRange.contains_all e.1)
  rw [hl]
  refine ⟨fun e he => mem_bucket.1 he, (b.bucket T.bucket).rising_keys.nodup, ?_, fun he _ => ?_⟩
  · refine List.Pairwise.imp (fun hlt r r' _ _ => ?_) (b.bucket T.bucket).ascending
    unfold Clause.Before
    rw [hp]
    exact hlt
  · rw [hp]
    exact ⟨fun _ f rs hf => (by cases hf), fun _ => mem_bucket.2 he⟩

section Listed
variable {f : String} {rg : KeyRange}

/-- A listed entry is stored, and its record has an index key in the range. -/
theorem exists_of_mem_listed (hb : Sound T c b) (hf : f ∈ T.indexes) {e : Entry}
    (he : e ∈ listed c b T.bucket (indexBucket T.bucket f) rg) :
    ∃ i r, rg.contains i = true ∧ EntryOf T b e ∧ Record.decode T c e.2 = .ok r ∧ Index.keyFor r f = .ok i := by
  obtain ⟨⟨i, k⟩, hpair, rfl⟩ := List.mem_map.1 he
  obtain ⟨hc, r, hr, hi⟩ := ((hb.consistent.lists f hf).mem_postings hb.sized mem_keys_of_under rg).1 hpair
  obtain ⟨raw, hv, hd⟩ := rows_eq_some.1 hr
  rw [entry_of_value? hv]
  exact ⟨i, r, hc, hv, hd, hi⟩

/-- **A stored entry is listed for a range** exactly if the index key of its record lies in the range. -/
theorem mem_listed (hb : Sound T c b) (hf : f ∈ T.indexes) {e : Entry} {r : Record T} (he : EntryOf T b e)
    (hd : Record.decode T c e.2 = .ok r) : e ∈ listed c b T.bucket (indexBucket T.bucket f) rg ↔
      ∃ i, Index.keyFor r f = .ok i ∧ rg.contains i = true := by
  constructor
  · intro hm
    obtain ⟨i, r', hc, -, hd', hi⟩ := exists_of_mem_listed hb hf hm
    rw [hd] at hd'
    cases hd'
    exact ⟨i, hi, hc⟩
  · rintro ⟨i, hi, hc⟩
    have hr : b.rows T c e.1 = some r := rows_eq_some.2 ⟨e.2, he, hd⟩
    have hpair : (i, e.1) ∈ postings c (within rg (b.bucket (indexBucket T.bucket f)).entries) :=
      ((hb.consistent.lists f hf).mem_postings hb.sized mem_keys_of_under rg).2 ⟨hc, r, hr, hi⟩
    exact List.mem_map.2 ⟨(i, e.1), hpair, entry_of_value? he⟩

/-- The entries listed for one range come in the order of the index. -/
theorem ordered_listed (hb : Sound T c b) {cl : Clause γ} {policy : Policy γ} {rs : List KeyRange}
    (hp : cl.planned T policy = some (f, rs)) :
    (listed c b T.bucket (indexBucket T.bucket f) rg).Pairwise (fun e e' => ∀ r r',
      Record.decode T c e.2 = .ok r → Record.decode T c e'.2 = .ok r' → cl.Before T policy (e.1, r) (e'.1, r')) := by
  have hlists := hb.consistent.lists f (Clause.planned_eq_some hp).2.1
  have hkey : ∀ {p : Bytes × Bytes} {r : Record T},
      p ∈ postings c (within rg (b.bucket (indexBucket T.bucket f)).entries) →
      Record.decode T c (b.entry T.bucket p.2).2 = .ok r → Index.keyFor r f = .ok p.1 := by
    intro p r hm hd
    obtain ⟨-, r₁, hr₁, hi⟩ := (hlists.mem_postings hb.sized mem_keys_of_under rg).1 hm
    obtain ⟨raw, hv, hd₁⟩ := rows_eq_some.1 hr₁
    rw [entry_of_value? hv, hd₁] at hd
    cases hd
    exact hi
  unfold Clause.Before listed
  rw [hp, List.pairwise_map]
  exact List.Pairwise.imp_of_mem (fun {p p'} hm hm' hlt r r' hd hd' => ⟨p.1, p'.1, hkey hm hd, hkey hm' hd', hlt⟩)
    (hlists.pairwise_postings hb.sized mem_keys_of_under rg)

end Listed

/-- Stored entries in the order of a scan have different keys: of one key there is one entry, and it is not before
itself. -/
theorem nodup_of_ordered (hb : Sound T c b) {cl : Clause γ} {policy : Policy γ} {l : List Entry}
    (hl : ∀ e ∈ l, EntryOf T b e) (h : l.Pairwise (fun e e' => ∀ r r', Record.decode T c e.2 = .ok r →
      Record.decode T c e'.2 = .ok r' → cl.Before T policy (e.1, r) (e'.1, r'))) : (l.map Prod.fst).Nodup := by
  unfold List.Nodup
  rw [List.pairwise_map]
  refine List.Pairwise.imp_of_mem (fun {e e'} hm hm' hlt hk => ?_) h
  have he : e = e' := by
    have h1 : b.value? T.bucket e.1 = some e.2 := hl e hm
    have h2 : b.value? T.bucket e'.1 = some e'.2 := hl e' hm'
    rw [hk, h2] at h1
    exact Prod.ext hk (Option.some.inj h1).symm
  subst he
  obtain ⟨r, hd, -⟩ := hb.consistent.readable e.1 e.2 (hl e hm)
  exact (hlt r r hd hd).ne rfl

theorem candidates_index (hb : Sound T c b) {cl : Clause γ} {policy : Policy γ} {f : String} {rs : List KeyRange}
    (hp : cl.planned T policy = some (f, rs)) (hap : Policy.Apart rs) :
    Candidates cl T policy c b ((cl.source T policy).left c b T.bucket) := by
  have hf := (Clause.planned_eq_some hp).2.1
  have hl : (cl.source T policy).left c b T.bucket = rs.flatMap (listed c b T.bucket (indexBucket T.bucket f)) := by
    rw [Clause.source, hp]
    cases rs <;> rfl
  have hentries : ∀ e ∈ rs.flatMap (listed c b T.bucket (indexBucket T.bucket f)), EntryOf T b e := by
    intro e he
    obtain ⟨rg, -, he⟩ := List.mem_flatMap.1 he
    obtain ⟨i, r, -, hv, -⟩ := exists_of_mem_listed hb hf he
    exact hv
  have hordered : (rs.flatMap (listed c b T.bucket (indexBucket T.bucket f))).Pairwise
      (fun e e' => ∀ r r', Record.decode T c e.2 = .ok r → Record.decode T c e'.2 = .ok r' →
        cl.Before T policy (e.1, r) (e'.1, r')) := by
    rw [List.pairwise_flatMap]
    refine ⟨fun rg _ => ordered_listed hb hp, List.Pairwise.imp (fun hrs e he e' he' r r' hd hd' => ?_) hap⟩
    -- entries of two ranges: the ranges are apart, so the index keys are
    obtain ⟨i, r₁, hc, -, hd₁, hi⟩ := exists_of_mem_listed hb hf he
    obtain ⟨j, r₂, hc', -, hd₂, hj⟩ := exists_of_mem_listed hb hf he'
    rw [hd] at hd₁
    rw [hd'] at hd₂
    cases hd₁
    cases hd₂
    unfold Clause.Before
    rw [hp]
    exact ⟨i, j, hi, hj, Or.inl (hrs i j hc hc')⟩
  rw [hl]
  refine ⟨hentries, nodup_of_ordered hb hentries hordered, hordered, fun {e r} he hd => ?_⟩
  rw [List.mem_flatMap]
  constructor
  · rintro ⟨rg, hrg, he'⟩ g rs' hg
    rw [hp] at hg
    cases hg
    obtain ⟨i, hi, hc⟩ := (mem_listed hb hf he hd).1 he'
    exact ⟨i, hi, rg, hrg, hc⟩
  · intro h
    obtain ⟨i, hi, rg, hrg, hc⟩ := h f rs hp
    exact ⟨rg, hrg, (mem_listed hb hf he hd).2 ⟨i, hi, hc⟩⟩

/-! ## One node -/

/-- **A plan is exact for a clause**: its ranges are apart, and hold the index keys of the records on which the
criteria on the nominated field hold. -/
structure Clause.Exact (cl : Clause γ) (T : RecordType γ) (policy : Policy γ) (c : Codec) : Prop where
  apart : ∀ {f rs}, cl.planned T policy = some (f, rs) → Policy.Apart rs
  exact : ∀ {f rs} {r : Record T}, cl.planned T policy = some (f, rs) → r.Indexable → ∀ k,
    (InRanges f rs r ↔ ∀ cr ∈ cl.on f, cr.HoldsIn c f k r)

theorem Clause.exact_ranges {cl : Clause γ} (hcl : cl.index ≠ some keyField) : cl.Exact T Policy.ranges c where
  apart hp := Policy.ranges_apart (Clause.planned_eq_some hp).2.2
  exact {f rs r} hp hr k := by
    obtain ⟨hi, hf, -⟩ := Clause.planned_eq_some hp
    obtain ⟨i, hk⟩ := hr f hf
    rw [← Clause.planned_exact hp (fun he => hcl (he ▸ hi)) hk]
    constructor
    · rintro ⟨j, hj, hrg⟩
      rw [hk] at hj
      cases hj
      exact hrg
    · exact fun hrg => ⟨i, hk, hrg⟩

omit [Custom γ] in
theorem Clause.planned_of_none (cl : Clause γ) {policy : Policy γ} (h : ∀ cs, policy cs = none) :
    cl.planned T policy = none := by
  cases hp : cl.planned T policy with
  | none => rfl
  | some p =>
    have := (Clause.planned_eq_some hp).2.2
    rw [h] at this
    cases this

theorem Clause.exact_of_none (cl : Clause γ) {policy : Policy γ} (h : ∀ cs, policy cs = none) :
    cl.Exact T policy c where
  apart hp := by
    rw [cl.planned_of_none h] at hp
    cases hp
  exact hp := by
    rw [cl.planned_of_none h] at hp
    cases hp

theorem Clause.Exact.candidates {cl : Clause γ} {policy : Policy γ} (E : cl.Exact T policy c) (hb : Sound T c b) :
    Candidates cl T policy c b ((cl.source T policy).left c b T.bucket) := by
  cases hp : cl.planned T policy with
  | none => exact candidates_primary hp
  | some p => exact candidates_index hb hp (E.apart hp)

/-- The criteria on the nominated field hold on every candidate of a narrowed clause. -/
theorem Clause.Exact.nominated {cl : Clause γ} {policy : Policy γ} (E : cl.Exact T policy c) (hb : Sound T c b)
    {e : Entry} {r : Record T} (he : e ∈ (cl.source T policy).left c b T.bucket) (hd : Record.decode T c e.2 = .ok r)
    (hw : (cl.planned T policy).isSome = true) :
    ∀ x ∈ cl.criteria.entries, cl.index = some x.1 → ∀ cr ∈ x.2, cr.HoldsIn c x.1 e.1 r := by
  intro x hx hi cr hcr
  obtain ⟨⟨f, rs⟩, hp⟩ := Option.isSome_iff_exists.1 hw
  obtain ⟨hf, -, -⟩ := Clause.planned_eq_some hp
  rw [hf] at hi
  cases hi
  have hv := (E.candidates hb).entries e he
  have hrow : b.rows T c e.1 = some r := rows_eq_some.2 ⟨e.2, hv, hd⟩
  have hin := ((E.candidates hb).members hv hd).1 he _ rs hp
  rw [← Clause.mem_on hx] at hcr
  exact (E.exact hp (hb.consistent.indexable hrow) e.1).1 hin cr hcr

namespace Executor

variable {x : Executor γ} {q : Query γ} {s s' : Selection T}

/-- What a node adds to a selection: the stored records under new keys on which its clause holds. -/
abbrev Added (x : Executor γ) (b : Buckets) (q : Query γ) (s s' : Selection T) (part : List (Bytes × Record T)) :
    Prop :=
  Appended (fun k r => k ∉ s.matched.keys ∧ b.rows T x.codec k = some r ∧ q.clause.Holds x.codec k r)
    (q.clause.Before T x.policy) s s' part

/-- **A node whose clause answers for every new candidate** succeeds. -/
theorem select_node_of_answers (hb : Sound T x.codec b) (E : q.clause.Exact T x.policy x.codec)
    (hsrc : (q.clause.source T x.policy).Of T) (hs : Rising s.matched.keys)
    (hans : ∀ e ∈ (q.clause.source T x.policy).left x.codec b T.bucket, e.1 ∉ s.matched.keys →
      ∀ r, Record.decode T x.codec e.2 = .ok r →
        ∃ a, q.matchesRecord x.codec (q.clause.planned T x.policy).isSome e.1 r = .ok a) :
    ∃ s' part, (selector T b).node x q s = (.ok true, s') ∧ Added x b q s s' part := by
  have C := E.candidates hb
  rw [Visitor.node_eq (selector_faithful hb) hb hs hsrc]
  obtain ⟨s', part, hrun, hA⟩ := select_entries hb (q := q) (P := fun k r => q.clause.Holds x.codec k r) C.entries
    C.nodup C.ordered hs (fun e he hn r hd => by
      obtain ⟨a, ha⟩ := hans e he hn r hd
      exact ⟨a, ha, Query.accepts_eq_ok (E.nominated hb he hd) ha⟩)
  refine ⟨s', part, hrun, hA.records, hA.rising, hA.matched, fun k r => ?_, hA.ordered⟩
  rw [hA.members]
  refine and_congr_right (fun _ => ?_)
  constructor
  · rintro ⟨hH, raw, hm, hd⟩
    exact ⟨rows_eq_some.2 ⟨raw, C.entries _ hm, hd⟩, hH⟩
  · rintro ⟨hr, hH⟩
    obtain ⟨raw, hv, hd⟩ := rows_eq_some.1 hr
    refine ⟨hH, raw, (C.members (show EntryOf T b (k, raw) from hv) hd).2 (fun f rs hp => ?_), hd⟩
    refine (E.exact hp (hb.consistent.indexable hr) k).2 (fun cr hcr => ?_)
    rcases q.clause.on_eq f with hnil | hmem
    · rw [hnil] at hcr
      cases hcr
    · exact hH _ hmem cr hcr

/-- Only a source of the record type's is scanned with success. -/
theorem source_of_node (hrun : (selector T b).node x q s = (.ok true, s')) : (q.clause.source T x.policy).Of T := by
  refine Classical.byContradiction (fun h => ?_)
  obtain ⟨hT, hp⟩ := Clause.unnamed_of_not h
  rw [Visitor.node_unnamed hT hp] at hrun
  cases hrun

/-- **What a node that succeeds adds.** -/
theorem select_node (hb : Sound T x.codec b) (E : q.clause.Exact T x.policy x.codec) (hs : Rising s.matched.keys)
    (hrun : (selector T b).node x q s = (.ok true, s')) : ∃ part, Added x b q s s' part := by
  have hsrc := source_of_node hrun
  have C := E.candidates hb
  have hall := hrun
  rw [Visitor.node_eq (selector_faithful hb) hb hs hsrc] at hall
  obtain ⟨s'', part, hrun', hA⟩ := select_node_of_answers hb E hsrc hs (asked hb C.entries C.nodup hs hall)
  rw [hrun] at hrun'
  cases hrun'
  exact ⟨part, hA⟩

end Executor
end RecordHold
