import RecordHold.Proofs.Selecting
/-!
# Proofs.Portions — a selection is the portions of its nodes

A node is due the stored records its clause holds on and the clause of no node before it, in the order of its scan
(`Portion`), and a query is due the portions of its nodes, one after the other (`Portions`).  A selection that succeeds
returns just that (`select_spec`).

A clause answers no worse for being narrowed.  So planned ranges stand in for a full scan (`StandsIn`), and a selection
that succeeds on full scans succeeds on the planned ranges, with the same keys and the same records in another order
(`select_narrowed`).
-/
namespace RecordHold

open Std Buckets

variable {γ : Type} [Custom γ] {T : RecordType γ} {c : Codec} {b : Buckets} {policy : Policy γ}

/-- **What a node is due**, after earlier ones: each stored record on which its clause holds and none of the earlier
clauses, once, in the order of its scan. -/
structure Portion (T : RecordType γ) (policy : Policy γ) (c : Codec) (b : Buckets) (earlier : List (Query γ))
    (n : Query γ) (part : List (Bytes × Record T)) : Prop where
  members : ∀ k r, (k, r) ∈ part ↔
    b.rows T c k = some r ∧ n.clause.Holds c k r ∧ ∀ m ∈ earlier, ¬ m.clause.Holds c k r
  ordered : part.Pairwise (n.clause.Before T policy)

/-- **What nodes are due**, one after the other. -/
inductive Portions (T : RecordType γ) (policy : Policy γ) (c : Codec) (b : Buckets) :
    List (Query γ) → List (Query γ) → List (Bytes × Record T) → Prop where
  | done {earlier : List (Query γ)} : Portions T policy c b earlier [] []
  | node {earlier ns : List (Query γ)} {n : Query γ} {part rest : List (Bytes × Record T)}
      (first : Portion T policy c b earlier n part) (others : Portions T policy c b (earlier ++ [n]) ns rest) :
      Portions T policy c b earlier (n :: ns) (part ++ rest)

/-- A record's key is matched by one of some nodes: a clause holds on the record. -/
def MatchedBy (c : Codec) (b : Buckets) (T : RecordType γ) (ns : List (Query γ)) (k : Bytes) : Prop :=
  ∃ r, b.rows T c k = some r ∧ ∃ n ∈ ns, n.clause.Holds c k r

theorem matchedBy_append {ns ns' : List (Query γ)} {k : Bytes} :
    MatchedBy c b T (ns ++ ns') k ↔ MatchedBy c b T ns k ∨ MatchedBy c b T ns' k := by
  unfold MatchedBy
  simp only [List.mem_append, or_and_right, exists_or, and_or_left]

theorem not_matchedBy_nil {k : Bytes} : ¬ MatchedBy c b T [] k := by
  rintro ⟨_, _, _, hn, _⟩
  cases hn

theorem not_matchedBy {ns : List (Query γ)} {k : Bytes} {r : Record T} (hr : b.rows T c k = some r) :
    ¬ MatchedBy c b T ns k ↔ ∀ n ∈ ns, ¬ n.clause.Holds c k r := by
  constructor
  · exact fun h n hn hH => h ⟨r, hr, n, hn, hH⟩
  · rintro h ⟨r', hr', n, hn, hH⟩
    rw [hr] at hr'
    cases hr'
    exact h n hn hH

/-- The keys of a portion come once. -/
theorem Portion.nodup {earlier : List (Query γ)} {n : Query γ} {part : List (Bytes × Record T)}
    (h : Portion T policy c b earlier n part) : (part.map Prod.fst).Nodup := by
  unfold List.Nodup
  rw [List.pairwise_map]
  refine List.Pairwise.imp_of_mem (fun {p p'} hm hm' hlt hk => hlt.ne ?_) h.ordered
  have hr := ((h.members p.1 p.2).1 hm).1
  have hr' := ((h.members p'.1 p'.2).1 hm').1
  rw [hk, hr', Option.some.injEq] at hr
  exact Prod.ext hk hr.symm

theorem Portions.mem : ∀ {earlier ns : List (Query γ)} {out : List (Bytes × Record T)},
    Portions T policy c b earlier ns out → ∀ {k r}, (k, r) ∈ out →
      b.rows T c k = some r ∧ ∀ m ∈ earlier, ¬ m.clause.Holds c k r
  | _, _, _, .done, _, _, h => by cases h
  | _, _, _, .node first others, k, r, h => by
    rcases List.mem_append.1 h with h | h
    · obtain ⟨hr, -, hn⟩ := (first.members k r).1 h
      exact ⟨hr, hn⟩
    · obtain ⟨hr, hn⟩ := others.mem h
      exact ⟨hr, fun m hm => hn m (List.mem_append_left _ hm)⟩

/-- **No key is in two portions**, nor twice in one. -/
theorem Portions.nodup : ∀ {earlier ns : List (Query γ)} {out : List (Bytes × Record T)},
    Portions T policy c b earlier ns out → (out.map Prod.fst).Nodup
  | _, _, _, .done => List.nodup_nil
  | _, _, _, .node (n := n) first others => by
    rw [List.map_append, List.nodup_append]
    refine ⟨first.nodup, others.nodup, fun k hk k' hk' he => ?_⟩
    subst he
    obtain ⟨⟨_, r⟩, hm, rfl⟩ := List.mem_map.1 hk
    obtain ⟨⟨_, r'⟩, hm', hkk⟩ := List.mem_map.1 hk'
    simp only at hkk
    subst hkk
    obtain ⟨hr, hH, -⟩ := (first.members _ _).1 hm
    obtain ⟨hr', hn⟩ := others.mem hm'
    rw [hr] at hr'
    cases hr'
    exact hn n (List.mem_append_right _ List.mem_cons_self) hH

namespace Executor

variable {x : Executor γ} {q : Query γ} {s s' : Selection T}

/-- The portion that a node adds is what it is due. -/
theorem Added.portion {earlier : List (Query γ)} {part : List (Bytes × Record T)} (hA : Added x b q s s' part)
    (hm : ∀ k, k ∈ s.matched.keys ↔ MatchedBy x.codec b T earlier k) :
    Portion T x.policy x.codec b earlier q part := by
  refine ⟨fun k r => ?_, hA.ordered⟩
  rw [hA.members, hm]
  constructor
  · rintro ⟨hk, hr, hH⟩
    exact ⟨hr, hH, (not_matchedBy hr).1 hk⟩
  · rintro ⟨hr, hH, hn⟩
    exact ⟨(not_matchedBy hr).2 hn, hr, hH⟩

theorem Added.matchedBy {earlier : List (Query γ)} {part : List (Bytes × Record T)} (hA : Added x b q s s' part)
    (hm : ∀ k, k ∈ s.matched.keys ↔ MatchedBy x.codec b T earlier k) (k : Bytes) :
    k ∈ s'.matched.keys ↔ MatchedBy x.codec b T (earlier ++ [q]) k := by
  rw [hA.matched, matchedBy_append, ← hm]
  constructor
  · rintro (hk | ⟨r, hr⟩)
    · exact Or.inl hk
    · obtain ⟨-, hrow, hH⟩ := (hA.members k r).1 hr
      exact Or.inr ⟨r, hrow, q, List.mem_cons_self, hH⟩
  · rintro (hk | ⟨r, hrow, n, hn, hH⟩)
    · exact Or.inl hk
    · rw [List.mem_singleton] at hn
      subst hn
      by_cases hk : k ∈ s.matched.keys
      · exact Or.inl hk
      · exact Or.inr ⟨r, (hA.members k r).2 ⟨hk, hrow, hH⟩⟩

/-- **Nodes that succeed append what they are due.** -/
theorem select_nodes (hb : Sound T x.codec b) : ∀ {ns : List (Query γ)} {earlier : List (Query γ)}
    {s s' : Selection T}, (∀ n ∈ ns, n.clause.Exact T x.policy x.codec) → Rising s.matched.keys →
    (∀ k, k ∈ s.matched.keys ↔ MatchedBy x.codec b T earlier k) →
    (selector T b).visitAll x ns s = (.ok true, s') →
    Rising s'.matched.keys ∧ (∀ k, k ∈ s'.matched.keys ↔ MatchedBy x.codec b T (earlier ++ ns) k) ∧
      ∃ out, Portions T x.policy x.codec b earlier ns out ∧ s'.records = s.records ++ out.map Prod.snd ∧
        ∀ k, k ∈ s'.matched.keys ↔ k ∈ s.matched.keys ∨ k ∈ out.map Prod.fst
  | [],      earlier, s, s', _, hs, hm, h => by
    cases h
    rw [List.append_nil]
    exact ⟨hs, hm, [], .done, by simp, by simp⟩
  | n :: ns, earlier, s, s', E, hs, hm, h => by
    unfold Visitor.visitAll at h
    rcases hn : (selector T b).node x n s with ⟨e | _ | _, t⟩
    · rw [hn] at h
      cases h
    · rw [hn] at h
      cases h
    · rw [hn] at h
      obtain ⟨part, hA⟩ := select_node hb (E n List.mem_cons_self) hs hn
      obtain ⟨hr, hm', out, hout, hrec, hkeys⟩ :=
        select_nodes hb (fun n' hn' => E n' (List.mem_cons_of_mem n hn')) hA.rising (hA.matchedBy hm) h
      refine ⟨hr, fun k => ?_, part ++ out, .node (hA.portion hm) hout, ?_, fun k => ?_⟩
      · rw [hm', List.append_assoc]
        rfl
      · rw [hrec, hA.records, List.map_append, List.append_assoc]
      · rw [hkeys, hA.matched, List.map_append, List.mem_append, or_assoc]
        simp only [List.mem_map, Prod.exists, exists_and_right, exists_eq_right]

/-- A selection that succeeds is a traversal that is not stopped. -/
theorem visitAll_of_select (hb : Sound T x.codec b) {q : Option (Query γ)} (hs : Rising s.matched.keys)
    (h : x.select T b q s = (.ok (), s')) : (selector T b).visitAll x (orAll q).nodes s = (.ok true, s') := by
  obtain ⟨hne, -⟩ := Visitor.visitAll_spec (selector_faithful hb) hb (orAll q).nodes s hs
  unfold select Answer.done at h
  rw [Visitor.traverse_eq] at h
  rcases hv : (selector T b).visitAll x (orAll q).nodes s with ⟨e | _ | _, t⟩
  · rw [hv] at h
    cases h
  · rw [hv] at hne
    exact absurd rfl hne
  · rw [hv] at h
    cases h
    rfl

/-- **Select returns what the query says.**  If selecting with planned ranges succeeds, the matched keys are those of
the stored records on which all criteria of some node hold, each key is selected once, and the records come node by
node, those of a node in the order of its scan. -/
theorem select_spec (codec : Codec) (n : Nat) (h : Sound T codec b) (q : Option (Query γ)) (hq : (orAll q).Formed)
    (hrun : select ⟨codec, n, Policy.ranges⟩ T b q ⟨.empty, []⟩ = (.ok (), s)) :
    (∀ k, k ∈ s.matched.keys ↔
      ∃ r, b.rows T codec k = some r ∧ ∃ m ∈ (orAll q).nodes, m.clause.Holds codec k r) ∧
    ∃ out, Portions T Policy.ranges codec b [] (orAll q).nodes out ∧ s.records = out.map Prod.snd ∧
      (out.map Prod.fst).Perm s.matched.keys := by
  obtain ⟨hr, hm, out, hout, hrec, hkeys⟩ := select_nodes (x := ⟨codec, n, Policy.ranges⟩) (s := ⟨.empty, []⟩) h
    (fun m hm => Clause.exact_ranges (hq m hm)) Rising.nil
    (fun k => iff_of_false List.not_mem_nil not_matchedBy_nil) (visitAll_of_select h Rising.nil hrun)
  refine ⟨hm, out, hout, hrec, (List.perm_ext_iff_of_nodup hout.nodup hr.nodup).2 (fun k => ?_)⟩
  rw [hkeys]
  exact (or_iff_right List.not_mem_nil).symm

theorem formed_lateOrOlder : (orAll (some Sample.lateOrOlder)).Formed := by
  unfold Query.Formed
  decide +kernel

/-- Three people found by the index of names and then by a branch, which meets one of them again. -/
theorem select_spec_people :
    let run := select ⟨.binary, 1, Policy.ranges⟩ Sample.person.type Sample.people (some Sample.lateOrOlder) ⟨.empty, []⟩
    Sound Sample.person.type .binary Sample.people ∧ (orAll (some Sample.lateOrOlder)).Formed ∧ run = (.ok (), run.2) ∧
      run.2.records = [Sample.tim, Sample.elderTim, Sample.ann] ∧
      (∃ r, Sample.people.rows Sample.person.type .binary [2] = some r ∧
        ∃ m ∈ (orAll (some Sample.lateOrOlder)).nodes, m.clause.Holds .binary [2] r) ∧
      ∃ out, Portions Sample.person.type Policy.ranges .binary Sample.people [] (orAll (some Sample.lateOrOlder)).nodes out ∧
        run.2.records = out.map Prod.snd := by
  intro run
  have hrun : run = (.ok (), run.2) := Prod.ext (by rfl) rfl
  obtain ⟨hm, out, hout, hrec, -⟩ :=
    select_spec .binary 1 sound_people (some Sample.lateOrOlder) formed_lateOrOlder hrun
  have hkeys : run.2.matched.keys = [[1], [2], [3]] := by decide +kernel
  exact ⟨sound_people, formed_lateOrOlder, hrun, by decide +kernel, (hm [2]).1 (by rw [hkeys]; decide), out, hout, hrec⟩

/-! ## Full scans and planned ranges -/

theorem Added.nodup {part : List (Bytes × Record T)} (hA : Added x b q s s' part) : part.Nodup :=
  List.Pairwise.imp (fun hlt => hlt.ne) hA.ordered

/-- What a node adds to the same keys is the same, whatever the policy, but for its order. -/
theorem Added.perm {codec : Codec} {m n : Nat} {p p' : Policy γ} {t t' : Selection T}
    {part part' : List (Bytes × Record T)} (hA : Added ⟨codec, m, p⟩ b q s s' part)
    (hA' : Added ⟨codec, n, p'⟩ b q t t' part') (hm : t.matched = s.matched) (hrec : t.records.Perm s.records) :
    t'.matched = s'.matched ∧ t'.records.Perm s'.records := by
  have hsame : ∀ k r, (k, r) ∈ part' ↔ (k, r) ∈ part := by
    intro k r
    rw [hA'.members, hA.members, hm]
  have hperm : part'.Perm part := (List.perm_ext_iff_of_nodup hA'.nodup hA.nodup).2 (fun e => hsame e.1 e.2)
  have hkeys : t'.matched.keys = s'.matched.keys :=
    Rising.ext hA'.rising hA.rising (fun k => by rw [hA'.matched, hA.matched, hm]; simp only [hsame])
  refine ⟨KeyList.eq_of_keys hkeys, ?_⟩
  rw [hA'.records, hA.records]
  exact hrec.append (hperm.map Prod.snd)

/-- **A policy stands in for another at a node**: the plans of both are exact, and what it has to consider the other one
considers too, and answers no better. -/
structure StandsIn (T : RecordType γ) (c : Codec) (b : Buckets) (p p' : Policy γ) (q : Query γ) : Prop where
  exact   : q.clause.Exact T p c
  exact'  : q.clause.Exact T p' c
  source  : (q.clause.source T p).Of T → (q.clause.source T p').Of T
  answers : ∀ e ∈ (q.clause.source T p').left c b T.bucket, ∀ r, Record.decode T c e.2 = .ok r →
    e ∈ (q.clause.source T p).left c b T.bucket ∧
      ∀ a, q.matchesRecord c (q.clause.planned T p).isSome e.1 r = .ok a →
        q.matchesRecord c (q.clause.planned T p').isSome e.1 r = .ok a

/-- **Planned ranges stand in for a full scan**: what is planned is among all there is. -/
theorem StandsIn.ranges {p : Policy γ} (hp : ∀ cs, p cs = none) (hb : Sound T c b)
    (hq : q.clause.index ≠ some keyField) : StandsIn T c b p Policy.ranges q := by
  have E := q.clause.exact_of_none (T := T) (c := c) hp
  have E' : q.clause.Exact T Policy.ranges c := Clause.exact_ranges hq
  have hfull := q.clause.planned_of_none (T := T) hp
  refine ⟨E, E', fun h => Classical.byContradiction (fun hno => ?_), fun e he r hd => ⟨?_, fun a ha => ?_⟩⟩
  · rw [Clause.source, hfull] at h
    exact h (Clause.unnamed_of_not hno).1
  · exact ((E.candidates hb).members ((E'.candidates hb).entries e he) hd).2 (fun f rs hf => by rw [hfull] at hf; cases hf)
  · rw [hfull] at ha
    cases hw : (q.clause.planned T Policy.ranges).isSome with
    | false => exact ha
    | true => exact Query.accepts_narrowed (E'.nominated hb he hd hw) ha

/-- **A node that succeeds under a policy succeeds under one that stands in for it**, and adds the same portion in
another order. -/
theorem node_replanned {codec : Codec} {m n : Nat} {p p' : Policy γ} (hb : Sound T codec b)
    (hq : StandsIn T codec b p p' q) {s s' t : Selection T} (hs : Rising s.matched.keys) (hm : t.matched = s.matched)
    (hrec : t.records.Perm s.records) (hrun : (selector T b).node ⟨codec, m, p⟩ q s = (.ok true, s')) :
    ∃ t', (selector T b).node ⟨codec, n, p'⟩ q t = (.ok true, t') ∧ Rising s'.matched.keys ∧
      t'.matched = s'.matched ∧ t'.records.Perm s'.records := by
  have hsrc := source_of_node (x := ⟨codec, m, p⟩) hrun
  obtain ⟨part, hA⟩ := select_node (x := ⟨codec, m, p⟩) hb hq.exact hs hrun
  have C := hq.exact.candidates hb
  have hans := hrun
  rw [Visitor.node_eq (x := ⟨codec, m, p⟩) (selector_faithful hb) hb hs hsrc] at hans
  have hasked := asked hb C.entries C.nodup hs hans
  obtain ⟨t', part', hrun', hA'⟩ := select_node_of_answers (x := ⟨codec, n, p'⟩) (s := t) hb hq.exact' (hq.source hsrc)
    (by rw [hm]; exact hs) (fun e he hnew r hd => by
      obtain ⟨hmem, hans'⟩ := hq.answers e he r hd
      rw [hm] at hnew
      obtain ⟨a, ha⟩ := hasked e hmem hnew r hd
      exact ⟨a, hans' a ha⟩)
  exact ⟨t', hrun', hA.rising, hA.perm hA' hm hrec⟩

theorem visitAll_replanned {codec : Codec} {m n : Nat} {p p' : Policy γ} (hb : Sound T codec b) :
    ∀ {ns : List (Query γ)} {s s' t : Selection T}, (∀ q ∈ ns, StandsIn T codec b p p' q) →
    Rising s.matched.keys → t.matched = s.matched → t.records.Perm s.records →
    (selector T b).visitAll ⟨codec, m, p⟩ ns s = (.ok true, s') →
    ∃ t', (selector T b).visitAll ⟨codec, n, p'⟩ ns t = (.ok true, t') ∧ t'.matched = s'.matched ∧
      t'.records.Perm s'.records
  | [],      s, s', t, _,  _,  hm, hrec, h => by
    cases h
    exact ⟨t, rfl, hm, hrec⟩
  | q :: ns, s, s', t, hq, hs, hm, hrec, h => by
    unfold Visitor.visitAll at h
    rcases hn : (selector T b).node ⟨codec, m, p⟩ q s with ⟨e | _ | _, u⟩
    · rw [hn] at h
      cases h
    · rw [hn] at h
      cases h
    · rw [hn] at h
      obtain ⟨u', hrun, hr, hm', hrec'⟩ := node_replanned (n := n) hb (hq q List.mem_cons_self) hs hm hrec hn
      obtain ⟨t', hrun', hmt, hrt⟩ :=
        visitAll_replanned hb (fun q' hq' => hq q' (List.mem_cons_of_mem q hq')) hr hm' hrec' h
      refine ⟨t', ?_, hmt, hrt⟩
      rw [Visitor.visitAll, hrun]
      exact hrun'

/-- A selection that succeeds under a policy succeeds under one that stands in for it at every node. -/
theorem select_replanned {codec : Codec} (m n : Nat) {p p' : Policy γ} (hb : Sound T codec b) {q : Option (Query γ)}
    {s s' : Selection T} (hq : ∀ node ∈ (orAll q).nodes, StandsIn T codec b p p' node) (hs : Rising s.matched.keys)
    (hrun : select ⟨codec, m, p⟩ T b q s = (.ok (), s')) :
    ∃ t', select ⟨codec, n, p'⟩ T b q s = (.ok (), t') ∧ t'.matched = s'.matched ∧ t'.records.Perm s'.records := by
  obtain ⟨t', hrun', hm, hrec⟩ := visitAll_replanned (n := n) hb hq hs rfl (List.Perm.refl _)
    (visitAll_of_select (x := ⟨codec, m, p⟩) hb hs hrun)
  refine ⟨t', ?_, hm, hrec⟩
  unfold select
  rw [Visitor.traverse_eq, hrun']
  rfl

/-- **Planned ranges agree with full scans.**  If selecting with a policy that never narrows succeeds, so does
selecting with planned ranges, whatever the two sizes of a batch, with the same matched keys and the same records in
another order. -/
theorem select_narrowed (codec : Codec) (m n : Nat) {p : Policy γ} (hp : ∀ cs, p cs = none) (h : Sound T codec b)
    (q : Option (Query γ)) (hq : (orAll q).Formed)
    (hrun : select ⟨codec, m, p⟩ T b q ⟨.empty, []⟩ = (.ok (), s)) :
    ∃ s', select ⟨codec, n, Policy.ranges⟩ T b q ⟨.empty, []⟩ = (.ok (), s') ∧ s'.matched = s.matched ∧
      s'.records.Perm s.records :=
  select_replanned m n h (fun node hn => StandsIn.ranges hp h (hq node hn)) Rising.nil hrun

/-- The same three people by a full scan, and from the ranges by batches of three. -/
theorem select_narrowed_people :
    let run := select ⟨.binary, 1, fun _ => none⟩ Sample.person.type Sample.people (some Sample.lateOrOlder) ⟨.empty, []⟩
    Sound Sample.person.type .binary Sample.people ∧ (orAll (some Sample.lateOrOlder)).Formed ∧ run = (.ok (), run.2) ∧
      run.2.matched.keys = [[1], [2], [3]] ∧
      ∃ s', select ⟨.binary, 3, Policy.ranges⟩ Sample.person.type Sample.people (some Sample.lateOrOlder) ⟨.empty, []⟩ =
          (.ok (), s') ∧ s'.matched = run.2.matched ∧ s'.records.Perm run.2.records := by
  intro run
  have hrun : run = (.ok (), run.2) := Prod.ext (by rfl) rfl
  exact ⟨sound_people, formed_lateOrOlder, hrun, by decide +kernel,
    select_narrowed .binary 1 3 (fun _ => rfl) sound_people (some Sample.lateOrOlder) formed_lateOrOlder hrun⟩

end Executor
end RecordHold
