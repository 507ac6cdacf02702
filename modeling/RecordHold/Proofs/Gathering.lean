import RecordHold.Proofs.KeySet
import RecordHold.Proofs.Yields
import RecordHold.Sample.People
/-!
# Proofs.Gathering — no key is selected twice

Selecting gathers records under keys that are not matched yet (`Gathered`): each of them once, and the record stored
under it.  One visit gathers one record, what is gathered after it adds to that, and a traversal keeps whatever its
visits keep.  So it is with every state and every policy, and also up to a failure (`select_each_once`): nothing is
asked of the indexes, because a key list that ascends answers rightly whether a key is in it.
-/
namespace RecordHold

open Std Buckets

variable {γ : Type} [Custom γ] {T : RecordType γ} {c : Codec} {b : Buckets}

namespace Executor

/-- **What has been gathered** from one selection to another: stored records under new keys, each key once. -/
structure Gathered (c : Codec) (b : Buckets) (s s' : Selection T) (new : List (Bytes × Record T)) : Prop where
  records : s'.records = s.records ++ new.map Prod.snd
  rising  : Rising s'.matched.keys
  matched : ∀ k, k ∈ s'.matched.keys ↔ k ∈ s.matched.keys ∨ k ∈ new.map Prod.fst
  nodup   : (new.map Prod.fst).Nodup
  stored  : ∀ p ∈ new, p.1 ∉ s.matched.keys ∧ b.rows T c p.1 = some p.2

variable {s s' : Selection T} {new : List (Bytes × Record T)} {key : Bytes} {r : Record T}

omit [Custom γ] in
theorem Gathered.refl (hs : Rising s.matched.keys) : Gathered c b s s [] :=
  ⟨(List.append_nil _).symm, hs, fun k => by simp, List.nodup_nil, fun _ hp => nomatch hp⟩

omit [Custom γ] in
/-- **One more record** under a key that is not matched. -/
theorem Gathered.visit (h : Gathered c b s s' new) (hk : key ∉ s'.matched.keys) (hr : b.rows T c key = some r) :
    Gathered c b s ⟨(s'.matched.insert key).2, s'.records ++ [r]⟩ (new ++ [(key, r)]) := by
  obtain ⟨hrising, hmem⟩ := KeyList.insert_spec h.rising key
  rw [h.matched, not_or] at hk
  refine ⟨?_, hrising, fun k => ?_, ?_, ?_⟩
  · rw [h.records, List.map_append, List.append_assoc]
    rfl
  · rw [hmem, h.matched, List.map_append, List.mem_append, List.map_singleton, List.mem_singleton, or_comm, or_assoc]
  · rw [List.map_append, List.map_singleton, List.nodup_append]
    refine ⟨h.nodup, List.nodup_cons.2 ⟨List.not_mem_nil, List.nodup_nil⟩, fun a ha k hkey => ?_⟩
    rw [List.mem_singleton.1 hkey]
    rintro rfl
    exact hk.2 ha
  · intro p hp
    rcases List.mem_append.1 hp with hp | hp
    · exact h.stored p hp
    · rw [List.mem_singleton.1 hp]
      exact ⟨hk.1, hr⟩

omit [Custom γ] in
theorem selector_reads (b : Buckets) : (selector T b).Reads b := fun _ => rfl

/-- **No key is selected twice, whatever the store holds**: which keys an index lists, which ranges a policy returns and
how the selection ends make no difference.  The matched keys ascend and are those from before and new ones, and the
records appended are those stored under the new keys, one for each. -/
theorem select_each_once (x : Executor γ) (b : Buckets) (q : Option (Query γ)) (s : Selection T)
    (hs : Rising s.matched.keys) :
    let s' := (x.select T b q s).2
    Rising s'.matched.keys ∧ ∃ new : List (Bytes × Record T),
      s'.records = s.records ++ new.map Prod.snd ∧
      (∀ k, k ∈ s'.matched.keys ↔ k ∈ s.matched.keys ∨ k ∈ new.map Prod.fst) ∧
      (new.map Prod.fst).Nodup ∧
      ∀ p ∈ new, p.1 ∉ s.matched.keys ∧
        ∃ raw, b.value? T.bucket p.1 = some raw ∧ Record.decode T x.codec raw = .ok p.2 := by
  intro s'
  have hkeeps : (selector T b).KeepsNew x.codec b (fun t => ∃ new, Gathered x.codec b s t new) := by
    rintro key r t ⟨new, h⟩ hnew hr
    have hk : key ∉ t.matched.keys := fun hk => by
      rw [show (selector T b).seen t = t.matched from rfl, (KeyList.contains_iff h.rising).2 hk] at hnew
      cases hnew
    exact ⟨_, h.visit hk hr⟩
  obtain ⟨new, h⟩ := Visitor.traverse_reading (selector_reads b) hkeeps (orAll q) ⟨[], Gathered.refl hs⟩
  refine ⟨h.rising, new, h.records, h.matched, h.nodup, fun p hp => ?_⟩
  obtain ⟨hk, hr⟩ := h.stored p hp
  exact ⟨hk, rows_eq_some.1 hr⟩

/-- An index that lists one key three times and one without a record, read over two ranges that overlap, with one key
matched before. -/
theorem select_each_once_tangled :
    let x : Executor UserValue := ⟨.binary, 1, Sample.overlapping⟩
    let s' := (x.select Sample.person.type Sample.tangled (some Sample.lateOrOlder) ⟨⟨[[2]]⟩, []⟩).2
    Rising [[(2 : UInt8)]] ∧ s'.records = [Sample.tim, Sample.elderTim] ∧ s'.matched.keys = [[1], [2], [3]] ∧
      ∃ new : List (Bytes × Record Sample.person.type), s'.records = new.map Prod.snd ∧
        (∀ k, k ∈ s'.matched.keys ↔ k ∈ [[(2 : UInt8)]] ∨ k ∈ new.map Prod.fst) ∧ (new.map Prod.fst).Nodup := by
  intro x s'
  have hs : Rising [[(2 : UInt8)]] := List.pairwise_singleton _ _
  obtain ⟨-, new, hrec, hm, hnd, -⟩ :=
    select_each_once x Sample.tangled (some Sample.lateOrOlder) (⟨⟨[[2]]⟩, []⟩ : Selection Sample.person.type) hs
  exact ⟨hs, by decide +kernel, by decide +kernel, new, hrec, hm, hnd⟩

end Executor
end RecordHold
