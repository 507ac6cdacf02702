import RecordHold.Proofs.Traversing
/-!
# Proofs.Deleting — deleting is selecting, and nothing else goes

The selector and the deleter are faithful to the state they start from, and keep the keys they have handled the same.
So deleting fails exactly where selecting does, and with the same keys handled (`delete_like_select`).  What the
deleter leaves is the state without the records of those keys and without their places in the indexes, also after a
failure (`Deleted`).
-/
namespace RecordHold

open Std Buckets

variable {γ : Type} [Custom γ] {T : RecordType γ} {c : Codec} {b b' : Buckets}

/-- **The state without some records**: their entries are gone, the indexes list the others, and no other bucket has
changed. -/
structure Deleted (T : RecordType γ) (c : Codec) (b b' : Buckets) (gone : List Bytes) : Prop where
  consistent : Consistent T c b'
  named      : b'.Named
  names      : SameNames b b'
  primary    : ∀ k, b'.value? T.bucket k = if k ∈ gone then none else b.value? T.bucket k
  others     : ∀ n, n ≠ T.bucket → (∀ f ∈ T.indexes, n ≠ indexBucket T.bucket f) → b'.get? n = b.get? n

theorem Deleted.refl (h : Sound T c b) : Deleted T c b b [] :=
  ⟨h.consistent, h.named, SameNames.refl b, fun k => by rw [if_neg List.not_mem_nil], fun _ _ _ => rfl⟩

theorem Deleted.rows {gone : List Bytes} (h : Deleted T c b b' gone) (k : Bytes) :
    b'.rows T c k = if k ∈ gone then none else b.rows T c k := by
  unfold Buckets.rows
  rw [h.primary]
  split <;> rfl

/-- Each index entry is left without the keys that are gone, and an entry without any other is gone, too. -/
theorem Deleted.posting {gone : List Bytes} (h : Deleted T c b b' gone) (hb : Sound T c b) {f : String}
    (hf : f ∈ T.indexes) (i : Bytes) :
    ∃ l, Rising l ∧ b.value? (indexBucket T.bucket f) i = c.posting l ∧
      b'.value? (indexBucket T.bucket f) i = c.posting (l.filter (fun k => decide (k ∉ gone))) := by
  obtain ⟨l, hr, hm, hv⟩ := hb.consistent.lists f hf i
  obtain ⟨l', hr', hm', hv'⟩ := h.consistent.lists f hf i
  refine ⟨l, hr, hv, ?_⟩
  rw [hv']
  refine congrArg c.posting (Rising.ext hr' (hr.filter _) (fun k => ?_))
  rw [hm', List.mem_filter, hm, decide_eq_true_iff]
  unfold Under
  rw [h.rows]
  by_cases hk : k ∈ gone <;> simp [hk]

theorem Deleted.shrunk {gone : List Bytes} (h : Deleted T c b b' gone) : Shrunk T c b b' gone where
  consistent := h.consistent
  named      := h.named
  less k raw hv := by
    rw [h.primary] at hv
    split at hv
    · cases hv
    · exact hv
  kept k hk := by rw [h.primary, if_neg hk]

/-- Without one record more. -/
theorem Deleted.trans {gone gone' : List Bytes} {key : Bytes} {m : Buckets} (h : Deleted T c b m gone)
    (h' : Consistent T c b') (hn : b'.Named) (hsame : SameNames m b')
    (hv : ∀ k, b'.value? T.bucket k = if k = key then none else m.value? T.bucket k)
    (ho : ∀ n, n ≠ T.bucket → (∀ f ∈ T.indexes, n ≠ indexBucket T.bucket f) → b'.get? n = m.get? n)
    (hg : ∀ k, k ∈ gone' ↔ k = key ∨ k ∈ gone) : Deleted T c b b' gone' := by
  refine ⟨h', hn, h.names.trans hsame, fun k => ?_, fun n hn hn' => (ho n hn hn').trans (h.others n hn hn')⟩
  rw [hv, h.primary]
  by_cases hk : k = key <;> by_cases hkg : k ∈ gone <;> simp [hk, hkg, hg]

namespace Executor

/-! ## The two visitors -/

theorem selector_faithful (h : Sound T c b) :
    (selector T b).Faithful c b (fun s : Selection T => Rising s.matched.keys) where
  rising hs := hs
  view _ := Shrunk.refl h _
  visit hs _ _ := ⟨_, rfl, (KeyList.insert_spec hs _).1, rfl, fun _ _ => id⟩

/-- **Removing a stored record** goes well in a consistent state. -/
theorem runOn_removeRecord {key : Bytes} {r : Record T} (h : Consistent T c b) (hn : b.Named)
    (hs : Sized (b.bucket T.bucket).keys) (hr : b.rows T c key = some r) :
    ∃ b', (removeRecord c key r).runOn b = (.ok ⟨⟩, b') ∧ Consistent T c b' ∧ b'.Named ∧ SameNames b b' ∧
      (∀ k, b'.value? T.bucket k = if k = key then none else b.value? T.bucket k) ∧
      ∀ n, n ≠ T.bucket → (∀ f ∈ T.indexes, n ≠ indexBucket T.bucket f) → b'.get? n = b.get? n := by
  obtain ⟨m, b', hrem, hrun, hrest⟩ := h.remove hn hs hr
  refine ⟨b', ?_, hrest⟩
  have hchange : (Write.change (fun b => (b.remove T.bucket key).mapError QueryError.store)).runOn b = (.ok ⟨⟩, m) := by
    rw [Write.runOn_change, hrem]
    rfl
  unfold removeRecord
  rw [Write.runOn_bind_ok hchange, Write.runOn_adapt, hrun]
  rfl

theorem deleter_faithful (h : Sound T c b) :
    (deleter T c).Faithful c b
      (fun s : Deletion => Rising s.deleted.keys ∧ Deleted T c b s.buckets s.deleted.keys) where
  rising hs := hs.1
  view hs := hs.2.shrunk
  visit := by
    rintro ⟨m, gone⟩ key r ⟨hr, hd⟩ hkey hrow
    change key ∉ gone.keys at hkey
    simp only at hr hd
    have hrow' : m.rows T c key = some r := by
      rw [hd.rows, if_neg hkey]
      exact hrow
    obtain ⟨b', hrun, hc, hn, hsame, hv, ho⟩ :=
      runOn_removeRecord hd.consistent hd.named (hd.shrunk.less.sized h.sized) hrow'
    obtain ⟨hr', hm⟩ := KeyList.insert_spec hr key
    refine ⟨⟨b', (gone.insert key).2⟩, ?_, ⟨hr', hd.trans hc hn hsame hv ho hm⟩, rfl, fun k raw hk => ?_⟩
    · simp only [deleter, hrun]
    · change b'.value? T.bucket k = some raw at hk
      rw [hv] at hk
      split at hk
      · cases hk
      · exact hk

theorem selector_alongside_deleter :
    (selector T b).Alongside (deleter T c) c b (fun s d => s.matched = d.deleted) where
  seen hR := hR
  visit := by
    rintro ⟨matched, records⟩ ⟨m, deleted⟩ key r s' t' hR - - hs ht
    obtain rfl : matched = deleted := hR
    cases hs
    simp only [deleter] at ht
    split at ht <;> cases ht
    rfl

/-! ## The same traversal -/

/-- **What deleting leaves**, also when it fails: the state without the records whose keys are reported. -/
theorem deleted_of_delete (x : Executor γ) (h : Sound T x.codec b) (q : Option (Query γ)) :
    Deleted T x.codec b (x.delete T q ⟨b, .empty⟩).2.buckets (x.delete T q ⟨b, .empty⟩).2.deleted.keys := by
  have hrun := Visitor.visitAll_spec (deleter_faithful h) h (orAll q).nodes ⟨b, .empty⟩ ⟨Rising.nil, Deleted.refl h⟩
  rw [← Visitor.traverse_eq] at hrun
  exact hrun.2.2

/-- **Deleting removes exactly what selecting returns**, whether it succeeds or fails: both come to the same outcome
with the same keys.  Those keys, and no others, are then gone from the bucket and from every index entry, an entry
that would be empty is gone itself, all else is as it was, and the indexes are consistent. -/
theorem delete_like_select (x : Executor γ) (h : Sound T x.codec b) (q : Option (Query γ)) :
    let selected := x.select T b q ⟨.empty, []⟩
    let deleted := x.delete T q ⟨b, .empty⟩
    let keys := selected.2.matched.keys
    deleted.1 = selected.1 ∧ deleted.2.deleted = selected.2.matched ∧
      Consistent T x.codec deleted.2.buckets ∧
      (∀ k, deleted.2.buckets.value? T.bucket k = if k ∈ keys then none else b.value? T.bucket k) ∧
      (∀ f ∈ T.indexes, ∀ i, ∃ l, Rising l ∧ b.value? (indexBucket T.bucket f) i = x.codec.posting l ∧
        deleted.2.buckets.value? (indexBucket T.bucket f) i =
          x.codec.posting (l.filter (fun k => decide (k ∉ keys)))) ∧
      (∀ n, n ≠ T.bucket → (∀ f ∈ T.indexes, n ≠ indexBucket T.bucket f) →
        deleted.2.buckets.get? n = b.get? n) ∧
      SameNames b deleted.2.buckets := by
  intro selected deleted keys
  obtain ⟨hout, hkeys, -, -⟩ := Visitor.traverse_alongside (x := x) (selector_faithful h)
    (deleter_faithful h) selector_alongside_deleter h (orAll q) ⟨.empty, []⟩ ⟨b, .empty⟩ Rising.nil
    ⟨Rising.nil, Deleted.refl h⟩ rfl
  have hdel : Deleted T x.codec b deleted.2.buckets keys := by
    show Deleted T x.codec b _ selected.2.matched.keys
    rw [show selected.2.matched = deleted.2.deleted from hkeys]
    exact deleted_of_delete x h q
  refine ⟨?_, hkeys.symm, hdel.consistent, hdel.primary, fun f hf i => hdel.posting h hf i, hdel.others, hdel.names⟩
  show Except.map _ _ = Except.map _ _
  rw [hout]

/-- A deletion that fails at the second of three people has deleted the first, as selecting returns the first only. -/
theorem delete_like_select_people :
    let selected := Sample.stepwise.select Sample.person.type Sample.people (some Sample.untilElder) ⟨.empty, []⟩
    let deleted := Sample.stepwise.delete Sample.person.type (some Sample.untilElder) ⟨Sample.people, .empty⟩
    Sound Sample.person.type .binary Sample.people ∧ selected.1 = .error (.predicate "too old") ∧
      selected.2.matched.keys = [[1]] ∧ deleted.1 = selected.1 ∧ deleted.2.deleted = selected.2.matched ∧
      Consistent Sample.person.type .binary deleted.2.buckets ∧
      deleted.2.buckets.value? Sample.person.bucket [1] = none ∧
      deleted.2.buckets.value? Sample.person.bucket [2] = Sample.people.value? Sample.person.bucket [2] := by
  intro selected deleted
  obtain ⟨hout, hkeys, hc, hv, -⟩ := delete_like_select Sample.stepwise sound_people (some Sample.untilElder)
  have hmatched : selected.2.matched.keys = [[1]] := by decide +kernel
  have hgone : deleted.2.buckets.value? Sample.person.bucket [1] = none := by
    refine (hv [1]).trans (if_pos ?_)
    exact hmatched ▸ List.mem_singleton.2 rfl
  have hleft : deleted.2.buckets.value? Sample.person.bucket [2] = Sample.people.value? Sample.person.bucket [2] := by
    refine (hv [2]).trans (if_neg ?_)
    exact hmatched ▸ (by decide)
  exact ⟨sound_people, by rfl, hmatched, hout, hkeys, hc, hgone, hleft⟩

end Executor
end RecordHold
