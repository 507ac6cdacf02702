import RecordHold.Hold
import RecordHold.Proofs.Writes
/-!
# Proofs.Frames — what a write leaves alone

Every operation on the records of a type changes the bucket of the type and its index buckets and no other, whatever
the state is and whether it succeeds or fails, and it never makes a bucket or an entry without a name
(`stays_insert` and so on).  Steps that stay within some buckets do so one after the other (`stays_bind`), and so
does a traversal whose visits do (`traverse_keeps`).
-/
namespace RecordHold

open Buckets

/-- **A change within some buckets.** -/
structure Within (names : List String) (b b' : Buckets) : Prop where
  others : ∀ n, n ∉ names → b'.get? n = b.get? n
  named  : b.Named → b'.Named

theorem Within.refl (names : List String) (b : Buckets) : Within names b b := ⟨fun _ _ => rfl, id⟩

theorem Within.trans {names : List String} {a b c : Buckets} (h : Within names a b) (h' : Within names b c) :
    Within names a c := ⟨fun n hn => (h'.others n hn).trans (h.others n hn), fun ha => h'.named (h.named ha)⟩

theorem Buckets.Changed.within {names : List String} {name : String} {b b' : Buckets} (h : Changed name b b')
    (hn : name ∈ names) : Within names b b' :=
  ⟨fun n hno => h.others n (fun he => hno (he ▸ hn)), h.named⟩

/-! ## Steps -/

namespace Write

variable {ε ε' α β : Type} {names : List String}

/-- **A step stays within some buckets**, whether it succeeds or fails. -/
def Stays (names : List String) (w : Write ε α) : Prop := ∀ b, Within names b (w.runOn b).2

theorem stays_pure (a : α) : (pure a : Write ε α).Stays names := fun b => Within.refl names b

theorem stays_throw (e : ε) : (throw e : Write ε α).Stays names := fun b => Within.refl names b

theorem stays_view : (view : Write ε Buckets).Stays names := fun b => Within.refl names b

theorem stays_ofExcept (r : Except ε α) : (ofExcept r).Stays names := fun b => by
  rw [runOn_ofExcept]
  exact Within.refl names b

theorem stays_bind {w : Write ε α} {f : α → Write ε β} (hw : w.Stays names) (hf : ∀ a, (f a).Stays names) :
    (w >>= f).Stays names := fun b => by
  have hb := hw b
  rw [runOn_bind]
  rcases hr : w.runOn b with ⟨e | a, m⟩
  · rw [hr] at hb
    exact hb
  · rw [hr] at hb
    exact hb.trans (hf a m)

/-- A step that goes on from a value at hand and from what it reads of the state under that value. -/
theorem stays_keyed {κ : Type} {v : Except ε κ} {read : κ → Buckets → Except ε α} {f : κ → α → Write ε β}
    (hf : ∀ k a, (f k a).Stays names) :
    (ofExcept v >>= fun k => view >>= fun b => ofExcept (read k b) >>= f k).Stays names :=
  stays_bind (stays_ofExcept v) (fun k => stays_bind stays_view (fun b => stays_bind (stays_ofExcept (read k b)) (hf k)))

theorem stays_adapt {w : Write ε α} (hw : w.Stays names) (f : ε → ε') : Stays names (ExceptT.adapt f w) := fun b => by
  rw [runOn_adapt]
  exact hw b

theorem stays_change {f : Buckets → Except ε Buckets} (hf : ∀ b b', f b = .ok b' → Within names b b') :
    (change f).Stays names := fun b => by
  rw [runOn_change]
  cases hb : f b with
  | error e => exact Within.refl names b
  | ok b' => exact hf b b' hb

theorem stays_put {name : String} (hn : name ∈ names) (key value : Bytes) (f : StoreError → ε) :
    (change (fun b => (b.put name key value).mapError f)).Stays names :=
  stays_change (fun _ _ h => (put_spec (Except.mapError_eq_ok h)).1.within hn)

theorem stays_remove {name : String} (hn : name ∈ names) (key : Bytes) (f : StoreError → ε) :
    (change (fun b => (b.remove name key).mapError f)).Stays names :=
  stays_change (fun _ _ h => (remove_spec (Except.mapError_eq_ok h)).1.within hn)

theorem stays_forM {step : String → Write ε Unit} : ∀ {fs : List String}, (∀ f ∈ fs, (step f).Stays names) →
    (fs.forM step).Stays names
  | [],      _ => stays_pure ()
  | _ :: _,  h =>
    stays_bind (h _ List.mem_cons_self) (fun _ => stays_forM (fun g hg => h g (List.mem_cons_of_mem _ hg)))

end Write

/-! ## Indexes -/

variable {γ : Type} [Custom γ] {T : RecordType γ} {names : List String}

/-- The names of the buckets of a record type. -/
def RecordType.buckets (T : RecordType γ) : List String := T.bucket :: T.indexes.map (indexBucket T.bucket)

namespace Index

open Write

variable {c : Codec} {key : Bytes} {r : Record T}

theorem stays_addField {f : String} (hn : indexBucket T.bucket f ∈ names) : (addField c key r f).Stays names := by
  refine stays_keyed (fun i l => ?_)
  rcases l.insert key with ⟨_ | _, l'⟩
  · exact stays_pure ()
  · exact stays_put hn i (c.keyList l') _

theorem stays_removeField {f : String} (hn : indexBucket T.bucket f ∈ names) : (removeField c key r f).Stays names := by
  refine stays_keyed (fun i l => ?_)
  rcases l.remove key with ⟨_ | _, l'⟩
  · exact stays_pure ()
  · show Stays names (if l'.isEmpty = true then discard _ i else store c _ i l')
    split
    · exact stays_remove hn i _
    · exact stays_put hn i (c.keyList l') _

theorem stays_add (hn : ∀ f ∈ T.indexes, indexBucket T.bucket f ∈ names) : (add c key r).Stays names :=
  stays_forM (fun f hf => stays_addField (hn f hf))

theorem stays_remove (hn : ∀ f ∈ T.indexes, indexBucket T.bucket f ∈ names) : (remove c key r).Stays names :=
  stays_forM (fun f hf => stays_removeField (hn f hf))

theorem stays_update (hn : ∀ f ∈ T.indexes, indexBucket T.bucket f ∈ names) (old : Option (Record T)) :
    (update c key old r).Stays names := by
  unfold update
  cases old with
  | none => exact stays_add hn
  | some o => exact stays_bind (stays_remove hn) (fun _ => stays_add hn)

end Index

/-! ## Traversals -/

namespace Visitor

variable {σ : Type} {v : Visitor T σ} {J : σ → Prop} {codec : Codec} {x : Executor γ}

theorem consider_keeps (hv : ∀ key r s, J s → J (v.visit key r s).2) {q : Query γ} {narrowed : Bool} {e : Entry} {s : σ}
    (hs : J s) : J (v.consider codec q narrowed e s).2 := by
  unfold consider
  split
  · exact hs
  · split
    · exact hs
    · split
      · exact hs
      · exact hs
      · exact hv _ _ s hs

theorem drain_keeps (hv : ∀ key r s, J s → J (v.visit key r s).2) {q : Query γ} {narrowed : Bool} :
    ∀ {l : List Candidate} {s : σ}, J s → J (v.drain codec q narrowed l s).2
  | [],     s, hs => hs
  | k :: l, s, hs => by
    unfold drain
    split
    · exact hs
    · exact drain_keeps hv hs
    · rename_i e _
      have he : J (v.consider codec q narrowed e s).2 := consider_keeps hv hs
      split
      · rename_i s' hc
        rw [hc] at he
        exact drain_keeps hv he
      · exact he

theorem drainAll_keeps (hv : ∀ key r s, J s → J (v.visit key r s).2) {q : Query γ} :
    ∀ {fuel : Nat} {scan : Scan} {s : σ}, J s → J (v.drainAll codec q fuel scan s).2
  | 0,        scan, s, hs => hs
  | fuel + 1, scan, s, hs => by
    have hd : J (v.drain codec q scan.narrowed scan.buffer s).2 := drain_keeps hv hs
    unfold drainAll
    split
    · rename_i s' hc
      rw [hc] at hd
      split
      · exact hd
      · simp only
        split
        · exact hd
        · exact drainAll_keeps hv hd
    · exact hd

mutual
/-- **What every visit keeps, a traversal keeps**, also one that fails. -/
theorem traverse_keeps (hv : ∀ key r s, J s → J (v.visit key r s).2) :
    ∀ (q : Query γ) (s : σ), J s → J (v.traverse x q s).2
  | .node c qs, s, hs => by
    have hn : J (v.node x (.node c qs) s).2 := drainAll_keeps hv hs
    unfold traverse
    split
    · rename_i s' hc
      rw [hc] at hn
      exact traverseAll_keeps hv qs s' hn
    · exact hn

theorem traverseAll_keeps (hv : ∀ key r s, J s → J (v.visit key r s).2) :
    ∀ (qs : List (Query γ)) (s : σ), J s → J (v.traverseAll x qs s).2
  | [],      s, hs => hs
  | q :: qs, s, hs => by
    have hq := traverse_keeps hv q s hs
    unfold traverseAll
    split
    · rename_i s' hc
      rw [hc] at hq
      exact traverseAll_keeps hv qs s' hq
    · exact hq
end

end Visitor

/-! ## Operations -/

omit [Custom γ] in
theorem RecordType.bucket_mem (T : RecordType γ) : T.bucket ∈ T.buckets := List.mem_cons_self

omit [Custom γ] in
theorem RecordType.index_mem {f : String} (hf : f ∈ T.indexes) : indexBucket T.bucket f ∈ T.buckets :=
  List.mem_cons_of_mem _ (List.mem_map_of_mem hf)

theorem Executor.stays_removeRecord (c : Codec) (key : Bytes) (r : Record T) :
    (removeRecord c key r).Stays T.buckets :=
  Write.stays_bind (Write.stays_remove T.bucket_mem key _)
    (fun _ => Write.stays_adapt (Index.stays_remove (fun _ hf => RecordType.index_mem hf)) _)

/-- **Deleting by a query** stays within the buckets of the record type. -/
theorem Executor.within_delete (x : Executor γ) (q : Option (Query γ)) (s : Deletion) :
    Within T.buckets s.buckets (x.delete T q s).2.buckets := by
  refine Visitor.traverse_keeps (J := fun d : Deletion => Within T.buckets s.buckets d.buckets)
    (fun key r d hd => ?_) (orAll q) s (Within.refl _ _)
  have hr := stays_removeRecord x.codec key r d.buckets
  simp only [deleter]
  rcases hrun : (removeRecord x.codec key r).runOn d.buckets with ⟨e | _, m⟩
  · rw [hrun] at hr
    exact hd.trans hr
  · rw [hrun] at hr
    exact hd.trans hr

namespace Hold

open Write

variable (x : Executor γ) (key : Key) (r : Record T)

omit [Custom γ] in
theorem put_eq_ok {k : Bytes} {b b' : Buckets} (h : put x k r b = .ok b') :
    ∃ raw, r.stored x.codec = .ok raw ∧ b.put T.bucket k raw = .ok b' := by
  unfold put at h
  split at h
  · cases h
  · rename_i raw hraw
    exact ⟨raw, hraw, Except.mapError_eq_ok h⟩

omit [Custom γ] in
theorem stays_store (k : Bytes) : (store x k r).Stays T.buckets := by
  refine stays_change (fun _ _ h => ?_)
  obtain ⟨_, -, hput⟩ := put_eq_ok x r h
  exact (put_spec hput).1.within T.bucket_mem

theorem stays_reindex (k : Bytes) (old : Option (Record T)) :
    Stays T.buckets ((Index.update x.codec k old r).adapt HoldError.index) :=
  stays_adapt (Index.stays_update (fun _ hf => RecordType.index_mem hf) old) _

theorem stays_insert : (insert x key r).Stays T.buckets := by
  refine stays_keyed (fun k taken => ?_)
  cases taken with
  | some _ => exact stays_throw _
  | none =>
    exact stays_bind (stays_store x r k)
      (fun _ => stays_adapt (Index.stays_add (fun _ hf => RecordType.index_mem hf)) _)

theorem stays_update : (update x key r).Stays T.buckets := by
  refine stays_keyed (fun k old => ?_)
  cases old with
  | none => exact stays_throw _
  | some o => exact stays_bind (stays_store x r k) (fun _ => stays_reindex x r k (some o))

theorem stays_upsert : (upsert x key r).Stays T.buckets :=
  stays_keyed (fun k old => stays_bind (stays_store x r k) (fun _ => stays_reindex x r k old))

theorem stays_delete : (delete x T key).Stays T.buckets := by
  refine stays_keyed (fun k old => ?_)
  cases old with
  | none => exact stays_throw _
  | some o =>
    exact stays_bind (stays_remove T.bucket_mem k _)
      (fun _ => stays_adapt (Index.stays_remove (fun _ hf => RecordType.index_mem hf)) _)

/-- What deleting by a query leaves of the buckets is what the executor leaves. -/
theorem runOn_deleteMatching (q : Option (Query γ)) (b : Buckets) :
    (deleteMatching x T q).runOn b =
      (ofQuery ((x.delete T q ⟨b, .empty⟩).1.map (fun _ => (x.delete T q ⟨b, .empty⟩).2.deleted.length)),
        (x.delete T q ⟨b, .empty⟩).2.buckets) := by
  unfold deleteMatching
  rw [runOn_bind_ok (runOn_view b)]
  show (set _ >>= fun _ => Write.ofExcept _ : Write HoldError Nat).runOn b = _
  rw [runOn_bind_ok (runOn_set b _), runOn_ofExcept]
  rfl

theorem stays_deleteMatching (q : Option (Query γ)) : (deleteMatching x T q).Stays T.buckets := fun b => by
  rw [runOn_deleteMatching]
  exact x.within_delete q ⟨b, .empty⟩

end Hold
end RecordHold
