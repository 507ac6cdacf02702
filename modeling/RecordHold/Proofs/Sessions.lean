import RecordHold.Proofs.Deleting
import RecordHold.Proofs.Frames
import RecordHold.Proofs.JsonForms
import RecordHold.Store.Transactions
/-!
# Proofs.Sessions — every state a hold comes to is consistent

A session is a run of calls on a hold, each in a transaction of its own or inside an open write transaction, which is
committed only if all calls in it succeeded (`Session.run`).  A call that succeeds leads from a consistent state to a
consistent one (`Call.consistent`), and one that fails is not committed, so every committed state is consistent
(`consistent_run`).
-/
namespace RecordHold

open Std Buckets

variable {γ : Type} [Custom γ] {T : RecordType γ} {x : Executor γ} {b b' : Buckets}

/-! ## Operations that succeed -/

namespace Hold

omit [Custom γ] in
theorem load_eq_ok {key : Bytes} {o : Option (Record T)} (h : load x T key b = .ok o) : o = b.rows T x.codec key := by
  unfold load at h
  cases hl : b.lookup T.bucket key with
  | error e => rw [hl] at h; cases h
  | ok raw =>
    rw [hl] at h
    have hv := (lookup_eq_ok hl).2.2
    cases raw with
    | none =>
      cases h
      exact (rows_of_none hv).symm
    | some raw =>
      simp only at h
      cases hd : Record.decode T x.codec raw with
      | error e => rw [hd] at h; cases h
      | ok r =>
        rw [hd] at h
        cases h
        exact (rows_eq_some.2 ⟨raw, hv, hd⟩).symm

/-- A step whose failures are only renamed succeeds as the step does. -/
theorem runOn_adapt_eq_ok {ε ε' α : Type} {w : Write ε α} {f : ε → ε'} {a : α}
    (h : Write.runOn (ExceptT.adapt f w) b = (.ok a, b')) : w.runOn b = (.ok a, b') := by
  rw [Write.runOn_adapt] at h
  rcases hw : w.runOn b with ⟨e | a', m⟩
  · rw [hw] at h
    cases h
  · rw [hw] at h
    cases h
    rfl

theorem runOn_change_eq_ok {ε : Type} {f : Buckets → Except ε Buckets} {u : Unit}
    (h : (Write.change f).runOn b = (.ok u, b')) : f b = .ok b' := by
  rw [Write.runOn_change] at h
  cases hf : f b with
  | error e => rw [hf] at h; cases h
  | ok m => rw [hf] at h; cases h; rfl

/-- A record is brought into the indexes only if each of its indexed fields can be indexed. -/
theorem indexable_of_update {key : Bytes} {r : Record T} {old : Option (Record T)}
    (h : (Index.update x.codec key old r).runOn b = (.ok ⟨⟩, b')) : r.Indexable := by
  obtain ⟨m, hadd⟩ := Index.add_of_update h
  exact Index.keyFor_of_add hadd

/-- **A record stored and brought into the indexes** leaves a consistent state consistent. -/
theorem consistent_reindex (h : Consistent T x.codec b) {key raw : Bytes} {r : Record T} {m : Buckets}
    (hput : b.put T.bucket key raw = .ok m) (hread : Record.decode T x.codec raw = .ok r)
    (hrun : (Index.update x.codec key (b.rows T x.codec key) r).runOn m = (.ok ⟨⟩, b'))
    (hs : Sized (b'.bucket T.bucket).keys) : Consistent T x.codec b' := by
  have hstays : Within (T.indexes.map (indexBucket T.bucket)) m
      ((Index.update x.codec key (b.rows T x.codec key) r).runOn m).2 :=
    Index.stays_update (fun f hf => List.mem_map_of_mem hf) _ m
  rw [hrun] at hstays
  have hprimary : b'.bucket T.bucket = m.bucket T.bucket := by
    unfold bucket
    rw [hstays.others T.bucket (fun hm => by
      obtain ⟨f, -, he⟩ := List.mem_map.1 hm
      exact indexBucket_ne T.bucket f he)]
  rw [hprimary] at hs
  obtain ⟨b'', hrun', hc, -⟩ := h.put hput hread (indexable_of_update hrun) hs
  rw [hrun] at hrun'
  cases hrun'
  exact hc

omit [Custom γ] in
theorem runOn_store_eq_ok {key : Bytes} {r : Record T} {u : Unit} (h : (store x key r).runOn b = (.ok u, b')) :
    ∃ raw, r.stored x.codec = .ok raw ∧ b.put T.bucket key raw = .ok b' := put_eq_ok x r (runOn_change_eq_ok h)

/-- What can be had without a change leaves the state as it is. -/
theorem runOn_ofExcept_bind {α β : Type} {v : Except HoldError β} {f : β → Write HoldError α} {a : α}
    (h : (Write.ofExcept v >>= f).runOn b = (.ok a, b')) : ∃ y, v = .ok y ∧ (f y).runOn b = (.ok a, b') := by
  obtain ⟨y, m, hy, hrun⟩ := Write.runOn_bind_eq_ok h
  rw [Write.runOn_ofExcept] at hy
  cases (Prod.mk.inj hy).2
  exact ⟨y, (Prod.mk.inj hy).1, hrun⟩

omit [Custom γ] in
/-- The first thing every operation does is to encode the key, and the second to look at what is stored under it. -/
theorem runOn_keyed {α β : Type} {key : Key} (read : Bytes → Buckets → Except HoldError β)
    {f : Bytes → β → Write HoldError α} {a : α}
    (h : (Write.ofExcept (encodeKey x key) >>= fun k =>
      Write.view >>= fun b => Write.ofExcept (read k b) >>= f k).runOn b = (.ok a, b')) :
    ∃ k v, read k b = .ok v ∧ (f k v).runOn b = (.ok a, b') := by
  obtain ⟨k, -, hrun⟩ := runOn_ofExcept_bind h
  rw [Write.runOn_bind_ok (Write.runOn_view b)] at hrun
  obtain ⟨v, hv, hrun⟩ := runOn_ofExcept_bind hrun
  exact ⟨k, v, hv, hrun⟩

variable {key : Key} {r : Record T}

/-- **A record stored in the place of an old one**, if there is one, leaves a consistent state consistent. -/
theorem consistent_replace (h : Consistent T x.codec b) (hkept : r.Kept x.codec)
    (hs : Sized (b'.bucket T.bucket).keys) {k : Bytes} {old : Option (Record T)} (hold : old = b.rows T x.codec k)
    (hrun : (store x k r >>= fun _ => (Index.update x.codec k old r).adapt HoldError.index).runOn b = (.ok ⟨⟩, b')) :
    Consistent T x.codec b' := by
  obtain ⟨_, m, hst, hre⟩ := Write.runOn_bind_eq_ok hrun
  obtain ⟨raw, hraw, hput⟩ := runOn_store_eq_ok hst
  refine consistent_reindex h hput (hkept raw hraw) ?_ hs
  rw [← hold]
  exact runOn_adapt_eq_ok hre

theorem consistent_insert (h : Consistent T x.codec b) (hkept : r.Kept x.codec) (hs : Sized (b'.bucket T.bucket).keys)
    (hrun : (insert x key r).runOn b = (.ok ⟨⟩, b')) : Consistent T x.codec b' := by
  obtain ⟨k, taken, ht, hrun⟩ :=
    runOn_keyed (fun k b => (b.lookup T.bucket k).mapError .store) hrun
  cases taken with
  | some _ => cases hrun
  | none =>
    have hv := (lookup_eq_ok (Except.mapError_eq_ok ht)).2.2
    exact consistent_replace h hkept hs (rows_of_none hv).symm hrun

theorem consistent_update (h : Consistent T x.codec b) (hkept : r.Kept x.codec) (hs : Sized (b'.bucket T.bucket).keys)
    (hrun : (update x key r).runOn b = (.ok ⟨⟩, b')) : Consistent T x.codec b' := by
  obtain ⟨k, old, ho, hrun⟩ := runOn_keyed (load x T) hrun
  cases old with
  | none => cases hrun
  | some o => exact consistent_replace h hkept hs (load_eq_ok ho) hrun

theorem consistent_upsert (h : Consistent T x.codec b) (hkept : r.Kept x.codec) (hs : Sized (b'.bucket T.bucket).keys)
    (hrun : (upsert x key r).runOn b = (.ok ⟨⟩, b')) : Consistent T x.codec b' := by
  obtain ⟨k, old, ho, hrun⟩ := runOn_keyed (load x T) hrun
  exact consistent_replace h hkept hs (load_eq_ok ho) hrun

theorem consistent_delete (h : Consistent T x.codec b) (hn : b.Named) (hs : Sized (b.bucket T.bucket).keys)
    (hrun : (delete x T key).runOn b = (.ok ⟨⟩, b')) : Consistent T x.codec b' := by
  obtain ⟨k, old, ho, hrun⟩ := runOn_keyed (load x T) hrun
  cases old with
  | none => cases hrun
  | some o =>
    obtain ⟨m, b'', hrem, hre, hc, -⟩ := h.remove hn hs (load_eq_ok ho).symm
    obtain ⟨_, m', hrem', hre'⟩ := Write.runOn_bind_eq_ok hrun
    have hm := runOn_change_eq_ok hrem'
    rw [hrem] at hm
    cases hm
    have hb := runOn_adapt_eq_ok hre'
    rw [hre] at hb
    cases hb
    exact hc

theorem consistent_deleteMatching {n : Nat} {q : Option (Query γ)} (h : Sound T x.codec b)
    (hrun : (deleteMatching x T q).runOn b = (.ok n, b')) : Consistent T x.codec b' := by
  rw [runOn_deleteMatching] at hrun
  cases (Prod.mk.inj hrun).2
  exact (Executor.deleted_of_delete x h q).consistent

end Hold

/-! ## Calls -/

/-- A call that writes to a hold, on a record type of its own. -/
inductive Call (γ : Type) where
  | insert (S : RecordType γ) (key : Key) (r : Record S)
  | update (S : RecordType γ) (key : Key) (r : Record S)
  | upsert (S : RecordType γ) (key : Key) (r : Record S)
  | delete (S : RecordType γ) (key : Key)
  | deleteMatching (S : RecordType γ) (q : Option (Query γ))

namespace Call

/-- The record type a call is on. -/
def type : Call γ → RecordType γ
  | insert S _ _ | update S _ _ | upsert S _ _ | delete S _ | deleteMatching S _ => S

def run (x : Executor γ) : Call γ → Write HoldError Unit
  | insert _ key r     => Hold.insert x key r
  | update _ key r     => Hold.update x key r
  | upsert _ key r     => Hold.upsert x key r
  | delete S key       => Hold.delete x S key
  | deleteMatching S q => Hold.deleteMatching x S q >>= fun _ => pure ()

/-- **The codec keeps the record handed over**, if there is one. -/
def Kept (c : Codec) : Call γ → Prop
  | insert _ _ r | update _ _ r | upsert _ _ r => r.Kept c
  | delete _ _ | deleteMatching _ _            => True

/-- **A call that may be made beside a record type**: on the type itself, with a record that the codec keeps, or on a
type that uses none of its buckets. -/
def Beside (T : RecordType γ) (c : Codec) (call : Call γ) : Prop :=
  call.type = T ∧ call.Kept c ∨ ∀ n ∈ call.type.buckets, n ∉ T.buckets

/-- A call stays within the buckets of its record type. -/
theorem stays (x : Executor γ) : ∀ call : Call γ, (call.run x).Stays call.type.buckets
  | insert _ key r     => Hold.stays_insert x key r
  | update _ key r     => Hold.stays_update x key r
  | upsert _ key r     => Hold.stays_upsert x key r
  | delete _ key       => Hold.stays_delete x key
  | deleteMatching _ q => Write.stays_bind (Hold.stays_deleteMatching x q) (fun _ => Write.stays_pure ())

/-- **A call that succeeds keeps a consistent state consistent.** -/
theorem consistent {call : Call γ} (hc : call.Beside T x.codec) (h : Sound T x.codec b)
    (hs : Sized (b'.bucket T.bucket).keys) (hrun : (call.run x).runOn b = (.ok ⟨⟩, b')) : Consistent T x.codec b' := by
  rcases hc with ⟨rfl, hr⟩ | hapart
  · cases call with
    | insert S key r => exact Hold.consistent_insert h.consistent hr hs hrun
    | update S key r => exact Hold.consistent_update h.consistent hr hs hrun
    | upsert S key r => exact Hold.consistent_upsert h.consistent hr hs hrun
    | delete S key => exact Hold.consistent_delete h.consistent h.named h.sized hrun
    | deleteMatching S q =>
      obtain ⟨n, m, hdel, hpure⟩ := Write.runOn_bind_eq_ok hrun
      cases hpure
      exact Hold.consistent_deleteMatching h hdel
  · have hstays := call.stays x b
    rw [hrun] at hstays
    exact h.consistent.congr (hstays.others _ (fun hm => hapart _ hm T.bucket_mem))
      (fun f hf => hstays.others _ (fun hm => hapart _ hm (RecordType.index_mem hf)))

theorem named (x : Executor γ) (call : Call γ) (h : b.Named) : ((call.run x).runOn b).2.Named :=
  (call.stays x b).named h

end Call

/-! ## Sessions -/

/-- What a caller of a hold does next. -/
inductive Move (γ : Type) where
  | alone (call : Call γ)
  | begin
  | inside (call : Call γ)
  | commit
  | rollback

/-- A hold in use: its store, and whether every call in the open write transaction has succeeded. -/
structure Session where
  store : Store
  clean : Bool

namespace Session

/-- An empty hold. -/
def start : Session := ⟨Store.empty, true⟩

/-- One move.  As long as a write transaction is open there is no other, so a move that needs one of its own waits,
and the open one is committed only if every call in it has succeeded. -/
def next (x : Executor γ) (s : Session) : Move γ → Session
  | .alone call  => if s.store.writer.isSome then s else { s with store := (s.store.alone (call.run x)).2 }
  | .begin       => if s.store.writer.isSome then s else ⟨s.store.beginWrite, true⟩
  | .inside call =>
    match s.store.inside (call.run x) with
    | some (.ok _, store)    => { s with store }
    | some (.error _, store) => ⟨store, false⟩
    | none                   => s
  | .commit      => { s with store := if s.clean then s.store.commit else s.store.rollback }
  | .rollback    => { s with store := s.store.rollback }

/-- Where a list of moves leads from an empty hold. -/
def run (x : Executor γ) (moves : List (Move γ)) : Session := moves.foldl (next x) start

/-- The keys of a record type, in the committed state and in the open write transaction, have lengths that are 64-bit
words. -/
def Sized (T : RecordType γ) (s : Session) : Prop :=
  RecordHold.Sized (s.store.committed.bucket T.bucket).keys ∧
    ∀ b ∈ s.store.writer, RecordHold.Sized (b.bucket T.bucket).keys

instance (T : RecordType γ) (s : Session) : Decidable (s.Sized T) := inferInstanceAs (Decidable (_ ∧ ∀ b ∈ _, _))

/-- **The invariant of a session**: the committed state is consistent, and so is the open write transaction as long
as no call in it has failed. -/
structure Steady (T : RecordType γ) (c : Codec) (s : Session) : Prop where
  committed : Consistent T c s.store.committed ∧ s.store.committed.Named
  writer    : ∀ b, s.store.writer = some b → (s.clean = true → Consistent T c b) ∧ b.Named

theorem steady_start : start.Steady T x.codec where
  committed := ⟨consistent_empty, fun _ h => (nomatch h)⟩
  writer _ h := nomatch h

/-- **One move keeps a session steady.** -/
theorem Steady.next {s : Session} (h : s.Steady T x.codec) (hs : s.Sized T) {move : Move γ}
    (hs' : (s.next x move).Sized T) (hc : ∀ call, move = .alone call ∨ move = .inside call → call.Beside T x.codec) :
    (s.next x move).Steady T x.codec := by
  cases move with
  | alone call =>
    unfold Session.next at hs' ⊢
    simp only at hs' ⊢
    split
    · exact h
    · rename_i hw
      rw [if_neg hw] at hs'
      have hnamed := call.named x h.committed.2
      unfold Store.alone at hs' ⊢
      rcases hrun : (call.run x).runOn s.store.committed with ⟨e | _, b'⟩
      · exact h
      · rw [hrun] at hs' hnamed
        exact ⟨⟨Call.consistent (hc call (.inl rfl)) ⟨h.committed.1, h.committed.2, hs.1⟩ hs'.1 hrun, hnamed⟩, h.writer⟩
  | begin =>
    unfold Session.next
    simp only
    split
    · exact h
    · refine ⟨h.committed, fun b hb => ?_⟩
      cases hb
      exact ⟨fun _ => h.committed.1, h.committed.2⟩
  | inside call =>
    unfold Session.next Store.inside at hs' ⊢
    cases hw : s.store.writer with
    | none => rw [hw] at hs'; exact h
    | some b =>
      have hb := h.writer b hw
      have hnamed := call.named x hb.2
      rw [hw] at hs'
      simp only [Option.map_some] at hs' ⊢
      rcases hrun : (call.run x).runOn b with ⟨e | _, b'⟩
      · rw [hrun] at hnamed
        refine ⟨h.committed, fun n hn => ?_⟩
        cases hn
        exact ⟨fun hf => (nomatch hf), hnamed⟩
      · rw [hrun] at hs' hnamed
        refine ⟨h.committed, fun n hn => ?_⟩
        cases hn
        exact ⟨fun hclean => Call.consistent (hc call (.inr rfl)) ⟨hb.1 hclean, hb.2, hs.2 b hw⟩ (hs'.2 b' rfl) hrun,
          hnamed⟩
  | commit =>
    unfold Session.next
    simp only
    cases hclean : s.clean with
    | false => exact ⟨h.committed, fun b hb => (nomatch hb)⟩
    | true =>
      unfold Store.commit
      cases hw : s.store.writer with
      | none => exact ⟨h.committed, fun b hb => by simp [hw] at hb⟩
      | some b => exact ⟨⟨(h.writer b hw).1 hclean, (h.writer b hw).2⟩, fun b hb => (nomatch hb)⟩
  | rollback => exact ⟨h.committed, fun b hb => (nomatch hb)⟩

/-- **All moves keep a session steady**, if its keys are sized all along and its calls may be made beside the record
type. -/
theorem Steady.foldl : ∀ {moves : List (Move γ)} {s : Session}, s.Steady T x.codec →
    (∀ before, before <+: moves → (before.foldl (Session.next x) s).Sized T) →
    (∀ call, .alone call ∈ moves ∨ .inside call ∈ moves → call.Beside T x.codec) →
    (moves.foldl (Session.next x) s).Steady T x.codec
  | [],            _, h, _,  _  => h
  | move :: moves, s, h, hs, hc => by
    have hnext := h.next (hs [] List.nil_prefix) (hs [move] ⟨moves, rfl⟩) (fun call hm => hc call (by
      rcases hm with rfl | rfl
      · exact .inl List.mem_cons_self
      · exact .inr List.mem_cons_self))
    rw [List.foldl_cons]
    refine hnext.foldl (fun before hb => ?_) (fun call hm => hc call ?_)
    · have hcons := hs (move :: before) (List.cons_prefix_cons.2 ⟨rfl, hb⟩)
      rwa [List.foldl_cons] at hcons
    · rcases hm with hm | hm
      · exact .inl (List.mem_cons_of_mem _ hm)
      · exact .inr (List.mem_cons_of_mem _ hm)

/-- **The indexes are consistent over whole runs.** Wherever a caller's moves lead from an empty hold, the committed
state is consistent for the record type, and so is the open write transaction as long as no call in it has failed. -/
theorem consistent_run (x : Executor γ) (T : RecordType γ) (moves : List (Move γ))
    (hc : ∀ call, .alone call ∈ moves ∨ .inside call ∈ moves → call.Beside T x.codec)
    (hs : ∀ before, before <+: moves → (run x before).Sized T) :
    Sound T x.codec (run x moves).store.committed ∧
      ∀ b ∈ (run x moves).store.writer, (run x moves).clean = true → Sound T x.codec b := by
  have h : (run x moves).Steady T x.codec := steady_start.foldl hs hc
  have hsized := hs moves (List.prefix_refl moves)
  exact ⟨⟨h.committed.1, h.committed.2, hsized.1⟩,
    fun b hb hclean => ⟨(h.writer b hb).1 hclean, (h.writer b hb).2, hsized.2 b hb⟩⟩

/-- One transaction is committed, and another rolled back because its second call fails. -/
theorem consistent_run_people :
    let moves : List (Move UserValue) := [.alone (.insert Sample.person.type Sample.firstKey Sample.tim), .begin,
      .inside (.insert Sample.person.type Sample.secondKey Sample.tim),
      .inside (.update Sample.person.type Sample.firstKey Sample.ann), .commit, .begin,
      .inside (.deleteMatching Sample.person.type none),
      .inside (.delete Sample.person.type Sample.thirdKey), .commit]
    (∀ call, .alone call ∈ moves ∨ .inside call ∈ moves → call.Beside Sample.person.type .binary) ∧
      (∀ before, before <+: moves → (run Sample.stepwise before).Sized Sample.person.type) ∧
      (run Sample.stepwise moves).store.committed.rows Sample.person.type .binary [1] = some Sample.ann ∧
      Sound Sample.person.type .binary (run Sample.stepwise moves).store.committed := by
  intro moves
  have hc : ∀ call, .alone call ∈ moves ∨ .inside call ∈ moves → call.Beside Sample.person.type .binary := by
    intro call hcall
    simp only [moves, List.mem_cons, List.not_mem_nil, or_false, reduceCtorEq, Move.alone.injEq, Move.inside.injEq,
      false_or] at hcall
    have htim : Sample.tim.Kept .binary := (Record.kept_iff (by decide) (by decide)).2 (fun _ => by decide)
    have hann : Sample.ann.Kept .binary := (Record.kept_iff (by decide) (by decide)).2 (fun _ => by decide)
    rcases hcall with rfl | rfl | rfl | rfl | rfl
    · exact .inl ⟨rfl, htim⟩
    · exact .inl ⟨rfl, htim⟩
    · exact .inl ⟨rfl, hann⟩
    · exact .inl ⟨rfl, trivial⟩
    · exact .inl ⟨rfl, trivial⟩
  have hs : ∀ before, before <+: moves → (run Sample.stepwise before).Sized Sample.person.type := by
    intro before hb
    have htake : ∀ n ∈ List.range 10, (run Sample.stepwise (moves.take n)).Sized Sample.person.type := by decide +kernel
    rw [List.prefix_iff_eq_take.1 hb]
    exact htake _ (List.mem_range.2 (Nat.lt_succ_of_le hb.length_le))
  exact ⟨hc, hs, by decide +kernel, (consistent_run Sample.stepwise Sample.person.type moves hc hs).1⟩

end Session
end RecordHold
