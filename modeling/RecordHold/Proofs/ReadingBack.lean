import RecordHold.Proofs.FullScans
import RecordHold.Proofs.JsonForms
import RecordHold.Proofs.Operations
/-!
# Proofs.ReadingBack — what a write leaves to be read

After a write that succeeds, its key is read as the record exactly if the record survives its own encoding.  Under JSON
that is the question whether its floats do, and whether a clock tells its times.  If the floats are all finite, some record
is read, if not always the same; one that is not finite makes its key unreadable, and with it the whole bucket
(`read_back`).

Nothing is asked of the state before.  What the write itself has looked at can be loaded, and it stays so: an index
entry that is written is a list again, or is gone (`Loads`).  So the same key can be deleted right away, if the record
that was written is the one that is read.  If another one is read, deleting takes that one out of the indexes: whether
it succeeds is a question about that one's index keys (`Removable`), and an entry under an index key of the record that
was written, if it is not one of the other's too, still mentions the key (`Mentions`).
-/
namespace RecordHold

open Std Buckets

variable {γ : Type} [Custom γ] {T : RecordType γ} {c : Codec} {b b' m : Buckets} {x : Executor γ} {k : Bytes}

/-! ## Lists that can be loaded -/

/-- **A codec keeps all key lists**, however long they are. -/
def Codec.KeepsLists (c : Codec) : Prop := ∀ l, c.keyList? (c.keyList l) = .ok l

namespace Index

variable {r : Record T} {f n : String} {i key : Bytes}

/-- **The list under an index key can be loaded**, if there is one. -/
def Loads (c : Codec) (b : Buckets) (bucket : String) (i : Bytes) : Prop :=
  ∀ raw, b.value? bucket i = some raw → ∃ l, c.keyList? raw = .ok l

theorem Loads.load (h : Loads c b n i) (hn : n ≠ "") (hi : i ≠ []) : ∃ l, Index.load c n i b = .ok l := by
  unfold Index.load
  rw [b.lookup_of_ne hn hi]
  cases hv : b.value? n i with
  | none => exact ⟨.empty, rfl⟩
  | some raw =>
    obtain ⟨l, hl⟩ := h raw hv
    exact ⟨l, by simp only [hl]; rfl⟩

/-- The list that is loaded is the one that the entry holds, or the empty one if there is none. -/
theorem load_eq_ok {l : KeyList} (h : Index.load c n i b = .ok l) :
    (b.value? n i = none ∧ l = .empty) ∨ ∃ raw, b.value? n i = some raw ∧ c.keyList? raw = .ok l := by
  unfold Index.load at h
  cases hlookup : b.lookup n i with
  | error e =>
    rw [hlookup] at h
    cases h
  | ok o =>
    obtain ⟨-, -, ho⟩ := lookup_eq_ok hlookup
    rw [hlookup] at h
    cases o with
    | none =>
      cases h
      exact Or.inl ⟨ho, rfl⟩
    | some raw => exact Or.inr ⟨raw, ho, (Except.mapError_eq_ok h)⟩

theorem loads_of_load {l : KeyList} (h : Index.load c n i b = .ok l) : Loads c b n i := by
  intro raw hv
  rcases load_eq_ok h with ⟨hnone, -⟩ | ⟨raw', hv', hl⟩
  · rw [hnone] at hv
    cases hv
  · rw [hv'] at hv
    cases hv
    exact ⟨l, hl⟩

/-- **An index entry mentions a key**: it can be loaded, and the key is in its list. -/
def Mentions (c : Codec) (b : Buckets) (bucket : String) (i key : Bytes) : Prop :=
  ∃ raw l, b.value? bucket i = some raw ∧ c.keyList? raw = .ok l ∧ key ∈ l.keys

theorem mentions_of_load {l : KeyList} (h : Index.load c n i b = .ok l) (hk : key ∈ l.keys) : Mentions c b n i key := by
  rcases load_eq_ok h with ⟨-, rfl⟩ | ⟨raw, hv, hl⟩
  · cases hk
  · exact ⟨raw, l, hv, hl, hk⟩

theorem Mentions.mem_of_load {l : KeyList} (h : Mentions c b n i key) (hl : Index.load c n i b = .ok l) :
    key ∈ l.keys := by
  obtain ⟨raw, l', hv, hl', hk⟩ := h
  rcases load_eq_ok hl with ⟨hnone, -⟩ | ⟨raw', hv', hload⟩
  · rw [hnone] at hv
    cases hv
  · rw [hv'] at hv
    cases hv
    rw [hload] at hl'
    cases hl'
    exact hk

theorem Mentions.loads (h : Mentions c b n i key) : Loads c b n i := by
  obtain ⟨raw, l, hv, hl, -⟩ := h
  intro raw' hv'
  rw [hv] at hv'
  cases hv'
  exact ⟨l, hl⟩

/-- A change of one entry is none of any other. -/
theorem value?_of_entry {o : Option Bytes} (hch : Changed n b m)
    (hv : ∀ j, m.value? n j = if j = i then o else b.value? n j) {n' : String} {j : Bytes} (hj : n' = n → j ≠ i) :
    m.value? n' j = b.value? n' j := by
  by_cases hn : n' = n
  · subst hn
    rw [hv, if_neg (hj rfl)]
  · exact hch.value?_of_ne hn j

/-! ## Adding a record to indexes -/

/-- **A key added to one index** is mentioned there, and so is everything that was mentioned anywhere. -/
theorem mentions_of_addField (hc : c.KeepsLists) (h : (addField c key r f).runOn b = (.ok ⟨⟩, m)) :
    (∃ i, keyFor r f = .ok i ∧ Mentions c m (indexBucket T.bucket f) i key) ∧
      ∀ n j k, Mentions c b n j k → Mentions c m n j k := by
  unfold addField at h
  by_cases hloaded : ∃ i l, keyFor r f = .ok i ∧ Index.load c (indexBucket T.bucket f) i b = .ok l
  · obtain ⟨i, l, hi, hl⟩ := hloaded
    obtain ⟨hkey, hkeeps⟩ := l.mem_insert key
    rw [runOn_loaded hi hl] at h
    rcases hins : l.insert key with ⟨_ | _, l'⟩ <;> rw [hins] at h hkey hkeeps
    · cases h
      -- nothing is stored, so the list that was loaded is the one with the key
      obtain rfl : l' = l := by
        unfold KeyList.insert at hins
        split at hins <;> cases hins
        rfl
      exact ⟨⟨i, hi, mentions_of_load hl hkey⟩, fun _ _ _ hj => hj⟩
    · obtain ⟨m', hrun, hch, hv, -⟩ :=
        runOn_store (c := c) (indexBucket_ne_empty T.bucket f) (keyFor_ne_nil hi) l' b
      rw [hrun] at h
      cases h
      have hstored : m.value? (indexBucket T.bucket f) i = some (c.keyList l') := by rw [hv, if_pos rfl]
      refine ⟨⟨i, hi, _, l', hstored, hc l', hkey⟩, fun n j k hj => ?_⟩
      by_cases hnj : n = indexBucket T.bucket f ∧ j = i
      · obtain ⟨rfl, rfl⟩ := hnj
        exact ⟨_, l', hstored, hc l', hkeeps k (hj.mem_of_load hl)⟩
      · obtain ⟨raw, l₀, hraw, hl₀, hk⟩ := hj
        exact ⟨raw, l₀, (value?_of_entry hch hv (fun hn hj => hnj ⟨hn, hj⟩)).trans hraw, hl₀, hk⟩
  · obtain ⟨e, he⟩ := runOn_unloaded hloaded
    rw [he] at h
    cases h

/-- **A record is listed in indexes**: each of its fields has an index key, whose entry mentions the record's key. -/
def Listed (c : Codec) (key : Bytes) (r : Record T) (fs : List String) (b : Buckets) : Prop :=
  ∀ f ∈ fs, ∃ i, keyFor r f = .ok i ∧ Mentions c b (indexBucket T.bucket f) i key

theorem listed_of_add (hc : c.KeepsLists) : ∀ {fs : List String} {b m : Buckets},
    (fs.forM (addField c key r)).runOn b = (.ok ⟨⟩, m) →
      Listed c key r fs m ∧ ∀ n j k, Mentions c b n j k → Mentions c m n j k
  | [],      b, m, h => by
    cases h
    exact ⟨fun _ hf => (nomatch hf), fun _ _ _ hj => hj⟩
  | f :: fs, b, m, h => by
    obtain ⟨u, m', hf, hrest⟩ := Write.runOn_bind_eq_ok h
    obtain ⟨⟨i, hi, hm⟩, hkeeps⟩ := mentions_of_addField hc hf
    obtain ⟨hfs, hkeeps'⟩ := listed_of_add hc hrest
    exact ⟨List.forall_mem_cons.2 ⟨⟨i, hi, hkeeps' _ i key hm⟩, hfs⟩, fun n j k hj => hkeeps' n j k (hkeeps n j k hj)⟩

/-! ## Taking a record out of indexes -/

theorem loads_congr (h : m.value? n i = b.value? n i) : Loads c m n i ↔ Loads c b n i := by
  unfold Loads
  rw [h]

/-- **Taking a key out of one index** takes an index key and a list that can be loaded, and nothing else.  It changes the
entry under that index key, into one that can be loaded or into none. -/
theorem removeField_cases (hc : c.KeepsLists) (key : Bytes) (r : Record T) (f : String) (b : Buckets) :
    (∃ e, (removeField c key r f).runOn b = (.error e, b) ∧
        ¬ ∃ i, keyFor r f = .ok i ∧ Loads c b (indexBucket T.bucket f) i) ∨
      ∃ i m, keyFor r f = .ok i ∧ Loads c b (indexBucket T.bucket f) i ∧
        (removeField c key r f).runOn b = (.ok ⟨⟩, m) ∧ Loads c m (indexBucket T.bucket f) i ∧
        ∀ n j, (n = indexBucket T.bucket f → j ≠ i) → m.value? n j = b.value? n j := by
  have hn := indexBucket_ne_empty T.bucket f
  unfold removeField
  by_cases hloaded : ∃ i l, keyFor r f = .ok i ∧ Index.load c (indexBucket T.bucket f) i b = .ok l
  · obtain ⟨i, l, hi, hl⟩ := hloaded
    have hne := keyFor_ne_nil hi
    have hloads := loads_of_load hl
    rw [runOn_loaded hi hl]
    rcases hrem : l.remove key with ⟨_ | _, l'⟩
    · exact Or.inr ⟨i, b, hi, hloads, rfl, hloads, fun _ _ _ => rfl⟩
    · by_cases hempty : l'.isEmpty = true
      · obtain ⟨m, hrun, hch, hv, -⟩ := runOn_discard hn hne b
        simp only [if_pos hempty]
        refine Or.inr ⟨i, m, hi, hloads, hrun, fun raw hraw => ?_, fun _ _ => value?_of_entry hch hv⟩
        rw [hv, if_pos rfl] at hraw
        cases hraw
      · obtain ⟨m, hrun, hch, hv, -⟩ := runOn_store (c := c) hn hne l' b
        simp only [if_neg hempty]
        refine Or.inr ⟨i, m, hi, hloads, hrun, fun raw hraw => ?_, fun _ _ => value?_of_entry hch hv⟩
        rw [hv, if_pos rfl] at hraw
        cases hraw
        exact ⟨l', hc l'⟩
  · obtain ⟨e, he⟩ := runOn_unloaded hloaded
    refine Or.inl ⟨e, he _, fun ⟨i, hi, hloads⟩ => ?_⟩
    obtain ⟨l, hl⟩ := hloads.load hn (keyFor_ne_nil hi)
    exact hloaded ⟨i, l, hi, hl⟩

/-- **A record can be taken out of indexes**: each of its fields has an index key, whose list can be loaded. -/
def Removable (c : Codec) (r : Record T) (fs : List String) (b : Buckets) : Prop :=
  ∀ f ∈ fs, ∃ i, keyFor r f = .ok i ∧ Loads c b (indexBucket T.bucket f) i

/-- **Taking a record out of indexes succeeds exactly if it can be taken out**, and however it ends, an entry that is under
none of the record's index keys is left as it was. -/
theorem removeFields_spec (hc : c.KeepsLists) (key : Bytes) (r : Record T) : ∀ (fs : List String) (b : Buckets),
    (((fs.forM (removeField c key r)).runOn b).1 = .ok () ↔ Removable c r fs b) ∧
      ∀ n j, (∀ f ∈ fs, n = indexBucket T.bucket f → keyFor r f ≠ .ok j) →
        ((fs.forM (removeField c key r)).runOn b).2.value? n j = b.value? n j
  | [],      b => ⟨iff_of_true rfl (fun _ hf => nomatch hf), fun _ _ _ => rfl⟩
  | f :: fs, b => by
    have hcons : ((f :: fs).forM (removeField c key r)).runOn b =
        (removeField c key r f >>= fun _ => fs.forM (removeField c key r)).runOn b := rfl
    unfold Removable
    rw [hcons, List.forall_mem_cons]
    rcases removeField_cases hc key r f b with ⟨e, hrun, hno⟩ | ⟨i, m, hi, hl, hrun, hl', hsame⟩
    · rw [Write.runOn_bind, hrun]
      exact ⟨iff_of_false nofun (fun h => hno h.1), fun _ _ _ => rfl⟩
    · obtain ⟨hok, hframe⟩ := removeFields_spec hc key r fs m
      have hloads : ∀ n j, Loads c m n j ↔ Loads c b n j := by
        intro n j
        by_cases hnj : n = indexBucket T.bucket f ∧ j = i
        · rw [hnj.1, hnj.2]
          exact iff_of_true hl' hl
        · exact loads_congr (hsame n j (fun hn hj => hnj ⟨hn, hj⟩))
      have hfirst : ∃ i, keyFor r f = .ok i ∧ Loads c b (indexBucket T.bucket f) i := ⟨i, hi, hl⟩
      rw [Write.runOn_bind_ok hrun, hok, and_iff_right hfirst]
      refine ⟨?_, fun n j hnj => ?_⟩
      · unfold Removable
        simp only [hloads]
      · rw [List.forall_mem_cons] at hnj
        rw [hframe n j hnj.2]
        refine hsame n j (fun hn hj => hnj.1 hn ?_)
        rw [hi, hj]

end Index

/-! ## After a write -/

namespace Hold

omit [Custom γ] in
/-- Reading a key that can be encoded is loading what is under it. -/
theorem get_of_key {key : Key} (hkey : key.encode x.codec = .ok k) : Hold.get x T key b = load x T k b := by
  unfold Hold.get encodeKey
  rw [hkey]
  rfl

omit [Custom γ] in
theorem load_of_value? (hnames : checkNames T.bucket k = .ok ()) {raw : Bytes} (hv : b.value? T.bucket k = some raw) :
    load x T k b = ((Record.decode T x.codec raw).map some).mapError .codec := by
  rw [load_of_ok hnames, hv]

/-- Deleting goes on once the old record is loaded. -/
theorem runOn_delete {key : Key} (hkey : key.encode x.codec = .ok k) : (Hold.delete x T key).runOn b =
    (Write.ofExcept (load x T k b) >>= fun old => match old with
      | none   => throw .notFound
      | some r => do
        Write.change (fun b => (b.remove T.bucket k).mapError .store)
        (Index.remove x.codec k r).adapt .index : Write HoldError Unit).runOn b := by
  have hencode : (Write.ofExcept (encodeKey x key)).runOn b = (.ok k, b) := by
    rw [Write.runOn_ofExcept, encodeKey, hkey]
  unfold Hold.delete
  exact (Write.runOn_bind_ok hencode _).trans (Write.runOn_bind_ok (Write.runOn_view b) _)

/-- **A key cannot be deleted** while its record cannot be read. -/
theorem delete_of_load_error {key : Key} {e : HoldError} (hkey : key.encode x.codec = .ok k)
    (hload : load x T k b = .error e) : (Hold.delete x T key).runOn b = (.error e, b) := by
  rw [runOn_delete hkey, hload]
  rfl

/-- **Deleting a key whose record is read** succeeds exactly if that record can be taken out of the indexes.  However it
ends, nothing is left under the key, and an index entry under no index key of that record is left as it was. -/
theorem delete_loaded {key : Key} {r : Record T} (hc : x.codec.KeepsLists) (hkey : key.encode x.codec = .ok k)
    (hnames : checkNames T.bucket k = .ok ()) (hload : load x T k b = .ok (some r)) :
    (((Hold.delete x T key).runOn b).1 = .ok () ↔ Index.Removable x.codec r T.indexes b) ∧
      ((Hold.delete x T key).runOn b).2.value? T.bucket k = none ∧
      ∀ f j, Index.keyFor r f ≠ .ok j → ((Hold.delete x T key).runOn b).2.value? (indexBucket T.bucket f) j =
        b.value? (indexBucket T.bucket f) j := by
  obtain ⟨hT, hk⟩ := checkNames_eq_ok hnames
  obtain ⟨m, hm⟩ := b.remove_of_ne hT hk
  obtain ⟨hch, hv, -⟩ := Buckets.remove_spec hm
  obtain ⟨hok, hframe⟩ := Index.removeFields_spec hc k r T.indexes m
  have hindex : ∀ f j, m.value? (indexBucket T.bucket f) j = b.value? (indexBucket T.bucket f) j := fun f j =>
    hch.value?_of_ne (indexBucket_ne T.bucket f) j
  have hremovable : Index.Removable x.codec r T.indexes m ↔ Index.Removable x.codec r T.indexes b :=
    forall₂_congr (fun f _ => exists_congr (fun i => and_congr_right (fun _ => Index.loads_congr (hindex f i))))
  have hchange : (Write.change (fun b => (b.remove T.bucket k).mapError HoldError.store)).runOn b = (.ok ⟨⟩, m) := by
    rw [Write.runOn_change, hm]
    rfl
  have hloaded : (Write.ofExcept (load x T k b)).runOn b = (.ok (some r), b) := by rw [Write.runOn_ofExcept, hload]
  have hrun : (Hold.delete x T key).runOn b =
      (((Index.remove x.codec k r).runOn m).1.mapError .index, ((Index.remove x.codec k r).runOn m).2) := by
    rw [runOn_delete hkey, Write.runOn_bind_ok hloaded]
    simp only
    rw [Write.runOn_bind_ok hchange, Write.runOn_adapt]
  have hmapped : ∀ res : Except IndexError Unit, res.mapError HoldError.index = .ok () ↔ res = .ok () := by
    rintro (e | u)
    · exact ⟨nofun, nofun⟩
    · exact iff_of_true rfl rfl
  rw [hrun]
  refine ⟨?_, ?_, fun f j hj => ?_⟩
  · rw [hmapped, ← hremovable]
    exact hok
  · have hleft := hframe T.bucket k (fun f _ hf => absurd hf.symm (indexBucket_ne T.bucket f))
    show ((T.indexes.forM (Index.removeField x.codec k r)).runOn m).2.value? T.bucket k = none
    rw [hleft, hv, if_pos rfl]
  · have hleft := hframe (indexBucket T.bucket f) j (fun g _ hg => by rwa [← indexBucket_injective hg])
    show ((T.indexes.forM (Index.removeField x.codec k r)).runOn m).2.value? (indexBucket T.bucket f) j = _
    rw [hleft, hindex]

end Hold

namespace Operation

/-- **What a write that succeeds leaves**: its record under its key, every other key as it was, and indexes that the
record is listed in. -/
structure Left {T : RecordType γ} (x : Executor γ) (op : Operation T) (r : Record T) (raw k : Bytes) (b b' : Buckets) :
    Prop where
  key     : op.key.encode x.codec = .ok k
  names   : checkNames T.bucket k = .ok ()
  stored  : r.stored x.codec = .ok raw
  entries : ∀ j, b'.value? T.bucket j = if j = k then some raw else b.value? T.bucket j
  listed  : x.codec.KeepsLists → Index.Listed x.codec k r T.indexes b'

section Any
variable {op : Operation T} {r : Record T} {raw : Bytes}

theorem left_of_ok (hr : op.record? = some r) (hrun : (op.run x).runOn b = (.ok (), b')) :
    ∃ raw k, Left x op r raw k b b' := by
  have hexit := op.exits x b
  rw [hrun] at hexit
  generalize hres : ((.ok (), b') : Except HoldError Unit × Buckets) = res at hexit
  cases hexit with
  | unstorable | unnamed | taken | missing | unreadable | unwritable => cases hres
  | @changed k m hkey hnames hasks hm =>
    obtain ⟨hok, rfl⟩ := Prod.mk.inj hres
    have hput := change_eq_ok hm
    rw [hr] at hput
    obtain ⟨raw, hraw, -⟩ := hput
    refine ⟨raw, k, hkey, hnames, hraw, fun j => ?_, fun hc => ?_⟩
    · rw [value?_reindex, (change_spec hm).2, written_eq hr hraw]
    · rcases hre : (op.reindex x.codec k (b.rows T x.codec k)).runOn m with ⟨e | u, m'⟩
      · rw [hre] at hok
        cases hok
      · unfold reindex at hre
        rw [hr] at hre
        simp only at hre
        obtain ⟨n, hadd⟩ := Index.add_of_update hre
        exact (Index.listed_of_add hc hadd).1

/-- **The key is read as what comes back of the record.** -/
theorem Left.get (h : Left x op r raw k b b') :
    Hold.get x T op.key b' = ((Record.decode T x.codec raw).map some).mapError .codec := by
  rw [Hold.get_of_key h.key]
  exact Hold.load_of_value? h.names (by rw [h.entries, if_pos rfl])

/-- **Everything is found after a write** if it was before and the new record is read. -/
theorem Left.find_none (h : Left x op r raw k b b') (hread : ∃ r', Record.decode T x.codec raw = .ok r')
    (hfind : ∃ rs, Hold.find x T none b = .ok rs) : ∃ rs, Hold.find x T none b' = .ok rs := by
  have hT := (checkNames_eq_ok h.names).1
  rw [Hold.find_none_isOk_iff x hT] at hfind ⊢
  intro j raw' hv
  rw [h.entries] at hv
  by_cases hj : j = k
  · rw [if_pos hj] at hv
    cases hv
    exact hread
  · rw [if_neg hj] at hv
    exact hfind j raw' hv

/-- **Deleting the key of a record that comes back as another** succeeds exactly if the indexed fields in which the two
differ have index keys, and lists under them that can be loaded.  The key is gone then, but an entry under an index key
that only the record written had still mentions it. -/
theorem Left.delete (h : Left x op r raw k b b') (hc : x.codec.KeepsLists) {r' : Record T}
    (hget : Hold.get x T op.key b' = .ok (some r')) :
    (((Hold.delete x T op.key).runOn b').1 = .ok () ↔
      ∀ f ∈ T.indexes, Index.keyFor r' f ≠ Index.keyFor r f →
        ∃ i, Index.keyFor r' f = .ok i ∧ Index.Loads x.codec b' (indexBucket T.bucket f) i) ∧
      Hold.get x T op.key ((Hold.delete x T op.key).runOn b').2 = .ok none ∧
      ∀ f ∈ T.indexes, ∀ i, Index.keyFor r f = .ok i → Index.keyFor r' f ≠ .ok i →
        Index.Mentions x.codec ((Hold.delete x T op.key).runOn b').2 (indexBucket T.bucket f) i k := by
  have hlisted := h.listed hc
  have hload := hget
  rw [Hold.get_of_key h.key] at hload
  obtain ⟨hok, hgone, hframe⟩ := Hold.delete_loaded hc h.key h.names hload
  refine ⟨hok.trans (forall₂_congr (fun f hf => ⟨fun hr _ => hr, fun hr => ?_⟩)), ?_, fun f hf i hi hne => ?_⟩
  · by_cases hsame : Index.keyFor r' f = Index.keyFor r f
    · obtain ⟨i, hi, hm⟩ := hlisted f hf
      exact ⟨i, hsame.trans hi, hm.loads⟩
    · exact hr hsame
  · rw [Hold.get_of_key h.key, Hold.load_of_ok h.names, hgone]
  · obtain ⟨i', hi', raw', l, hv, hl, hk⟩ := hlisted f hf
    rw [hi] at hi'
    cases hi'
    exact ⟨raw', l, by rw [hframe f i hne, hv], hl, hk⟩

end Any

section Rows
variable {T : RowType γ}

/-- **A record that survives JSON is read back**, and no other is: after a write that succeeds, its key is read as the
record exactly if its floats survive and a clock tells its times, and then the key can be deleted.  If its floats are
finite, some record is read at least, and everything can be found that could be before.  If it is another record, then
the key can be deleted exactly if the indexed fields in which the two differ have index keys, and lists under them that
can be loaded; the key is gone then, but the index entries under the index keys that only the record written had still
mention it.  And with a float that is not finite the key can be neither read nor deleted, and nothing is found without a
query. -/
theorem read_back (x : Executor γ) (hx : x.codec = .json) (hnames : (T.columns.map Prod.fst).Nodup)
    (op : Operation T.type) {r : Record T.type} (hr : op.record? = some r) (b : Buckets)
    (hrun : ((op.run x).runOn b).1 = .ok ()) :
    let b' := ((op.run x).runOn b).2
    let deleted := (Hold.delete x T.type op.key).runOn b'
    (Hold.get x T.type op.key b' = .ok (some r) ↔ ∀ s ∈ r.cells, (s.kind.Float → s.Survives) ∧ s.Told) ∧
      ((∀ s ∈ r.cells, (s.kind.Float → s.Survives) ∧ s.Told) → deleted.1 = .ok ()) ∧
      ((∀ s ∈ r.cells, ¬ s.NotFinite) →
        (∃ r', Hold.get x T.type op.key b' = .ok (some r')) ∧
          ((∃ rs, Hold.find x T.type none b = .ok rs) → ∃ rs, Hold.find x T.type none b' = .ok rs)) ∧
      (∀ r', Hold.get x T.type op.key b' = .ok (some r') →
        (deleted.1 = .ok () ↔
          ∀ f ∈ T.indexes, Index.keyFor r' f ≠ Index.keyFor r f →
            ∃ i, Index.keyFor r' f = .ok i ∧ Index.Loads x.codec b' (indexBucket T.bucket f) i) ∧
        Hold.get x T.type op.key deleted.2 = .ok none ∧
        ∀ k, op.key.encode x.codec = .ok k → ∀ f ∈ T.indexes, ∀ i, Index.keyFor r f = .ok i →
          Index.keyFor r' f ≠ .ok i → Index.Mentions x.codec deleted.2 (indexBucket T.bucket f) i k) ∧
      ((∃ s ∈ r.cells, s.NotFinite) →
        Hold.get x T.type op.key b' = .error (.codec (.decode .malformed)) ∧
          (∀ rs, Hold.find x T.type none b' ≠ .ok rs) ∧
          deleted = (.error (.codec (.decode .malformed)), b')) := by
  intro b' deleted
  have hrun' : (op.run x).runOn b = (.ok (), b') := Prod.ext hrun rfl
  obtain ⟨raw, k, hleft⟩ := left_of_ok hr hrun'
  obtain ⟨-, rfl⟩ := Record.stored_eq_ok.1 hleft.stored
  have hlists : x.codec.KeepsLists := by
    rw [hx]
    exact Codec.keyList?_json
  have hget := hleft.get
  have hdecode := Record.decode_json_iff (r := r) hnames
  rw [forall₂_congr (fun s _ => Scalar.survives_iff), ← hx] at hdecode
  have hgetIff : Hold.get x T.type op.key b' = .ok (some r) ↔ ∀ s ∈ r.cells, (s.kind.Float → s.Survives) ∧ s.Told := by
    rw [hget, ← hdecode]
    cases Record.decode T.type x.codec (r.encode x.codec) with
    | error e => exact ⟨fun h => (nomatch h), fun h => (nomatch h)⟩
    | ok r'   => exact ⟨fun h => by cases h; rfl, fun h => by cases h; rfl⟩
  refine ⟨hgetIff, fun hs => ?_, fun hs => ?_, fun r' hr' => ?_, fun ⟨s, hs, hnot⟩ => ?_⟩
  · exact (hleft.delete hlists (hgetIff.2 hs)).1.2 (fun f _ hne => absurd rfl hne)
  · have hsome := Record.decode_json_finite (r := r) hnames hs
    rw [← hx] at hsome
    refine ⟨?_, hleft.find_none hsome⟩
    obtain ⟨r', hr'⟩ := hsome
    rw [hget, hr']
    exact ⟨r', rfl⟩
  · obtain ⟨hok, hgone, hstale⟩ := hleft.delete hlists hr'
    refine ⟨hok, hgone, fun k' hk' => ?_⟩
    obtain rfl : k = k' := Except.ok.inj (hleft.key.symm.trans hk')
    exact hstale
  · have hlost := Record.decode_json_notFinite (r := r) hnames hs hnot
    rw [← hx] at hlost
    have hload := hget
    rw [Hold.get_of_key hleft.key] at hload
    rw [hlost] at hget hload
    refine ⟨hget, fun rs hfind => ?_, Hold.delete_of_load_error hleft.key hload⟩
    obtain ⟨r', hr'⟩ := (Hold.find_none_isOk_iff x (checkNames_eq_ok hleft.names).1 b').1 ⟨rs, hfind⟩ k _
      (by rw [hleft.entries, if_pos rfl])
    rw [hlost] at hr'
    cases hr'

end Rows

/-- An item with a price that survives is read back, found and deleted.  A record with a float that does not is read as
another and deleted too, and the index of that float still mentions its key. -/
theorem read_back_priced :
    let x : Executor UserValue := .ofCodec .json
    let after := ((insert Sample.firstKey Sample.priced).run x).runOn SortedMap.empty
    let altered := ((insert Sample.firstKey Sample.ancient).run x).runOn SortedMap.empty
    let deleted := (Hold.delete x Sample.wide.type Sample.firstKey).runOn altered.2
    after.1 = .ok () ∧ Hold.get x Sample.item.type Sample.firstKey after.2 = .ok (some Sample.priced) ∧
      (∃ rs, Hold.find x Sample.item.type none after.2 = .ok rs) ∧
      ((Hold.delete x Sample.item.type Sample.firstKey).runOn after.2).1 = .ok () ∧
      altered.1 = .ok () ∧ deleted.1 = .ok () ∧ Hold.get x Sample.wide.type Sample.firstKey deleted.2 = .ok none ∧
      Index.Mentions .json deleted.2 "_index:Wide:F64" (IndexKey.ofScalar (.f64 0x465F3D28041D14C8)) [0x31] := by
  intro x after altered deleted
  have hrun : after.1 = .ok () := by decide +kernel
  have hsurvive : ∀ s ∈ Sample.priced.cells, (s.kind.Float → s.Survives) ∧ s.Told := by decide +kernel
  have hfinite : ∀ s ∈ Sample.priced.cells, ¬ s.NotFinite := by decide +kernel
  have hbefore : Hold.find x Sample.item.type none SortedMap.empty = .ok [] := by decide +kernel
  obtain ⟨hget, hdelete, hfind, -, -⟩ :=
    read_back x rfl (by decide) (.insert Sample.firstKey Sample.priced) rfl SortedMap.empty hrun
  have hrun' : altered.1 = .ok () := by decide +kernel
  have hfinite' : ∀ s ∈ Sample.ancient.cells, ¬ s.NotFinite := by decide +kernel
  obtain ⟨-, -, hfind', halter, -⟩ :=
    read_back x rfl (by decide) (.insert Sample.firstKey Sample.ancient) rfl SortedMap.empty hrun'
  obtain ⟨r', hr'⟩ : ∃ r', Hold.get x Sample.wide.type Sample.firstKey altered.2 = .ok (some r') := (hfind' hfinite').1
  obtain ⟨-, hgone, hstale⟩ := halter r' hr'
  have hdeleted : deleted.1 = .ok () := by decide +kernel
  have hread : (Hold.get x Sample.wide.type Sample.firstKey altered.2).map (Option.map (fun r => Index.keyFor r "F64")) =
      .ok (some (.ok (IndexKey.ofScalar (.f64 0x465F3D28041D14C7)))) := by decide +kernel
  have hother : Index.keyFor r' "F64" ≠ .ok (IndexKey.ofScalar (.f64 0x465F3D28041D14C8)) := by
    rw [hr'] at hread
    have hkey : Index.keyFor r' "F64" = .ok _ := Option.some.inj (Except.ok.inj hread)
    rw [hkey]
    decide
  exact ⟨hrun, hget.2 hsurvive, (hfind hfinite).2 ⟨[], hbefore⟩, hdelete hsurvive, hrun', hdeleted, hgone,
    hstale [0x31] rfl "F64" (by decide) _ rfl hother⟩

/-- An item without a number for a price is accepted, and from then on neither it nor anything else is read; one that is
too dear comes back a little cheaper. -/
theorem not_read_back :
    let x : Executor UserValue := .ofCodec .json
    let lost := ((insert Sample.firstKey Sample.unpriced).run x).runOn SortedMap.empty
    let altered := ((insert Sample.firstKey Sample.dear).run x).runOn SortedMap.empty
    lost.1 = .ok () ∧ Hold.find x Sample.item.type none SortedMap.empty = .ok [] ∧
      Hold.get x Sample.item.type Sample.firstKey lost.2 = .error (.codec (.decode .malformed)) ∧
      Hold.find x Sample.item.type none lost.2 = .error (.query (.decode (.decode .malformed))) ∧
      ((Hold.delete x Sample.item.type Sample.firstKey).runOn lost.2).1 = .error (.codec (.decode .malformed)) ∧
      altered.1 = .ok () ∧
      Hold.get x Sample.item.type Sample.firstKey altered.2 ≠ .ok (some Sample.dear) := by
  decide +kernel

end Operation

end RecordHold
