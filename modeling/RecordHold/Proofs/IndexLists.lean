import RecordHold.Index
import RecordHold.Proofs.KeySet
import RecordHold.Proofs.StoredKeys
import RecordHold.Proofs.Writes
/-!
# Proofs.IndexLists — what an index bucket lists, and how it is kept up

An index bucket `Lists` a relation between index keys and primary keys: under each index key is the ascending list of
the related primary keys, and no entry if there is none.  The relation that an index of a record type has to list is
given by the rows, the records by primary key (`Under`).

Adding a record to an index and removing one change the list of one index key (`addField_spec`, `removeField_spec`).
Each leaves an index alone that has the change already, so it does no harm if a record type names a field twice, and
all fields together are a run of such steps, one bucket each (`forM_lists`).
-/
namespace RecordHold

open Std

/-! ## The names of index buckets -/

theorem indexBucket_ne_empty (bucket field : String) : indexBucket bucket field ≠ "" := by
  intro h
  have hl := congrArg (fun s => s.toList.length) h
  simp [indexBucket] at hl

theorem indexBucket_ne (bucket field : String) : indexBucket bucket field ≠ bucket := by
  intro h
  have hl := congrArg (fun s => s.toList.length) h
  simp [indexBucket] at hl
  omega

theorem indexBucket_injective {bucket f g : String} (h : indexBucket bucket f = indexBucket bucket g) : f = g := by
  have hl := congrArg String.toList h
  simp only [indexBucket, String.toList_append] at hl
  exact String.toList_inj.1 (List.append_cancel_left hl)

/-! ## Rows and lists -/

variable {γ : Type} {T : RecordType γ} {c : Codec}

/-- The records of a type by primary key. -/
abbrev Rows (T : RecordType γ) := Bytes → Option (Record T)

/-- The rows without one. -/
def Rows.erase (rows : Rows T) (key : Bytes) : Rows T := fun k => if k = key then none else rows k

/-- The rows with one more, or another. -/
def Rows.set (rows : Rows T) (key : Bytes) (r : Record T) : Rows T := fun k => if k = key then some r else rows k

theorem Rows.set_erase (rows : Rows T) (key : Bytes) (r : Record T) :
    (rows.erase key).set key r = rows.set key r := by
  funext k
  unfold Rows.set Rows.erase
  split <;> rfl

theorem Rows.ne_none_of_erase {rows : Rows T} {key k : Bytes} (h : rows.erase key k ≠ none) : rows k ≠ none := by
  unfold Rows.erase at h
  split at h
  · exact absurd rfl h
  · exact h

theorem Rows.ne_none_of_set {rows : Rows T} {key k : Bytes} {r : Record T} (h : rows k ≠ none) :
    rows.set key r k ≠ none := by
  unfold Rows.set
  split
  · exact Option.some_ne_none r
  · exact h

variable [Custom γ]

/-- **A primary key belongs under an index key**: the field of its record has that index key. -/
def Under (rows : Rows T) (f : String) (i k : Bytes) : Prop := ∃ r, rows k = some r ∧ Index.keyFor r f = .ok i

/-- The value of an index entry, none for no keys. -/
def Codec.posting (c : Codec) (l : List Bytes) : Option Bytes := if l = [] then none else some (c.keyList ⟨l⟩)

/-- **A bucket lists a relation**: under each index key, the ascending list of all primary keys related to it. -/
def Lists (c : Codec) (b : Buckets) (bucket : String) (P : Bytes → Bytes → Prop) : Prop :=
  ∀ i, ∃ l, Rising l ∧ (∀ k, k ∈ l ↔ P i k) ∧ b.value? bucket i = c.posting l

theorem keyFor_ne_nil {r : Record T} {f : String} {i : Bytes} (h : Index.keyFor r f = .ok i) : i ≠ [] := by
  unfold Index.keyFor at h
  cases hf : r.field f with
  | none => rw [hf] at h; cases h
  | some v =>
    rw [hf] at h
    obtain ⟨s, -, rfl⟩ := Except.map_eq_ok h
    exact List.cons_ne_nil _ _

theorem Lists.congr {b : Buckets} {bucket : String} {P Q : Bytes → Bytes → Prop} (h : Lists c b bucket P)
    (hPQ : ∀ i k, P i k ↔ Q i k) : Lists c b bucket Q := by
  intro i
  obtain ⟨l, hr, hm, hv⟩ := h i
  exact ⟨l, hr, fun k => (hm k).trans (hPQ i k), hv⟩

/-- What a bucket lists depends on its values only. -/
theorem Lists.of_value? {b b' : Buckets} {bucket : String} {P : Bytes → Bytes → Prop} (h : Lists c b bucket P)
    (hv : ∀ i, b'.value? bucket i = b.value? bucket i) : Lists c b' bucket P := by
  intro i
  obtain ⟨l, hr, hm, hl⟩ := h i
  exact ⟨l, hr, hm, (hv i).trans hl⟩

/-- **Loading a list** gives all of it. -/
theorem Lists.load {b : Buckets} {bucket : String} {P : Bytes → Bytes → Prop} (h : Lists c b bucket P)
    {keys : List Bytes} (hs : Sized keys) (hP : ∀ i k, P i k → k ∈ keys) (hb : bucket ≠ "") {i : Bytes} (hi : i ≠ []) :
    ∃ l, Rising l ∧ (∀ k, k ∈ l ↔ P i k) ∧ b.value? bucket i = c.posting l ∧ Index.load c bucket i b = .ok ⟨l⟩ := by
  obtain ⟨l, hr, hm, hv⟩ := h i
  refine ⟨l, hr, hm, hv, ?_⟩
  unfold Index.load
  rw [b.lookup_of_ne hb hi, hv]
  unfold Codec.posting
  by_cases hl : l = []
  · rw [if_pos hl, hl]
    rfl
  · rw [if_neg hl]
    show (c.keyList? (c.keyList ⟨l⟩)).mapError IndexError.codec = _
    rw [c.keyList?_keyList (hs.of_subset hr (fun k hk => hP i k ((hm k).1 hk)))]
    rfl

/-! ## One field -/

/-- A bucket in which one value has been replaced by another list lists what it did elsewhere. -/
theorem Lists.replaced {b b' : Buckets} {bucket : String} {P Q : Bytes → Bytes → Prop} (h : Lists c b bucket P)
    {i : Bytes} {l : List Bytes} (hr : Rising l) (hm : ∀ k, k ∈ l ↔ Q i k) (hQ : ∀ j k, j ≠ i → (P j k ↔ Q j k))
    (hv : ∀ j, b'.value? bucket j = if j = i then c.posting l else b.value? bucket j) : Lists c b' bucket Q := by
  intro j
  by_cases hj : j = i
  · subst hj
    exact ⟨l, hr, hm, by rw [hv, if_pos rfl]⟩
  · obtain ⟨l', hr', hm', hv'⟩ := h j
    exact ⟨l', hr', fun k => (hm' k).trans (hQ j k hj), by rw [hv, if_neg hj, hv']⟩

namespace Index

open Buckets

theorem runOn_store {bucket : String} {i : Bytes} (hb : bucket ≠ "") (hi : i ≠ []) (l : KeyList) (b : Buckets) :
    ∃ b', (store c bucket i l).runOn b = (.ok ⟨⟩, b') ∧ Changed bucket b b' ∧
      (∀ j, b'.value? bucket j = if j = i then some (c.keyList l) else b.value? bucket j) ∧
      (b'.get? bucket).isSome = true := by
  obtain ⟨b', hput⟩ := b.put_of_ne hb hi (c.keyList l)
  refine ⟨b', ?_, put_spec hput⟩
  rw [store, Write.runOn_change, hput]
  rfl

theorem runOn_discard {bucket : String} {i : Bytes} (hb : bucket ≠ "") (hi : i ≠ []) (b : Buckets) :
    ∃ b', (discard bucket i).runOn b = (.ok ⟨⟩, b') ∧ Changed bucket b b' ∧
      (∀ j, b'.value? bucket j = if j = i then none else b.value? bucket j) ∧
      (b'.get? bucket).isSome = (b.get? bucket).isSome := by
  obtain ⟨b', hrem⟩ := b.remove_of_ne hb hi
  refine ⟨b', ?_, Buckets.remove_spec hrem⟩
  rw [discard, Write.runOn_change, hrem]
  rfl

/-- A list is stored, or its entry discarded if nothing is left of it. -/
theorem runOn_relist {bucket : String} {i : Bytes} (hb : bucket ≠ "") (hi : i ≠ []) (l : List Bytes) {b : Buckets}
    (hthere : (b.get? bucket).isSome = true) :
    ∃ b', (if l.isEmpty then discard bucket i else store c bucket i ⟨l⟩).runOn b = (.ok ⟨⟩, b') ∧
      Changed bucket b b' ∧ SameNames b b' ∧
      ∀ j, b'.value? bucket j = if j = i then c.posting l else b.value? bucket j := by
  unfold Codec.posting
  by_cases hl : l = []
  · obtain ⟨b', hrun, hch, hval, hname⟩ := runOn_discard hb hi b
    refine ⟨b', ?_, hch, hch.sameNames hname, fun j => ?_⟩
    · rw [hl]
      exact hrun
    · rw [hval, if_pos hl]
  · obtain ⟨b', hrun, hch, hval, hname⟩ := runOn_store (c := c) hb hi ⟨l⟩ b
    refine ⟨b', ?_, hch, hch.sameNames (hname.trans hthere.symm), fun j => ?_⟩
    · rw [if_neg (by simpa using hl)]
      exact hrun
    · rw [hval, if_neg hl]

/-- A step that begins with the index key of a field and the list under it, once both are known. -/
theorem runOn_loaded {α : Type} {r : Record T} {f : String} {i : Bytes} {l : KeyList} {b : Buckets}
    (hi : keyFor r f = .ok i) (hl : load c (indexBucket T.bucket f) i b = .ok l)
    (next : Bytes → KeyList → Write IndexError α) :
    (do
      let i ← Write.ofExcept (keyFor r f)
      let l ← Write.ofExcept (load c (indexBucket T.bucket f) i (← Write.view))
      next i l : Write IndexError α).runOn b = (next i l).runOn b := by
  rw [Write.runOn_bind_ok (show (Write.ofExcept (keyFor r f)).runOn b = (.ok i, b) by rw [Write.runOn_ofExcept, hi]),
    Write.runOn_bind_ok (Write.runOn_view b),
    Write.runOn_bind_ok (show (Write.ofExcept (load c (indexBucket T.bucket f) i b)).runOn b = (.ok l, b) by
      rw [Write.runOn_ofExcept, hl])]

/-- And once one of them cannot be had, the step has failed. -/
theorem runOn_unloaded {α : Type} {r : Record T} {f : String} {b : Buckets}
    (h : ¬ ∃ i l, keyFor r f = .ok i ∧ load c (indexBucket T.bucket f) i b = .ok l) :
    ∃ e, ∀ next : Bytes → KeyList → Write IndexError α,
      (do
        let i ← Write.ofExcept (keyFor r f)
        let l ← Write.ofExcept (load c (indexBucket T.bucket f) i (← Write.view))
        next i l : Write IndexError α).runOn b = (.error e, b) := by
  cases hi : keyFor r f with
  | error e => exact ⟨e, fun next => rfl⟩
  | ok i =>
    cases hl : load c (indexBucket T.bucket f) i b with
    | error e =>
      refine ⟨e, fun next => ?_⟩
      simp only [Write.ofExcept, pure_bind]
      rw [Write.runOn_bind_ok (Write.runOn_view b), hl]
      rfl
    | ok l => exact absurd ⟨i, l, hi, hl⟩ h

variable {r : Record T} {f : String} {i j k key : Bytes} {keys : List Bytes} {rows : Rows T} {b : Buckets}

theorem under_set (hi : keyFor r f = .ok i) :
    Under (rows.set key r) f j k ↔ (k = key ∧ j = i) ∨ (k ≠ key ∧ Under rows f j k) := by
  unfold Under Rows.set
  by_cases hk : k = key
  · simp [hk, hi, eq_comm]
  · simp [hk]

theorem under_erase : Under (rows.erase key) f j k ↔ k ≠ key ∧ Under rows f j k := by
  unfold Under Rows.erase
  by_cases hk : k = key <;> simp [hk]

/-- A record belongs under the index key of its field only. -/
theorem under_key (hi : keyFor r f = .ok i) (hr : rows key = some r) : Under rows f j key ↔ j = i := by
  unfold Under
  rw [hr]
  simp [hi, eq_comm]

theorem mem_keys_of_under_rows (hrows : ∀ k, rows k ≠ none → k ∈ keys) (h : Under rows f j k) : k ∈ keys := by
  obtain ⟨r', hr', -⟩ := h
  exact hrows k (by rw [hr']; exact Option.some_ne_none _)

theorem mem_keys_of_under_set (hrows : ∀ k, rows k ≠ none → k ∈ keys) (hkey : key ∈ keys)
    (h : Under (rows.set key r) f j k) : k ∈ keys := by
  obtain ⟨r', hr', -⟩ := h
  unfold Rows.set at hr'
  split at hr'
  · rename_i hk
    rwa [hk]
  · exact hrows k (by rw [hr']; exact Option.some_ne_none _)

variable {P : Bytes → Bytes → Prop}

/-- **Adding a key to the list of one index key**, which may have it already. -/
theorem runOn_addField (key : Bytes) (hs : Sized keys) (hP : ∀ j k, P j k → k ∈ keys) (hi : keyFor r f = .ok i)
    (h : Lists c b (indexBucket T.bucket f) P) :
    ∃ b', (addField c key r f).runOn b = (.ok ⟨⟩, b') ∧ Changed (indexBucket T.bucket f) b b' ∧
      Lists c b' (indexBucket T.bucket f) (fun j k => (j = i ∧ k = key) ∨ P j k) := by
  have hib := indexBucket_ne_empty T.bucket f
  obtain ⟨l, hr, hm, -, hload⟩ := h.load hs hP hib (keyFor_ne_nil hi)
  unfold addField
  rw [runOn_loaded hi hload]
  by_cases hk : key ∈ l
  · rw [KeyList.insert_of_mem (l := ⟨l⟩) hr hk]
    refine ⟨b, rfl, Changed.refl _ b, h.congr (fun j k => ⟨Or.inr, ?_⟩)⟩
    rintro (⟨rfl, rfl⟩ | hjk)
    · exact (hm k).1 hk
    · exact hjk
  · obtain ⟨l', hins, hr', hm'⟩ := KeyList.insert_of_not_mem (l := ⟨l⟩) hr hk
    obtain ⟨b', hrun, hch, hval, -⟩ := runOn_store (c := c) hib (keyFor_ne_nil hi) l' b
    rw [hins]
    refine ⟨b', hrun, hch, h.replaced (i := i) hr' (fun k => ?_) (fun j k hj => ?_) (fun j => ?_)⟩
    · rw [hm', hm]
      simp
    · simp [hj]
    · rw [hval, Codec.posting, if_neg (List.ne_nil_of_mem ((hm' key).2 (Or.inl rfl)))]

/-- **Removing a key from the list of one index key**, which may lack it already.  No bucket comes or goes. -/
theorem runOn_removeField (key : Bytes) (hs : Sized keys) (hP : ∀ j k, P j k → k ∈ keys) (hi : keyFor r f = .ok i)
    (h : Lists c b (indexBucket T.bucket f) P) :
    ∃ b', (removeField c key r f).runOn b = (.ok ⟨⟩, b') ∧ Changed (indexBucket T.bucket f) b b' ∧ SameNames b b' ∧
      Lists c b' (indexBucket T.bucket f) (fun j k => P j k ∧ ¬ (j = i ∧ k = key)) := by
  have hib := indexBucket_ne_empty T.bucket f
  obtain ⟨l, hr, hm, hv, hload⟩ := h.load hs hP hib (keyFor_ne_nil hi)
  unfold removeField
  rw [runOn_loaded hi hload]
  by_cases hk : key ∈ l
  · have hvalue : b.value? (indexBucket T.bucket f) i ≠ none := by
      rw [hv, Codec.posting, if_neg (List.ne_nil_of_mem hk)]
      exact Option.some_ne_none _
    obtain ⟨b', hrun, hch, hsame, hval⟩ :=
      runOn_relist (c := c) hib (keyFor_ne_nil hi) (l.filter (· != key)) (isSome_of_value? hvalue)
    rw [KeyList.remove_of_mem (l := ⟨l⟩) hr hk]
    refine ⟨b', hrun, hch, hsame, h.replaced (hr.filter _) (fun k => ?_) (fun j k hj => ?_) hval⟩
    · rw [List.mem_filter, hm, bne_iff_ne]
      simp
    · simp [hj]
  · rw [KeyList.remove_of_not_mem (l := ⟨l⟩) hr hk]
    refine ⟨b, rfl, Changed.refl _ b, SameNames.refl b, h.congr (fun j k => ⟨fun hjk => ⟨hjk, ?_⟩, And.left⟩)⟩
    rintro ⟨rfl, rfl⟩
    exact hk ((hm k).2 hjk)

/-- **Adding a record to one index**, which may have it already. -/
theorem addField_spec (hs : Sized keys) (hrows : ∀ k, rows k ≠ none → k ∈ keys) (hkey : key ∈ keys)
    (hi : keyFor r f = .ok i) (hfree : rows key = none)
    (h : Lists c b (indexBucket T.bucket f) (Under rows f) ∨
      Lists c b (indexBucket T.bucket f) (Under (rows.set key r) f)) :
    ∃ b', (addField c key r f).runOn b = (.ok ⟨⟩, b') ∧ Changed (indexBucket T.bucket f) b b' ∧
      Lists c b' (indexBucket T.bucket f) (Under (rows.set key r) f) := by
  rcases h with h | h
  · obtain ⟨b', hrun, hch, hl⟩ := runOn_addField key hs (fun _ _ => mem_keys_of_under_rows hrows) hi h
    refine ⟨b', hrun, hch, hl.congr (fun j k => ?_)⟩
    have hnot : ¬ Under rows f j key := by
      rintro ⟨r', hr', -⟩
      rw [hfree] at hr'
      cases hr'
    rw [under_set hi]
    grind
  · obtain ⟨b', hrun, hch, hl⟩ := runOn_addField key hs (fun _ _ => mem_keys_of_under_set hrows hkey) hi h
    refine ⟨b', hrun, hch, hl.congr (fun j k => ?_)⟩
    rw [under_set hi]
    grind

/-- **Removing a record from one index**, which may lack it already.  No bucket comes or goes. -/
theorem removeField_spec (hs : Sized keys) (hrows : ∀ k, rows k ≠ none → k ∈ keys)
    (hi : keyFor r f = .ok i) (hr : rows key = some r)
    (h : Lists c b (indexBucket T.bucket f) (Under rows f) ∨
      Lists c b (indexBucket T.bucket f) (Under (rows.erase key) f)) :
    ∃ b', (removeField c key r f).runOn b = (.ok ⟨⟩, b') ∧ Changed (indexBucket T.bucket f) b b' ∧
      SameNames b b' ∧ Lists c b' (indexBucket T.bucket f) (Under (rows.erase key) f) := by
  rcases h with h | h
  · obtain ⟨b', hrun, hch, hsame, hl⟩ :=
      runOn_removeField key hs (fun _ _ => mem_keys_of_under_rows hrows) hi h
    refine ⟨b', hrun, hch, hsame, hl.congr (fun j k => ?_)⟩
    have hj := under_key (j := j) hi hr
    rw [under_erase]
    grind
  · obtain ⟨b', hrun, hch, hsame, hl⟩ :=
      runOn_removeField key hs (fun _ _ hu => mem_keys_of_under_rows hrows (under_erase.1 hu).2) hi h
    refine ⟨b', hrun, hch, hsame, hl.congr (fun j k => ?_)⟩
    rw [under_erase]
    grind

/-! ## All fields -/

omit [Custom γ] in
/-- **A run over fields** that brings each index from one relation to another, whatever of it is there already. -/
theorem forM_lists {step : String → Write IndexError Unit} {P Q : String → Bytes → Bytes → Prop}
    {R : Buckets → Buckets → Prop} (hrefl : ∀ b, R b b) (htrans : ∀ {a b c}, R a b → R b c → R a c) :
    ∀ {fs : List String},
    (∀ f ∈ fs, ∀ b, (Lists c b (indexBucket T.bucket f) (P f) ∨ Lists c b (indexBucket T.bucket f) (Q f)) →
      ∃ b', (step f).runOn b = (.ok ⟨⟩, b') ∧ Changed (indexBucket T.bucket f) b b' ∧ R b b' ∧
        Lists c b' (indexBucket T.bucket f) (Q f)) →
    ∀ b, (∀ f ∈ fs, Lists c b (indexBucket T.bucket f) (P f) ∨ Lists c b (indexBucket T.bucket f) (Q f)) →
    ∃ b', (fs.forM step).runOn b = (.ok ⟨⟩, b') ∧ R b b' ∧
      (∀ n, (∀ f ∈ fs, n ≠ indexBucket T.bucket f) → b'.get? n = b.get? n) ∧
      ∀ f ∈ fs, Lists c b' (indexBucket T.bucket f) (Q f)
  | [],      _,     b, _ => ⟨b, rfl, hrefl b, fun _ _ => rfl, fun f hf => by cases hf⟩
  | f :: fs, hstep, b, h => by
    obtain ⟨m, hrun, hch, hR, hQ⟩ := hstep f List.mem_cons_self b (h f List.mem_cons_self)
    have hm : ∀ g ∈ f :: fs, Lists c m (indexBucket T.bucket g) (P g) ∨ Lists c m (indexBucket T.bucket g) (Q g) := by
      intro g hg
      by_cases hgf : g = f
      · rw [hgf]
        exact Or.inr hQ
      · have hv : ∀ i, m.value? (indexBucket T.bucket g) i = b.value? (indexBucket T.bucket g) i :=
          hch.value?_of_ne (fun he => hgf (indexBucket_injective he))
        exact (h g hg).imp (fun hl => hl.of_value? hv) (fun hl => hl.of_value? hv)
    obtain ⟨b', hrun', hR', hothers, hlists⟩ :=
      forM_lists hrefl htrans (fun g hg => hstep g (List.mem_cons_of_mem f hg)) m
        (fun g hg => hm g (List.mem_cons_of_mem f hg))
    refine ⟨b', ?_, htrans hR hR', fun n hn => ?_, fun g hg => ?_⟩
    · show (step f >>= fun _ => fs.forM step).runOn b = _
      rw [Write.runOn_bind_ok hrun]
      exact hrun'
    · rw [hothers n (fun g hg => hn g (List.mem_cons_of_mem f hg)), hch.others n (hn f List.mem_cons_self)]
    · by_cases hmem : g ∈ fs
      · exact hlists g hmem
      · -- the first field, which does not come again
        obtain rfl := (List.mem_cons.1 hg).resolve_right hmem
        refine hQ.of_value? (fun i => ?_)
        unfold value? bucket
        rw [hothers _ (fun g' hg' he => hmem (by rw [indexBucket_injective he]; exact hg'))]

/-- **What adding or removing a record leaves**: every index with its list, every other bucket as it was. -/
structure Relisted (T : RecordType γ) (c : Codec) (rows : Rows T) (b b' : Buckets) : Prop where
  named  : b.Named → b'.Named
  others : ∀ n, (∀ f ∈ T.indexes, n ≠ indexBucket T.bucket f) → b'.get? n = b.get? n
  lists  : ∀ f ∈ T.indexes, Lists c b' (indexBucket T.bucket f) (Under rows f)

theorem add_spec (hs : Sized keys) (hrows : ∀ k, rows k ≠ none → k ∈ keys) (hkey : key ∈ keys)
    (hi : ∀ f ∈ T.indexes, ∃ i, keyFor r f = .ok i) (hfree : rows key = none)
    (h : ∀ f ∈ T.indexes, Lists c b (indexBucket T.bucket f) (Under rows f)) :
    ∃ b', (add c key r).runOn b = (.ok ⟨⟩, b') ∧ Relisted T c (rows.set key r) b b' := by
  have hstep : ∀ f ∈ T.indexes, ∀ m, (Lists c m (indexBucket T.bucket f) (Under rows f) ∨
      Lists c m (indexBucket T.bucket f) (Under (rows.set key r) f)) →
      ∃ m', (addField c key r f).runOn m = (.ok ⟨⟩, m') ∧ Changed (indexBucket T.bucket f) m m' ∧
        (m.Named → m'.Named) ∧ Lists c m' (indexBucket T.bucket f) (Under (rows.set key r) f) := by
    intro f hf m hm
    obtain ⟨i, hi⟩ := hi f hf
    obtain ⟨m', hrun, hch, hl⟩ := addField_spec hs hrows hkey hi hfree hm
    exact ⟨m', hrun, hch, hch.named, hl⟩
  obtain ⟨b', hrun, hn, ho, hl⟩ :=
    forM_lists (R := fun m m' => m.Named → m'.Named) (fun _ => id) (fun h h' => h' ∘ h) hstep b
      (fun f hf => Or.inl (h f hf))
  exact ⟨b', hrun, hn, ho, hl⟩

theorem remove_spec (hs : Sized keys) (hrows : ∀ k, rows k ≠ none → k ∈ keys)
    (hi : ∀ f ∈ T.indexes, ∃ i, keyFor r f = .ok i) (hr : rows key = some r)
    (h : ∀ f ∈ T.indexes, Lists c b (indexBucket T.bucket f) (Under rows f)) :
    ∃ b', (remove c key r).runOn b = (.ok ⟨⟩, b') ∧ Relisted T c (rows.erase key) b b' ∧ SameNames b b' := by
  have hstep : ∀ f ∈ T.indexes, ∀ m, (Lists c m (indexBucket T.bucket f) (Under rows f) ∨
      Lists c m (indexBucket T.bucket f) (Under (rows.erase key) f)) →
      ∃ m', (removeField c key r f).runOn m = (.ok ⟨⟩, m') ∧ Changed (indexBucket T.bucket f) m m' ∧
        ((m.Named → m'.Named) ∧ SameNames m m') ∧
        Lists c m' (indexBucket T.bucket f) (Under (rows.erase key) f) := by
    intro f hf m hm
    obtain ⟨i, hi⟩ := hi f hf
    obtain ⟨m', hrun, hch, hsame, hl⟩ := removeField_spec hs hrows hi hr hm
    exact ⟨m', hrun, hch, ⟨hch.named, hsame⟩, hl⟩
  obtain ⟨b', hrun, hR, ho, hl⟩ :=
    forM_lists (R := fun m m' => (m.Named → m'.Named) ∧ SameNames m m') (fun m => ⟨id, SameNames.refl m⟩)
      (fun h h' => ⟨h'.1 ∘ h.1, h.2.trans h'.2⟩) hstep b (fun f hf => Or.inl (h f hf))
  exact ⟨b', hrun, ⟨hR.1, ho, hl⟩, hR.2⟩

/-- A record can be added only if each of its indexed fields can be indexed. -/
theorem keyFor_of_add : ∀ {fs : List String} {b b' : Buckets},
    (fs.forM (addField c key r)).runOn b = (.ok ⟨⟩, b') → ∀ f ∈ fs, ∃ i, keyFor r f = .ok i
  | [],      _, _,  _, f, hf => by cases hf
  | g :: fs, b, b', h, f, hf => by
    change (addField c key r g >>= fun _ => fs.forM (addField c key r)).runOn b = _ at h
    obtain ⟨_, m, hg, ht⟩ := Write.runOn_bind_eq_ok h
    rcases List.mem_cons.1 hf with rfl | hf
    · obtain ⟨i, m', hi, -⟩ := Write.runOn_bind_eq_ok hg
      rw [Write.runOn_ofExcept] at hi
      exact ⟨i, (Prod.mk.inj hi).1⟩
    · exact keyFor_of_add ht f hf

/-- Bringing the indexes up to date ends with adding the new record to them. -/
theorem add_of_update {old : Option (Record T)} {b' : Buckets} (h : (update c key old r).runOn b = (.ok ⟨⟩, b')) :
    ∃ m, (add c key r).runOn m = (.ok ⟨⟩, b') := by
  unfold update at h
  cases old with
  | none => exact ⟨b, h⟩
  | some o =>
    obtain ⟨_, m, -, hadd⟩ := Write.runOn_bind_eq_ok h
    exact ⟨m, hadd⟩

end Index
end RecordHold
