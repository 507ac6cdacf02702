import RecordHold.Proofs.IndexLists
/-!
# Proofs.Consistency — states whose indexes list exactly what is stored

A state is consistent for a record type when every entry of its bucket can be read and indexed, and each of its
indexes lists the stored records and nothing else (`Consistent`).  Storing a record and updating the indexes, and
removing a record from its bucket and the indexes, lead from one consistent state to another and change no other
bucket (`Consistent.put`, `Consistent.remove`).
-/
namespace RecordHold

open Std Buckets

variable {γ : Type} {T : RecordType γ} {c : Codec} {b b' : Buckets} {key : Bytes} {r : Record T}

theorem toOption_eq_some {ε α : Type} {x : Except ε α} {a : α} : x.toOption = some a ↔ x = .ok a := by
  cases x <;> simp [Except.toOption]

/-- **The stored records** of a type by primary key. -/
def Buckets.rows (b : Buckets) (T : RecordType γ) (c : Codec) : Rows T :=
  fun key => (b.value? T.bucket key).bind (fun raw => (Record.decode T c raw).toOption)

theorem rows_eq_some : b.rows T c key = some r ↔
    ∃ raw, b.value? T.bucket key = some raw ∧ Record.decode T c raw = .ok r := by
  unfold Buckets.rows
  rw [Option.bind_eq_some_iff]
  exact exists_congr (fun raw => and_congr_right (fun _ => toOption_eq_some))

/-- Where there is no entry there is no record. -/
theorem rows_of_none (hv : b.value? T.bucket key = none) : b.rows T c key = none := by
  unfold Buckets.rows
  rw [hv]
  rfl

/-- A stored record has its key among the keys of the bucket. -/
theorem mem_keys_of_rows (h : b.rows T c key ≠ none) : key ∈ (b.bucket T.bucket).keys := by
  obtain ⟨r, hr⟩ := Option.ne_none_iff_exists'.1 h
  obtain ⟨raw, hv, -⟩ := rows_eq_some.1 hr
  exact (b.bucket T.bucket).mem_keys.2 ⟨raw, hv⟩

/-- Storing a record sets its row. -/
theorem rows_put {m : Buckets} {raw : Bytes} (hput : b.put T.bucket key raw = .ok m)
    (hread : Record.decode T c raw = .ok r) : m.rows T c = (b.rows T c).set key r := by
  funext k
  unfold Buckets.rows Rows.set
  rw [(put_spec hput).2.1]
  by_cases hk : k = key
  · rw [if_pos hk, if_pos hk, Option.bind_some, hread]
    rfl
  · rw [if_neg hk, if_neg hk]

/-- Removing an entry erases its row. -/
theorem rows_remove {m : Buckets} (hrem : b.remove T.bucket key = .ok m) :
    m.rows T c = (b.rows T c).erase key := by
  funext k
  unfold Buckets.rows Rows.erase
  rw [(Buckets.remove_spec hrem).2.1]
  by_cases hk : k = key
  · rw [if_pos hk, if_pos hk]
    rfl
  · rw [if_neg hk, if_neg hk]

variable [Custom γ]

/-- **A record can be indexed**: each of its indexed fields is present and no custom value. -/
def Record.Indexable (r : Record T) : Prop := ∀ f ∈ T.indexes, ∃ i, Index.keyFor r f = .ok i

/-- **Consistent for a record type**: what its bucket holds can be read and indexed, and each index lists exactly the
stored records, each under the index key of its field. -/
structure Consistent (T : RecordType γ) (c : Codec) (b : Buckets) : Prop where
  readable : ∀ key raw, b.value? T.bucket key = some raw → ∃ r, Record.decode T c raw = .ok r ∧ r.Indexable
  lists    : ∀ f ∈ T.indexes, Lists c b (indexBucket T.bucket f) (Under (b.rows T c) f)

theorem consistent_empty : Consistent T c SortedMap.empty where
  readable key raw h := by cases h
  lists f hf i := ⟨[], Rising.nil, fun k => ⟨fun h => (nomatch h), fun ⟨_, hr, _⟩ => (nomatch hr)⟩, rfl⟩

theorem Consistent.indexable (h : Consistent T c b) (hr : b.rows T c key = some r) : r.Indexable := by
  obtain ⟨raw, hv, hd⟩ := rows_eq_some.1 hr
  obtain ⟨r', hd', hi⟩ := h.readable key raw hv
  rw [hd] at hd'
  cases hd'
  exact hi

/-- Whether a state is consistent depends on the buckets of the record type only. -/
theorem Consistent.congr (h : Consistent T c b) (hp : b'.get? T.bucket = b.get? T.bucket)
    (hi : ∀ f ∈ T.indexes, b'.get? (indexBucket T.bucket f) = b.get? (indexBucket T.bucket f)) :
    Consistent T c b' := by
  have hval : ∀ {n}, b'.get? n = b.get? n → ∀ k, b'.value? n k = b.value? n k := by
    intro n hn k
    unfold value? bucket
    rw [hn]
  have hrows : b'.rows T c = b.rows T c := funext (fun k => by rw [Buckets.rows, Buckets.rows, hval hp])
  refine ⟨fun key raw hk => h.readable key raw (by rw [← hval hp]; exact hk), fun f hf => ?_⟩
  rw [hrows]
  exact (h.lists f hf).of_value? (hval (hi f hf))

/-! ## Deciding -/

instance (rows : Rows T) (f : String) (i k : Bytes) : Decidable (Under rows f i k) :=
  decidable_of_iff ((rows k).bind (fun r => (Index.keyFor r f).toOption) = some i) (by
    unfold Under
    rw [Option.bind_eq_some_iff]
    exact exists_congr (fun r => and_congr_right (fun _ => toOption_eq_some)))

instance (r : Record T) : Decidable r.Indexable :=
  decidable_of_iff (∀ f ∈ T.indexes, (Index.keyFor r f).toOption.isSome = true) (by
    unfold Record.Indexable
    simp only [Option.isSome_iff_exists, toOption_eq_some])

/-- The primary keys that belong under an index key. -/
def Buckets.under (b : Buckets) (T : RecordType γ) (c : Codec) (f : String) (i : Bytes) : List Bytes :=
  (b.bucket T.bucket).keys.filter (fun k => decide (Under (b.rows T c) f i k))

theorem rising_under (f : String) (i : Bytes) : Rising (b.under T c f i) := (b.bucket T.bucket).rising_keys.filter _

theorem mem_under {f : String} {i k : Bytes} : k ∈ b.under T c f i ↔ Under (b.rows T c) f i k := by
  unfold Buckets.under
  rw [List.mem_filter, decide_eq_true_iff]
  exact and_iff_right_of_imp (Index.mem_keys_of_under_rows (fun _ => mem_keys_of_rows))

/-- The index keys that an index has, or should have. -/
def Buckets.indexKeys (b : Buckets) (T : RecordType γ) (c : Codec) (f : String) : List Bytes :=
  (b.bucket (indexBucket T.bucket f)).keys ++
    (b.bucket T.bucket).keys.filterMap (fun k => (b.rows T c k).bind (fun r => (Index.keyFor r f).toOption))

/-- An index lists what it should if it does under these. -/
theorem lists_iff {f : String} : Lists c b (indexBucket T.bucket f) (Under (b.rows T c) f) ↔
    ∀ i ∈ b.indexKeys T c f, b.value? (indexBucket T.bucket f) i = c.posting (b.under T c f i) := by
  constructor
  · intro h i _
    obtain ⟨l, hr, hm, hv⟩ := h i
    rw [hv, Rising.ext hr (rising_under f i) (fun k => (hm k).trans mem_under.symm)]
  · intro h i
    refine ⟨b.under T c f i, rising_under f i, fun _ => mem_under, ?_⟩
    by_cases hi : i ∈ b.indexKeys T c f
    · exact h i hi
    · -- a key of neither kind has no entry, and no record belongs under it
      obtain ⟨hno, hunder⟩ := not_or.1 (mt List.mem_append.2 hi)
      have hnil : b.under T c f i = [] := List.eq_nil_iff_forall_not_mem.2 (fun k hk => hunder (by
        obtain ⟨r, hr, hkey⟩ := mem_under.1 hk
        refine List.mem_filterMap.2 ⟨k, (List.mem_filter.1 hk).1, ?_⟩
        rw [hr, Option.bind_some, hkey]
        rfl))
      rw [hnil]
      cases hv : b.value? (indexBucket T.bucket f) i with
      | none => rfl
      | some raw => exact absurd ((b.bucket (indexBucket T.bucket f)).mem_keys.2 ⟨raw, hv⟩) hno

theorem consistent_iff : Consistent T c b ↔
    (∀ e ∈ (b.bucket T.bucket).entries, ∃ r, (Record.decode T c e.2).toOption = some r ∧ r.Indexable) ∧
      ∀ f ∈ T.indexes, ∀ i ∈ b.indexKeys T c f, b.value? (indexBucket T.bucket f) i = c.posting (b.under T c f i) := by
  simp only [toOption_eq_some]
  exact ⟨fun h => ⟨fun e he => h.readable e.1 e.2 (mem_bucket.1 he), fun f hf => lists_iff.1 (h.lists f hf)⟩,
    fun h => ⟨fun key raw hv => h.1 (key, raw) (mem_bucket.2 hv), fun f hf => lists_iff.2 (h.2 f hf)⟩⟩

/-- **Consistency can be checked**: read every record, and compare the lists under all index keys. -/
instance (T : RecordType γ) (c : Codec) (b : Buckets) : Decidable (Consistent T c b) :=
  decidable_of_iff _ consistent_iff.symm

/-! ## Storing and removing a record -/

theorem Index.Relisted.value? {rows : Rows T} (h : Index.Relisted T c rows b b') (k : Bytes) :
    b'.value? T.bucket k = b.value? T.bucket k := by
  unfold Buckets.value? bucket
  rw [h.others _ (fun f _ he => indexBucket_ne T.bucket f he.symm)]

/-- A state whose indexes have been brought up to the rows of its bucket is consistent. -/
theorem Index.Relisted.consistent {rows : Rows T} (h : Index.Relisted T c rows b b') (hrows : b.rows T c = rows)
    (hr : ∀ key raw, b.value? T.bucket key = some raw → ∃ r, Record.decode T c raw = .ok r ∧ r.Indexable) :
    Consistent T c b' := by
  have hrows' : b'.rows T c = rows := by
    rw [← hrows]
    exact funext (fun k => by rw [Buckets.rows, Buckets.rows, h.value?])
  refine ⟨fun key raw hk => hr key raw (by rw [← h.value?]; exact hk), fun f hf => ?_⟩
  rw [hrows']
  exact h.lists f hf

/-- Before the new record is added to the indexes, its old one is removed from them, if there is one: then they list
all others. -/
theorem Consistent.unlist (h : Consistent T c b) {m : Buckets} (hch : Changed T.bucket b m)
    (hs : Sized (m.bucket T.bucket).keys) (hkeys : ∀ k, b.rows T c k ≠ none → k ∈ (m.bucket T.bucket).keys) :
    ∃ n, (Index.update c key (b.rows T c key) r).runOn m = (Index.add c key r).runOn n ∧
      Index.Relisted T c ((b.rows T c).erase key) m n := by
  have hlists : ∀ f ∈ T.indexes, Lists c m (indexBucket T.bucket f) (Under (b.rows T c) f) := fun f hf =>
    (h.lists f hf).of_value? (hch.value?_of_ne (indexBucket_ne T.bucket f))
  unfold Index.update
  cases ho : b.rows T c key with
  | some o =>
    obtain ⟨n, hrun, hn, -⟩ := Index.remove_spec hs hkeys (h.indexable ho) ho hlists
    exact ⟨n, Write.runOn_bind_ok hrun _, hn⟩
  | none =>
    refine ⟨m, rfl, id, fun _ _ => rfl, fun f hf => (hlists f hf).congr (fun i k => ?_)⟩
    unfold Under Rows.erase
    by_cases hk : k = key <;> simp [hk, ho]

/-- After a change of one value every entry can be read and indexed, if the new value can. -/
theorem Consistent.readable_change (h : Consistent T c b) {m : Buckets} {o : Option Bytes}
    (hval : ∀ k, m.value? T.bucket k = if k = key then o else b.value? T.bucket k)
    (ho : ∀ raw, o = some raw → ∃ r, Record.decode T c raw = .ok r ∧ r.Indexable) (k raw : Bytes)
    (hk : m.value? T.bucket k = some raw) : ∃ r, Record.decode T c raw = .ok r ∧ r.Indexable := by
  rw [hval] at hk
  split at hk
  · exact ho raw hk
  · exact h.readable k raw hk

/-- **Storing a record and updating the indexes** keeps a state consistent. -/
theorem Consistent.put (h : Consistent T c b) {m : Buckets} {raw : Bytes} (hput : b.put T.bucket key raw = .ok m)
    (hread : Record.decode T c raw = .ok r) (hi : r.Indexable) (hs : Sized (m.bucket T.bucket).keys) :
    ∃ b', (Index.update c key (b.rows T c key) r).runOn m = (.ok ⟨⟩, b') ∧ Consistent T c b' ∧
      (b.Named → b'.Named) ∧ (∀ k, b'.value? T.bucket k = m.value? T.bucket k) ∧
      ∀ n, n ≠ T.bucket → (∀ f ∈ T.indexes, n ≠ indexBucket T.bucket f) → b'.get? n = b.get? n := by
  obtain ⟨hch, hval, -⟩ := put_spec hput
  have hrows := rows_put hput hread
  have hreadable := h.readable_change hval (fun _ hraw => Option.some.inj hraw ▸ ⟨r, hread, hi⟩)
  have hkeys : ∀ k, m.rows T c k ≠ none → k ∈ (m.bucket T.bucket).keys := fun k => mem_keys_of_rows
  rw [hrows] at hkeys
  have hkeys' : ∀ k, b.rows T c k ≠ none → k ∈ (m.bucket T.bucket).keys :=
    fun k hk => hkeys k (Rows.ne_none_of_set hk)
  have hkey : key ∈ (m.bucket T.bucket).keys :=
    hkeys key (by rw [Rows.set, if_pos rfl]; exact Option.some_ne_none _)
  obtain ⟨n, hold, hn⟩ := h.unlist hch hs hkeys'
  obtain ⟨b', hadd, hb⟩ := Index.add_spec hs (fun k hk => hkeys' k (Rows.ne_none_of_erase hk)) hkey hi
    (by rw [Rows.erase, if_pos rfl]) hn.lists
  rw [Rows.set_erase] at hb
  have hmb : Index.Relisted T c ((b.rows T c).set key r) m b' :=
    ⟨hb.named ∘ hn.named, fun x hx => (hb.others x hx).trans (hn.others x hx), hb.lists⟩
  refine ⟨b', hold.trans hadd, hmb.consistent hrows hreadable, hmb.named ∘ hch.named, hmb.value?, fun x hx hx' => ?_⟩
  rw [hmb.others x hx', hch.others x hx]

/-- **Removing a record from its bucket and the indexes** keeps a state consistent and removes nothing else. -/
theorem Consistent.remove (h : Consistent T c b) (hn : b.Named) (hs : Sized (b.bucket T.bucket).keys)
    (hr : b.rows T c key = some r) :
    ∃ m b', b.remove T.bucket key = .ok m ∧ (Index.remove c key r).runOn m = (.ok ⟨⟩, b') ∧ Consistent T c b' ∧
      b'.Named ∧ SameNames b b' ∧
      (∀ k, b'.value? T.bucket k = if k = key then none else b.value? T.bucket k) ∧
      ∀ n, n ≠ T.bucket → (∀ f ∈ T.indexes, n ≠ indexBucket T.bucket f) → b'.get? n = b.get? n := by
  obtain ⟨raw, hv, -⟩ := rows_eq_some.1 hr
  have hmem : (key, raw) ∈ (b.bucket T.bucket).entries := mem_bucket.2 hv
  obtain ⟨m, hrem⟩ := b.remove_of_ne (hn.name_ne_nil hmem) (hn.key_ne_nil hmem)
  obtain ⟨hch, hval, hsome⟩ := Buckets.remove_spec hrem
  have hreadable := h.readable_change hval (fun _ hraw => nomatch hraw)
  have hlists : ∀ f ∈ T.indexes, Lists c m (indexBucket T.bucket f) (Under (b.rows T c) f) := fun f hf =>
    (h.lists f hf).of_value? (hch.value?_of_ne (indexBucket_ne T.bucket f))
  obtain ⟨b', hrun, hb, hsame⟩ :=
    Index.remove_spec hs (fun k hk => mem_keys_of_rows hk) (h.indexable hr) hr hlists
  refine ⟨m, b', hrem, hrun, hb.consistent (rows_remove hrem) hreadable, hb.named (hch.named hn),
    (hch.sameNames hsome).trans hsame, fun k => by rw [hb.value?, hval], fun n hn hn' => ?_⟩
  rw [hb.others n hn', hch.others n hn]

end RecordHold
