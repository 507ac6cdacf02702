import RecordHold.Proofs.OtherKeys
import RecordHold.Proofs.Sessions
import RecordHold.Sample.Contacts
/-!
# Proofs.Operations — one write, exit by exit

A write of a record encodes the key and looks at what is stored under it; then it changes the bucket of its record
type and, last, the indexes.  All its exits are listed in `Exits`.  A write that ends before the bucket is changed has
changed nothing, and one that fails in the indexes has touched nothing under other keys, since changing the indexes
concerns its own key only (`failed_write`).
-/
namespace RecordHold

open Std Buckets

variable {γ : Type} [Custom γ] {T : RecordType γ} {c : Codec} {b b' m : Buckets} {x : Executor γ} {k : Bytes}

/-- Outcomes are compared by what they hold. -/
instance Except.decidableEq {ε α : Type} [DecidableEq ε] [DecidableEq α] : DecidableEq (Except ε α)
  | .ok a,    .ok a'    => decidable_of_iff (a = a') ⟨congrArg _, Except.ok.inj⟩
  | .error e, .error e' => decidable_of_iff (e = e') ⟨congrArg _, Except.error.inj⟩
  | .ok _,    .error _  => isFalse (fun h => by cases h)
  | .error _, .ok _     => isFalse (fun h => by cases h)

omit [Custom γ] in
theorem Hold.load_of_error {e : StoreError} (hnames : checkNames T.bucket k = .error e) :
    Hold.load x T k b = .error (.store e) := by
  unfold Hold.load lookup
  rw [hnames]
  rfl

omit [Custom γ] in
theorem Hold.load_of_ok (hnames : checkNames T.bucket k = .ok ()) : Hold.load x T k b =
    match b.value? T.bucket k with
    | none     => .ok none
    | some raw => ((Record.decode T x.codec raw).map some).mapError .codec := by
  have hlookup : b.lookup T.bucket k = .ok (b.value? T.bucket k) := by
    rw [lookup, hnames]
    rfl
  unfold Hold.load
  rw [hlookup]
  cases b.value? T.bucket k with
  | none => rfl
  | some raw =>
    simp only
    cases Record.decode T x.codec raw <;> rfl

/-! ## Operations -/

/-- A write of one record. -/
inductive Operation (T : RecordType γ) where
  | insert (key : Key) (r : Record T)
  | update (key : Key) (r : Record T)
  | upsert (key : Key) (r : Record T)
  | delete (key : Key)

namespace Operation

def key : Operation T → Key
  | insert key _ | update key _ | upsert key _ | delete key => key

/-- The record handed over, if there is one. -/
def record? : Operation T → Option (Record T)
  | insert _ r | update _ r | upsert _ r => some r
  | delete _                             => none

/-- What is written under the key, if the record handed over can be. -/
def written (c : Codec) (op : Operation T) : Option Bytes := op.record?.bind (fun r => (r.stored c).toOption)

omit [Custom γ] in
theorem written_eq {op : Operation T} {r : Record T} {raw : Bytes} (hr : op.record? = some r)
    (hraw : r.stored c = .ok raw) : op.written c = some raw := by
  rw [written, hr, Option.bind_some, hraw]
  rfl

/-- **A codec stores and keeps the record handed over**, if there is one. -/
def Kept (c : Codec) (op : Operation T) : Prop :=
  ∀ r, op.record? = some r → ∃ raw, r.stored c = .ok raw ∧ Record.decode T c raw = .ok r

/-- Whether there must be a record under the key, or must not be. -/
def asks : Operation T → Option Bool
  | insert _ _            => some false
  | update _ _ | delete _ => some true
  | upsert _ _            => none

omit [Custom γ] in
/-- Where no record is handed over there must be one. -/
theorem asks_of_none {op : Operation T} (h : op.record? = none) : op.asks = some true := by
  cases op with
  | delete key => rfl
  | _ => cases h

def run (x : Executor γ) : Operation T → Write HoldError Unit
  | insert key r => Hold.insert x key r
  | update key r => Hold.update x key r
  | upsert key r => Hold.upsert x key r
  | delete key   => Hold.delete x T key

theorem stays (x : Executor γ) : ∀ op : Operation T, (op.run x).Stays T.buckets
  | insert key r => Hold.stays_insert x key r
  | update key r => Hold.stays_update x key r
  | upsert key r => Hold.stays_upsert x key r
  | delete key   => Hold.stays_delete x key

/-- The change of the record type's own bucket. -/
def change (x : Executor γ) (k : Bytes) (op : Operation T) (b : Buckets) : Except HoldError Buckets :=
  match op.record? with
  | some r => Hold.put x k r b
  | none   => (b.remove T.bucket k).mapError .store

/-- The change of the indexes, from the old record to the new one. -/
def reindex (c : Codec) (k : Bytes) (old : Option (Record T)) (op : Operation T) : Write IndexError Unit :=
  match op.record?, old with
  | some r, old      => Index.update c k old r
  | none,   some old => Index.remove c k old
  | none,   none     => pure ()

/-- Both changes. -/
def proceed (x : Executor γ) (k : Bytes) (old : Option (Record T)) (op : Operation T) : Write HoldError Unit := do
  Write.change (op.change x k)
  (op.reindex x.codec k old).adapt HoldError.index

/-- **The exits of a write**: what it answers and leaves, and when. -/
inductive Exits (x : Executor γ) (b : Buckets) (op : Operation T) : Except HoldError Unit × Buckets → Prop where
  | unstorable {e : CodecError} (hkey : op.key.encode x.codec = .error e) : Exits x b op (.error (.codec e), b)
  | unnamed {k : Bytes} {e : StoreError} (hkey : op.key.encode x.codec = .ok k)
      (hnames : checkNames T.bucket k = .error e) : Exits x b op (.error (.store e), b)
  | taken {k : Bytes} (hkey : op.key.encode x.codec = .ok k) (hnames : checkNames T.bucket k = .ok ())
      (hasks : op.asks = some false) (hv : b.value? T.bucket k ≠ none) : Exits x b op (.error .keyExists, b)
  | missing {k : Bytes} (hkey : op.key.encode x.codec = .ok k) (hnames : checkNames T.bucket k = .ok ())
      (hasks : op.asks = some true) (hv : b.value? T.bucket k = none) : Exits x b op (.error .notFound, b)
  | unreadable {k raw : Bytes} {e : CodecError} (hkey : op.key.encode x.codec = .ok k)
      (hnames : checkNames T.bucket k = .ok ()) (hasks : op.asks ≠ some false) (hv : b.value? T.bucket k = some raw)
      (hr : Record.decode T x.codec raw = .error e) : Exits x b op (.error (.codec e), b)
  | unwritable {k : Bytes} {r : Record T} {e : CodecError} (hkey : op.key.encode x.codec = .ok k)
      (hnames : checkNames T.bucket k = .ok ())
      (hasks : ∀ there, op.asks = some there → (b.value? T.bucket k).isSome = there) (hr : op.record? = some r)
      (he : r.stored x.codec = .error e) : Exits x b op (.error (.codec e), b)
  | changed {k : Bytes} {m : Buckets} (hkey : op.key.encode x.codec = .ok k) (hnames : checkNames T.bucket k = .ok ())
      (hasks : ∀ there, op.asks = some there → (b.value? T.bucket k).isSome = there)
      (hm : op.change x k b = .ok m) :
      Exits x b op (((op.reindex x.codec k (b.rows T x.codec k)).runOn m).1.mapError .index,
        ((op.reindex x.codec k (b.rows T x.codec k)).runOn m).2)

/-! ## Every write ends in one of its exits -/

variable {op : Operation T}

omit [Custom γ] in
/-- Under names that are no empty ones the bucket can be changed, unless the record refuses to be stored. -/
theorem change_cases (x : Executor γ) (op : Operation T) (b : Buckets) (hnames : checkNames T.bucket k = .ok ()) :
    (∃ m, op.change x k b = .ok m) ∨
      ∃ r e, op.record? = some r ∧ r.stored x.codec = .error e ∧ op.change x k b = .error (.codec e) := by
  obtain ⟨hT, hk⟩ := checkNames_eq_ok hnames
  unfold change
  cases hr : op.record? with
  | none =>
    obtain ⟨m, hm⟩ := b.remove_of_ne hT hk
    exact Or.inl ⟨m, by simp only [hm]; rfl⟩
  | some r =>
    unfold Hold.put
    cases hs : r.stored x.codec with
    | error e => exact Or.inr ⟨r, e, rfl, hs, by simp only [hs]⟩
    | ok raw =>
      obtain ⟨m, hm⟩ := b.put_of_ne hT hk raw
      exact Or.inl ⟨m, by simp only [hs, hm]; rfl⟩

/-- A write that goes on to its changes may end before the first. -/
theorem exits_proceed (hkey : op.key.encode x.codec = .ok k) (hnames : checkNames T.bucket k = .ok ())
    (hasks : ∀ there, op.asks = some there → (b.value? T.bucket k).isSome = there) {old : Option (Record T)}
    (ho : old = b.rows T x.codec k) : Exits x b op ((op.proceed x k old).runOn b) := by
  subst ho
  unfold proceed
  rw [Write.runOn_bind, Write.runOn_change]
  rcases change_cases x op b hnames with ⟨m, hm⟩ | ⟨r, e, hr, he, hm⟩
  · rw [hm]
    simp only [Write.runOn_adapt]
    exact .changed hkey hnames hasks hm
  · rw [hm]
    exact .unwritable hkey hnames hasks hr he

/-- A write that encodes its key, reads under it and goes on: it may end at the key. -/
theorem exits_encodeKey {β : Type} (read : Bytes → Buckets → Except HoldError β)
    (next : Bytes → β → Write HoldError Unit)
    (h : ∀ k, op.key.encode x.codec = .ok k → Exits x b op ((Write.ofExcept (read k b) >>= next k).runOn b)) :
    Exits x b op (Write.runOn (do
      let k ← Write.ofExcept (Hold.encodeKey x op.key)
      let v ← Write.ofExcept (read k (← Write.view))
      next k v) b) := by
  rw [Write.runOn_bind, Write.runOn_ofExcept]
  unfold Hold.encodeKey
  cases hkey : op.key.encode x.codec with
  | error e => exact .unstorable hkey
  | ok k => exact h k hkey

/-- A write that loads the old record may end there, or because there is none. -/
theorem exits_load (hasks : op.asks ≠ some false) (hkey : op.key.encode x.codec = .ok k)
    {next : Option (Record T) → Write HoldError Unit} (hrefused : op.asks = some true → next none = throw .notFound)
    (hnext : ∀ old, (op.asks = some true → old ≠ none) → next old = op.proceed x k old) :
    Exits x b op ((Write.ofExcept (Hold.load x T k b) >>= next).runOn b) := by
  rw [Write.runOn_bind, Write.runOn_ofExcept]
  cases hnames : checkNames T.bucket k with
  | error e =>
    rw [Hold.load_of_error hnames]
    exact .unnamed hkey hnames
  | ok u =>
    rw [Hold.load_of_ok hnames]
    cases hv : b.value? T.bucket k with
    | none =>
      by_cases ht : op.asks = some true
      · simp only [hrefused ht]
        exact .missing hkey hnames ht hv
      · simp only [hnext none (fun h => absurd h ht)]
        refine exits_proceed hkey hnames (fun there h => ?_) (rows_of_none hv).symm
        cases there with
        | true => exact absurd h ht
        | false => exact absurd h hasks
    | some raw =>
      simp only
      cases hr : Record.decode T x.codec raw with
      | error e => exact .unreadable hkey hnames hasks hv hr
      | ok r =>
        change Exits x b op ((next (some r)).runOn b)
        rw [hnext (some r) (fun _ => Option.some_ne_none r)]
        refine exits_proceed hkey hnames (fun there h => ?_) (rows_eq_some.2 ⟨raw, hv, hr⟩).symm
        rw [hv]
        cases there with
        | true => rfl
        | false => exact absurd h hasks

/-- **Every write ends in one of its exits.** -/
theorem exits (op : Operation T) (x : Executor γ) (b : Buckets) : Exits x b op ((op.run x).runOn b) := by
  cases op with
  | insert key r =>
    refine exits_encodeKey (fun k b => (b.lookup T.bucket k).mapError .store) _ (fun k hkey => ?_)
    rw [Write.runOn_bind, Write.runOn_ofExcept]
    cases hnames : checkNames T.bucket k with
    | error e =>
      rw [lookup, hnames]
      exact .unnamed hkey hnames
    | ok u =>
      have hlookup : b.lookup T.bucket k = .ok (b.value? T.bucket k) := by rw [lookup, hnames, value?]; rfl
      rw [hlookup]
      cases hv : b.value? T.bucket k with
      | some raw => exact .taken hkey hnames rfl (by rw [hv]; exact Option.some_ne_none raw)
      | none =>
        refine exits_proceed hkey hnames (fun there h => ?_) (rows_of_none hv).symm
        cases h
        rw [hv]
        rfl
  | update key r =>
    refine exits_encodeKey (Hold.load x T) _ (fun k hkey =>
      exits_load (by simp [asks]) hkey (fun _ => rfl) (fun old h => ?_))
    cases old with
    | none => exact absurd rfl (h rfl)
    | some o => rfl
  | upsert key r =>
    exact exits_encodeKey (Hold.load x T) _ (fun k hkey =>
      exits_load (by simp [asks]) hkey (by simp [asks]) (fun _ _ => rfl))
  | delete key =>
    refine exits_encodeKey (Hold.load x T) _ (fun k hkey =>
      exits_load (by simp [asks]) hkey (fun _ => rfl) (fun old h => ?_))
    cases old with
    | none => exact absurd rfl (h rfl)
    | some o => rfl

/-! ## The two changes -/

omit [Custom γ] in
theorem change_eq_ok (hm : op.change x k b = .ok m) : match op.record? with
    | some r => ∃ raw, r.stored x.codec = .ok raw ∧ b.put T.bucket k raw = .ok m
    | none   => b.remove T.bucket k = .ok m := by
  unfold change at hm
  cases hr : op.record? with
  | some r =>
    rw [hr] at hm
    exact Hold.put_eq_ok x r hm
  | none =>
    simp only [hr] at hm ⊢
    cases hrem : b.remove T.bucket k with
    | error e => rw [hrem] at hm; cases hm
    | ok n => rw [hrem] at hm; cases hm; rfl

omit [Custom γ] in
theorem change_spec (hm : op.change x k b = .ok m) : Changed T.bucket b m ∧
    ∀ j, m.value? T.bucket j = if j = k then op.written x.codec else b.value? T.bucket j := by
  have hm := change_eq_ok hm
  cases hr : op.record? with
  | some r =>
    rw [hr] at hm
    obtain ⟨raw, hraw, hput⟩ := hm
    rw [written_eq hr hraw]
    exact ⟨(put_spec hput).1, (put_spec hput).2.1⟩
  | none =>
    rw [hr] at hm
    rw [written, hr]
    exact ⟨(remove_spec hm).1, (remove_spec hm).2.1⟩

omit [Custom γ] in
/-- The records after the change of the bucket. -/
theorem rows_change (hkept : op.Kept x.codec)
    (hm : op.change x k b = .ok m) (j : Bytes) :
    m.rows T x.codec j = if j = k then op.record? else b.rows T x.codec j := by
  unfold Buckets.rows
  rw [(change_spec hm).2]
  split
  · cases hr : op.record? with
    | none =>
      rw [written, hr]
      rfl
    | some r =>
      obtain ⟨raw, hraw, hread⟩ := hkept r hr
      rw [written_eq hr hraw, Option.bind_some, hread]
      rfl
  · rfl

/-- How the change of the indexes ends in a consistent state. -/
def indexing (op : Operation T) : Except IndexError Unit :=
  match op.record? with
  | some r => r.indexing
  | none   => .ok ()

/-- The change of the indexes leaves the record type's own bucket alone. -/
theorem value?_reindex (old : Option (Record T)) (op : Operation T) (j : Bytes) :
    ((op.reindex c k old).runOn m).2.value? T.bucket j = m.value? T.bucket j := by
  have hstays : (op.reindex c k old).Stays (T.indexes.map (indexBucket T.bucket)) := by
    have hn : ∀ f ∈ T.indexes, indexBucket T.bucket f ∈ T.indexes.map (indexBucket T.bucket) :=
      fun f hf => List.mem_map_of_mem hf
    unfold reindex
    rcases op.record? with _ | r
    · rcases old with _ | o
      · exact Write.stays_pure ()
      · exact Index.stays_remove hn
    · exact Index.stays_update hn old
  unfold value? bucket
  rw [(hstays m).others T.bucket (fun hmem => ?_)]
  obtain ⟨f, -, he⟩ := List.mem_map.1 hmem
  exact indexBucket_ne T.bucket f he

/-- **Once a bucket is changed in a consistent state**, the indexes fail if the new record cannot be indexed, and what
they list of other keys stays. -/
theorem reindex_butFor (h : Consistent T x.codec b) {keys : List Bytes} (hs : Sized keys)
    (hkeys : ∀ j, b.rows T x.codec j ≠ none → j ∈ keys) (hk : k ∈ keys) (hm : op.change x k b = .ok m) :
    ∃ m', (op.reindex x.codec k (b.rows T x.codec k)).runOn m = (op.indexing, m') ∧
      ListsButFor T x.codec (b.rows T x.codec) k m' := by
  have hbutFor : ListsButFor T x.codec (b.rows T x.codec) k m := fun f hf =>
    ⟨_, (h.lists f hf).of_value? ((change_spec hm).1.value?_of_ne (indexBucket_ne T.bucket f)), fun _ _ _ => Iff.rfl⟩
  have hold : ∀ o, b.rows T x.codec k = some o → o.Indexable := fun o ho => h.indexable ho
  unfold reindex indexing
  cases op.record? with
  | some r => exact Index.update_butFor hs hkeys hk hbutFor hold
  | none =>
    cases ho : b.rows T x.codec k with
    | some o =>
      rw [← Record.indexing_eq_ok.2 (hold o ho)]
      exact Index.remove_butFor hs hkeys hk hbutFor
    | none => exact ⟨m, rfl, hbutFor⟩

/-! ## Writes that fail -/

/-- **All but one key is spared**: the entries under other keys, what the indexes list of other keys, and the buckets
of other record types. -/
structure Spared (T : RecordType γ) (c : Codec) (key : Bytes) (b b' : Buckets) : Prop where
  entries : ∀ k, k ≠ key → b'.value? T.bucket k = b.value? T.bucket k
  lists   : ∀ f ∈ T.indexes, ∃ P P', Lists c b (indexBucket T.bucket f) P ∧ Lists c b' (indexBucket T.bucket f) P' ∧
    ∀ i k, k ≠ key → (P' i k ↔ P i k)
  others  : ∀ n, n ∉ T.buckets → b'.get? n = b.get? n

/-- **A write that fails changes nothing, or only its own key.**  One that fails other than in the indexes leaves the
transaction as it was.  One that fails in the indexes of a consistent state spares all but its own key. -/
theorem failed_write (x : Executor γ) (op : Operation T) (b : Buckets) {e : HoldError}
    (hrun : ((op.run x).runOn b).1 = .error e) :
    let b' := ((op.run x).runOn b).2
    ((∀ i, e ≠ .index i) → b' = b) ∧
      ∀ i, e = .index i → Consistent T x.codec b →
        (∀ k, op.key.encode x.codec = .ok k → Sized (k :: (b.bucket T.bucket).keys)) →
        ∃ k, op.key.encode x.codec = .ok k ∧ Spared T x.codec k b b' := by
  have hothers := (op.stays x b).others
  have hexit := op.exits x b
  generalize (op.run x).runOn b = res at hrun hothers hexit
  cases hexit with
  | unstorable | unnamed | taken | missing | unreadable | unwritable =>
    cases hrun
    exact ⟨fun _ => rfl, nofun⟩
  | @changed k m hkey hnames hasks hm =>
    constructor
    · -- past the change of the bucket only the indexes fail
      intro hne
      rcases hi : ((op.reindex x.codec k (b.rows T x.codec k)).runOn m).1 with i | u
      · rw [hi] at hrun
        exact absurd (Except.error.inj hrun).symm (hne i)
      · rw [hi] at hrun
        cases hrun
    · intro i _ hc hs
      obtain ⟨m', hre, hbutFor⟩ := reindex_butFor hc (hs k hkey)
        (fun j hj => List.mem_cons_of_mem k (mem_keys_of_rows hj)) List.mem_cons_self hm
      have hentries := value?_reindex (c := x.codec) (k := k) (m := m) (b.rows T x.codec k) op
      rw [hre] at hentries hothers ⊢
      refine ⟨k, hkey, fun j hj => ?_, fun f hf => ?_, hothers⟩
      · rw [hentries, (change_spec hm).2, if_neg hj]
      · obtain ⟨P, hP, hrows⟩ := hbutFor f hf
        exact ⟨_, P, hc.lists f hf, hP, hrows⟩

/-- An update of one contact fails when it is half through, which the other contact does not notice, and one to a record
that refuses to be stored has no effect. -/
theorem failed_write_contacts :
    let half := ((update Sample.firstKey Sample.nameless).run Sample.stepwise).runOn Sample.contacts
    let refused := ((update Sample.firstKey Sample.nobody).run Sample.stepwise).runOn Sample.contacts
    half.1 = .error (.index (.missingField "Nick" "Contact")) ∧
      half.2.rows Sample.contact.type .binary [1] = some Sample.nameless ∧
      Consistent Sample.contact.type .binary Sample.contacts ∧ ¬ Consistent Sample.contact.type .binary half.2 ∧
      Spared Sample.contact.type .binary [1] Sample.contacts half.2 ∧
      refused.1 = .error (.codec (.encode "no name")) ∧ refused.2 = Sample.contacts := by
  intro half refused
  have hhalf : half.1 = .error (.index (.missingField "Nick" "Contact")) := by decide +kernel
  have hrefused : refused.1 = .error (.codec (.encode "no name")) := by decide +kernel
  have hc : Consistent Sample.contact.type .binary Sample.contacts := by decide +kernel
  have hs : ∀ k, Sample.firstKey.encode Sample.stepwise.codec = .ok k →
      Sized (k :: (Sample.contacts.bucket Sample.contact.bucket).keys) := by
    intro k hk
    cases hk
    decide +kernel
  obtain ⟨k, hkey, hspared⟩ := (failed_write Sample.stepwise _ Sample.contacts hhalf).2 _ rfl hc hs
  have hunchanged := (failed_write Sample.stepwise _ Sample.contacts hrefused).1 nofun
  obtain rfl : [1] = k := Except.ok.inj hkey
  exact ⟨hhalf, by decide +kernel, hc, by decide +kernel, hspared, hrefused, hunchanged⟩

end Operation
end RecordHold
