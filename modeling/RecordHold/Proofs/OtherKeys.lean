import RecordHold.Proofs.Consistency
/-!
# Proofs.OtherKeys — changing the indexes concerns one key

What changing the indexes comes to is decided by the records alone: it ends at the first indexed field that is absent or
custom (`Record.indexing`).  Wherever it ends, the indexes list what they did but for the one key (`ListsButFor`): a
field is left with an ascending list that differs by that key at most.  A step on one field keeps that
(`addField_butFor`, `removeField_butFor`), and so does a run over all fields (`forM_outcome`).
-/
namespace RecordHold

open Std Buckets

variable {γ : Type} [Custom γ] {T : RecordType γ} {c : Codec} {b m : Buckets}

/-! ## Fields that can be indexed -/

/-- **A field can be indexed** if it is there and holds no custom value. -/
def Record.indexField (r : Record T) (field : String) : Except IndexError Unit :=
  match r.field field with
  | none             => .error (.missingField field T.bucket)
  | some (.custom v) => .error (.unindexable (Custom.text v))
  | some (.plain _)  => .ok ()

/-- The indexed fields of a record in turn, up to the first that cannot be indexed. -/
def Record.indexing (r : Record T) : Except IndexError Unit := T.indexes.forM r.indexField

theorem Record.indexField_eq (r : Record T) (field : String) :
    r.indexField field = (Index.keyFor r field).map (fun _ => ()) := by
  unfold indexField Index.keyFor
  rcases r.field field with _ | s | v <;> rfl

theorem forM_eq_ok_iff {α ε : Type} {f : α → Except ε Unit} : ∀ {l : List α}, l.forM f = .ok () ↔ ∀ a ∈ l, f a = .ok ()
  | []     => by simp [pure, Except.pure]
  | a :: l => by
    change (f a >>= fun _ => l.forM f) = .ok () ↔ _
    rw [List.forall_mem_cons, ← forM_eq_ok_iff]
    rcases f a with e | ⟨⟩ <;> simp [bind, Except.bind]

/-- All indexed fields can be indexed if each has an index key. -/
theorem Record.indexing_eq_ok {r : Record T} : r.indexing = .ok () ↔ r.Indexable := by
  unfold indexing Indexable
  rw [forM_eq_ok_iff]
  refine forall_congr' (fun f => forall_congr' (fun _ => ?_))
  rw [r.indexField_eq]
  rcases Index.keyFor r f with e | i <;> simp [Except.map]

/-! ## Indexes but for one key -/

/-- **The indexes list the rows but for one key**, whatever they say of that. -/
def ListsButFor (T : RecordType γ) (c : Codec) (rows : Rows T) (key : Bytes) (b : Buckets) : Prop :=
  ∀ f ∈ T.indexes, ∃ P, Lists c b (indexBucket T.bucket f) P ∧ ∀ i k, k ≠ key → (P i k ↔ Under rows f i k)

namespace Index

variable {rows : Rows T} {key i : Bytes} {f : String} {r : Record T} {keys : List Bytes} {P : Bytes → Bytes → Prop}

/-- One index may come to list another relation that differs by the one key. -/
theorem butFor_relisted (h : ListsButFor T c rows key b) (hch : Changed (indexBucket T.bucket f) b m)
    (hP : Lists c m (indexBucket T.bucket f) P) (hrows : ∀ i k, k ≠ key → (P i k ↔ Under rows f i k)) :
    ListsButFor T c rows key m := by
  intro g hg
  by_cases hgf : g = f
  · subst hgf
    exact ⟨P, hP, hrows⟩
  · obtain ⟨Q, hQ, hQr⟩ := h g hg
    exact ⟨Q, hQ.of_value? (hch.value?_of_ne (fun he => hgf (indexBucket_injective he))), hQr⟩

/-- The keys and the one key are all that the indexes list. -/
theorem mem_keys_of_butFor (hkeys : ∀ k, rows k ≠ none → k ∈ keys) (hkey : key ∈ keys)
    (hrows : ∀ i k, k ≠ key → (P i k ↔ Under rows f i k)) (i k : Bytes) (hk : P i k) : k ∈ keys := by
  by_cases he : k = key
  · rw [he]
    exact hkey
  · exact mem_keys_of_under_rows hkeys ((hrows i k he).1 hk)

/-- **Adding a key to one index** fails if the field cannot be indexed, and concerns no other key. -/
theorem addField_butFor (hs : Sized keys) (hkeys : ∀ k, rows k ≠ none → k ∈ keys) (hkey : key ∈ keys)
    (hf : f ∈ T.indexes) (h : ListsButFor T c rows key b) :
    ∃ m, (addField c key r f).runOn b = (r.indexField f, m) ∧ ListsButFor T c rows key m := by
  rw [r.indexField_eq]
  cases hi : keyFor r f with
  | error e =>
    refine ⟨b, ?_, h⟩
    unfold addField
    rw [hi]
    rfl
  | ok i =>
    obtain ⟨P, hP, hrows⟩ := h f hf
    obtain ⟨m, hrun, hch, hl⟩ := runOn_addField key hs (mem_keys_of_butFor hkeys hkey hrows) hi hP
    refine ⟨m, hrun, butFor_relisted h hch hl (fun j k hk => ?_)⟩
    rw [← hrows j k hk]
    exact or_iff_right (fun he => hk he.2)

/-- **Removing a key from one index** fails if the field cannot be indexed, and concerns no other key. -/
theorem removeField_butFor (hs : Sized keys) (hkeys : ∀ k, rows k ≠ none → k ∈ keys) (hkey : key ∈ keys)
    (hf : f ∈ T.indexes) (h : ListsButFor T c rows key b) :
    ∃ m, (removeField c key r f).runOn b = (r.indexField f, m) ∧ ListsButFor T c rows key m := by
  rw [r.indexField_eq]
  cases hi : keyFor r f with
  | error e =>
    refine ⟨b, ?_, h⟩
    unfold removeField
    rw [hi]
    rfl
  | ok i =>
    obtain ⟨P, hP, hrows⟩ := h f hf
    obtain ⟨m, hrun, hch, -, hl⟩ := runOn_removeField key hs (mem_keys_of_butFor hkeys hkey hrows) hi hP
    refine ⟨m, hrun, butFor_relisted h hch hl (fun j k hk => ?_)⟩
    rw [← hrows j k hk]
    exact and_iff_left (fun he => hk he.2)

omit [Custom γ] in
/-- **A run over fields** ends as its steps say, and keeps what each of them keeps. -/
theorem forM_outcome {step : String → Write IndexError Unit} {out : String → Except IndexError Unit}
    {J : Buckets → Prop} : ∀ {fs : List String},
    (∀ f ∈ fs, ∀ b, J b → ∃ m, (step f).runOn b = (out f, m) ∧ J m) →
    ∀ b, J b → ∃ m, (fs.forM step).runOn b = (fs.forM out, m) ∧ J m
  | [],      _,     b, hb => ⟨b, rfl, hb⟩
  | f :: fs, hstep, b, hb => by
    obtain ⟨m, hrun, hm⟩ := hstep f List.mem_cons_self b hb
    obtain ⟨m', hrun', hm'⟩ := forM_outcome (fun g hg => hstep g (List.mem_cons_of_mem f hg)) m hm
    change ∃ m, (step f >>= fun _ => fs.forM step).runOn b = (out f >>= fun _ => fs.forM out, m) ∧ J m
    rw [Write.runOn_bind, hrun]
    cases out f with
    | error e => exact ⟨m, rfl, hm⟩
    | ok u => exact ⟨m', hrun', hm'⟩

theorem add_butFor (hs : Sized keys) (hkeys : ∀ k, rows k ≠ none → k ∈ keys) (hkey : key ∈ keys)
    (h : ListsButFor T c rows key b) :
    ∃ m, (add c key r).runOn b = (r.indexing, m) ∧ ListsButFor T c rows key m :=
  forM_outcome (fun _ hf _ hb => addField_butFor hs hkeys hkey hf hb) b h

theorem remove_butFor (hs : Sized keys) (hkeys : ∀ k, rows k ≠ none → k ∈ keys) (hkey : key ∈ keys)
    (h : ListsButFor T c rows key b) :
    ∃ m, (remove c key r).runOn b = (r.indexing, m) ∧ ListsButFor T c rows key m :=
  forM_outcome (fun _ hf _ hb => removeField_butFor hs hkeys hkey hf hb) b h

/-- **Bringing the indexes up to date** fails if the new record cannot be indexed, provided the old one could, and
concerns no other key. -/
theorem update_butFor (hs : Sized keys) (hkeys : ∀ k, rows k ≠ none → k ∈ keys) (hkey : key ∈ keys)
    (h : ListsButFor T c rows key b) {old : Option (Record T)} (ho : ∀ o, old = some o → o.Indexable) :
    ∃ m, (update c key old r).runOn b = (r.indexing, m) ∧ ListsButFor T c rows key m := by
  cases old with
  | none => exact add_butFor hs hkeys hkey h
  | some o =>
    obtain ⟨n, hrun, hn⟩ := remove_butFor (r := o) hs hkeys hkey h
    rw [Record.indexing_eq_ok.2 (ho o rfl)] at hrun
    obtain ⟨m, hadd, hm⟩ := add_butFor (r := r) hs hkeys hkey hn
    exact ⟨m, (Write.runOn_bind_ok hrun _).trans hadd, hm⟩

end Index
end RecordHold
