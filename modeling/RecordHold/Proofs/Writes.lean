import RecordHold.Proofs.Rising
import RecordHold.Store.Write
/-!
# Proofs.Writes — what a write step does, seen from the look-ups

A state is seen through `value?`, the value under a key of a bucket.  Storing and removing change that one value and no
other (`put_spec`, `remove_spec`), and leave every other bucket as it was.  They keep a store `Named`: names and keys
are never empty, because both are checked before every change.
-/
namespace RecordHold

open Std

namespace Buckets

/-- The value under a key of a bucket. -/
def value? (b : Buckets) (name : String) (key : Bytes) : Option Bytes := (b.bucket name).get? key

/-- **No bucket without a name and no entry without a key.** -/
def Named (b : Buckets) : Prop := ∀ p ∈ b.entries, p.1 ≠ "" ∧ ∀ e ∈ p.2.entries, e.1 ≠ []

instance (b : Buckets) : Decidable b.Named := inferInstanceAs (Decidable (∀ p ∈ b.entries, _))

theorem mem_entries_of_bucket {b : Buckets} {name : String} (h : (b.bucket name).entries ≠ []) :
    (name, b.bucket name) ∈ b.entries := by
  rw [b.mem_entries]
  unfold bucket at h ⊢
  cases hg : b.get? name with
  | none => rw [hg] at h; exact absurd rfl h
  | some m => rfl

theorem Named.key_ne_nil {b : Buckets} (h : b.Named) {name : String} {e : Entry} (he : e ∈ (b.bucket name).entries) :
    e.1 ≠ [] := (h _ (mem_entries_of_bucket (List.ne_nil_of_mem he))).2 e he

theorem Named.name_ne_nil {b : Buckets} (h : b.Named) {name : String} {e : Entry}
    (he : e ∈ (b.bucket name).entries) : name ≠ "" := (h _ (mem_entries_of_bucket (List.ne_nil_of_mem he))).1

/-! ## Storing and removing -/

theorem checkNames_eq_ok {name : String} {key : Bytes} (h : checkNames name key = .ok ()) : name ≠ "" ∧ key ≠ [] := by
  unfold checkNames at h
  split at h
  · cases h
  · split at h
    · cases h
    · exact ⟨‹_›, ‹_›⟩

/-- What needs names that are not empty succeeds only with such. -/
theorem names_of_map_eq_ok {α : Type} {name : String} {key : Bytes} {f : Unit → α} {y : α}
    (h : (checkNames name key).map f = .ok y) : name ≠ "" ∧ key ≠ [] ∧ f () = y := by
  cases hc : checkNames name key with
  | error e => rw [hc] at h; cases h
  | ok u =>
    obtain ⟨hn, hk⟩ := checkNames_eq_ok hc
    rw [hc] at h
    exact ⟨hn, hk, Except.ok.inj h⟩

theorem checkNames_of_ne {name : String} {key : Bytes} (hn : name ≠ "") (hk : key ≠ []) :
    checkNames name key = .ok () := by
  rw [checkNames, if_neg hn, if_neg hk]

theorem get?_insert_self (b : Buckets) (name : String) (m : Bucket) : (b.insert name m).get? name = some m := by
  rw [b.get?_insert, if_pos ReflOrd.compare_self]

theorem get?_insert_of_ne (b : Buckets) {name n : String} (m : Bucket) (h : n ≠ name) :
    (b.insert name m).get? n = b.get? n := by
  rw [b.get?_insert, if_neg (fun hc => h (LawfulEqCmp.eq_of_compare hc))]

/-- **A bucket changed into another** changes no other bucket. -/
structure Changed (name : String) (b b' : Buckets) : Prop where
  others : ∀ n, n ≠ name → b'.get? n = b.get? n
  named  : b.Named → b'.Named

theorem Changed.refl (name : String) (b : Buckets) : Changed name b b := ⟨fun _ _ => rfl, id⟩

theorem Changed.value?_of_ne {name : String} {b b' : Buckets} (h : Changed name b b') {n : String} (hn : n ≠ name)
    (key : Bytes) : b'.value? n key = b.value? n key := by
  unfold value? bucket
  rw [h.others n hn]

/-- The same buckets are there. -/
def SameNames (b b' : Buckets) : Prop := ∀ n, (b'.get? n).isSome = (b.get? n).isSome

theorem SameNames.refl (b : Buckets) : SameNames b b := fun _ => rfl

theorem SameNames.trans {a b c : Buckets} (h : SameNames a b) (h' : SameNames b c) : SameNames a c :=
  fun n => (h' n).trans (h n)

theorem Changed.sameNames {name : String} {b b' : Buckets} (h : Changed name b b')
    (hn : (b'.get? name).isSome = (b.get? name).isSome) : SameNames b b' := by
  intro n
  by_cases hne : n = name
  · rw [hne]
    exact hn
  · rw [h.others n hne]

/-- A value is in a bucket that is there. -/
theorem isSome_of_value? {b : Buckets} {name : String} {key : Bytes} (h : b.value? name key ≠ none) :
    (b.get? name).isSome = true := by
  cases hg : b.get? name with
  | some m => rfl
  | none =>
    refine absurd ?_ h
    unfold value? bucket
    rw [hg]
    rfl

theorem mem_place_entries {b : Buckets} {name : String} {m : Bucket} {p : String × Bucket}
    (h : p ∈ (b.insert name m).entries) : p = (name, m) ∨ p ∈ b.entries := SortedMap.mem_place h

theorem named_insert {b : Buckets} (h : b.Named) {name : String} {m : Bucket} (hn : name ≠ "")
    (hm : ∀ e ∈ m.entries, e.1 ≠ []) : Named (b.insert name m) := by
  intro p hp
  rcases mem_place_entries hp with rfl | hp
  · exact ⟨hn, hm⟩
  · exact h p hp

/-- **Storing sets one value.** -/
theorem put_spec {b b' : Buckets} {name : String} {key value : Bytes} (h : b.put name key value = .ok b') :
    Changed name b b' ∧ (∀ k, b'.value? name k = if k = key then some value else b.value? name k) ∧
      (b'.get? name).isSome = true := by
  obtain ⟨hn, hk, rfl⟩ := names_of_map_eq_ok h
  refine ⟨⟨fun n hne => get?_insert_of_ne b _ hne, fun hb => named_insert hb hn (fun e he => ?_)⟩, fun k => ?_, ?_⟩
  · rcases SortedMap.mem_place he with rfl | he
    · exact hk
    · exact hb.key_ne_nil he
  · unfold value? bucket
    rw [get?_insert_self, Option.getD_some, SortedMap.get?_insert]
    simp only [LawfulEqCmp.compare_eq_iff_eq]
  · rw [get?_insert_self]
    rfl

theorem put_of_ne (b : Buckets) {name : String} {key : Bytes} (hn : name ≠ "") (hk : key ≠ []) (value : Bytes) :
    ∃ b', b.put name key value = .ok b' := ⟨_, by rw [put, checkNames_of_ne hn hk]; rfl⟩

/-- **Removing unsets one value.** -/
theorem remove_spec {b b' : Buckets} {name : String} {key : Bytes} (h : b.remove name key = .ok b') :
    Changed name b b' ∧ (∀ k, b'.value? name k = if k = key then none else b.value? name k) ∧
      ((b'.get? name).isSome = (b.get? name).isSome) := by
  obtain ⟨hn, -, hb'⟩ := names_of_map_eq_ok h
  cases hg : b.get? name with
  | none =>
    rw [hg] at hb'
    obtain rfl : b = b' := hb'
    refine ⟨Changed.refl name b, fun k => ?_, by rw [hg]⟩
    have hv : b.value? name k = none := by
      unfold value? bucket
      rw [hg]
      rfl
    rw [hv, ite_self]
  | some m =>
    rw [hg] at hb'
    obtain rfl : b.insert name (m.erase key) = b' := hb'
    refine ⟨⟨fun n hne => get?_insert_of_ne b _ hne, fun hb => named_insert hb hn (fun e he => ?_)⟩, fun k => ?_, ?_⟩
    · have hmem : (name, m) ∈ b.entries := b.mem_entries.2 hg
      exact (hb _ hmem).2 e (List.mem_filter.1 he).1
    · unfold value? bucket
      rw [get?_insert_self, hg, Option.getD_some, Option.getD_some, SortedMap.get?_erase]
      simp only [LawfulEqCmp.compare_eq_iff_eq]
    · rw [get?_insert_self]
      rfl

theorem remove_of_ne (b : Buckets) {name : String} {key : Bytes} (hn : name ≠ "") (hk : key ≠ []) :
    ∃ b', b.remove name key = .ok b' := ⟨_, by rw [remove, checkNames_of_ne hn hk]; rfl⟩

theorem lookup_of_ne (b : Buckets) {name : String} {key : Bytes} (hn : name ≠ "") (hk : key ≠ []) :
    b.lookup name key = .ok (b.value? name key) := by
  rw [lookup, checkNames_of_ne hn hk]
  rfl

theorem lookup_eq_ok {b : Buckets} {name : String} {key : Bytes} {o : Option Bytes} (h : b.lookup name key = .ok o) :
    name ≠ "" ∧ key ≠ [] ∧ b.value? name key = o := names_of_map_eq_ok h

theorem mem_bucket {b : Buckets} {name : String} {key value : Bytes} :
    (key, value) ∈ (b.bucket name).entries ↔ b.value? name key = some value := (b.bucket name).mem_entries

end Buckets

/-! ## Running a step -/

namespace Write
variable {ε ε' α β : Type}

@[simp] theorem runOn_view (b : Buckets) : (view : Write ε Buckets).runOn b = (.ok b, b) := rfl

@[simp] theorem runOn_set (b c : Buckets) : (set c : Write ε PUnit).runOn b = (.ok ⟨⟩, c) := rfl

/-- One step after another: the second runs on what the first left, unless the first failed. -/
theorem runOn_bind (w : Write ε α) (f : α → Write ε β) (b : Buckets) :
    (w >>= f).runOn b = match w.runOn b with
      | (.ok a, c)    => (f a).runOn c
      | (.error e, c) => (.error e, c) := by
  show (ExceptT.bindCont f (w.runOn b).1) (w.runOn b).2 = _
  rcases w.runOn b with ⟨_ | _, _⟩ <;> rfl

theorem runOn_bind_ok {w : Write ε α} {a : α} {b c : Buckets} (h : w.runOn b = (.ok a, c)) (f : α → Write ε β) :
    (w >>= f).runOn b = (f a).runOn c := by
  rw [runOn_bind, h]

/-- A sequence that succeeds is two steps that do. -/
theorem runOn_bind_eq_ok {w : Write ε α} {f : α → Write ε β} {b c : Buckets} {x : β}
    (h : (w >>= f).runOn b = (.ok x, c)) : ∃ a m, w.runOn b = (.ok a, m) ∧ (f a).runOn m = (.ok x, c) := by
  rw [runOn_bind] at h
  rcases hw : w.runOn b with ⟨e | a, m⟩
  · rw [hw] at h
    cases h
  · rw [hw] at h
    exact ⟨a, m, rfl, h⟩

@[simp] theorem runOn_ofExcept (r : Except ε α) (b : Buckets) : (ofExcept r).runOn b = (r, b) := by
  cases r <;> rfl

@[simp] theorem runOn_change (f : Buckets → Except ε Buckets) (b : Buckets) :
    (change f).runOn b = match f b with
      | .ok c    => (.ok ⟨⟩, c)
      | .error e => (.error e, b) := by
  show ((get : Write ε Buckets) >>= fun b => ofExcept (f b) >>= fun c => set c).runOn b = _
  rw [runOn_bind]
  show ((ofExcept (f b) : Write ε Buckets) >>= fun c => set c).runOn b = _
  rw [runOn_bind, runOn_ofExcept]
  cases f b <;> rfl

@[simp] theorem runOn_adapt (w : Write ε α) (f : ε → ε') (b : Buckets) :
    runOn (ExceptT.adapt f w) b = ((w.runOn b).1.mapError f, (w.runOn b).2) := by
  show (ExceptT.adapt f w).run.run b = _
  unfold ExceptT.adapt
  rfl

end Write
end RecordHold
