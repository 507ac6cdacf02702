import Mathlib.Data.Finset.Card
import RecordHold.Proofs.KeySet
import RecordHold.Proofs.StoredKeys
/-!
# Proofs.SetHistories — a key list is a set under every history

A key list *enumerates* a set of keys if it ascends and has the members of the set.  A call on the list keeps this, if
the same keys are added to the set or removed from it, and its answer tells whether the key was a member
(`Enumerates.insert`, `Enumerates.remove`, `Enumerates.extend`).  So a list made by any history of calls enumerates the
set made by that history (`refines_set`).  A set has one such list only (`Enumerates.eq_iff`), and with it one stored
form under each codec, whichever history led to it.
-/
namespace RecordHold

/-! ## Histories -/

namespace KeyList

/-- A call that may change a key list. -/
inductive Call where
  | insert (key : Bytes)
  | remove (key : Bytes)
  | extend (keys : List Bytes)
deriving DecidableEq, Repr

/-- The list that a call leaves. -/
def after (l : KeyList) : Call → KeyList
  | .insert key  => (l.insert key).2
  | .remove key  => (l.remove key).2
  | .extend keys => l.extend keys

/-- The set that the same addition or removal leaves. -/
def Call.change (s : Finset Bytes) : Call → Finset Bytes
  | .insert key  => s ∪ {key}
  | .remove key  => s.erase key
  | .extend keys => s ∪ keys.toFinset

/-- The list that a history leads to. -/
def ofHistory (calls : List Call) : KeyList := calls.foldl after .empty

/-- The set that a history leads to. -/
def setOfHistory (calls : List Call) : Finset Bytes := calls.foldl Call.change ∅

/-! ## Lists and sets -/

/-- **A key list enumerates a set**: it ascends and has its members. -/
structure Enumerates (l : KeyList) (s : Finset Bytes) : Prop where
  rising : Rising l.keys
  mem    : ∀ key, key ∈ l.keys ↔ key ∈ s

theorem enumerates_empty : Enumerates .empty ∅ where
  rising := Rising.nil
  mem key := by simp [empty]

namespace Enumerates

variable {l l' : KeyList} {s s' : Finset Bytes}

/-- **An insertion** answers whether the key is new. -/
theorem insert (h : Enumerates l s) (key : Bytes) :
    ((l.insert key).1 = true ↔ key ∉ s) ∧ Enumerates (l.insert key).2 (s ∪ {key}) := by
  obtain ⟨hr, hm⟩ := insert_spec h.rising key
  refine ⟨?_, hr, fun k => ?_⟩
  · by_cases hk : key ∈ l.keys
    · rw [insert_of_mem h.rising hk]
      simpa using (h.mem key).1 hk
    · obtain ⟨l', he, -⟩ := insert_of_not_mem h.rising hk
      rw [he]
      simpa using mt (h.mem key).2 hk
  · rw [hm, h.mem, Finset.mem_union, Finset.mem_singleton, or_comm]

/-- **A removal** answers whether the key was there. -/
theorem remove (h : Enumerates l s) (key : Bytes) :
    ((l.remove key).1 = true ↔ key ∈ s) ∧ Enumerates (l.remove key).2 (s.erase key) := by
  by_cases hk : key ∈ l.keys
  · have hs : key ∈ s := (h.mem key).1 hk
    rw [remove_of_mem h.rising hk]
    refine ⟨by simpa using hs, h.rising.filter _, fun k => ?_⟩
    rw [List.mem_filter, h.mem, Finset.mem_erase, and_comm, bne_iff_ne]
  · have hs : key ∉ s := mt (h.mem key).2 hk
    rw [remove_of_not_mem h.rising hk, Finset.erase_eq_of_notMem hs]
    exact ⟨by simpa using hs, h⟩

/-- **Keys added one by one** are the set of them added, in whatever order and however often each comes. -/
theorem extend : ∀ {l : KeyList} {s : Finset Bytes}, Enumerates l s → ∀ keys : List Bytes,
    Enumerates (l.extend keys) (s ∪ keys.toFinset)
  | _, _, h, []          => by simpa [KeyList.extend] using h
  | _, _, h, key :: keys => by
    have ih := (h.insert key).2.extend keys
    rwa [Finset.union_assoc, ← Finset.insert_eq, ← List.toFinset_cons] at ih

theorem contains (h : Enumerates l s) (key : Bytes) : l.contains key = true ↔ key ∈ s :=
  (contains_iff h.rising).trans (h.mem key)

/-- No key is listed twice, so the length is the size of the set. -/
theorem length (h : Enumerates l s) : l.length = s.card := by
  have hs : l.keys.toFinset = s := by
    ext key
    rw [List.mem_toFinset, h.mem]
  rw [← hs, List.toFinset_card_of_nodup h.rising.nodup]
  rfl

theorem isEmpty (h : Enumerates l s) : l.isEmpty = true ↔ s = ∅ := by
  rw [← Finset.card_eq_zero, ← h.length]
  simp [KeyList.isEmpty, KeyList.length]

/-- **A set has one list**, and a list is that of one set. -/
theorem eq_iff (h : Enumerates l s) (h' : Enumerates l' s') : l = l' ↔ s = s' := by
  constructor
  · intro hl
    subst hl
    ext key
    rw [← h.mem, ← h'.mem]
  · intro hs
    subst hs
    apply eq_of_keys
    apply Rising.ext h.rising h'.rising
    intro key
    rw [h.mem, h'.mem]

/-! ## From one call to a history -/

/-- **One call** changes the list as it changes the set. -/
theorem after (h : Enumerates l s) : ∀ call : Call, Enumerates (l.after call) (call.change s)
  | .insert key  => (h.insert key).2
  | .remove key  => (h.remove key).2
  | .extend keys => h.extend keys

/-- **All calls** change the list as they change the set. -/
theorem foldl : ∀ (calls : List Call) {l : KeyList} {s : Finset Bytes}, Enumerates l s →
    Enumerates (calls.foldl KeyList.after l) (calls.foldl Call.change s)
  | [],            _, _, h => h
  | call :: calls, _, _, h => by
    rw [List.foldl_cons, List.foldl_cons]
    exact foldl calls (h.after call)

end Enumerates

theorem enumerates_ofHistory (calls : List Call) : Enumerates (ofHistory calls) (setOfHistory calls) :=
  enumerates_empty.foldl calls

/-- Key lists with the same stored bytes under each codec are the same.  JSON alone tells them apart; under the binary
codec lengths beyond a word could be confused. -/
theorem keyList_inj {l l' : KeyList} : (∀ c : Codec, c.keyList l = c.keyList l') ↔ l = l' := by
  constructor
  · intro hbytes
    have hread := Codec.keyList?_json l
    rw [hbytes .json, Codec.keyList?_json] at hread
    exact (Except.ok.inj hread).symm
  · intro hl c
    rw [hl]

/-- **A key list is a sorted set under every history** of insertions, removals and extensions from the empty list.  It
ascends strictly and has the members of the set that the history makes; insertion and removal answer whether the key was
absent or present, and membership, length and emptiness are those of the set.  Two histories lead to the same list, and to
the same stored bytes, exactly if they lead to the same set. -/
theorem refines_set (calls : List Call) :
    let list := ofHistory calls
    let set := setOfHistory calls
    Rising list.keys ∧ (∀ key, key ∈ list.keys ↔ key ∈ set) ∧
      (∀ key, (list.insert key).1 = true ↔ key ∉ set) ∧
      (∀ key, (list.remove key).1 = true ↔ key ∈ set) ∧
      (∀ key, list.contains key = true ↔ key ∈ set) ∧
      list.length = set.card ∧ (list.isEmpty = true ↔ set = ∅) ∧
      ∀ calls' : List Call,
        (ofHistory calls' = list ↔ setOfHistory calls' = set) ∧
          ((∀ c : Codec, c.keyList (ofHistory calls') = c.keyList list) ↔ setOfHistory calls' = set) := by
  intro list set
  have h : Enumerates list set := enumerates_ofHistory calls
  refine ⟨h.rising, h.mem, fun key => (h.insert key).1, fun key => (h.remove key).1, h.contains, h.length, h.isEmpty,
    fun calls' => ?_⟩
  have hlists := (enumerates_ofHistory calls').eq_iff h
  exact ⟨hlists, keyList_inj.trans hlists⟩

/-- The empty key comes first, and a key before those that it begins. -/
example : (ofHistory [.insert [2, 0], .extend [[3], [2], [], [2]], .remove [3], .remove [1]]).keys =
    [[], [2], [2, 0]] := by decide

end KeyList
end RecordHold
