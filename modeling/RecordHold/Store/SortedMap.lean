/-!
# Store.SortedMap — a finite map as an ascending list

The entries ascend strictly by key, and that is part of the type.  Every operation is one pass over the list, so
each says in one line what it does to a look-up (`get?_insert`, `get?_erase`).
-/
namespace RecordHold

open Std

/-- The entries ascend strictly by key. -/
def Ascending {κ ν : Type} [Ord κ] (l : List (κ × ν)) : Prop := l.Pairwise (fun a b => compare a.1 b.1 = .lt)

structure SortedMap (κ ν : Type) [Ord κ] where
  entries   : List (κ × ν)
  ascending : Ascending entries

namespace SortedMap
variable {κ ν : Type} [Ord κ]

def empty : SortedMap κ ν := ⟨[], List.Pairwise.nil⟩

/-! ## The passes over the list -/

def find (k : κ) : List (κ × ν) → Option ν
  | []          => none
  | (a, v) :: t => if compare k a = .eq then some v else find k t

def place (k : κ) (v : ν) : List (κ × ν) → List (κ × ν)
  | []          => [(k, v)]
  | (a, w) :: t =>
    match compare k a with
    | .lt => (k, v) :: (a, w) :: t
    | .eq => (k, v) :: t
    | .gt => (a, w) :: place k v t

def drop (k : κ) (l : List (κ × ν)) : List (κ × ν) := l.filter (fun e => compare k e.1 != .eq)

theorem mem_place {k : κ} {v : ν} {e : κ × ν} : ∀ {l : List (κ × ν)}, e ∈ place k v l → e = (k, v) ∨ e ∈ l
  | [],          h => Or.inl (by simpa [place] using h)
  | (a, w) :: t, h => by
    unfold place at h
    split at h
    · simpa using h
    · rcases List.mem_cons.1 h with rfl | h
      · exact Or.inl rfl
      · exact Or.inr (List.mem_cons_of_mem _ h)
    · rcases List.mem_cons.1 h with rfl | h
      · exact Or.inr List.mem_cons_self
      · exact (mem_place h).imp id (List.mem_cons_of_mem _)

theorem ascending_place [TransOrd κ] [LawfulEqOrd κ] (k : κ) (v : ν) :
    ∀ {l : List (κ × ν)}, Ascending l → Ascending (place k v l)
  | [],          _ => List.pairwise_singleton _ _
  | (a, w) :: t, h => by
    have ht : Ascending t := h.of_cons
    unfold place
    split
    · rename_i hk
      refine List.Pairwise.cons ?_ h
      intro e he
      rcases List.mem_cons.1 he with rfl | he
      · exact hk
      · exact TransCmp.lt_trans hk (List.rel_of_pairwise_cons h he)
    · rename_i hk
      obtain rfl := LawfulEqCmp.eq_of_compare hk
      exact List.Pairwise.cons (fun e he => List.rel_of_pairwise_cons h he) ht
    · rename_i hk
      refine List.Pairwise.cons ?_ (ascending_place k v ht)
      intro e he
      rcases mem_place he with rfl | he
      · exact OrientedCmp.lt_of_gt hk
      · exact List.rel_of_pairwise_cons h he

theorem ascending_drop (k : κ) {l : List (κ × ν)} (h : Ascending l) : Ascending (drop k l) :=
  List.Pairwise.filter _ h

/-! ## The map -/

def get? (m : SortedMap κ ν) (k : κ) : Option ν := find k m.entries

def insert [TransOrd κ] [LawfulEqOrd κ] (m : SortedMap κ ν) (k : κ) (v : ν) : SortedMap κ ν :=
  ⟨place k v m.entries, ascending_place k v m.ascending⟩

def erase (m : SortedMap κ ν) (k : κ) : SortedMap κ ν := ⟨drop k m.entries, ascending_drop k m.ascending⟩

def keys (m : SortedMap κ ν) : List κ := m.entries.map Prod.fst
def size (m : SortedMap κ ν) : Nat := m.entries.length
def isEmpty (m : SortedMap κ ν) : Bool := m.entries.isEmpty

theorem find_place [TransOrd κ] [LawfulEqOrd κ] (k j : κ) (v : ν) :
    ∀ l : List (κ × ν), find j (place k v l) = if compare j k = .eq then some v else find j l
  | []          => by simp [place, find]
  | (a, w) :: t => by
    unfold place
    split
    · simp [find]
    · rename_i hk
      obtain rfl := LawfulEqCmp.eq_of_compare hk
      by_cases hj : compare j k = .eq <;> simp [find, hj]
    · rename_i hk
      by_cases hj : compare j a = .eq
      · obtain rfl := LawfulEqCmp.eq_of_compare hj
        have : compare j k ≠ .eq := fun h => by
          obtain rfl := LawfulEqCmp.eq_of_compare h
          rw [show compare j j = .eq from ReflCmp.compare_self] at hk
          cases hk
        simp [find, this]
      · simp [find, hj, find_place k j v t]

theorem get?_insert [TransOrd κ] [LawfulEqOrd κ] (m : SortedMap κ ν) (k j : κ) (v : ν) :
    (m.insert k v).get? j = if compare j k = .eq then some v else m.get? j := find_place k j v m.entries

theorem find_drop [LawfulEqOrd κ] (k j : κ) :
    ∀ l : List (κ × ν), find j (drop k l) = if compare j k = .eq then none else find j l
  | []          => by simp [drop, find]
  | (a, w) :: t => by
    have ih := find_drop k j t
    unfold drop at ih ⊢
    by_cases hk : compare k a = .eq
    · obtain rfl := LawfulEqCmp.eq_of_compare hk
      by_cases hj : compare j k = .eq <;> simp [hj, find, ih]
    · by_cases hj : compare j a = .eq
      · obtain rfl := LawfulEqCmp.eq_of_compare hj
        have : compare j k ≠ .eq := fun h => hk (by
          obtain rfl := LawfulEqCmp.eq_of_compare h
          exact ReflCmp.compare_self)
        simp [hk, find, this]
      · simp [hk, find, hj, ih]

theorem get?_erase [LawfulEqOrd κ] (m : SortedMap κ ν) (k j : κ) :
    (m.erase k).get? j = if compare j k = .eq then none else m.get? j := find_drop k j m.entries

end SortedMap
end RecordHold
