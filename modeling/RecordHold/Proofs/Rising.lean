import RecordHold.Store.SortedMap
/-!
# Proofs.Rising — ascending lists are determined by what is in them

A strictly ascending list of keys is fixed by its members (`Rising.ext`).  The entries of a sorted map, which ascend,
are exactly its look-ups that succeed (`SortedMap.mem_entries`).
-/
namespace RecordHold

open Std

/-- The keys ascend strictly. -/
def Rising {κ : Type} [Ord κ] (l : List κ) : Prop := l.Pairwise (fun a b => compare a b = .lt)

section Lists
variable {κ ν : Type} [Ord κ]

theorem Rising.nil : Rising ([] : List κ) := List.Pairwise.nil

theorem Rising.sublist {l l' : List κ} (h : Rising l) (hs : l'.Sublist l) : Rising l' := List.Pairwise.sublist hs h

theorem Rising.filter {l : List κ} (p : κ → Bool) (h : Rising l) : Rising (l.filter p) :=
  h.sublist List.filter_sublist

/-- Two ascending lists, every key of the first below every key of the second. -/
theorem Rising.append {l l' : List κ} (h : Rising l) (h' : Rising l')
    (hl : ∀ a ∈ l, ∀ b ∈ l', compare a b = .lt) : Rising (l ++ l') := List.pairwise_append.2 ⟨h, h', hl⟩

theorem ascending_iff {l : List (κ × ν)} : Ascending l ↔ Rising (l.map Prod.fst) := by
  unfold Ascending Rising
  rw [List.pairwise_map]

theorem compare_le_of_lt {a b : κ} (h : compare a b = .lt) : compare a b ≠ .gt := by
  rw [h]
  decide

variable [TransOrd κ]

theorem ne_of_compare_lt {a b : κ} (h : compare a b = .lt) : a ≠ b := by
  rintro rfl
  rw [ReflOrd.compare_self] at h
  cases h

theorem compare_lt_asymm {a b : κ} (h : compare a b = .lt) : compare b a ≠ .lt := by
  rw [OrientedCmp.gt_of_lt h]
  decide

theorem compare_lt_of_le_of_lt {a b c : κ} (hab : compare a b ≠ .gt) (hbc : compare b c = .lt) : compare a c = .lt :=
  TransCmp.lt_of_isLE_of_lt (Ordering.isLE_iff_ne_gt.2 hab) hbc

theorem compare_lt_of_lt_of_le {a b c : κ} (hab : compare a b = .lt) (hbc : compare b c ≠ .gt) : compare a c = .lt :=
  TransCmp.lt_of_lt_of_isLE hab (Ordering.isLE_iff_ne_gt.2 hbc)

theorem compare_le_trans {a b c : κ} (hab : compare a b ≠ .gt) (hbc : compare b c ≠ .gt) : compare a c ≠ .gt :=
  Ordering.isLE_iff_ne_gt.1 (TransCmp.isLE_trans (Ordering.isLE_iff_ne_gt.2 hab) (Ordering.isLE_iff_ne_gt.2 hbc))

theorem Rising.nodup {l : List κ} (h : Rising l) : l.Nodup := List.Pairwise.imp (fun hab => ne_of_compare_lt hab) h

theorem Ascending.nodup {l : List (κ × ν)} (h : Ascending l) : l.Nodup :=
  List.Pairwise.imp (fun hab he => ne_of_compare_lt hab (congrArg Prod.fst he)) h

/-- **An ascending list is fixed by its members.** -/
theorem Rising.ext {l l' : List κ} (h : Rising l) (h' : Rising l') (hm : ∀ k, k ∈ l ↔ k ∈ l') : l = l' :=
  List.Perm.eq_of_pairwise (fun _ _ _ _ hab hba => absurd hba (compare_lt_asymm hab)) h h'
    ((List.perm_ext_iff_of_nodup h.nodup h'.nodup).2 hm)

theorem Ascending.ext {l l' : List (κ × ν)} (h : Ascending l) (h' : Ascending l') (hm : ∀ e, e ∈ l ↔ e ∈ l') :
    l = l' :=
  List.Perm.eq_of_pairwise (fun _ _ _ _ hab hba => absurd hba (compare_lt_asymm hab)) h h'
    ((List.perm_ext_iff_of_nodup h.nodup h'.nodup).2 hm)

end Lists

/-! ## The entries of a map -/

namespace SortedMap
variable {κ ν : Type} [Ord κ]

theorem rising_keys (m : SortedMap κ ν) : Rising (m.entries.map Prod.fst) := ascending_iff.1 m.ascending

variable [TransOrd κ] [LawfulEqOrd κ]

theorem find_eq_some_iff {k : κ} {v : ν} :
    ∀ {l : List (κ × ν)}, Ascending l → (find k l = some v ↔ (k, v) ∈ l)
  | [],          _ => by simp [find]
  | (a, w) :: t, h => by
    have ih := find_eq_some_iff (k := k) (v := v) (l := t) h.of_cons
    rw [find, List.mem_cons, Prod.mk.injEq]
    by_cases hk : compare k a = .eq
    · obtain rfl := LawfulEqCmp.eq_of_compare hk
      have hn : (k, v) ∉ t := fun hm => ne_of_compare_lt (List.rel_of_pairwise_cons h hm) rfl
      rw [if_pos hk]
      simp [hn, eq_comm]
    · have hne : k ≠ a := fun he => hk (by rw [he]; exact ReflOrd.compare_self)
      rw [if_neg hk, ih]
      simp [hne]

/-- **An entry is a look-up that succeeds.** -/
theorem mem_entries (m : SortedMap κ ν) {k : κ} {v : ν} : (k, v) ∈ m.entries ↔ m.get? k = some v :=
  (find_eq_some_iff m.ascending).symm

theorem mem_keys (m : SortedMap κ ν) {k : κ} : k ∈ m.entries.map Prod.fst ↔ ∃ v, m.get? k = some v := by
  rw [List.mem_map]
  constructor
  · rintro ⟨⟨k', v⟩, he, rfl⟩
    exact ⟨v, m.mem_entries.1 he⟩
  · rintro ⟨v, hv⟩
    exact ⟨(k, v), m.mem_entries.2 hv, rfl⟩

end SortedMap
end RecordHold
