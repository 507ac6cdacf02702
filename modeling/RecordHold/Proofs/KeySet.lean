import RecordHold.KeyList
import RecordHold.Proofs.Rising
/-!
# Proofs.KeySet — a key list that ascends is a set

On an ascending list the binary search answers rightly: it finds a key that is there, and otherwise the place that
parts the smaller keys from the larger ones (`position_found`, `position_absent`).  So `contains` answers membership,
`insert` adds one key and `remove` takes one away, and the list goes on ascending.
-/
namespace RecordHold
namespace KeyList

open Std

variable {keys : List Bytes} {key : Bytes}

theorem eq_of_keys : ∀ {l l' : KeyList}, l.keys = l'.keys → l = l'
  | ⟨_⟩, ⟨_⟩, rfl => rfl

theorem lt_of_index_lt (h : Rising keys) {i j : Nat} {a b : Bytes} (ha : keys[i]? = some a) (hb : keys[j]? = some b)
    (hij : i < j) : compare a b = .lt := by
  obtain ⟨hi, rfl⟩ := List.getElem?_eq_some_iff.1 ha
  obtain ⟨hj, rfl⟩ := List.getElem?_eq_some_iff.1 hb
  exact List.pairwise_iff_getElem.1 h i j hi hj hij

/-- **Where the search ends**: inside the window, at its start or at a key not above, and all later keys of the window
are above. -/
theorem probe_spec (h : Rising keys) : ∀ (fuel base size : Nat), 0 < size → size ≤ fuel → base + size ≤ keys.length →
    let i := probe keys key fuel base size
    base ≤ i ∧ i < base + size ∧ (i = base ∨ ∀ k, keys[i]? = some k → compare k key ≠ .gt) ∧
      ∀ j k, i < j → j < base + size → keys[j]? = some k → compare k key = .gt
  | 0,        base, size, h0, hf, _ => absurd hf (Nat.not_le_of_lt h0)
  | fuel + 1, base, size, h0, hf, hl => by
    unfold probe
    by_cases h1 : size ≤ 1
    · rw [if_pos h1]
      exact ⟨Nat.le_refl _, by omega, Or.inl rfl, fun j k hj hj' _ => by omega⟩
    · rw [if_neg h1]
      have hmid : base + size / 2 < keys.length := by omega
      simp only [List.getElem?_eq_getElem hmid]
      by_cases hc : compare keys[base + size / 2] key = .gt
      · rw [if_pos hc]
        obtain ⟨hb, hi, ha, hj⟩ := probe_spec h fuel base (size - size / 2) (by omega) (by omega) (by omega)
        refine ⟨hb, by omega, ha, fun j k hij hjs hk => ?_⟩
        by_cases hjw : j < base + (size - size / 2)
        · exact hj j k hij hjw hk
        · -- past the smaller window every key is at or above the middle one
          have hle : base + size / 2 ≤ j := by omega
          rcases Nat.eq_or_lt_of_le hle with rfl | hlt
          · rw [List.getElem?_eq_getElem hmid, Option.some.injEq] at hk
            rw [← hk]
            exact hc
          · have hmk := lt_of_index_lt h (List.getElem?_eq_getElem hmid) hk hlt
            exact OrientedCmp.gt_of_lt (TransCmp.lt_trans (OrientedCmp.lt_of_gt hc) hmk)
      · rw [if_neg hc]
        obtain ⟨hb, hi, ha, hj⟩ :=
          probe_spec h fuel (base + size / 2) (size - size / 2) (by omega) (by omega) (by omega)
        refine ⟨by omega, by omega, Or.inr ?_, fun j k hij hjs hk => hj j k hij (by omega) hk⟩
        rcases ha with ha | ha
        · rw [ha]
          intro k hk
          rw [List.getElem?_eq_getElem hmid, Option.some.injEq] at hk
          rw [← hk]
          exact hc
        · exact ha

theorem position_found {i : Nat} (h : position ⟨keys⟩ key = .found i) : keys[i]? = some key := by
  unfold position at h
  simp only at h
  split at h
  · cases h
  · rename_i k hk
    split at h <;> cases h
    rename_i hc
    rw [hk, LawfulEqCmp.eq_of_compare hc]

theorem forall_mem_take {P : Bytes → Prop} {n : Nat} (h : ∀ j k, j < n → keys[j]? = some k → P k) :
    ∀ k ∈ keys.take n, P k := by
  intro k hk
  obtain ⟨j, hj, rfl⟩ := List.mem_iff_getElem.1 hk
  rw [List.length_take] at hj
  rw [List.getElem_take]
  exact h j _ (by omega) (List.getElem?_eq_getElem (by omega))

theorem forall_mem_drop {P : Bytes → Prop} {n : Nat} (h : ∀ j k, n ≤ j → keys[j]? = some k → P k) :
    ∀ k ∈ keys.drop n, P k := by
  intro k hk
  obtain ⟨j, hj⟩ := List.mem_iff_getElem?.1 hk
  rw [List.getElem?_drop] at hj
  exact h (n + j) k (Nat.le_add_right n j) hj

/-- **An absent key's place** parts the smaller keys from the larger ones. -/
theorem position_absent (hr : Rising keys) {i : Nat} (h : position ⟨keys⟩ key = .absent i) :
    (∀ k ∈ keys.take i, compare k key = .lt) ∧ ∀ k ∈ keys.drop i, compare key k = .lt := by
  unfold position at h
  simp only at h
  by_cases hn : keys.length = 0
  · rw [List.length_eq_zero_iff] at hn
    subst hn
    simp
  · obtain ⟨-, hi, hle, hgt⟩ := @probe_spec keys key hr keys.length 0 keys.length (by omega) (Nat.le_refl _) (by omega)
    generalize probe keys key keys.length 0 keys.length = p at h hi hle hgt
    rw [Nat.zero_add] at hi hgt
    have hp := List.getElem?_eq_getElem hi
    have hlater : ∀ j k, p < j → keys[j]? = some k → compare key k = .lt := fun j k hj hk =>
      OrientedCmp.lt_of_gt (hgt j k hj (List.getElem?_eq_some_iff.1 hk).1 hk)
    rw [hp] at h
    simp only at h
    split at h
    · cases h
    · -- the key at the end of the search is below: the place is behind it
      rename_i hc
      cases h
      refine ⟨forall_mem_take (fun j k hj hk => ?_), forall_mem_drop (fun j k hj hk => hlater j k hj hk)⟩
      rcases Nat.lt_or_eq_of_le (Nat.le_of_lt_succ hj) with hlt | rfl
      · exact TransCmp.lt_trans (lt_of_index_lt hr hk hp hlt) hc
      · rw [hp] at hk
        cases hk
        exact hc
    · -- it is above, so the search never moved
      rename_i hc
      cases h
      have h0 : i = 0 := hle.resolve_right (fun hne => absurd hc (hne _ hp))
      subst h0
      refine ⟨forall_mem_take (fun j k hj _ => absurd hj (Nat.not_lt_zero j)), forall_mem_drop (fun j k _ hk => ?_)⟩
      rcases Nat.eq_zero_or_pos j with rfl | hj
      · rw [hp] at hk
        cases hk
        exact OrientedCmp.lt_of_gt hc
      · exact hlater j k hj hk

theorem not_mem_of_absent (hr : Rising keys) {i : Nat} (h : position ⟨keys⟩ key = .absent i) : key ∉ keys := by
  obtain ⟨hlo, hhi⟩ := position_absent hr h
  intro hk
  rw [← List.take_append_drop i keys, List.mem_append] at hk
  rcases hk with hk | hk
  · exact ne_of_compare_lt (hlo key hk) rfl
  · exact ne_of_compare_lt (hhi key hk) rfl

/-! ## The three operations -/

theorem contains_iff {l : KeyList} (hr : Rising l.keys) : l.contains key = true ↔ key ∈ l.keys := by
  obtain ⟨keys⟩ := l
  unfold contains
  cases hp : position ⟨keys⟩ key with
  | found i => simpa using List.mem_iff_getElem?.2 ⟨i, position_found hp⟩
  | absent i => simpa using not_mem_of_absent hr hp

/-- A key that is inserted is in the list, and none is lost, whatever the order of the keys. -/
theorem mem_insert (l : KeyList) (key : Bytes) :
    key ∈ (l.insert key).2.keys ∧ ∀ k ∈ l.keys, k ∈ (l.insert key).2.keys := by
  unfold insert
  cases h : l.position key with
  | found i => exact ⟨List.mem_of_getElem? (position_found h), fun _ => id⟩
  | absent i =>
    refine ⟨List.mem_append_right _ List.mem_cons_self, fun k hk => ?_⟩
    rw [← List.take_append_drop i l.keys] at hk
    exact (List.mem_append.1 hk).elim (List.mem_append_left _)
      (fun hk => List.mem_append_right _ (List.mem_cons_of_mem _ hk))

theorem insert_of_mem {l : KeyList} (hr : Rising l.keys) (hk : key ∈ l.keys) : l.insert key = (false, l) := by
  obtain ⟨keys⟩ := l
  unfold insert
  cases hp : position ⟨keys⟩ key with
  | found i => rfl
  | absent i => exact absurd hk (not_mem_of_absent hr hp)

theorem insert_of_not_mem {l : KeyList} (hr : Rising l.keys) (hk : key ∉ l.keys) :
    ∃ l', l.insert key = (true, l') ∧ Rising l'.keys ∧ ∀ k, k ∈ l'.keys ↔ k = key ∨ k ∈ l.keys := by
  obtain ⟨keys⟩ := l
  unfold insert
  cases hp : position ⟨keys⟩ key with
  | found i => exact absurd (List.mem_iff_getElem?.2 ⟨i, position_found hp⟩) hk
  | absent i =>
    obtain ⟨hlo, hhi⟩ := position_absent hr hp
    refine ⟨_, rfl, ?_, fun k => ?_⟩
    · refine Rising.append (hr.sublist (List.take_sublist i keys)) ?_ ?_
      · exact List.Pairwise.cons hhi (hr.sublist (List.drop_sublist i keys))
      · intro a ha b hb
        rcases List.mem_cons.1 hb with rfl | hb
        · exact hlo a ha
        · exact TransCmp.lt_trans (hlo a ha) (hhi b hb)
    · have hm : k ∈ keys ↔ k ∈ keys.take i ∨ k ∈ keys.drop i := by
        rw [← List.mem_append, List.take_append_drop]
      simp only [List.mem_append, List.mem_cons, hm]
      grind

/-- **Inserting adds the key**, into an ascending list that stays one. -/
theorem insert_spec {l : KeyList} (hr : Rising l.keys) (key : Bytes) :
    Rising (l.insert key).2.keys ∧ ∀ k, k ∈ (l.insert key).2.keys ↔ k = key ∨ k ∈ l.keys := by
  by_cases hk : key ∈ l.keys
  · rw [insert_of_mem hr hk]
    exact ⟨hr, fun k => ⟨Or.inr, fun h => h.elim (fun he => he ▸ hk) id⟩⟩
  · obtain ⟨l', he, hr', hm⟩ := insert_of_not_mem hr hk
    rw [he]
    exact ⟨hr', hm⟩

theorem remove_of_not_mem {l : KeyList} (hr : Rising l.keys) (hk : key ∉ l.keys) : l.remove key = (false, l) := by
  obtain ⟨keys⟩ := l
  unfold remove
  cases hp : position ⟨keys⟩ key with
  | found i => exact absurd (List.mem_iff_getElem?.2 ⟨i, position_found hp⟩) hk
  | absent i => rfl

/-- **Removing takes the key away** and keeps the rest as it is. -/
theorem remove_of_mem {l : KeyList} (hr : Rising l.keys) (hk : key ∈ l.keys) :
    l.remove key = (true, ⟨l.keys.filter (· != key)⟩) := by
  obtain ⟨keys⟩ := l
  unfold remove
  cases hp : position ⟨keys⟩ key with
  | absent i => exact absurd hk (not_mem_of_absent hr hp)
  | found i =>
    have hi := position_found hp
    obtain ⟨hlt, hik⟩ := List.getElem?_eq_some_iff.1 hi
    have hsplit : keys = keys.take i ++ key :: keys.drop (i + 1) := by
      rw [← hik, List.getElem_cons_drop, List.take_append_drop]
    have hnd := hr.nodup
    rw [hsplit, List.nodup_append] at hnd
    obtain ⟨-, hd, hdis⟩ := hnd
    have hlo : (keys.take i).filter (· != key) = keys.take i :=
      List.filter_eq_self.2 (fun a ha => by simpa using hdis a ha key List.mem_cons_self)
    have hhi : (keys.drop (i + 1)).filter (· != key) = keys.drop (i + 1) :=
      List.filter_eq_self.2 (fun a ha => by
        have hne : a ≠ key := fun he => (List.nodup_cons.1 hd).1 (he ▸ ha)
        simpa using hne)
    have hf : keys.filter (· != key) = keys.take i ++ keys.drop (i + 1) := by
      conv => lhs; rw [hsplit]
      rw [List.filter_append, List.filter_cons, hlo, hhi]
      simp
    rw [hf]

end KeyList
end RecordHold
