import RecordHold.Proofs.Rising
import RecordHold.Store.Buckets
/-!
# Proofs.Paging — reading a range batch by batch

A scan reads the first entries of a range in ascending order, and a degenerate range, which is never searched, holds
none anyway (`scan_eq`).  Going on after the last key of a batch reads exactly what the batch left
(`within_resumeAfter`), whatever the bounds of the range are, and a batch shorter than asked for has left nothing.
-/
namespace RecordHold

open Std

namespace KeyRange

/-- A key above one that is above the lower bound is above it, too. -/
theorem aboveLower_of_lt {a b : Bytes} {lower : Bound} (h : aboveLower a lower = true) (hab : compare a b = .lt) :
    aboveLower b lower = true := by
  cases lower with
  | unbounded => rfl
  | included k =>
    simp only [aboveLower, bne_iff_ne] at h ⊢
    intro hgt
    exact h (OrientedCmp.gt_of_lt (TransCmp.lt_trans hab (OrientedCmp.lt_of_gt hgt)))
  | excluded k =>
    simp only [aboveLower, beq_iff_eq] at h ⊢
    exact TransCmp.lt_trans h hab

theorem contains_all (key : Bytes) : all.contains key = true := rfl

theorem contains_exact {key k : Bytes} : (exact key).contains k = true ↔ k = key := by
  simp only [exact, contains, aboveLower, belowUpper, Bool.and_eq_true, bne_iff_ne]
  constructor
  · rintro ⟨h1, h2⟩
    cases hc : compare k key with
    | lt => exact absurd (OrientedCmp.gt_of_lt hc) h1
    | eq => exact LawfulEqCmp.eq_of_compare hc
    | gt => exact absurd hc h2
  · rintro rfl
    rw [ReflOrd.compare_self]
    decide

/-- The rest of a range after one of its keys: the keys of the range above it. -/
theorem contains_resumeAfter {r : KeyRange} {key : Bytes} (h : r.contains key = true) (k : Bytes) :
    (r.resumeAfter (some key)).contains k = (r.contains k && compare key k == .lt) := by
  have hr : (r.resumeAfter (some key)).contains k = (compare key k == .lt && belowUpper k r.upper) := rfl
  rw [contains, Bool.and_eq_true] at h
  rw [hr, contains]
  cases hc : compare key k == .lt with
  | false => simp
  | true =>
    rw [aboveLower_of_lt h.1 (by simpa using hc)]
    simp

@[simp] theorem resumeAfter_resumeAfter (r : KeyRange) (o : Option Bytes) (key : Bytes) :
    (r.resumeAfter o).resumeAfter (some key) = r.resumeAfter (some key) := by
  cases o <;> rfl

/-- **A degenerate range holds no key.** -/
theorem contains_of_isDegenerate {r : KeyRange} (h : r.isDegenerate = true) (k : Bytes) : r.contains k = false := by
  rw [Bool.eq_false_iff]
  intro hk
  obtain ⟨lower, upper⟩ := r
  simp only [contains, Bool.and_eq_true] at hk
  obtain ⟨hl, hu⟩ := hk
  cases lower <;> cases upper <;>
    simp only [isDegenerate, aboveLower, belowUpper, beq_iff_eq, bne_iff_ne, Bool.false_eq_true] at h hl hu
  · exact compare_le_trans hl hu h
  · exact h (compare_lt_of_le_of_lt hl hu)
  · exact h (compare_lt_of_lt_of_le hl hu)
  · exact h (TransCmp.lt_trans hl hu)

end KeyRange

/-! ## Batches -/

/-- The entries of a list that a range holds. -/
def within (r : KeyRange) (l : List Entry) : List Entry := l.filter (fun e => r.contains e.1)

theorem Ascending.within {l : List Entry} (r : KeyRange) (h : Ascending l) : Ascending (within r l) :=
  List.Pairwise.filter _ h

/-- What an ascending list holds above its `n`-th key is what follows it. -/
theorem filter_above_last {l : List Entry} (h : Ascending l) (n : Nat) {key : Bytes}
    (hk : ∃ e, (l.take n).getLast? = some e ∧ e.1 = key) :
    l.filter (fun e => compare key e.1 == .lt) = l.drop n := by
  obtain ⟨e, he, rfl⟩ := hk
  have hp := h
  rw [← List.take_append_drop n l] at hp
  obtain ⟨htake, -, hcross⟩ := List.pairwise_append.1 hp
  have hlast : e ∈ l.take n := List.mem_of_getLast? he
  -- no key of the batch is above its last one
  have hlo : (l.take n).filter (fun x => compare e.1 x.1 == .lt) = [] := by
    refine List.filter_eq_nil_iff.2 (fun x hx hlt => ?_)
    obtain ⟨pre, hpre⟩ := List.getLast?_eq_some_iff.1 he
    rw [hpre] at htake hx
    rcases List.mem_append.1 hx with hx | hx
    · have := (List.pairwise_append.1 htake).2.2 x hx e List.mem_cons_self
      exact compare_lt_asymm this (by simpa using hlt)
    · rw [List.mem_singleton] at hx
      subst hx
      rw [ReflOrd.compare_self] at hlt
      cases hlt
  have hhi : (l.drop n).filter (fun x => compare e.1 x.1 == .lt) = l.drop n :=
    List.filter_eq_self.2 (fun x hx => by simpa using hcross e hlast x hx)
  conv => lhs; rw [← List.take_append_drop n l]
  rw [List.filter_append, hlo, hhi, List.nil_append]

/-- **Going on after a batch** reads what the batch left of the range. -/
theorem within_resumeAfter {l : List Entry} (h : Ascending l) (r : KeyRange) (n : Nat) {e : Entry}
    (he : ((within r l).take n).getLast? = some e) :
    within (r.resumeAfter (some e.1)) l = (within r l).drop n := by
  have hin : r.contains e.1 = true :=
    (List.mem_filter.1 (List.mem_of_mem_take (List.mem_of_getLast? he))).2
  rw [← filter_above_last (h.within r) n ⟨e, he, rfl⟩]
  unfold within
  rw [List.filter_filter]
  refine List.filter_congr (fun x _ => ?_)
  rw [KeyRange.contains_resumeAfter hin, Bool.and_comm]

/-- **A batch is all that is left, or it is full** and what it left is read by going on after its last key. -/
theorem within_batch {l : List Entry} (h : Ascending l) (r : KeyRange) (resume : Option Bytes) {n : Nat} (hn : 1 ≤ n) :
    let batch := (within (r.resumeAfter resume) l).take n
    (batch.length < n ∧ within (r.resumeAfter resume) l = batch) ∨
      (¬ batch.length < n ∧ ∃ e, batch.getLast? = some e ∧
        within (r.resumeAfter resume) l = batch ++ within (r.resumeAfter (some e.1)) l) := by
  intro batch
  have hlen : batch.length = min n (within (r.resumeAfter resume) l).length := List.length_take
  by_cases hlt : batch.length < n
  · exact Or.inl ⟨hlt, (List.take_of_length_le (by omega)).symm⟩
  · refine Or.inr ⟨hlt, ?_⟩
    have hne : batch ≠ [] := fun hnil => hlt (by rw [hnil]; exact hn)
    refine ⟨batch.getLast hne, List.getLast?_eq_some_getLast hne, ?_⟩
    have hrest := within_resumeAfter h (r.resumeAfter resume) n (List.getLast?_eq_some_getLast hne)
    rw [KeyRange.resumeAfter_resumeAfter] at hrest
    rw [hrest, List.take_append_drop]

/-- **A scan reads the first entries of its range.** -/
theorem Buckets.scan_eq (b : Buckets) {name : String} (h : name ≠ "") (r : KeyRange) (limit : Nat) :
    b.scan name r limit = .ok ((within r (b.bucket name).entries).take limit) := by
  unfold Buckets.scan
  rw [if_neg h]
  split
  · rename_i hd
    have hn : within r (b.bucket name).entries = [] :=
      List.filter_eq_nil_iff.2 (fun e _ => by rw [KeyRange.contains_of_isDegenerate hd]; decide)
    rw [hn, List.take_nil]
  · rfl

/-- A scan that succeeds is of a bucket with a name. -/
theorem Buckets.scan_eq_ok {b : Buckets} {name : String} {r : KeyRange} {limit : Nat} {batch : List Entry}
    (h : b.scan name r limit = .ok batch) :
    name ≠ "" ∧ batch = (within r (b.bucket name).entries).take limit := by
  by_cases hn : name = ""
  · rw [scan, if_pos hn] at h
    cases h
  · rw [b.scan_eq hn, Except.ok.injEq] at h
    exact ⟨hn, h.symm⟩

end RecordHold
