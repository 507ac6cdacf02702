import RecordHold.Proofs.Paging
import RecordHold.Proofs.Writes
import RecordHold.Sample.People
/-!
# Proofs.RangeScans — a range is searched safely, and read without loss

The search of an ordered map begins at the first key above the lower bound and goes on as long as the keys are below the
upper one (`Bucket.search?`).  A crossed range gives it no place to begin, and it breaks off.  Because the entries ascend,
the search comes upon just the entries whose keys satisfy both bounds (`search?_eq`).  A scan asks first whether the
range is degenerate, which every crossed range is, so it never breaks off (`scan?_eq`).
-/
namespace RecordHold

open Std

namespace KeyRange

/-- A key below one that is below the upper bound is below it, too. -/
theorem belowUpper_of_lt {a b : Bytes} {upper : Bound} (h : belowUpper b upper = true) (hab : compare a b = .lt) :
    belowUpper a upper = true := by
  cases upper with
  | unbounded => rfl
  | included k =>
    simp only [belowUpper, bne_iff_ne] at h ⊢
    exact compare_le_of_lt (compare_lt_of_lt_of_le hab h)
  | excluded k =>
    simp only [belowUpper, beq_iff_eq] at h ⊢
    exact TransCmp.lt_trans hab h

end KeyRange

/-! ## Searching an ascending list -/

/-- What holds of all keys above one that it holds of is where the list begins to hold it. -/
theorem Ascending.filter_eq_dropWhile {p : Bytes → Bool} (hp : ∀ {a b}, p a = true → compare a b = .lt → p b = true) :
    ∀ {l : List Entry}, Ascending l → l.filter (fun e => p e.1) = l.dropWhile (fun e => !p e.1)
  | [],     _ => rfl
  | e :: t, h => by
    rw [List.filter_cons, List.dropWhile_cons]
    cases he : p e.1 with
    | true =>
      have hall : t.filter (fun x => p x.1) = t :=
        List.filter_eq_self.2 (fun x hx => hp he (List.rel_of_pairwise_cons h hx))
      simp only [Bool.not_true, if_true, Bool.false_eq_true, if_false, hall]
    | false =>
      simp only [Bool.not_false, Bool.false_eq_true, if_false, if_true]
      exact filter_eq_dropWhile hp h.of_cons

/-- What holds of all keys below one that it holds of is where the list begins, up to where it ends to hold. -/
theorem Ascending.filter_eq_takeWhile {p : Bytes → Bool} (hp : ∀ {a b}, p b = true → compare a b = .lt → p a = true) :
    ∀ {l : List Entry}, Ascending l → l.filter (fun e => p e.1) = l.takeWhile (fun e => p e.1)
  | [],     _ => rfl
  | e :: t, h => by
    rw [List.filter_cons, List.takeWhile_cons]
    cases he : p e.1 with
    | true =>
      simp only [if_true]
      rw [filter_eq_takeWhile hp h.of_cons]
    | false =>
      simp only [Bool.false_eq_true, if_false]
      refine List.filter_eq_nil_iff.2 (fun x hx hpx => ?_)
      rw [hp hpx (List.rel_of_pairwise_cons h hx)] at he
      cases he

/-- The search of an ordered map, which breaks off if the range is crossed. -/
def Bucket.search? (m : Bucket) (r : KeyRange) : Option (List Entry) :=
  if r.crossed then none
  else some ((m.entries.dropWhile (fun e => !KeyRange.aboveLower e.1 r.lower)).takeWhile
    (fun e => KeyRange.belowUpper e.1 r.upper))

/-- **The search comes upon the entries in the range**, unless it breaks off. -/
theorem Bucket.search?_eq (m : Bucket) (r : KeyRange) :
    m.search? r = if r.crossed then none else some (within r m.entries) := by
  have habove := m.ascending.filter_eq_dropWhile (p := fun k => KeyRange.aboveLower k r.lower)
    KeyRange.aboveLower_of_lt
  have hsorted : Ascending (m.entries.filter (fun e => KeyRange.aboveLower e.1 r.lower)) :=
    List.Pairwise.filter _ m.ascending
  have hbelow := hsorted.filter_eq_takeWhile (p := fun k => KeyRange.belowUpper k r.upper) KeyRange.belowUpper_of_lt
  have hboth : within r m.entries =
      (m.entries.filter (fun e => KeyRange.aboveLower e.1 r.lower)).filter (fun e => KeyRange.belowUpper e.1 r.upper) := by
    rw [List.filter_filter, within]
    exact List.filter_congr (fun e _ => Bool.and_comm _ _)
  rw [hboth, hbelow, habove, Bucket.search?]

/-! ## Scans -/

namespace Buckets

/-- A scan that searches its bucket, if there is one, and breaks off where the search does. -/
def scan? (b : Buckets) (name : String) (r : KeyRange) (limit : Nat) : Option (Except StoreError (List Entry)) :=
  if name = "" then some (.error .emptyBucketName)
  else match b.get? name with
    | none   => some (.ok [])
    | some m => if r.isDegenerate then some (.ok []) else (m.search? r).map (fun es => .ok (es.take limit))

/-- **A scan never breaks off.** -/
theorem scan?_eq (b : Buckets) (name : String) (r : KeyRange) (limit : Nat) :
    b.scan? name r limit = some (b.scan name r limit) := by
  unfold scan? scan
  by_cases hname : name = ""
  · rw [if_pos hname, if_pos hname]
  rw [if_neg hname, if_neg hname]
  by_cases hd : r.isDegenerate = true
  · rw [dif_pos hd]
    cases b.get? name with
    | none   => rfl
    | some m => exact if_pos hd
  · have hcrossed := r.not_crossed hd
    rw [dif_neg hd]
    unfold bucket
    cases b.get? name with
    | none   => exact congrArg (fun es => some (Except.ok es)) List.take_nil.symm
    | some m =>
      show (if r.isDegenerate = true then _ else _) = _
      rw [if_neg hd, Bucket.search?_eq, hcrossed]
      rfl

/-- **A scan is exact, pages without loss and never breaks off**, whatever the bounds are.  Without a name it is refused.
Otherwise it gives the first entries, as many as it may, of those whose keys satisfy both bounds, in ascending order.  If
it gives fewer than it may, these are all; and if it gives as many, the others are those of the range resumed after the
last key given. -/
theorem range_scan (b : Buckets) (name : String) (r : KeyRange) :
    (∀ limit, b.scan? name r limit = some (b.scan name r limit)) ∧
      (name = "" → ∀ limit, b.scan name r limit = .error .emptyBucketName) ∧
      (name ≠ "" →
        Ascending (within r (b.bucket name).entries) ∧
        (∀ e, e ∈ within r (b.bucket name).entries ↔ b.value? name e.1 = some e.2 ∧
          KeyRange.aboveLower e.1 r.lower = true ∧ KeyRange.belowUpper e.1 r.upper = true) ∧
        (∀ limit, b.scan name r limit = .ok ((within r (b.bucket name).entries).take limit)) ∧
        ∀ n, 1 ≤ n → ∀ es, b.scan name r n = .ok es →
          (es.length < n → within r (b.bucket name).entries = es) ∧
          (es.length = n → ∃ e, es.getLast? = some e ∧
            within r (b.bucket name).entries = es ++ within (r.resumeAfter (some e.1)) (b.bucket name).entries)) := by
  refine ⟨b.scan?_eq name r, fun hname limit => if_pos hname, fun hname => ?_⟩
  refine ⟨(b.bucket name).ascending.within r, fun e => ?_, b.scan_eq hname r, fun n hn es hes => ?_⟩
  · have hmem : e ∈ (b.bucket name).entries ↔ b.value? name e.1 = some e.2 := (b.bucket name).mem_entries
    rw [within, List.mem_filter, hmem, KeyRange.contains, Bool.and_eq_true]
  · rw [b.scan_eq hname, Except.ok.injEq] at hes
    subst hes
    rcases within_batch (b.bucket name).ascending r none hn with ⟨hshort, hall⟩ | ⟨hfull, e, he, hall⟩
    · exact ⟨fun _ => hall, fun hlen => absurd hshort (Nat.not_lt_of_le (Nat.le_of_eq hlen.symm))⟩
    · exact ⟨fun hshort => absurd hshort hfull, fun _ => ⟨e, he, hall⟩⟩

/-- Two of three people are read, and then the third; on a range that is crossed a search breaks off, but not a scan. -/
theorem range_scan_people :
    let people := (Sample.people.bucket "Person").entries
    let crossed : KeyRange := ⟨.excluded [2], .excluded [2]⟩
    "Person" ≠ "" ∧ (∃ e, ((within .all people).take 2).getLast? = some e ∧
        within .all people = (within .all people).take 2 ++ within (KeyRange.all.resumeAfter (some e.1)) people) ∧
      (Sample.people.bucket "Person").search? crossed = none ∧
      Sample.people.scan? "Person" crossed 2 = some (.ok []) := by
  intro people crossed
  have hname : "Person" ≠ "" := by decide
  obtain ⟨-, -, hall⟩ := range_scan Sample.people "Person" .all
  obtain ⟨hsafe, -, hcrossed⟩ := range_scan Sample.people "Person" crossed
  obtain ⟨-, -, hscan, hpage⟩ := hall hname
  obtain ⟨-, -, hscan', -⟩ := hcrossed hname
  refine ⟨hname, (hpage 2 (by decide) _ (hscan 2)).2 (by decide +kernel), by decide +kernel, ?_⟩
  have hnone : within crossed (Sample.people.bucket "Person").entries = [] := by decide +kernel
  rw [hsafe, hscan', hnone]
  rfl

end Buckets
end RecordHold
