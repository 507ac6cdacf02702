import RecordHold.Proofs.FullScans
import RecordHold.Proofs.Pulling
import RecordHold.Sample.People
/-!
# Proofs.ChangingBuckets — a bucket that changes while it is walked

A scan of a bucket goes on after the last key it read, so what it has read ascends, whatever becomes of the bucket
between two pulls.  A key that stays is read when a batch passes over its place, or else its place is still ahead; when a
batch comes up short, no place is ahead any more (`Through`).  No move breaks this (`Through.move`), and so no run does
(`full_under_writes`).
-/
namespace RecordHold

open Std Buckets

variable {γ : Type} {c : Codec} {b : Buckets}

namespace Walk

/-- Is a key ahead of the place to go on from? -/
def ahead (place : Option Bytes) (k : Bytes) : Bool := (KeyRange.all.resumeAfter place).contains k

theorem ahead_some (last k : Bytes) : ahead (some last) k = (compare last k == .lt) := by
  simp [ahead, KeyRange.resumeAfter, KeyRange.all, KeyRange.contains, KeyRange.aboveLower, KeyRange.belowUpper]

/-- **A walk through a bucket** up to a place, with these entries in its buffer.  All that was read ascends up to that
place, and has been in the bucket at some time; and of the keys that have been there all the time none is missing that
is not ahead. -/
structure Through (name : String) (kept : Bytes → Prop) (was : Entry → Prop) (w : Walk) (buffered : List Entry)
    (place : Option Bytes) : Prop where
  bucket    : w.scan.bucket = name
  source    : w.scan.source = .primary place
  buffer    : w.scan.buffer = buffered.map .loaded
  batchSize : 1 ≤ w.scan.batchSize
  failure   : name ≠ "" → w.scan.failure = none
  ended     : w.ended = true → w.scan.Ended
  ascending : Ascending (w.pulled ++ buffered)
  last      : place = Scan.lastKey (w.pulled ++ buffered) none
  stored    : ∀ e ∈ w.pulled ++ buffered, was e
  passed    : ∀ k, kept k → w.scan.exhausted = true ∨ ahead place k = false → k ∈ (w.pulled ++ buffered).map Prod.fst

variable {name : String} {kept : Bytes → Prop} {was : Entry → Prop} {w : Walk} {buffered : List Entry}
  {place : Option Bytes}

theorem lastKey_append (l l' : List Entry) (otherwise : Option Bytes) :
    Scan.lastKey (l ++ l') otherwise = Scan.lastKey l' (Scan.lastKey l otherwise) := by
  unfold Scan.lastKey
  rw [List.getLast?_append]
  cases l'.getLast? <;> rfl

/-- What is ahead of the last key is above all keys. -/
theorem lt_of_ahead {l : List Entry} (h : Ascending l) {k : Bytes} (hk : ahead (Scan.lastKey l none) k = true) :
    ∀ e ∈ l, compare e.1 k = .lt := by
  intro e he
  obtain ⟨x, hx⟩ : ∃ x, l.getLast? = some x := ⟨_, List.getLast?_eq_some_getLast (List.ne_nil_of_mem he)⟩
  rw [Scan.lastKey, hx, ahead_some, beq_iff_eq] at hk
  obtain ⟨pre, rfl⟩ := List.getLast?_eq_some_iff.1 hx
  rcases List.mem_append.1 he with he | he
  · exact TransCmp.lt_trans ((List.pairwise_append.1 h).2.2 e he x List.mem_cons_self) hk
  · rw [List.mem_singleton.1 he]
    exact hk

/-- **A batch read behind a place**: what is stored ahead of the place is in the batch, or the batch is full and it is
still ahead. -/
theorem batch_ahead {n : Nat} {batch : List Entry} (hn : 1 ≤ n)
    (h : b.scan name (KeyRange.all.resumeAfter place) n = .ok batch) :
    Ascending batch ∧ (∀ e ∈ batch, ahead place e.1 = true) ∧
      ∀ e, b.value? name e.1 = some e.2 → ahead place e.1 = true →
        e ∈ batch ∨ n ≤ batch.length ∧ ahead (Scan.lastKey batch place) e.1 = true := by
  obtain ⟨-, hbatch⟩ := scan_eq_ok h
  have hwithin := within_batch (b.bucket name).ascending KeyRange.all place hn
  rw [← hbatch] at hwithin
  refine ⟨?_, fun e he => ?_, fun e hstored hahead => ?_⟩
  · rw [hbatch]
    exact List.Pairwise.sublist (List.take_sublist n _) ((b.bucket name).ascending.within _)
  · rw [hbatch] at he
    exact (List.mem_filter.1 (List.mem_of_mem_take he)).2
  · have hin : e ∈ within (KeyRange.all.resumeAfter place) (b.bucket name).entries :=
      List.mem_filter.2 ⟨mem_bucket.2 hstored, hahead⟩
    rcases hwithin with ⟨-, hW⟩ | ⟨hfull, x, hx, hW⟩
    · exact Or.inl (hW ▸ hin)
    · rw [hW] at hin
      rcases List.mem_append.1 hin with hin | hin
      · exact Or.inl hin
      · rw [Scan.lastKey, hx]
        exact Or.inr ⟨Nat.le_of_not_lt hfull, (List.mem_filter.1 hin).2⟩

/-- **One more batch** of the bucket as it is now. -/
theorem Through.refill (h : Through name kept was w [] place) (hx : w.scan.exhausted = false) (hw : w.ended = false)
    (hwas : ∀ e, w.buckets.value? name e.1 = some e.2 → was e)
    (hkept : ∀ k, kept k → w.buckets.value? name k ≠ none) :
    ∃ batch place', Through name kept was { w with scan := w.scan.refill c w.buckets } batch place' ∧
      (batch = [] → (w.scan.refill c w.buckets).Ended) := by
  obtain ⟨b, ⟨bucket, source, n, buffer, exhausted, failure⟩, pulled, ended⟩ := w
  obtain ⟨hbucket, hsource, -, hn, hf, -, hasc, hlast, hstored, hpassed⟩ := h
  simp only [List.append_nil] at hbucket hsource hn hf hasc hlast hstored hpassed hx hw hwas hkept
  subst hbucket hsource hx hw
  cases hscan : b.scan bucket (KeyRange.all.resumeAfter place) n with
  | error e =>
    have hunnamed : ¬ bucket ≠ "" := by
      intro hne
      rw [b.scan_eq hne] at hscan
      cases hscan
    simp only [Scan.refill, hscan]
    exact ⟨[], place, ⟨rfl, rfl, rfl, hn, fun hne => absurd hne hunnamed, Bool.noConfusion, by rwa [List.append_nil],
      by rwa [List.append_nil], by rwa [List.append_nil], by rwa [List.append_nil]⟩, fun _ => Or.inl rfl⟩
  | ok batch =>
    obtain ⟨hrising, hbehind, hahead⟩ := batch_ahead hn hscan
    simp only [Scan.refill, hscan, Bool.false_or]
    refine ⟨batch, Scan.lastKey batch place, ⟨rfl, rfl, rfl, hn, hf, Bool.noConfusion, ?_, ?_, ?_, ?_⟩, ?_⟩
    · exact List.pairwise_append.2 ⟨hasc, hrising, fun e he e' he' => lt_of_ahead hasc (hlast ▸ hbehind e' he') e he⟩
    · rw [lastKey_append, hlast]
    · intro e he
      rcases List.mem_append.1 he with he | he
      · exact hstored e he
      · exact hwas e (Scan.scan_stored hscan e he)
    · intro k hk hup
      rw [List.map_append, List.mem_append]
      by_cases hplace : ahead place k = false
      · exact Or.inl (hpassed k hk (Or.inr hplace))
      · obtain ⟨raw, hraw⟩ := Option.ne_none_iff_exists'.1 (hkept k hk)
        rcases hahead (k, raw) hraw (by simpa using hplace) with hin | ⟨hfull, hstill⟩
        · exact Or.inr (List.mem_map.2 ⟨(k, raw), hin, rfl⟩)
        · -- behind a full batch the key is still ahead, so nothing is asked of it yet
          rw [hstill] at hup
          simp [Nat.not_lt_of_le hfull] at hup
    · rintro rfl
      exact Or.inr ⟨decide_eq_true hn, rfl⟩

/-- **The next entry** of the buffer. -/
theorem Through.take {e : Entry} {l : List Entry} (h : Through name kept was w (e :: l) place)
    (hf : w.scan.failure = none) : Through name kept was (w.move c .pull) l place := by
  obtain ⟨b, ⟨bucket, source, n, buffer, exhausted, failure⟩, pulled, ended⟩ := w
  obtain ⟨hbucket, hsource, hbuffer, hn, hfail, hended, hasc, hlast, hstored, hpassed⟩ := h
  simp only at hbucket hsource hbuffer hn hf hfail hended hasc hlast hstored hpassed
  subst hbucket hsource hbuffer hf
  have hover : ended = false := by
    cases ended with
    | false => rfl
    | true => simpa [Scan.Ended] using hended rfl
  have hpull : Scan.pull c b ⟨bucket, .primary place, n, (e :: l).map .loaded, exhausted, none⟩ =
      (some e, ⟨bucket, .primary place, n, l.map .loaded, exhausted, none⟩) := Scan.pull_eq hn rfl
  rw [List.append_cons] at hasc hlast hstored hpassed
  rw [move, hpull]
  exact ⟨rfl, rfl, rfl, hn, fun _ => rfl, fun hend => by simp [hover] at hend, hasc, hlast, hstored, hpassed⟩

/-- **A scan that has ended** gives nothing. -/
theorem Through.over (h : Through name kept was w buffered place) (he : w.scan.Ended) :
    Through name kept was (w.move c .pull) buffered place := by
  rw [move, Scan.pull_of_ended he]
  exact { h with ended := fun _ => he }

/-- **No move leaves the way**: not a pull, as long as the keys in question are in the bucket up to the end of the scan,
and not a write. -/
theorem Through.move (h : Through name kept was w buffered place)
    (hwas : ∀ e, w.buckets.value? name e.1 = some e.2 → was e)
    (hkept : w.ended = false → ∀ k, kept k → w.buckets.value? name k ≠ none) : ∀ m : Move,
    ∃ buffered place, Through name kept was (w.move c m) buffered place
  | .put _ _ _  => ⟨buffered, place, { h with }⟩
  | .remove _ _ => ⟨buffered, place, { h with }⟩
  | .pull => by
    by_cases he : w.scan.Ended
    · exact ⟨buffered, place, h.over he⟩
    · have hf : w.scan.failure = none := by simpa using fun hf => he (Or.inl hf)
      have hgoing : w.ended = false := by simpa using fun hend => he (h.ended hend)
      cases buffered with
      | cons e l => exact ⟨l, place, h.take hf⟩
      | nil =>
        have hx : w.scan.exhausted = false := by simpa using fun hx => he (Or.inr ⟨hx, h.buffer⟩)
        obtain ⟨batch, place', hbatch, hempty⟩ := h.refill (c := c) hx hgoing hwas (hkept hgoing)
        have hpull : w.scan.pull c w.buckets = (w.scan.refill c w.buckets).pull c w.buckets := by
          rw [Scan.pull_eq h.batchSize hf, h.buffer, List.map_nil, Scan.takeBuffered]
          simp only [Scan.refill_buffer]
          rw [if_neg (by simp [hf, hx])]
        -- so the move is that of the walk with one more batch in its buffer
        have hmove : w.move c .pull = ({ w with scan := w.scan.refill c w.buckets } : Walk).move c .pull := by
          rw [Walk.move, Walk.move, hpull]
        rw [hmove]
        by_cases he' : (w.scan.refill c w.buckets).Ended
        · exact ⟨batch, place', hbatch.over he'⟩
        · cases batch with
          | nil => exact absurd (hempty rfl) he'
          | cons e l => exact ⟨l, place', hbatch.take (by simpa using fun hf => he' (Or.inl hf))⟩

/-- **No run leaves the way.** -/
theorem Through.run : ∀ (moves : List Move) {w : Walk} {buffered : List Entry} {place : Option Bytes},
    Through name kept was w buffered place →
    (∀ pre, pre <+: moves → ∀ e, (w.run c pre).buckets.value? name e.1 = some e.2 → was e) →
    (∀ pre, pre <+: moves → (w.run c pre).ended = false → ∀ k, kept k → (w.run c pre).buckets.value? name k ≠ none) →
    ∃ buffered place, Through name kept was (w.run c moves) buffered place
  | [],         _, buffered, place, h, _,    _     => ⟨buffered, place, h⟩
  | m :: moves, w, buffered, place, h, hwas, hkept => by
    obtain ⟨l, place', h'⟩ := h.move (c := c) (hwas [] List.nil_prefix) (hkept [] List.nil_prefix) m
    exact Through.run moves h' (fun pre hpre => hwas (m :: pre) (List.cons_prefix_cons.2 ⟨rfl, hpre⟩))
      (fun pre hpre => hkept (m :: pre) (List.cons_prefix_cons.2 ⟨rfl, hpre⟩))

/-- **At the end of the way** every key that has stayed is pulled, and only once. -/
theorem Through.count_eq_one (h : Through name kept was w buffered place) (hname : name ≠ "") (hend : w.ended = true)
    {k : Bytes} (hk : kept k) : (w.pulled.map Prod.fst).count k = 1 := by
  obtain ⟨hx, hbuffer⟩ := (h.ended hend).resolve_left (by simp [h.failure hname])
  rw [h.buffer, List.map_eq_nil_iff] at hbuffer
  subst hbuffer
  have hmem := h.passed k hk (Or.inl hx)
  have hasc := h.ascending
  rw [List.append_nil] at hmem hasc
  rw [(ascending_iff.1 hasc).nodup.count, if_pos hmem]

end Walk

namespace Scan

variable {bucket : String} {indexes : List String} {cl : Clause γ} {policy : Policy γ} {batchSize : Nat}

/-- A full scan is in front of its bucket at its start. -/
theorem walk_through (hfull : (start bucket indexes cl policy batchSize).narrowed = false) (kept : Bytes → Prop)
    (was : Entry → Prop) :
    Walk.Through bucket kept was ((start bucket indexes cl policy batchSize).walk b) [] none := by
  rw [start_of_not_narrowed hfull]
  exact ⟨rfl, rfl, rfl, Nat.le_max_left _ _, fun _ => rfl, nofun, List.Pairwise.nil, rfl, nofun,
    fun k _ hup => by simp [walk, Walk.ahead, KeyRange.resumeAfter, KeyRange.contains_all] at hup⟩

/-- What a full scan has to come upon at its start, if only a bucket with a name has entries. -/
theorem rest_full (hempty : bucket = "" → (b.bucket bucket).entries = [])
    (hfull : (start bucket indexes cl policy batchSize).narrowed = false) :
    ((start bucket indexes cl policy batchSize).rest c b).entries = (b.bucket bucket).entries := by
  by_cases hname : bucket = ""
  · rw [hempty hname, start_of_not_narrowed hfull, hname]
    rfl
  · have hyield := yield_full (T := .ofNames bucket indexes) (c := c) (b := b) hname hfull (Nat.le_refl _)
    exact congrArg Yield.entries hyield

/-- **A full scan survives whatever is done to the store between its pulls.**  The keys pulled ascend, so that none comes
twice, and each entry pulled has been in the bucket at some time; a key that is there from the start to the pull that has
nothing any more is pulled exactly once, and nothing fails.  Where nothing is done between them, pulls give the entries of
the bucket, one after the other, whatever the size of a batch, and then nothing.  A bucket without a name has no entries,
because no put into it is accepted. -/
theorem full_under_writes (c : Codec) (b : Buckets) (hempty : bucket = "" → (b.bucket bucket).entries = [])
    (hfull : (start bucket indexes cl policy batchSize).narrowed = false) :
    let run := fun moves => ((start bucket indexes cl policy batchSize).walk b).run c moves
    (∀ moves : List Walk.Move,
      Ascending (run moves).pulled ∧
      (∀ e ∈ (run moves).pulled, ∃ pre, pre <+: moves ∧ (run pre).buckets.value? bucket e.1 = some e.2) ∧
      ((run moves).ended = true → ∀ k,
        (∀ pre, pre <+: moves → (run pre).ended = false → (run pre).buckets.value? bucket k ≠ none) →
        ((run moves).pulled.map Prod.fst).count k = 1) ∧
      (bucket ≠ "" → (run moves).scan.finish = .ok ())) ∧
    ∀ n : Nat, (run (List.replicate n .pull)).pulled = (b.bucket bucket).entries.take n ∧
      ((run (List.replicate n .pull)).ended = true ↔ (b.bucket bucket).entries.length < n) := by
  intro run
  refine ⟨fun moves => ?_, fun n => ?_⟩
  · let was : Entry → Prop := fun e => ∃ pre, pre <+: moves ∧ (run pre).buckets.value? bucket e.1 = some e.2
    let kept : Bytes → Prop := fun k =>
      ∀ pre, pre <+: moves → (run pre).ended = false → (run pre).buckets.value? bucket k ≠ none
    obtain ⟨buffered, place, h⟩ := Walk.Through.run moves (walk_through (b := b) hfull kept was)
      (fun pre hpre e he => ⟨pre, hpre, he⟩) (fun pre hpre hgoing k hk => hk pre hpre hgoing)
    refine ⟨(List.pairwise_append.1 h.ascending).1, fun e he => h.stored e (List.mem_append_left _ he),
      fun hend k hk => ?_, fun hname => ?_⟩
    · -- a bucket without a name has no key that stays
      have hname : bucket ≠ "" := by
        intro hname
        obtain ⟨raw, hraw⟩ := Option.ne_none_iff_exists'.1 (hk [] List.nil_prefix rfl)
        have hmem := mem_bucket.2 hraw
        rw [show (run []).buckets = b from rfl, hempty hname] at hmem
        cases hmem
      exact h.count_eq_one hname hend hk
    · show finish (run moves).scan = _
      rw [finish, h.failure hname]
  · have hn : 1 ≤ (start bucket indexes cl policy batchSize).batchSize := Nat.le_max_left _ _
    have hf : (start bucket indexes cl policy batchSize).failure = none := rfl
    obtain ⟨-, hpulled, hended, -⟩ := Walk.run_pulls (c := c) b n [] hn hf
    rw [rest_full hempty hfull] at hpulled hended
    exact ⟨hpulled, hended⟩

/-- Behind the first entry of three, read alone, that entry and the next one go, and others come in front of it and behind
it; the third stays and is pulled once. -/
theorem full_under_writes_between :
    let run := fun moves => ((Scan.start "Person" ["Name"] (Clause.empty : Clause UserValue) .ranges 1).walk
      Sample.people).run .binary moves
    let moves : List Walk.Move := [.pull, .remove "Person" [1], .put "Person" [0] [7], .remove "Person" [2],
      .put "Person" [2, 9] [8], .pull, .pull, .pull]
    (run moves).ended = true ∧ (run moves).pulled.map Prod.fst = [[1], [2, 9], [3]] ∧ Ascending (run moves).pulled ∧
      ((run moves).pulled.map Prod.fst).count [3] = 1 ∧ (run moves).scan.finish = .ok () := by
  intro run moves
  have hname : "Person" ≠ "" := by decide
  have hfull : (Scan.start "Person" ["Name"] (Clause.empty : Clause UserValue) .ranges 1).narrowed = false := rfl
  obtain ⟨hmoves, -⟩ := full_under_writes .binary Sample.people (fun h => absurd h hname) hfull
  obtain ⟨hascending, -, honce, hfinish⟩ := hmoves moves
  have hended : (run moves).ended = true := by decide +kernel
  have hstays : ∀ n, n < 9 → (run (moves.take n)).buckets.value? "Person" [3] ≠ none := by decide +kernel
  have hkept : ∀ pre, pre <+: moves → (run pre).ended = false → (run pre).buckets.value? "Person" [3] ≠ none := by
    intro pre hpre _
    rw [List.prefix_iff_eq_take.1 hpre]
    exact hstays pre.length (Nat.lt_succ_of_le hpre.length_le)
  exact ⟨hended, by decide +kernel, hascending, honce hended [3] hkept, hfinish hname⟩

end Scan
end RecordHold
