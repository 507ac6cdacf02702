import RecordHold.Proofs.Yields
/-!
# Proofs.Pulling — a scan pulled to its end

A pull reads batches until it has an entry, and the fuel it is given is always enough (`pull_eq`): every batch lowers
what a scan still needs (`need_refill`), whatever the bounds of its ranges are and whatever an index lists.

Whoever holds a scan may change the store between two pulls, so a run is a list of moves, each of them a pull, a put or a
deletion (`Walk.run`).  In a state that does not change, pulls give what a traversal comes upon, one entry after the
other, then nothing any more (`run_pulls`).
-/
namespace RecordHold

open Std Buckets

variable {c : Codec} {b : Buckets} {s : Scan}

namespace Scan

/-! ## The fuel is enough -/

theorem need_le_batchBound (b : Buckets) (s : Scan) : s.need b ≤ s.batchBound b := by
  obtain ⟨name, source, n, buffer, exhausted, failure⟩ := s
  cases exhausted with
  | true => cases source <;> simp only [need, batchBound, if_true] <;> omega
  | false =>
    simp only [need, batchBound, Bool.false_eq_true, if_false]
    cases source with
    | primary resume => exact Nat.add_le_add_right (List.length_filter_le _ _) 2
    | index bucket ranges resume =>
      cases ranges with
      | nil => exact Nat.le_add_left 2 _
      | cons r rs =>
        have hle : (within (r.resumeAfter resume) (b.bucket bucket).entries).length ≤ (b.bucket bucket).size :=
          List.length_filter_le _ _
        simp only [Source.need, List.length_cons, Nat.add_mul]
        omega

/-- What is in the buffer makes no difference to the next batch, which takes its place. -/
theorem refill_buffer (s : Scan) (l : List Candidate) : ({ s with buffer := l } : Scan).refill c b = s.refill c b := by
  obtain ⟨name, source, n, buffer, exhausted, failure⟩ := s
  cases source with
  | primary resume => rfl
  | index bucket ranges resume => cases ranges <;> rfl

/-- **Taking from the buffer** goes by what its candidates stand for. -/
theorem takeBuffered_spec (b : Buckets) (s : Scan) : ∀ buffer : List Candidate,
    match resolveAll b s.bucket buffer with
    | ⟨e :: l, f⟩    => ∃ t, takeBuffered b s buffer = (some e, { s with buffer := t }) ∧
        resolveAll b s.bucket t = ⟨l, f⟩
    | ⟨[], none⟩     => takeBuffered b s buffer = (none, { s with buffer := [] })
    | ⟨[], some e⟩   => ∃ t, takeBuffered b s buffer = (none, { s with buffer := t, failure := some e })
  | []     => rfl
  | k :: t => by
    have ih := takeBuffered_spec b s t
    rw [resolveAll, takeBuffered]
    rcases resolve b s.bucket k with e | _ | e
    · exact ⟨t, rfl⟩
    · exact ih
    · exact ⟨t, rfl, rfl⟩

theorem pullWith_of_failure (h : s.failure.isSome = true) : ∀ fuel : Nat, pullWith c b fuel s = (none, s)
  | 0        => rfl
  | fuel + 1 => by rw [pullWith, if_pos h]

/-- More fuel than needed makes no difference. -/
theorem pullWith_eq : ∀ (fuel fuel' : Nat) {s : Scan}, 1 ≤ s.batchSize → s.need b ≤ fuel → s.need b ≤ fuel' →
    pullWith c b fuel s = pullWith c b fuel' s
  | 0,        _,         s, _,  h, _  => absurd (s.need_pos b) (by omega)
  | _ + 1,    0,         s, _,  _, h' => absurd (s.need_pos b) (by omega)
  | fuel + 1, fuel' + 1, s, hn, h, h' => by
    have htake := takeBuffered_spec b s s.buffer
    rw [pullWith, pullWith]
    by_cases hf : s.failure.isSome = true
    · rw [if_pos hf, if_pos hf]
    · rw [if_neg hf, if_neg hf]
      split at htake
      · obtain ⟨t, ht, -⟩ := htake
        rw [ht]
      · rw [htake]
        simp only [refill_buffer]
        by_cases hx : s.failure.isSome = true ∨ s.exhausted = true
        · rw [if_pos hx, if_pos hx]
        · rw [if_neg hx, if_neg hx]
          cases hok : (s.refill c b).failure with
          | some e => rw [pullWith_of_failure (by rw [hok]; rfl), pullWith_of_failure (by rw [hok]; rfl)]
          | none =>
            -- a batch lowers the need by at least the one that is taken from the fuel
            have hlt := need_refill hn (by simpa using fun hx' => hx (Or.inr hx')) hok
            exact pullWith_eq fuel fuel' (by rwa [batchSize_refill]) (by omega) (by omega)
      · obtain ⟨t, ht⟩ := htake
        rw [ht]
        simp

/-- **A pull, and no word of fuel**: what the buffer has, or else what is pulled after one more batch. -/
theorem pull_eq (hn : 1 ≤ s.batchSize) (hf : s.failure = none) :
    s.pull c b = match takeBuffered b s s.buffer with
      | (some e, s) => (some e, s)
      | (none, s)   => if s.failure.isSome ∨ s.exhausted then (none, s) else (s.refill c b).pull c b := by
  have hpos := s.need_pos b
  have hbound := s.need_le_batchBound b
  have htake := takeBuffered_spec b s s.buffer
  obtain ⟨fuel, hfuel⟩ : ∃ fuel, s.batchBound b = fuel + 1 := ⟨s.batchBound b - 1, by omega⟩
  rw [pull, hfuel, pullWith, if_neg (by rw [hf]; exact Bool.false_ne_true)]
  split at htake
  · obtain ⟨t, ht, -⟩ := htake
    rw [ht]
  · rw [htake]
    simp only [refill_buffer]
    by_cases hx : s.failure.isSome = true ∨ s.exhausted = true
    · rw [if_pos hx, if_pos hx]
    · rw [if_neg hx, if_neg hx]
      cases hok : (s.refill c b).failure with
      | some e => rw [pullWith_of_failure (by rw [hok]; rfl), pull, pullWith_of_failure (by rw [hok]; rfl)]
      | none =>
        have hlt := need_refill hn (by simpa using fun hx' => hx (Or.inr hx')) hok
        exact pullWith_eq _ _ (by rwa [batchSize_refill]) (by omega) (need_le_batchBound b _)
  · obtain ⟨t, ht⟩ := htake
    rw [ht]
    simp

/-! ## What is pulled -/

/-- A scan that has failed, or has nothing left. -/
def Ended (s : Scan) : Prop := s.failure.isSome = true ∨ s.exhausted = true ∧ s.buffer = []

/-- Once a scan has ended it stays as it is, whatever becomes of the store. -/
theorem pull_of_ended (h : s.Ended) : s.pull c b = (none, s) := by
  by_cases hf : s.failure.isSome = true
  · exact pullWith_of_failure hf _
  · obtain ⟨hx, hbuf⟩ := h.resolve_left hf
    have hpos := s.need_pos b
    have hbound := s.need_le_batchBound b
    obtain ⟨fuel, hfuel⟩ : ∃ fuel, s.batchBound b = fuel + 1 := ⟨s.batchBound b - 1, by omega⟩
    have hself : ({ s with buffer := [] } : Scan) = s := by rw [← hbuf]
    rw [pull, hfuel, pullWith, if_neg hf, hbuf, takeBuffered]
    simp only
    rw [if_pos (Or.inr hx), hself]

/-- More fuel than needed makes no difference to a yield either. -/
theorem yield_eq (name : String) : ∀ (fuel fuel' : Nat) {s : Scan}, 1 ≤ s.batchSize → s.need b ≤ fuel →
    s.need b ≤ fuel' → yield c b name fuel s = yield c b name fuel' s
  | 0,        _,         s, _,  h, _  => absurd (s.need_pos b) (by omega)
  | _ + 1,    0,         s, _,  _, h' => absurd (s.need_pos b) (by omega)
  | fuel + 1, fuel' + 1, s, hn, h, h' => by
    rw [yield, yield]
    by_cases hx : s.exhausted = true
    · rw [if_pos hx, if_pos hx]
    · rw [if_neg hx, if_neg hx]
      cases hok : (s.refill c b).failure with
      | some e => rfl
      | none =>
        have hlt := need_refill hn (by simpa using hx) hok
        simp only
        rw [yield_eq name fuel fuel' (by rwa [batchSize_refill]) (by omega) (by omega)]

/-- **What a scan has still to come upon** in a state that does not change. -/
def rest (c : Codec) (b : Buckets) (s : Scan) : Yield := yield c b s.bucket (s.need b) s

theorem rest_eq (hn : 1 ≤ s.batchSize) :
    s.rest c b = (resolveAll b s.bucket s.buffer).andThen
      (if s.exhausted then ⟨[], none⟩
      else
        match (s.refill c b).failure with
        | some e => ⟨[], some e⟩
        | none   => (s.refill c b).rest c b) := by
  have hpos := s.need_pos b
  obtain ⟨fuel, hfuel⟩ : ∃ fuel, s.need b = fuel + 1 := ⟨s.need b - 1, by omega⟩
  rw [rest, hfuel, yield]
  by_cases hx : s.exhausted = true
  · rw [if_pos hx, if_pos hx]
  · rw [if_neg hx, if_neg hx]
    cases hok : (s.refill c b).failure with
    | some e => rfl
    | none =>
      have hlt := need_refill hn (by simpa using hx) hok
      simp only
      rw [rest, bucket_refill, yield_eq s.bucket fuel _ (by rwa [batchSize_refill]) (by omega) (Nat.le_refl _)]

/-- **One pull takes the first entry of what a scan has still to come upon**, and ends the scan if there is none. -/
theorem pull_spec : ∀ (k : Nat) {s : Scan}, s.need b ≤ k → 1 ≤ s.batchSize → s.failure = none →
    match s.rest c b with
    | ⟨e :: l, f⟩ => ∃ s', s.pull c b = (some e, s') ∧ s'.rest c b = ⟨l, f⟩ ∧ s'.failure = none ∧
        1 ≤ s'.batchSize
    | ⟨[], f⟩     => ∃ s', s.pull c b = (none, s') ∧ s'.failure = f ∧ s'.Ended
  | 0,     s, hk, _,  _  => absurd (s.need_pos b) (by omega)
  | k + 1, s, hk, hn, hf => by
    have htake := takeBuffered_spec b s s.buffer
    rw [rest_eq hn, pull_eq hn hf]
    rcases hr : resolveAll b s.bucket s.buffer with ⟨_ | ⟨e, l⟩, f⟩
    · cases f with
      | some x =>
        rw [hr] at htake
        obtain ⟨t, ht⟩ := htake
        rw [ht]
        exact ⟨{ s with buffer := t, failure := some x }, if_pos (Or.inl rfl), rfl, Or.inl rfl⟩
      | none =>
        rw [hr] at htake
        simp only at htake
        rw [htake]
        simp only [refill_buffer]
        by_cases hx : s.exhausted = true
        · rw [if_pos hx, if_pos (Or.inr hx)]
          exact ⟨_, rfl, hf, Or.inr ⟨hx, rfl⟩⟩
        · rw [if_neg hx, if_neg (by simpa [hf] using hx)]
          cases hok : (s.refill c b).failure with
          | some x => exact ⟨_, pull_of_ended (Or.inl (by rw [hok]; rfl)), hok, Or.inl (by rw [hok]; rfl)⟩
          | none =>
            have hlt := need_refill hn (by simpa using hx) hok
            exact pull_spec k (by omega) (by rwa [batchSize_refill]) hok
    · rw [hr] at htake
      obtain ⟨t, ht, hrest⟩ := htake
      rw [ht, Yield.cons_andThen]
      refine ⟨_, rfl, ?_, hf, hn⟩
      rw [rest_eq (s := { s with buffer := t }) hn]
      simp only [refill_buffer, hrest]

end Scan

/-! ## Runs -/

/-- What whoever holds a scan may do. -/
inductive Walk.Move where
  | pull
  | put (name : String) (key value : Bytes)
  | remove (name : String) (key : Bytes)

/-- **A scan under way**: the store as it is now, the entries pulled so far, and whether a pull has had none. -/
structure Walk where
  buckets : Buckets
  scan    : Scan
  pulled  : List Entry
  ended   : Bool

namespace Walk

/-- A put or a deletion that is refused leaves the store as it was. -/
def move (c : Codec) (w : Walk) : Move → Walk
  | .pull =>
    match w.scan.pull c w.buckets with
    | (some e, s) => { w with scan := s, pulled := w.pulled ++ [e] }
    | (none, s)   => { w with scan := s, ended := true }
  | .put name key value => { w with buckets := (w.buckets.put name key value).toOption.getD w.buckets }
  | .remove name key    => { w with buckets := (w.buckets.remove name key).toOption.getD w.buckets }

def run (c : Codec) (w : Walk) (moves : List Move) : Walk := moves.foldl (move c) w

end Walk

/-- A scan about to be pulled. -/
def Scan.walk (s : Scan) (b : Buckets) : Walk := ⟨b, s, [], false⟩

namespace Walk

theorem run_cons (w : Walk) (m : Move) (moves : List Move) : w.run c (m :: moves) = (w.move c m).run c moves := rfl

/-- Pulling a scan that has ended changes nothing. -/
theorem run_pulls_ended {w : Walk} (h : w.scan.Ended) (he : w.ended = true) : ∀ n : Nat,
    w.run c (List.replicate n .pull) = w
  | 0     => rfl
  | n + 1 => by
    have hmove : w.move c .pull = w := by
      obtain ⟨b, s, pulled, ended⟩ := w
      simp only at h he
      rw [move, Scan.pull_of_ended h, he]
    rw [List.replicate_succ, run_cons, hmove, run_pulls_ended h he n]

/-- **Pulls alone** give what the scan comes upon, entry by entry; the pull behind the last entry has none, and so have all
further ones.  The scan has failed if that is how its yield ends, and not before. -/
theorem run_pulls (b : Buckets) : ∀ (n : Nat) {s : Scan} (pulled : List Entry), 1 ≤ s.batchSize → s.failure = none →
    let w := run c ⟨b, s, pulled, false⟩ (List.replicate n .pull)
    w.buckets = b ∧ w.pulled = pulled ++ (s.rest c b).entries.take n ∧
      (w.ended = true ↔ (s.rest c b).entries.length < n) ∧
      w.scan.failure = if w.ended then (s.rest c b).failure else none
  | 0,     s, pulled, _,  hf => by simpa [run] using hf
  | n + 1, s, pulled, hn, hf => by
    have hpull := Scan.pull_spec (c := c) (b := b) _ (Nat.le_refl _) hn hf
    rw [List.replicate_succ, run_cons, move]
    rcases hr : s.rest c b with ⟨_ | ⟨e, l⟩, f⟩
    · rw [hr] at hpull
      obtain ⟨s', hs', hfail, hend⟩ := hpull
      simp only [hs']
      rw [run_pulls_ended hend rfl n]
      simp [hfail]
    · rw [hr] at hpull
      obtain ⟨s', hs', hrest, hfail, hn'⟩ := hpull
      obtain ⟨hb, hpulled, hended, hfailure⟩ := run_pulls b n (pulled ++ [e]) hn' hfail
      rw [hrest] at hpulled hended hfailure
      simp only [hs']
      refine ⟨hb, ?_, ?_, hfailure⟩
      · rw [hpulled, List.append_assoc]
        rfl
      · rw [hended]
        simp

end Walk
end RecordHold
