import RecordHold.Proofs.Candidates
import RecordHold.Query.Traversal
/-!
# Proofs.Visiting — a scan visits what was there at its start

A visitor is faithful to a state when the store it sees is that state less some records whose keys it has handled,
and each visit of a new record goes well (`Faithful`).  Whatever the size of a batch, and although its visits may
remove records from the very buckets that are being read, a faithful visitor considers the entries that the source
had at the beginning, one after the other (`drainAll_eq`): a batch read later lacks only entries with keys handled
before, and those would have been passed over anyway.
-/
namespace RecordHold

open Std Buckets

variable {γ σ : Type} [Custom γ] {T : RecordType γ} {c : Codec} {b : Buckets}

namespace Visitor

/-- Consider entries one after the other. -/
def considerAll (v : Visitor T σ) (codec : Codec) (q : Query γ) (narrowed : Bool) : List Entry → σ → Answer σ
  | [],     s => (.ok true, s)
  | e :: t, s =>
    match v.consider codec q narrowed e s with
    | (.ok true, s) => considerAll v codec q narrowed t s
    | answer        => answer

/-- **Faithful to a state**: the visitor sees it less some records with keys it has handled, and visits go well. -/
structure Faithful (v : Visitor T σ) (c : Codec) (b : Buckets) (Inv : σ → Prop) : Prop where
  rising : ∀ {s}, Inv s → Rising (v.seen s).keys
  view   : ∀ {s}, Inv s → Shrunk T c b (v.view s) (v.seen s).keys
  visit  : ∀ {s key r}, Inv s → key ∉ (v.seen s).keys → b.rows T c key = some r →
    ∃ s', v.visit key r s = (.ok true, s') ∧ Inv s' ∧ v.seen s' = ((v.seen s).insert key).2 ∧
      Less T (v.view s) (v.view s')

/-- A later state of a visitor: it has handled no fewer keys and sees no more records. -/
structure After (v : Visitor T σ) (s s' : σ) : Prop where
  seen : ∀ k ∈ (v.seen s).keys, k ∈ (v.seen s').keys
  less : Less T (v.view s) (v.view s')

omit [Custom γ] in
theorem After.refl (v : Visitor T σ) (s : σ) : v.After s s := ⟨fun _ => id, fun _ _ => id⟩

omit [Custom γ] in
theorem After.trans {v : Visitor T σ} {s t u : σ} (h : v.After s t) (h' : v.After t u) : v.After s u :=
  ⟨fun k hk => h'.seen k (h.seen k hk), fun k raw hk => h.less k raw (h'.less k raw hk)⟩

variable {v : Visitor T σ} {Inv : σ → Prop} {q : Query γ} {narrowed : Bool} {s : σ}

/-! ## One entry -/

theorem consider_seen {e : Entry} (hr : Rising (v.seen s).keys) (he : e.1 ∈ (v.seen s).keys) :
    v.consider c q narrowed e s = (.ok true, s) := by
  unfold consider
  rw [if_pos ((KeyList.contains_iff hr).2 he)]

/-- **What considering a new entry comes to**: the clause is asked, and a record it accepts is visited. -/
theorem consider_new (F : v.Faithful c b Inv) (hs : Inv s) {e : Entry} {r : Record T} (hn : e.1 ∉ (v.seen s).keys)
    (hd : Record.decode T c e.2 = .ok r) :
    v.consider c q narrowed e s = match q.matchesRecord c narrowed e.1 r with
      | .error x  => (.error x, s)
      | .ok false => (.ok true, s)
      | .ok true  => v.visit e.1 r s := by
  have hc : ¬ (v.seen s).contains e.1 = true := fun h => hn ((KeyList.contains_iff (F.rising hs)).1 h)
  unfold consider
  rw [if_neg hc]
  rcases hm : q.matchesRecord c narrowed e.1 r with x | _ | _ <;> simp only [hd, hm]

/-- Considering an entry keeps the invariant, whatever the answer, and never stops a scan. -/
theorem consider_spec (q : Query γ) (narrowed : Bool) (F : v.Faithful c b Inv) (hb : Sound T c b) (hs : Inv s)
    {e : Entry} (he : EntryOf T b e) :
    Inv (v.consider c q narrowed e s).2 ∧ v.After s (v.consider c q narrowed e s).2 ∧
      (v.consider c q narrowed e s).1 ≠ .ok false := by
  by_cases hn : e.1 ∈ (v.seen s).keys
  · rw [consider_seen (F.rising hs) hn]
    exact ⟨hs, After.refl v s, fun h => by cases h⟩
  · obtain ⟨r, hd, -⟩ := hb.consistent.readable e.1 e.2 he
    rw [consider_new F hs hn hd]
    cases q.matchesRecord c narrowed e.1 r with
    | error x => exact ⟨hs, After.refl v s, nofun⟩
    | ok a =>
      cases a with
      | false => exact ⟨hs, After.refl v s, fun h => by cases h⟩
      | true =>
        obtain ⟨s', hv, hi, hseen, hless⟩ := F.visit hs hn (rows_eq_some.2 ⟨e.2, he, hd⟩)
        simp only [hv]
        refine ⟨hi, ⟨fun k hk => ?_, hless⟩, fun h => by cases h⟩
        rw [hseen]
        exact ((KeyList.insert_spec (F.rising hs) _).2 k).2 (Or.inr hk)

/-! ## Many entries -/

theorem considerAll_spec (q : Query γ) (narrowed : Bool) (F : v.Faithful c b Inv) (hb : Sound T c b) :
    ∀ {l : List Entry} {s : σ}, (∀ e ∈ l, EntryOf T b e) → Inv s →
    Inv (v.considerAll c q narrowed l s).2 ∧ v.After s (v.considerAll c q narrowed l s).2 ∧
      (v.considerAll c q narrowed l s).1 ≠ .ok false
  | [],     s, _, hs => ⟨hs, After.refl v s, by simp [considerAll]⟩
  | e :: l, s, h, hs => by
    obtain ⟨hi, ha, hne⟩ := consider_spec q narrowed F hb hs (h e List.mem_cons_self)
    unfold considerAll
    rcases hc : v.consider c q narrowed e s with ⟨x | a, s'⟩
    · rw [hc] at hi ha
      exact ⟨hi, ha, nofun⟩
    · rw [hc] at hi ha hne
      cases a with
      | false => exact absurd rfl hne
      | true =>
        obtain ⟨hi', ha', hne'⟩ := considerAll_spec q narrowed F hb (fun e he => h e (List.mem_cons_of_mem _ he)) hi
        exact ⟨hi', ha.trans ha', hne'⟩

theorem considerAll_append (l l' : List Entry) (s : σ) :
    v.considerAll c q narrowed (l ++ l') s = match v.considerAll c q narrowed l s with
      | (.ok true, s) => v.considerAll c q narrowed l' s
      | answer        => answer := by
  induction l generalizing s with
  | nil => rfl
  | cons e l ih =>
    rw [List.cons_append, considerAll, considerAll]
    rcases v.consider c q narrowed e s with ⟨x | _ | _, s'⟩
    · rfl
    · rfl
    · exact ih s'

/-- **Entries with keys handled before make no difference.** -/
theorem considerAll_filter (F : v.Faithful c b Inv) (hb : Sound T c b) {gone : List Bytes} :
    ∀ {l : List Entry} {s : σ}, (∀ e ∈ l, EntryOf T b e) → Inv s → (∀ k ∈ gone, k ∈ (v.seen s).keys) →
      v.considerAll c q narrowed (l.filter (fresh gone)) s = v.considerAll c q narrowed l s
  | [],     s, _, _,  _  => rfl
  | e :: l, s, h, hs, hg => by
    have hl : ∀ x ∈ l, EntryOf T b x := fun x hx => h x (List.mem_cons_of_mem _ hx)
    rw [List.filter_cons]
    by_cases he : e.1 ∈ gone
    · rw [if_neg (by simpa [fresh] using he), considerAll, consider_seen (F.rising hs) (hg e.1 he)]
      exact considerAll_filter F hb hl hs hg
    · rw [if_pos (by simpa [fresh] using he), considerAll, considerAll]
      obtain ⟨hi, ha, -⟩ := consider_spec q narrowed F hb hs (h e List.mem_cons_self)
      rcases hc : v.consider c q narrowed e s with ⟨x | _ | _, s'⟩
      · rfl
      · rfl
      · rw [hc] at hi ha
        exact considerAll_filter F hb hl hi (fun k hk => ha.seen k (hg k hk))

/-- So two lists that agree on the keys not handled are considered alike. -/
theorem considerAll_congr (F : v.Faithful c b Inv) (hb : Sound T c b) (hs : Inv s) {l l' : List Entry}
    (hl : ∀ e ∈ l, EntryOf T b e) (hl' : ∀ e ∈ l', EntryOf T b e)
    (h : l.filter (fresh (v.seen s).keys) = l'.filter (fresh (v.seen s).keys)) :
    v.considerAll c q narrowed l s = v.considerAll c q narrowed l' s := by
  rw [← considerAll_filter F hb hl hs (fun _ => id), h, considerAll_filter F hb hl' hs (fun _ => id)]

/-! ## A buffer -/

/-- **A candidate stands for its entry** as long as that is stored.  Once it is not, its key has been handled. -/
theorem resolve_spec (F : v.Faithful c b Inv) (hb : Sound T c b) (hs : Inv s) {cand : Candidate}
    (hc : cand.Of T b) :
    Scan.resolve (v.view s) T.bucket cand = .ok (some (cand.entry b T.bucket)) ∨
      Scan.resolve (v.view s) T.bucket cand = .ok none ∧ (cand.entry b T.bucket).1 ∈ (v.seen s).keys := by
  cases cand with
  | loaded e => exact Or.inl rfl
  | deferred k =>
    have hent : b.value? T.bucket k = some (b.entry T.bucket k).2 := hc
    have hmem := mem_bucket.2 hc
    have hlook : (v.view s).lookup T.bucket k = .ok ((v.view s).value? T.bucket k) :=
      (v.view s).lookup_of_ne (hb.named.name_ne_nil hmem) (hb.named.key_ne_nil hmem)
    have hres : Scan.resolve (v.view s) T.bucket (.deferred k) = .ok (((v.view s).value? T.bucket k).map (k, ·)) := by
      rw [Scan.resolve, hlook]
      rfl
    rw [hres]
    by_cases hk : k ∈ (v.seen s).keys
    · cases hval : (v.view s).value? T.bucket k with
      | none => exact Or.inr ⟨rfl, hk⟩
      | some raw => exact Or.inl (congrArg (Except.ok ∘ some) (entry_of_value? ((F.view hs).less k raw hval)).symm)
    · rw [(F.view hs).kept k hk, hent]
      exact Or.inl rfl

/-- **Draining a buffer** considers its entries as they are in the state at the beginning. -/
theorem drain_eq (F : v.Faithful c b Inv) (hb : Sound T c b) : ∀ {buffer : List Candidate} {s : σ},
    (∀ cand ∈ buffer, cand.Of T b) → Inv s →
    v.drain c q narrowed buffer s = v.considerAll c q narrowed (buffer.map (Candidate.entry b T.bucket)) s
  | [],             s, _, _  => rfl
  | cand :: buffer, s, h, hs => by
    have hrest : ∀ {s'}, Inv s' → v.drain c q narrowed buffer s' = v.considerAll c q narrowed _ s' := fun hs' =>
      drain_eq F hb (fun x hx => h x (List.mem_cons_of_mem _ hx)) hs'
    rw [List.map_cons, drain, considerAll]
    rcases resolve_spec F hb hs (h cand List.mem_cons_self) with hres | ⟨hres, hgone⟩
    · obtain ⟨hi, -, -⟩ := consider_spec q narrowed F hb hs (h cand List.mem_cons_self)
      rw [hres]
      simp only
      rcases hc : v.consider c q narrowed (cand.entry b T.bucket) s with ⟨x | _ | _, s'⟩
      · rfl
      · rfl
      · rw [hc] at hi
        exact hrest hi
    · rw [hres, consider_seen (F.rising hs) hgone]
      exact hrest hs

/-! ## A whole scan -/

/-- **One more batch**, and what is left behind it, is considered as what was left before, both as they are in the
state at the beginning: they differ by keys that have been handled. -/
theorem considerAll_refilled (q : Query γ) (narrowed : Bool) (F : v.Faithful c b Inv) (hb : Sound T c b) (hs : Inv s)
    {scan scan' : Scan} (hscan : scan.Of T) (hR : Refilled T c (v.view s) scan scan') :
    (∀ cand ∈ scan'.buffer, cand.Of T b) ∧
      v.considerAll c q narrowed (scan'.buffer.map (Candidate.entry b T.bucket) ++ scan'.left c b) s =
        v.considerAll c q narrowed (scan.left c b) s := by
  have hview := F.view hs
  have hbuf : ∀ cand ∈ scan'.buffer, cand.Of T b := fun cand hcand =>
    (Candidate.Of.less hview.less (hR.buffer cand hcand)).1
  have hmap : scan'.buffer.map (Candidate.entry b T.bucket) =
      scan'.buffer.map (Candidate.entry (v.view s) T.bucket) :=
    List.map_congr_left (fun cand hcand => (Candidate.Of.less hview.less (hR.buffer cand hcand)).2)
  have hleft : ∀ {t : Scan}, t.Of T →
      (t.left c (v.view s)).filter (fresh (v.seen s).keys) = (t.left c b).filter (fresh (v.seen s).keys) := by
    intro t ht
    unfold Scan.left
    rw [ht.bucket]
    split
    · rfl
    · exact hview.left_filter hb ht.source
  refine ⟨hbuf, considerAll_congr F hb hs ?_ (hscan.mem_left hb) ?_⟩
  · intro e he
    rcases List.mem_append.1 he with he | he
    · obtain ⟨cand, hc, rfl⟩ := List.mem_map.1 he
      exact hbuf cand hc
    · exact hR.scan.mem_left hb e he
  · rw [← hleft hscan, hR.split, List.filter_append, List.filter_append, hmap, hleft hR.scan]

/-- **A scan considers what it has in its buffer and what its source has left**, as both are in the state at the
beginning, given enough fuel. -/
theorem drainAll_eq (F : v.Faithful c b Inv) (hb : Sound T c b) : ∀ (fuel : Nat) {scan : Scan} {s : σ},
    scan.Of T → (∀ cand ∈ scan.buffer, cand.Of T b) → Inv s → scan.need (v.view s) ≤ fuel →
    v.drainAll c q fuel scan s =
      v.considerAll c q scan.narrowed (scan.buffer.map (Candidate.entry b T.bucket) ++ scan.left c b) s
  | 0,        scan, s, _,     _,    _,  hfuel => absurd hfuel (Nat.not_le_of_lt (scan.need_pos _))
  | fuel + 1, scan, s, hscan, hbuf, hs, hfuel => by
    rw [drainAll, drain_eq F hb hbuf hs, considerAll_append]
    have hents : ∀ e ∈ scan.buffer.map (Candidate.entry b T.bucket), EntryOf T b e := by
      intro e he
      obtain ⟨cand, hc, rfl⟩ := List.mem_map.1 he
      exact hbuf cand hc
    obtain ⟨hi, ha, -⟩ := considerAll_spec q scan.narrowed F hb hents hs
    rcases hc : v.considerAll c q scan.narrowed (scan.buffer.map (Candidate.entry b T.bucket)) s with
      ⟨x | _ | _, s'⟩
    · rfl
    · rfl
    · rw [hc] at hi ha
      simp only at hi ha ⊢
      by_cases hx : scan.exhausted = true
      · rw [if_pos hx, Scan.left, if_pos hx, considerAll]
      · rw [if_neg hx]
        have hsound := (F.view hi).sound hb.sized
        have hR := refill_spec hsound hscan (by simpa using hx)
        obtain ⟨hbuf', hsame⟩ := considerAll_refilled q scan.narrowed F hb hi hscan hR
        have hneed : (scan.refill c (v.view s')).need (v.view s') ≤ fuel := by
          have hlt := hR.need
          have hle := ha.less.need_le ((F.view hs).sound hb.sized) hsound hscan
          omega
        rw [hR.scan.failure]
        simp only
        rw [drainAll_eq F hb fuel hR.scan hbuf' hi hneed, hR.narrowed, hsame]

end Visitor
end RecordHold
