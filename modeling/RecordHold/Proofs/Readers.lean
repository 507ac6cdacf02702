import RecordHold.Hold
import RecordHold.Proofs.Yields
/-!
# Proofs.Readers — finding, finding the first and counting agree

The visitors that collect, that stop at the first record and that only count come upon the same entries.  Of two such
visitors each visit keeps the states in a relation, or the second one stops, and from then on the first one keeps what
holds of the two (`Beside`).  A traversal then ends in one of these two ways (`traverse_beside`), at whatever depth of
branches it was stopped.

The counter has as many keys as the selector has records, since a key list grows by one key when one is inserted that it
does not contain (`length_insert`), ascending or not.  The finder has nothing, like the selector, or it has stopped with
the first of the selector's records.  So the three answers agree on every state (`find_findOne_count`).
-/
namespace RecordHold

open Std Buckets

variable {γ σ τ : Type} {T : RecordType γ} {c : Codec} {b : Buckets}

/-- **Two answers side by side**: they are the same and the states in one relation, or the second says to stop and the
states are in the other. -/
inductive Answer.Beside (Rel Ahead : σ → τ → Prop) : Answer σ → Answer τ → Prop where
  | same {a : Except QueryError Bool} {s : σ} {t : τ} (h : Rel s t) : Answer.Beside Rel Ahead (a, s) (a, t)
  | stopped {a : Except QueryError Bool} {s : σ} {t : τ} (h : Ahead s t) :
      Answer.Beside Rel Ahead (a, s) (.ok false, t)

variable {Rel Ahead : σ → τ → Prop}

theorem Answer.Beside.andThen {a : Answer σ} {a' : Answer τ} (h : a.Beside Rel Ahead a') {f : σ → Answer σ}
    {g : τ → Answer τ} (hf : ∀ {s t}, Rel s t → (f s).Beside Rel Ahead (g t))
    (hg : ∀ {s t}, Ahead s t → Ahead (f s).2 t) : (a.andThen f).Beside Rel Ahead (a'.andThen g) := by
  cases h with
  | @same a s t h =>
    rcases a with e | _ | _
    · exact .same h
    · exact .same h
    · exact hf h
  | @stopped a s t h =>
    rcases a with e | _ | _
    · exact .stopped h
    · exact .stopped h
    · exact .stopped (hg h)

namespace Visitor

variable [Custom γ] {v : Visitor T σ} {w : Visitor T τ} {x : Executor γ} {q : Query γ} {narrowed : Bool}

omit [Custom γ] in
/-- **Two visitors side by side**: on a new key their visits give answers side by side, and once the second one has
stopped the visits of the first keep the other relation. -/
structure Beside (v : Visitor T σ) (w : Visitor T τ) (Rel Ahead : σ → τ → Prop) : Prop where
  seen  : ∀ {s t}, Rel s t → v.seen s = w.seen t
  visit : ∀ {s t key r}, Rel s t → (v.seen s).contains key = false →
    (v.visit key r s).Beside Rel Ahead (w.visit key r t)
  ahead : ∀ {s t key r}, Ahead s t → Ahead (v.visit key r s).2 t

omit [Custom γ] in
theorem Beside.keepsNew (B : v.Beside w Rel Ahead) (t : τ) : v.KeepsNew c b (Ahead · t) :=
  fun hs _ _ => B.ahead hs

theorem consider_beside (B : v.Beside w Rel Ahead) {e : Entry} {s : σ} {t : τ} (h : Rel s t) :
    (v.consider c q narrowed e s).Beside Rel Ahead (w.consider c q narrowed e t) := by
  unfold consider
  rw [← B.seen h]
  cases hc : (v.seen s).contains e.1 with
  | true => exact .same h
  | false =>
    simp only [Bool.false_eq_true, if_false]
    cases Record.decode T c e.2 with
    | error f => exact .same h
    | ok r =>
      simp only
      rcases q.matchesRecord c narrowed e.1 r with f | _ | _
      · exact .same h
      · exact .same h
      · exact B.visit h hc

theorem considerAll_beside (B : v.Beside w Rel Ahead) : ∀ {l : List Entry} {s : σ} {t : τ},
    (∀ e ∈ l, EntryOf T b e) → Rel s t →
    (v.considerAll c q narrowed l s).Beside Rel Ahead (w.considerAll c q narrowed l t)
  | [],     s, t, _,  h => .same h
  | e :: l, s, t, hl, h => by
    have htail := fun e he => hl e (List.mem_cons_of_mem _ he)
    rw [considerAll_cons, considerAll_cons]
    exact (consider_beside B h).andThen (fun h => considerAll_beside B htail h)
      (fun {s t} ha => considerAll_reading (B.keepsNew t) htail ha)

theorem take_beside (B : v.Beside w Rel Ahead) {y : Yield} (hy : ∀ e ∈ y.entries, EntryOf T b e) {s : σ} {t : τ}
    (h : Rel s t) : (v.take c q narrowed y s).Beside Rel Ahead (w.take c q narrowed y t) := by
  refine (considerAll_beside B hy h).andThen (fun {s t} h => ?_) (fun {s t} ha => ?_)
  · unfold Yield.close
    split <;> exact .same h
  · unfold Yield.close
    split <;> exact ha

theorem visitAll_beside (hv : v.Reads b) (hw : w.Reads b) (B : v.Beside w Rel Ahead) :
    ∀ (qs : List (Query γ)) {s : σ} {t : τ}, Rel s t →
    (v.visitAll x qs s).Beside Rel Ahead (w.visitAll x qs t)
  | [],      s, t, h => .same h
  | q :: qs, s, t, h => by
    have hn : (v.node x q s).Beside Rel Ahead (w.node x q t) := by
      rw [node_yield hv, node_yield hw]
      exact take_beside B (yieldOf_stored x q) h
    exact hn.andThen (fun h => visitAll_beside hv hw B qs h)
      (fun {s t} ha => visitAll_reading hv (B.keepsNew t) qs ha)

/-- **Two visitors that only read stay side by side** through a whole traversal of any state. -/
theorem traverse_beside (hv : v.Reads b) (hw : w.Reads b) (B : v.Beside w Rel Ahead) (q : Query γ) {s : σ} {t : τ}
    (h : Rel s t) : (v.traverse x q s).Beside Rel Ahead (w.traverse x q t) := by
  rw [traverse_eq, traverse_eq]
  exact visitAll_beside hv hw B q.nodes h

end Visitor

/-! ## Counting -/

/-- **A key list grows by one key** when one is inserted that it does not contain, whether it ascends or not. -/
theorem KeyList.length_insert {l : KeyList} {key : Bytes} (h : l.contains key = false) :
    (l.insert key).2.length = l.length + 1 := by
  unfold contains at h
  unfold insert
  cases hp : l.position key with
  | found i =>
    rw [hp] at h
    cases h
  | absent i =>
    show (l.keys.take i ++ key :: l.keys.drop i).length = l.keys.length + 1
    rw [List.length_append, List.length_cons, List.length_take, List.length_drop]
    omega

namespace Executor

theorem selector_beside_counter : (selector T b).Beside (counter T b)
    (fun s t => s.matched = t ∧ t.length = s.records.length) (fun _ _ => False) where
  seen h := h.1
  visit := by
    rintro s t key r ⟨rfl, hlen⟩ hnew
    refine .same ⟨rfl, ?_⟩
    show (s.matched.insert key).2.length = (s.records ++ [r]).length
    rw [KeyList.length_insert (l := s.matched) hnew, hlen, List.length_append]
    rfl
  ahead h := h.elim

/-! ## Stopping -/

theorem selector_beside_finder : (selector T b).Beside (finder T b)
    (fun s t => s.matched = t.1 ∧ s.records = [] ∧ t.2 = none)
    (fun s t => ∃ r rest, s.records = r :: rest ∧ t.2 = some r) where
  seen h := h.1
  visit := by
    rintro s t key r ⟨-, hrec, -⟩ -
    refine .stopped ⟨r, [], ?_, rfl⟩
    show s.records ++ [r] = [r]
    rw [hrec, List.nil_append]
  ahead := by
    rintro s t key r ⟨r', rest, hrec, hfound⟩
    refine ⟨r', rest ++ [r], ?_, hfound⟩
    show s.records ++ [r] = r' :: (rest ++ [r])
    rw [hrec, List.cons_append]

end Executor

/-! ## The three answers -/

namespace Hold

open Executor

variable [Custom γ]

/-- **Counting is finding, and then the length.** -/
theorem count_eq_map_find (x : Executor γ) (T : RecordType γ) (q : Option (Query γ)) (b : Buckets) :
    count x T q b = (find x T q b).map List.length := by
  have h := Visitor.traverse_beside (x := x) (v := selector T b) (w := counter T b) (fun _ => rfl) (fun _ => rfl)
    selector_beside_counter (orAll q) (s := ⟨.empty, []⟩) ⟨rfl, rfl⟩
  unfold count Executor.count find select Answer.done
  generalize (selector T b).traverse x (orAll q) ⟨.empty, []⟩ = a at h ⊢
  generalize (counter T b).traverse x (orAll q) .empty = a' at h ⊢
  cases h with
  | @same a s t h =>
    rcases a with e | a
    · rfl
    · exact congrArg Except.ok h.2
  | stopped h => exact h.elim

/-- **Finding the first finds nothing where finding does**, or the first of what finding collects up to its end or its
failure. -/
theorem findOne_cases (x : Executor γ) (T : RecordType γ) (q : Option (Query γ)) (b : Buckets) :
    (∃ e, findOne x T q b = .error e ∧ find x T q b = .error e) ∨
      (findOne x T q b = .ok none ∧ find x T q b = .ok []) ∨
      ∃ r, findOne x T q b = .ok (some r) ∧ ∀ l, find x T q b = .ok l → l.head? = some r := by
  have h := Visitor.traverse_beside (x := x) (v := selector T b) (w := finder T b) (fun _ => rfl) (fun _ => rfl)
    selector_beside_finder (orAll q) (s := ⟨.empty, []⟩) (t := (.empty, none)) ⟨rfl, rfl, rfl⟩
  unfold findOne first find select Answer.done
  generalize (selector T b).traverse x (orAll q) ⟨.empty, []⟩ = a at h ⊢
  generalize (finder T b).traverse x (orAll q) (.empty, none) = a' at h ⊢
  cases h with
  | @same a s t h =>
    obtain ⟨-, hrec, hfound⟩ := h
    rcases a with e | a
    · exact Or.inl ⟨_, rfl, rfl⟩
    · exact Or.inr (Or.inl ⟨congrArg Except.ok hfound, congrArg Except.ok hrec⟩)
  | @stopped a s t h =>
    obtain ⟨r, rest, hrec, hfound⟩ := h
    refine Or.inr (Or.inr ⟨r, congrArg Except.ok hfound, fun l hl => ?_⟩)
    rcases a with e | a
    · cases hl
    · cases hl
      rw [hrec]
      rfl

/-- **Finding, finding the first and counting agree** on every state, consistent or not.  Counting gives the length of
what finding gives, and otherwise its error.  Finding the first gives the first of what finding gives, or nothing if
that is empty; where it fails finding fails alike, and where it gives nothing finding gives nothing. -/
theorem find_findOne_count (x : Executor γ) (T : RecordType γ) (q : Option (Query γ)) (b : Buckets) :
    (∀ n, count x T q b = .ok n ↔ ∃ l, find x T q b = .ok l ∧ l.length = n) ∧
      (∀ e, count x T q b = .error e ↔ find x T q b = .error e) ∧
      (∀ l, find x T q b = .ok l → findOne x T q b = .ok l.head?) ∧
      (∀ e, findOne x T q b = .error e → find x T q b = .error e) ∧
      (findOne x T q b = .ok none → find x T q b = .ok []) := by
  have hcount := count_eq_map_find x T q b
  refine ⟨fun n => ?_, fun e => ?_, ?_⟩
  · rw [hcount]
    cases find x T q b <;> simp [Except.map]
  · rw [hcount]
    cases find x T q b <;> simp [Except.map]
  · rcases findOne_cases x T q b with ⟨e, hone, hfind⟩ | ⟨hone, hfind⟩ | ⟨r, hone, hfind⟩
    · simp [hone, hfind]
    · simp [hone, hfind]
    · rw [hone]
      exact ⟨fun l hl => by rw [hfind l hl], nofun, nofun⟩

end Hold
end RecordHold
