import RecordHold.Proofs.Frames
/-!
# Proofs.Journals — the puts and deletes that a write makes

All that a write does to a store is puts and deletes of single entries.  A journal of a step lists those it makes, on
each state, in order and also if it fails, and replaying them is what the step does to the state (`Journaled`).  The
journal belongs to the step itself: it is made up as the step is, out of the journals of its parts, and only a put or a
delete that the store accepts adds to it (`Journaled.put`, `Journaled.delete`).

Deleting by a query makes its edits during a traversal.  A visitor that notes them down on the side shadows the one that
does not, and so do their traversals (`traverse_shadows`).
-/
namespace RecordHold

open Buckets

/-! ## Edits -/

/-- A put or a delete of one entry. -/
inductive Edit where
  | put (bucket : String) (key value : Bytes)
  | delete (bucket : String) (key : Bytes)
deriving DecidableEq, Repr

namespace Edit

def attempt (b : Buckets) : Edit → Except StoreError Buckets
  | put name key value => b.put name key value
  | delete name key    => b.remove name key

/-- What an edit makes of a state; one that the store refuses changes nothing. -/
def apply (b : Buckets) (e : Edit) : Buckets :=
  match e.attempt b with
  | .ok b'   => b'
  | .error _ => b

/-- The edit, if the store accepts it. -/
def accepted (b : Buckets) (e : Edit) : List Edit :=
  match e.attempt b with
  | .ok _    => [e]
  | .error _ => []

end Edit

/-- **Edits in order**, one after the other. -/
def replay (edits : List Edit) (b : Buckets) : Buckets := edits.foldl Edit.apply b

theorem replay_append (es es' : List Edit) (b : Buckets) : replay (es ++ es') b = replay es' (replay es b) :=
  List.foldl_append

theorem replay_accepted (e : Edit) (b : Buckets) : replay (e.accepted b) b = e.apply b := by
  unfold Edit.accepted Edit.apply
  cases h : e.attempt b with
  | error x => rfl
  | ok b' =>
    show e.apply b = b'
    rw [Edit.apply, h]

/-! ## Journals -/

/-- **A journal of a step**: the edits it makes on a state, which lead to the state it leaves, whether it succeeds or
fails. -/
structure Journaled {ε α : Type} (w : Write ε α) where
  edits   : Buckets → List Edit
  replays : ∀ b, replay (edits b) b = (w.runOn b).2

namespace Journaled
variable {ε ε' α β : Type}

/-- A step that leaves every state as it is makes no edits. -/
def quiet {w : Write ε α} (h : ∀ b, (w.runOn b).2 = b) : Journaled w := ⟨fun _ => [], fun b => (h b).symm⟩

def pure (a : α) : Journaled (Pure.pure a : Write ε α) := quiet (fun _ => rfl)

def throw (e : ε) : Journaled (MonadExcept.throw e : Write ε α) := quiet (fun _ => rfl)

def view : Journaled (Write.view : Write ε Buckets) := quiet (fun _ => rfl)

def ofExcept (r : Except ε α) : Journaled (Write.ofExcept r) := quiet (fun b => by rw [Write.runOn_ofExcept])

/-- One step after another: the second adds its edits unless the first failed. -/
def bind {w : Write ε α} {f : α → Write ε β} (j : Journaled w) (k : ∀ a, Journaled (f a)) : Journaled (w >>= f) where
  edits b :=
    match w.runOn b with
    | (.ok a, c)    => j.edits b ++ (k a).edits c
    | (.error _, _) => j.edits b
  replays b := by
    have hj := j.replays b
    rw [Write.runOn_bind]
    rcases h : w.runOn b with ⟨e | a, c⟩
    · rw [h] at hj
      exact hj
    · rw [h] at hj
      simp only
      rw [replay_append, hj]
      exact (k a).replays c

def adapt {w : Write ε α} (j : Journaled w) (f : ε → ε') : Journaled (ExceptT.adapt f w : Write ε' α) :=
  ⟨j.edits, fun b => by rw [Write.runOn_adapt]; exact j.replays b⟩

def ite {p : Prop} [Decidable p] {w w' : Write ε α} (j : Journaled w) (j' : Journaled w') :
    Journaled (if p then w else w') where
  edits b := if p then j.edits b else j'.edits b
  replays b := by
    split
    · exact j.replays b
    · exact j'.replays b

def forM {step : String → Write ε Unit} (j : ∀ f, Journaled (step f)) : ∀ fs : List String, Journaled (fs.forM step)
  | []      => pure ()
  | f :: fs => bind (j f) (fun _ => forM j fs)

/-- **An edit is the only thing that adds to a journal**, and it does so if the store accepts it. -/
def edit (e : Edit) (f : StoreError → ε) : Journaled (Write.change (fun b => (e.attempt b).mapError f)) where
  edits b := e.accepted b
  replays b := by
    rw [replay_accepted, Write.runOn_change]
    unfold Edit.apply
    cases e.attempt b <;> rfl

def put (name : String) (key value : Bytes) (f : StoreError → ε) :
    Journaled (Write.change (fun b => (b.put name key value).mapError f)) := edit (.put name key value) f

def delete (name : String) (key : Bytes) (f : StoreError → ε) :
    Journaled (Write.change (fun b => (b.remove name key).mapError f)) := edit (.delete name key) f

end Journaled

/-! ## Indexes -/

variable {γ : Type} [Custom γ] {T : RecordType γ}

namespace Index

variable (c : Codec) (key : Bytes) (r : Record T)

def journaledAddField (field : String) : Journaled (addField c key r field) :=
  .bind (.ofExcept _) fun i => .bind .view fun _ => .bind (.ofExcept _) fun l =>
    match l.insert key with
    | (true, l') => .put _ i (c.keyList l') _
    | (false, _) => .pure ()

def journaledRemoveField (field : String) : Journaled (removeField c key r field) :=
  .bind (.ofExcept _) fun i => .bind .view fun _ => .bind (.ofExcept _) fun l =>
    match l.remove key with
    | (true, l') => .ite (.delete _ i _) (.put _ i (c.keyList l') _)
    | (false, _) => .pure ()

def journaledAdd : Journaled (add c key r) := .forM (journaledAddField c key r) T.indexes

def journaledRemove : Journaled (remove c key r) := .forM (journaledRemoveField c key r) T.indexes

def journaledUpdate (old : Option (Record T)) : Journaled (update c key old r) :=
  match old with
  | some o => .bind (journaledRemove c key o) fun _ => journaledAdd c key r
  | none   => .bind (.pure ()) fun _ => journaledAdd c key r

end Index

/-! ## Traversals -/

/-- An answer with its state seen through a function. -/
def Answer.through {σ τ : Type} (f : τ → σ) (a : Answer τ) : Answer σ := (a.1, f a.2)

namespace Visitor
variable {σ τ : Type} {v : Visitor T σ} {w : Visitor T τ} {f : τ → σ} {x : Executor γ} {codec : Codec}

omit [Custom γ] in
/-- **A visitor shadows another one** if it does the same to what can be seen of its state. -/
structure Shadows (w : Visitor T τ) (v : Visitor T σ) (f : τ → σ) : Prop where
  view  : ∀ t, w.view t = v.view (f t)
  seen  : ∀ t, w.seen t = v.seen (f t)
  visit : ∀ key r t, (w.visit key r t).through f = v.visit key r (f t)

theorem consider_shadows (S : w.Shadows v f) (q : Query γ) (narrowed : Bool) (e : Entry) (t : τ) :
    (w.consider codec q narrowed e t).through f = v.consider codec q narrowed e (f t) := by
  unfold consider
  rw [S.seen]
  split
  · rfl
  · split
    · rfl
    · split
      · rfl
      · rfl
      · exact S.visit _ _ t

theorem drain_shadows (S : w.Shadows v f) (q : Query γ) (narrowed : Bool) : ∀ (l : List Candidate) (t : τ),
    (w.drain codec q narrowed l t).through f = v.drain codec q narrowed l (f t)
  | [],     _ => rfl
  | c :: l, t => by
    rw [drain, drain, S.view]
    split
    · rfl
    · exact drain_shadows S q narrowed l t
    · rename_i e _
      rw [← consider_shadows S]
      rcases w.consider codec q narrowed e t with ⟨x | _ | _, t'⟩
      · rfl
      · rfl
      · exact drain_shadows S q narrowed l t'

theorem drainAll_shadows (S : w.Shadows v f) (q : Query γ) : ∀ (fuel : Nat) (scan : Scan) (t : τ),
    (w.drainAll codec q fuel scan t).through f = v.drainAll codec q fuel scan (f t)
  | 0,        _,    _ => rfl
  | fuel + 1, scan, t => by
    rw [drainAll, drainAll, ← drain_shadows S]
    rcases w.drain codec q scan.narrowed scan.buffer t with ⟨x | _ | _, t'⟩
    · rfl
    · rfl
    · simp only [Answer.through, ← S.view]
      split
      · rfl
      · split
        · rfl
        · exact drainAll_shadows S q fuel _ t'

mutual
/-- **A traversal shadows another one** if its visitor does. -/
theorem traverse_shadows (S : w.Shadows v f) : ∀ (q : Query γ) (t : τ),
    (w.traverse x q t).through f = v.traverse x q (f t)
  | .node c qs, t => by
    have hnode : (w.node x (.node c qs) t).through f = v.node x (.node c qs) (f t) := by
      unfold node
      rw [S.view]
      exact drainAll_shadows S _ _ _ t
    rw [traverse, traverse, ← hnode]
    rcases w.node x (.node c qs) t with ⟨e | _ | _, t'⟩
    · rfl
    · rfl
    · exact traverseAll_shadows S qs t'

theorem traverseAll_shadows (S : w.Shadows v f) : ∀ (qs : List (Query γ)) (t : τ),
    (w.traverseAll x qs t).through f = v.traverseAll x qs (f t)
  | [],      _ => rfl
  | q :: qs, t => by
    rw [traverseAll, traverseAll, ← traverse_shadows S q t]
    rcases w.traverse x q t with ⟨e | _ | _, t'⟩
    · rfl
    · rfl
    · exact traverseAll_shadows S qs t'
end

end Visitor

namespace Executor

def journaledRemoveRecord (c : Codec) (key : Bytes) (r : Record T) : Journaled (removeRecord c key r) :=
  .bind (.delete _ _ _) fun _ => (Index.journaledRemove c key r).adapt _

/-- The visitor that deletes, with a note of the edits it has made. -/
def recorder (T : RecordType γ) (c : Codec) : Visitor T (Deletion × List Edit) where
  view s := s.1.buckets
  seen s := s.1.deleted
  visit key r s :=
    let (answer, d) := (deleter T c).visit key r s.1
    (answer, d, s.2 ++ (journaledRemoveRecord c key r).edits s.1.buckets)

theorem recorder_shadows (c : Codec) : (recorder T c).Shadows (deleter T c) Prod.fst where
  view _ := rfl
  seen _ := rfl
  visit _ _ _ := rfl

/-- Deleting by a query, the edits noted down. -/
def recorded (x : Executor γ) (T : RecordType γ) (q : Option (Query γ)) (b : Buckets) :
    Answer (Deletion × List Edit) :=
  (recorder T x.codec).traverse x (orAll q) (⟨b, .empty⟩, [])

/-- **The edits noted down lead to what deleting leaves.** -/
theorem replay_recorded (x : Executor γ) (q : Option (Query γ)) (b : Buckets) :
    replay (recorded x T q b).2.2 b = (x.delete T q ⟨b, .empty⟩).2.buckets := by
  have hnoted : replay (recorded x T q b).2.2 b = (recorded x T q b).2.1.buckets := by
    refine Visitor.traverse_keeps (J := fun s : Deletion × List Edit => replay s.2 b = s.1.buckets)
      (fun key r s hs => ?_) (orAll q) _ rfl
    have hr := (journaledRemoveRecord x.codec key r).replays s.1.buckets
    show replay (s.2 ++ _) b = ((deleter T x.codec).visit key r s.1).2.buckets
    rw [replay_append, hs, hr]
    simp only [deleter]
    rcases (removeRecord x.codec key r).runOn s.1.buckets with ⟨e | _, m⟩ <;> rfl
  rw [hnoted]
  exact congrArg (fun a => a.2.buckets)
    (Visitor.traverse_shadows (recorder_shadows x.codec) (orAll q) (⟨b, .empty⟩, []))

end Executor

/-! ## Operations -/

namespace Hold

variable (x : Executor γ) (key : Key) (r : Record T)

/-- A record that refuses to be stored makes no edit. -/
def journaledStore (k : Bytes) : Journaled (store x k r) where
  edits b :=
    match r.stored x.codec with
    | .ok raw  => Edit.accepted b (.put T.bucket k raw)
    | .error _ => []
  replays b := by
    unfold store
    rw [Write.runOn_change]
    unfold put
    cases r.stored x.codec with
    | error e => rfl
    | ok raw =>
      have h := (Journaled.put T.bucket k raw HoldError.store).replays b
      rw [Write.runOn_change] at h
      exact h

def journaledInsert : Journaled (insert x key r) :=
  .bind (.ofExcept _) fun k => .bind .view fun _ => .bind (.ofExcept _) fun taken =>
    match taken with
    | some _ => .throw _
    | none   => .bind (journaledStore x r k) fun _ => (Index.journaledAdd x.codec k r).adapt _

def journaledUpdate : Journaled (update x key r) :=
  .bind (.ofExcept _) fun k => .bind .view fun _ => .bind (.ofExcept _) fun old =>
    match old with
    | none   => .throw _
    | some o => .bind (journaledStore x r k) fun _ => (Index.journaledUpdate x.codec k r (some o)).adapt _

def journaledUpsert : Journaled (upsert x key r) :=
  .bind (.ofExcept _) fun k => .bind .view fun _ => .bind (.ofExcept _) fun old =>
    .bind (journaledStore x r k) fun _ => (Index.journaledUpdate x.codec k r old).adapt _

variable (T) in
def journaledDelete : Journaled (delete x T key) :=
  .bind (.ofExcept _) fun k => .bind .view fun _ => .bind (.ofExcept _) fun old =>
    match old with
    | none   => .throw _
    | some o => .bind (.delete _ _ _) fun _ => (Index.journaledRemove x.codec k o).adapt _

variable (T) in
def journaledDeleteMatching (q : Option (Query γ)) : Journaled (deleteMatching x T q) where
  edits b := (Executor.recorded x T q b).2.2
  replays b := by
    rw [runOn_deleteMatching]
    exact Executor.replay_recorded x q b

end Hold
end RecordHold
