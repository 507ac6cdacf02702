import RecordHold.Proofs.Journals
import RecordHold.Proofs.Sessions
import RecordHold.Sample.Contacts
/-!
# Proofs.Isolation — transactions are isolated, and all or nothing

A store copies its state: a reader keeps the one at its opening, a writer works on a copy, and a commit puts the copy in
the place of the committed state.  A ledger never copies anything.  It has the edits of the transactions that were
committed, in the order of their commits, and the edits of the open one (`Ledger`).

The two keep in step (`Kept.turn`, `Kept.turns`): the committed state is what the edits of the committed transactions
lead to, and the writer's copy is what its own edits make of that.  It could fail to be, if anything were committed
while a writer works on an older state; but whatever needs a write transaction of its own waits for the open one.
-/
namespace RecordHold

open Buckets

variable {γ : Type} [Custom γ] {x : Executor γ} {b₀ : Buckets}

/-! ## What is done to a hold -/

/-- The journal of a call. -/
def Call.journaled (x : Executor γ) : (call : Call γ) → Journaled (call.run x)
  | insert _ key r     => Hold.journaledInsert x key r
  | update _ key r     => Hold.journaledUpdate x key r
  | upsert _ key r     => Hold.journaledUpsert x key r
  | delete S key       => Hold.journaledDelete S x key
  | deleteMatching S q => .bind (Hold.journaledDeleteMatching S x q) fun _ => .pure ()

/-- A write: one edit, or a call on the hold. -/
inductive Task (γ : Type) where
  | edit (e : Edit)
  | call (call : Call γ)

namespace Task

def run (x : Executor γ) : Task γ → Write HoldError Unit
  | edit e => Write.change (fun b => (e.attempt b).mapError .store)
  | call c => c.run x

def journaled (x : Executor γ) : (task : Task γ) → Journaled (task.run x)
  | edit e => Journaled.edit e HoldError.store
  | call c => c.journaled x

/-- **The puts and deletes of a write**, in order, also of one that fails. -/
def edits (x : Executor γ) (task : Task γ) : Buckets → List Edit := (task.journaled x).edits

theorem replay_edits (x : Executor γ) (task : Task γ) (b : Buckets) :
    replay (task.edits x b) b = ((task.run x).runOn b).2 := (task.journaled x).replays b

end Task

/-- What happens to a hold next.  A write transaction that is dropped is rolled back. -/
inductive Turn (γ : Type) where
  | beginRead (name : String)
  | beginWrite
  | alone (task : Task γ)
  | inside (task : Task γ)
  | commit
  | rollback

namespace Store

/-- One turn.  As long as a write transaction is open, what needs one of its own waits. -/
def turn (x : Executor γ) (s : Store) : Turn γ → Store
  | .beginRead name => s.beginRead name
  | .beginWrite     => if s.writer.isSome then s else s.beginWrite
  | .alone task     => if s.writer.isSome then s else (s.alone (task.run x)).2
  | .inside task    =>
    match s.inside (task.run x) with
    | some (_, s') => s'
    | none         => s
  | .commit         => s.commit
  | .rollback       => s.rollback

/-- Where turns lead from a committed state, with no transaction open. -/
def turns (x : Executor γ) (b₀ : Buckets) (l : List (Turn γ)) : Store := l.foldl (turn x) ⟨b₀, none, []⟩

end Store

/-! ## Ledgers -/

/-- **The edits of the committed transactions**, in the order of their commits, and of the open one, if there is one. -/
structure Ledger where
  commits : List (List Edit)
  pending : Option (List Edit)

namespace Ledger

/-- The committed state that a ledger stands for. -/
def committed (b₀ : Buckets) (l : Ledger) : Buckets := replay l.commits.flatten b₀

/-- One turn.  A write in a transaction of its own is entered if it succeeds, one in the open transaction in any case;
what is committed is entered behind all that was committed before. -/
def turn (x : Executor γ) (b₀ : Buckets) (l : Ledger) : Turn γ → Ledger
  | .beginRead _ => l
  | .beginWrite  => { l with pending := l.pending.or (some []) }
  | .alone task  =>
    match l.pending, ((task.run x).runOn (l.committed b₀)).1 with
    | none, .ok _ => { l with commits := l.commits ++ [task.edits x (l.committed b₀)] }
    | _,    _     => l
  | .inside task =>
    { l with pending := l.pending.map (fun es => es ++ task.edits x (replay es (l.committed b₀))) }
  | .commit      => ⟨l.commits ++ l.pending.toList, none⟩
  | .rollback    => { l with pending := none }

def turns (x : Executor γ) (b₀ : Buckets) (l : List (Turn γ)) : Ledger := l.foldl (turn x b₀) ⟨[], none⟩

theorem committed_append (b₀ : Buckets) (commits : List (List Edit)) (es : List Edit) (pending : Option (List Edit)) :
    committed b₀ ⟨commits ++ [es], pending⟩ = replay es (replay commits.flatten b₀) := by
  rw [committed, List.flatten_append, List.flatten_singleton, replay_append]

end Ledger

/-- **A store keeps in step with a ledger.** -/
structure Kept (b₀ : Buckets) (s : Store) (l : Ledger) : Prop where
  committed : s.committed = l.committed b₀
  writer    : s.writer = l.pending.map (fun es => replay es (l.committed b₀))

/-! ## One turn -/

namespace Kept

variable {s : Store} {l : Ledger}

/-- **One turn keeps a store in step** with its ledger. -/
theorem turn (h : Kept b₀ s l) (t : Turn γ) : Kept b₀ (s.turn x t) (l.turn x b₀ t) := by
  obtain ⟨commits, pending⟩ := l
  obtain ⟨committed, writer, readers⟩ := s
  obtain ⟨rfl, rfl⟩ := h
  cases t with
  | beginRead name => exact ⟨rfl, rfl⟩
  | beginWrite => cases pending <;> exact ⟨rfl, rfl⟩
  | alone task =>
    cases pending with
    | some es => exact ⟨rfl, rfl⟩
    | none =>
      have hedits := task.replay_edits x (Ledger.committed b₀ ⟨commits, none⟩)
      simp only [Store.turn, Ledger.turn, Store.alone]
      rcases hrun : (task.run x).runOn (Ledger.committed b₀ ⟨commits, none⟩) with ⟨e | u, b⟩
      · exact ⟨rfl, rfl⟩
      · rw [hrun] at hedits
        exact ⟨by rw [Ledger.committed_append]; exact hedits.symm, rfl⟩
  | inside task =>
    cases pending with
    | none => exact ⟨rfl, rfl⟩
    | some es =>
      have hedits := task.replay_edits x (replay es (Ledger.committed b₀ ⟨commits, some es⟩))
      rw [← replay_append] at hedits
      exact ⟨rfl, congrArg some hedits.symm⟩
  | commit =>
    cases pending with
    | none => exact ⟨by simp [Store.turn, Store.commit, Ledger.turn], rfl⟩
    | some es => exact ⟨(Ledger.committed_append b₀ commits es none).symm, rfl⟩
  | rollback => exact ⟨rfl, rfl⟩

theorem foldl : ∀ (ts : List (Turn γ)) {s : Store} {l : Ledger}, Kept b₀ s l →
    Kept b₀ (ts.foldl (Store.turn x) s) (ts.foldl (Ledger.turn x b₀) l)
  | [],      _, _, h => h
  | t :: ts, _, _, h => foldl ts (h.turn t)

/-- **All turns keep a store in step** with its ledger. -/
theorem turns (x : Executor γ) (b₀ : Buckets) (ts : List (Turn γ)) :
    Kept b₀ (Store.turns x b₀ ts) (Ledger.turns x b₀ ts) := foldl ts ⟨rfl, rfl⟩

end Kept

/-! ## Readers -/

namespace Store

theorem lookup_filter_ne {ν : Type} {a name : String} (h : name ≠ a) : ∀ l : List (String × ν),
    (l.filter (fun r => r.1 != a)).lookup name = l.lookup name
  | []          => rfl
  | (k, v) :: l => by
    have ih := lookup_filter_ne h l
    by_cases hk : k = a
    · subst hk
      rw [List.filter_cons_of_neg (by simp), ih, List.lookup_cons, beq_eq_false_iff_ne.2 h]
    · rw [List.filter_cons_of_pos (by simpa using hk), List.lookup_cons, List.lookup_cons, ih]

/-- A reader keeps its state through every turn that does not open another one of its name. -/
theorem reader?_turn {s : Store} {name : String} {t : Turn γ} (h : t ≠ .beginRead name) :
    (s.turn x t).reader? name = s.reader? name := by
  cases t with
  | beginRead a =>
    have ha : name ≠ a := fun he => h (by rw [he])
    show ((a, s.committed) :: _).lookup name = _
    rw [List.lookup_cons, beq_eq_false_iff_ne.2 ha]
    exact lookup_filter_ne ha s.readers
  | beginWrite =>
    unfold turn
    simp only
    split <;> rfl
  | alone task =>
    unfold turn alone
    simp only
    split
    · rfl
    · rcases (task.run x).runOn s.committed with ⟨e | u, b⟩ <;> rfl
  | inside task =>
    unfold turn inside
    cases s.writer <;> rfl
  | commit =>
    unfold turn commit
    cases s.writer <;> rfl
  | rollback => rfl

theorem reader?_foldl {name : String} : ∀ {ts : List (Turn γ)} {s : Store}, .beginRead name ∉ ts →
    (ts.foldl (turn x) s).reader? name = s.reader? name
  | [],      _, _ => rfl
  | t :: ts, s, h => by
    rw [List.foldl_cons, reader?_foldl (fun hm => h (List.mem_cons_of_mem _ hm)),
      reader?_turn (fun he => h (he ▸ List.mem_cons_self))]

theorem reader?_beginRead (s : Store) (name : String) : (s.beginRead name).reader? name = some s.committed := by
  show ((name, s.committed) :: _).lookup name = _
  rw [List.lookup_cons, beq_self_eq_true]

/-! ## Writers -/

/-- As long as a write transaction is open nothing is committed, and it stays open until it is committed or rolled
back. -/
theorem committed_turn {s : Store} (hw : s.writer.isSome = true) {t : Turn γ} (hc : t ≠ .commit) (hr : t ≠ .rollback) :
    (s.turn x t).committed = s.committed ∧ (s.turn x t).writer.isSome = true := by
  obtain ⟨b, hb⟩ := Option.isSome_iff_exists.1 hw
  cases t with
  | beginRead name => exact ⟨rfl, hw⟩
  | beginWrite =>
    have hwait : s.turn x .beginWrite = s := if_pos hw
    rw [hwait]
    exact ⟨rfl, hw⟩
  | alone task =>
    have hwait : s.turn x (.alone task) = s := if_pos hw
    rw [hwait]
    exact ⟨rfl, hw⟩
  | inside task =>
    unfold turn inside
    rw [hb]
    exact ⟨rfl, rfl⟩
  | commit => exact absurd rfl hc
  | rollback => exact absurd rfl hr

theorem committed_foldl : ∀ {ts : List (Turn γ)} {s : Store}, s.writer.isSome = true → .commit ∉ ts → .rollback ∉ ts →
    (ts.foldl (turn x) s).committed = s.committed ∧ (ts.foldl (turn x) s).writer.isSome = true
  | [],      _, hw, _,  _  => ⟨rfl, hw⟩
  | t :: ts, s, hw, hc, hr => by
    obtain ⟨h1, h2⟩ := committed_turn (x := x) (t := t) hw (fun he => hc (he ▸ List.mem_cons_self))
      (fun he => hr (he ▸ List.mem_cons_self))
    obtain ⟨h3, h4⟩ := committed_foldl h2 (fun hm => hc (List.mem_cons_of_mem _ hm))
      (fun hm => hr (List.mem_cons_of_mem _ hm))
    exact ⟨h3.trans h1, h4⟩

theorem turns_append (x : Executor γ) (b₀ : Buckets) (l : List (Turn γ)) (t : Turn γ) (l' : List (Turn γ)) :
    turns x b₀ (l ++ t :: l') = l'.foldl (turn x) ((turns x b₀ l).turn x t) := by
  rw [turns, List.foldl_append, List.foldl_cons]
  rfl

/-! ## Whole runs -/

/-- **Transactions are isolated, and all or nothing.**  The committed state is what the edits of the committed
transactions lead to, in the order of their commits, those before a failing call included.  A reader keeps the committed
state at its opening, whatever happens later.  A writer sees the committed state at its opening with its own edits made
to it so far, and until it is committed nobody else does. -/
theorem isolated (x : Executor γ) (b₀ : Buckets) (l : List (Turn γ)) :
    (turns x b₀ l).committed = replay (Ledger.turns x b₀ l).commits.flatten b₀ ∧
      (∀ before name after, l = before ++ .beginRead name :: after → .beginRead name ∉ after →
        (turns x b₀ l).reader? name = some (turns x b₀ before).committed) ∧
      ∀ before after, l = before ++ .beginWrite :: after → (turns x b₀ before).writer = none →
        .commit ∉ after → .rollback ∉ after →
          (turns x b₀ l).committed = (turns x b₀ before).committed ∧
            ∃ es, (Ledger.turns x b₀ l).pending = some es ∧
              (turns x b₀ l).writer = some (replay es (turns x b₀ before).committed) := by
  have hkept := Kept.turns x b₀ l
  refine ⟨hkept.committed, ?_, ?_⟩
  · rintro before name after rfl hn
    rw [turns_append, reader?_foldl hn]
    exact reader?_beginRead _ name
  · rintro before after rfl hw hc hr
    have hopened : (turns x b₀ before).turn x (.beginWrite : Turn γ) = (turns x b₀ before).beginWrite := by
      unfold turn
      simp only [hw]
      rfl
    obtain ⟨hsame, hopen⟩ := committed_foldl (x := x) (s := (turns x b₀ before).beginWrite) rfl hc hr
    rw [← hopened, ← turns_append] at hsame hopen
    rw [hopened] at hsame
    have hwriter := hkept.writer
    rw [← hkept.committed] at hwriter
    refine ⟨hsame, ?_⟩
    cases hp : (Ledger.turns x b₀ (before ++ .beginWrite :: after)).pending with
    | none =>
      rw [hp] at hwriter
      rw [hwriter] at hopen
      cases hopen
    | some es =>
      rw [hp, Option.map_some, hsame] at hwriter
      exact ⟨es, rfl, hwriter⟩

/-- Of two write transactions the first is committed although a call in it failed midway, and the second is rolled back.
One reader was opened before its calls and one after them. -/
theorem isolated_contacts :
    let l : List (Turn UserValue) := [
      .alone (.call (.insert Sample.contact.type Sample.firstKey Sample.timothy)), .beginRead "before", .beginWrite,
      .inside (.call (.insert Sample.contact.type Sample.secondKey Sample.otherTimothy)),
      .inside (.call (.update Sample.contact.type Sample.firstKey Sample.nameless)), .beginRead "meanwhile",
      .inside (.edit (.put "Notes" [1] [7])), .inside (.edit (.put "Notes" [] [7])), .commit, .beginWrite,
      .inside (.call (.deleteMatching Sample.contact.type none)), .rollback,
      .alone (.call (.update Sample.contact.type Sample.firstKey Sample.nameless))]
    let s := turns Sample.stepwise SortedMap.empty l
    s.committed = replay (Ledger.turns Sample.stepwise SortedMap.empty l).commits.flatten SortedMap.empty ∧
      (Ledger.turns Sample.stepwise SortedMap.empty l).commits.map List.length = [3, 8] ∧
      s.committed.rows Sample.contact.type .binary [1] = some Sample.nameless ∧
      s.reader? "before" = some (turns Sample.stepwise SortedMap.empty (l.take 1)).committed ∧
      s.reader? "meanwhile" = some (turns Sample.stepwise SortedMap.empty (l.take 5)).committed ∧
      (turns Sample.stepwise SortedMap.empty (l.take 5)).committed.rows Sample.contact.type .binary [1] =
        some Sample.timothy ∧
      ∃ es, (turns Sample.stepwise SortedMap.empty (l.take 8)).writer =
        some (replay es (turns Sample.stepwise SortedMap.empty (l.take 2)).committed) ∧ es.length = 8 := by
  intro l s
  obtain ⟨hcommitted, hreader, -⟩ := isolated Sample.stepwise SortedMap.empty l
  obtain ⟨-, es, hes, hwriter⟩ := (isolated Sample.stepwise SortedMap.empty (l.take 8)).2.2 (l.take 2)
    ((l.take 8).drop 3) rfl rfl (by simp [l]) (by simp [l])
  have hlen : (Ledger.turns Sample.stepwise SortedMap.empty (l.take 8)).pending.map List.length = some 8 := by
    decide +kernel
  rw [hes] at hlen
  exact ⟨hcommitted, by decide +kernel, by decide +kernel,
    hreader (l.take 1) "before" (l.drop 2) rfl (by simp [l]),
    hreader (l.take 5) "meanwhile" (l.drop 6) rfl (by simp [l]), by decide +kernel, es, hwriter, Option.some.inj hlen⟩

end Store
end RecordHold
