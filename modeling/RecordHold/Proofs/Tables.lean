import RecordHold.Proofs.Operations
/-!
# Proofs.Tables — a finite map that answers requests

What a hold is to a caller who works with the records of one type: a finite map from encoded keys to records (`Table`),
which answers one request after another (`Table.serve`).  What is under a key in the end is the record of the last write
of that key that succeeded (`get?_serveAll`).
-/
namespace RecordHold

open Std Buckets

variable {γ : Type} [Custom γ] {T : RecordType γ} {c : Codec} {x : Executor γ}

/-! ## Tables -/

/-- **The records of a type by encoded key.** -/
abbrev Table (T : RecordType γ) := SortedMap Bytes (Record T)

/-- The encoded key, if an entry may be under it. -/
def address (x : Executor γ) (T : RecordType γ) (key : Key) : Except HoldError Bytes :=
  match key.encode x.codec with
  | .error e => .error (.codec e)
  | .ok k    =>
    if T.bucket = "" then .error (.store .emptyBucketName)
    else if k = [] then .error (.store .emptyKey)
    else .ok k

namespace Table

/-- Put a record in, unless it has an indexed field that is absent or custom. -/
def put (m : Table T) (k : Bytes) (r : Record T) : Except HoldError (Table T) :=
  match r.indexing with
  | .error e => .error (.index e)
  | .ok _    => .ok (m.insert k r)

/-- A write under an encoded key. -/
def performAt (m : Table T) (k : Bytes) (op : Operation T) : Except HoldError (Table T) :=
  match op, m.get? k with
  | .insert _ r, none   => m.put k r
  | .insert _ _, some _ => .error .keyExists
  | .update _ r, some _ => m.put k r
  | .update _ _, none   => .error .notFound
  | .upsert _ r, _      => m.put k r
  | .delete _,   some _ => .ok (m.erase k)
  | .delete _,   none   => .error .notFound

def perform (x : Executor γ) (m : Table T) (op : Operation T) : Except HoldError (Table T) := do
  m.performAt (← address x T op.key) op

end Table

/-! ## Requests -/

/-- What a caller asks of a hold about the records of a type. -/
inductive Request (T : RecordType γ) where
  | write (op : Operation T)
  | get (key : Key)

/-- What a hold answers if all is well. -/
inductive Reply (T : RecordType γ) where
  | done
  | found (r : Option (Record T))

/-- Answers are compared by what they hold, if records can be compared. -/
instance [DecidableEq (Record T)] : DecidableEq (Reply T)
  | .done,    .done     => isTrue rfl
  | .found r, .found r' => decidable_of_iff (r = r') ⟨congrArg _, Reply.found.inj⟩
  | .done,    .found _  => isFalse (fun h => by cases h)
  | .found _, .done     => isFalse (fun h => by cases h)

namespace Request

def key : Request T → Key
  | write op => op.key
  | get key  => key

/-- A codec stores and keeps the record handed over, if there is one. -/
def Kept (c : Codec) : Request T → Prop
  | write op => op.Kept c
  | get _    => True

/-- The encoded key, if it can be encoded. -/
def encoded (c : Codec) (request : Request T) : Option Bytes := (request.key.encode c).toOption

end Request

/-- A table answers a request; one that fails leaves it as it was. -/
def Table.serve (x : Executor γ) (m : Table T) : Request T → Except HoldError (Reply T) × Table T
  | .write op =>
    match m.perform x op with
    | .ok m'   => (.ok .done, m')
    | .error e => (.error e, m)
  | .get key  => ((address x T key).map (fun k => .found (m.get? k)), m)

/-- The answers to one request after another, and what is left. -/
def serveAll {σ : Type} (serve : σ → Request T → Except HoldError (Reply T) × σ) (s : σ) :
    List (Request T) → List (Except HoldError (Reply T)) × σ
  | []                  => ([], s)
  | request :: requests =>
    let (answer, s) := serve s request
    let (answers, s) := serveAll serve s requests
    (answer :: answers, s)

/-! ## What a table answers -/

omit [Custom γ] in
theorem address_of_error {key : Key} {e : CodecError} (hkey : key.encode x.codec = .error e) :
    address x T key = .error (.codec e) := by
  unfold address
  rw [hkey]

omit [Custom γ] in
theorem address_of_unnamed {key : Key} {k : Bytes} {e : StoreError} (hkey : key.encode x.codec = .ok k)
    (hnames : checkNames T.bucket k = .error e) : address x T key = .error (.store e) := by
  unfold address
  unfold checkNames at hnames
  rw [hkey]
  simp only
  by_cases hT : T.bucket = ""
  · rw [if_pos hT] at hnames ⊢
    cases hnames
    rfl
  · rw [if_neg hT] at hnames ⊢
    by_cases hk : k = []
    · rw [if_pos hk] at hnames ⊢
      cases hnames
      rfl
    · rw [if_neg hk] at hnames
      cases hnames

omit [Custom γ] in
theorem address_of_named {key : Key} {k : Bytes} (hkey : key.encode x.codec = .ok k)
    (hnames : checkNames T.bucket k = .ok ()) : address x T key = .ok k := by
  obtain ⟨hT, hk⟩ := checkNames_eq_ok hnames
  unfold address
  rw [hkey]
  simp only
  rw [if_neg hT, if_neg hk]

namespace Table

variable {m m' : Table T} {op : Operation T} {k : Bytes}

/-- A table with a record or none under a key. -/
def leave (m : Table T) (k : Bytes) : Option (Record T) → Table T
  | some r => m.insert k r
  | none   => m.erase k

omit [Custom γ] in
theorem get?_leave (m : Table T) (k : Bytes) (o : Option (Record T)) (j : Bytes) :
    (m.leave k o).get? j = if j = k then o else m.get? j := by
  cases o with
  | some r =>
    rw [leave, SortedMap.get?_insert]
    simp only [LawfulEqCmp.compare_eq_iff_eq]
  | none =>
    rw [leave, SortedMap.get?_erase]
    simp only [LawfulEqCmp.compare_eq_iff_eq]

theorem perform_of_error {e : HoldError} (ha : address x T op.key = .error e) : m.perform x op = .error e := by
  unfold perform
  rw [ha]
  rfl

theorem perform_of_ok (ha : address x T op.key = .ok k) : m.perform x op = m.performAt k op := by
  unfold perform
  rw [ha]
  rfl

theorem performAt_taken (hasks : op.asks = some false) (hm : (m.get? k).isSome = true) :
    m.performAt k op = .error .keyExists := by
  obtain ⟨r', hr'⟩ := Option.isSome_iff_exists.1 hm
  cases op <;> simp [performAt, hr'] <;> cases hasks

theorem performAt_missing (hasks : op.asks = some true) (hm : m.get? k = none) :
    m.performAt k op = .error .notFound := by
  cases op <;> simp [performAt, hm] <;> cases hasks

/-- A write that gets past the checks fails if the new record cannot be indexed. -/
theorem performAt_changed (hasks : ∀ there, op.asks = some there → (m.get? k).isSome = there) :
    m.performAt k op =
      match op.indexing with
      | .error e => .error (.index e)
      | .ok _    => .ok (m.leave k op.record?) := by
  unfold performAt
  cases op with
  | insert key r =>
    have hnone : m.get? k = none := by simpa using hasks false rfl
    rw [hnone]
    rfl
  | update key r =>
    obtain ⟨old, hold⟩ := Option.isSome_iff_exists.1 (hasks true rfl)
    rw [hold]
    rfl
  | upsert key r => rfl
  | delete key =>
    obtain ⟨old, hold⟩ := Option.isSome_iff_exists.1 (hasks true rfl)
    rw [hold]
    rfl

theorem serve_of_error {e : HoldError} (hm : m.perform x op = .error e) : m.serve x (.write op) = (.error e, m) := by
  simp only [serve, hm]

theorem serve_of_ok (hm : m.perform x op = .ok m') : m.serve x (.write op) = (.ok .done, m') := by
  simp only [serve, hm]

theorem put_eq_ok {r : Record T} (hm : m.put k r = .ok m') : m' = m.leave k (some r) := by
  unfold put at hm
  split at hm
  · cases hm
  · exact (Except.ok.inj hm).symm

theorem performAt_eq_ok (hm : m.performAt k op = .ok m') : m' = m.leave k op.record? := by
  unfold performAt at hm
  split at hm
  · exact put_eq_ok hm
  · cases hm
  · exact put_eq_ok hm
  · cases hm
  · exact put_eq_ok hm
  · exact (Except.ok.inj hm).symm
  · cases hm

/-- A write that succeeds leaves its record, or none, under its key. -/
theorem perform_eq_ok (hm : m.perform x op = .ok m') :
    ∃ k, op.key.encode x.codec = .ok k ∧ m' = m.leave k op.record? := by
  cases hkey : op.key.encode x.codec with
  | error e =>
    rw [perform_of_error (address_of_error hkey)] at hm
    cases hm
  | ok k =>
    cases hnames : checkNames T.bucket k with
    | error e =>
      rw [perform_of_error (address_of_unnamed hkey hnames)] at hm
      cases hm
    | ok u =>
      rw [perform_of_ok (address_of_named hkey hnames)] at hm
      exact ⟨k, rfl, performAt_eq_ok hm⟩

end Table

/-! ## The last write -/

/-- What a request with its answer leaves under a key, where something was found before: the record of a write of that
key, if it succeeded. -/
def leaves (c : Codec) (k : Bytes) (found : Option (Record T)) :
    Request T × Except HoldError (Reply T) → Option (Record T)
  | (.write op, .ok _) => if op.key.encode c = .ok k then op.record? else found
  | _                  => found

/-- The record of the last write of a key that succeeded, or none if that was a deletion or there was none. -/
def latest (c : Codec) (k : Bytes) (served : List (Request T × Except HoldError (Reply T))) : Option (Record T) :=
  served.foldl (leaves c k) none

namespace Table

/-- One request leaves in a table what it says. -/
theorem get?_serve (m : Table T) (request : Request T) (k : Bytes) :
    (m.serve x request).2.get? k = leaves x.codec k (m.get? k) (request, (m.serve x request).1) := by
  cases request with
  | get key => rfl
  | write op =>
    cases hm : m.perform x op with
    | error e =>
      rw [serve_of_error hm]
      rfl
    | ok m' =>
      obtain ⟨k', hkey, rfl⟩ := perform_eq_ok hm
      rw [serve_of_ok hm, get?_leave, leaves, hkey]
      by_cases hk : k = k'
      · rw [if_pos hk, if_pos (by rw [hk])]
      · rw [if_neg hk, if_neg (fun he => hk (Except.ok.inj he).symm)]

/-- **What is under a key in the end** is what the requests left there, one after the other. -/
theorem get?_serveAll (k : Bytes) : ∀ (requests : List (Request T)) (m : Table T),
    (RecordHold.serveAll (Table.serve x) m requests).2.get? k =
      (requests.zip (RecordHold.serveAll (Table.serve x) m requests).1).foldl (leaves x.codec k) (m.get? k)
  | [],                  _ => rfl
  | request :: requests, m => by
    have ih := get?_serveAll k requests (m.serve x request).2
    rw [get?_serve] at ih
    exact ih

end Table
end RecordHold
