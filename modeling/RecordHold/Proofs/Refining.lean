import RecordHold.Proofs.Portions
import RecordHold.Proofs.Tables
/-!
# Proofs.Refining — a hold refines a finite map

A state of the store represents a table if it is consistent and has the table's records (`Represents`).  One request
keeps that, and is answered as the table answers it (`Represents.serve`); so is a whole run from the empty hold
(`refines_table`).
-/
namespace RecordHold

open Std Buckets

variable {γ : Type} [Custom γ] {T : RecordType γ} {c : Codec} {x : Executor γ}

/-! ## What a store answers -/

namespace Store

variable {s : Store} {op : Operation T} {b' : Buckets}

/-- A store answers a request: a write in a transaction of its own, a reading from the committed state. -/
def serve (x : Executor γ) (s : Store) : Request T → Except HoldError (Reply T) × Store
  | .write op => ((s.alone (op.run x)).1.map (fun _ => .done), (s.alone (op.run x)).2)
  | .get key  => ((Hold.get x T key s.committed).map .found, s)

theorem serve_of_error {e : HoldError} (hrun : (op.run x).runOn s.committed = (.error e, b')) :
    s.serve x (.write op) = (.error e, s) := by
  simp only [serve, alone, hrun]
  rfl

theorem serve_of_ok {u : Unit} (hrun : (op.run x).runOn s.committed = (.ok u, b')) :
    s.serve x (.write op) = (.ok .done, { s with committed := b' }) := by
  simp only [serve, alone, hrun]
  rfl

/-- **A request that fails leaves the committed state as it was**, whatever it is. -/
theorem committed_of_error {request : Request T} {e : HoldError} (h : (s.serve x request).1 = .error e) :
    (s.serve x request).2.committed = s.committed := by
  cases request with
  | get key => rfl
  | write op =>
    rcases hrun : (op.run x).runOn s.committed with ⟨e | u, b'⟩
    · rw [serve_of_error hrun]
    · rw [serve_of_ok hrun] at h
      cases h

end Store

/-! ## Stores and tables -/

/-- **A state of a store represents a table**: it is consistent, and has the records of the table; all of its keys are
among some. -/
structure Represents (T : RecordType γ) (c : Codec) (keys : List Bytes) (b : Buckets) (m : Table T) : Prop where
  consistent : Consistent T c b
  named      : b.Named
  rows       : ∀ k, b.rows T c k = m.get? k
  keys       : ∀ k, m.get? k ≠ none → k ∈ keys

theorem represents_empty {keys : List Bytes} : Represents T c keys SortedMap.empty SortedMap.empty where
  consistent := consistent_empty
  named _ h := nomatch h
  rows _ := rfl
  keys _ h := absurd rfl h

namespace Represents

variable {keys : List Bytes} {b : Buckets} {m m' : Table T} {op : Operation T} {k : Bytes}

/-- In a consistent state an entry is a record. -/
theorem value?_eq_none (h : Represents T c keys b m) (k : Bytes) : b.value? T.bucket k = none ↔ m.get? k = none := by
  rw [← h.rows]
  refine ⟨rows_of_none, fun hr => ?_⟩
  cases hv : b.value? T.bucket k with
  | none => rfl
  | some raw =>
    obtain ⟨r, hd, -⟩ := h.consistent.readable k raw hv
    rw [rows_eq_some.2 ⟨raw, hv, hd⟩] at hr
    cases hr

theorem isSome_value? (h : Represents T c keys b m) (k : Bytes) :
    (b.value? T.bucket k).isSome = (m.get? k).isSome := by
  have hnone := h.value?_eq_none k
  cases hv : b.value? T.bucket k <;> cases hm : m.get? k <;> simp_all

theorem mem_keys (h : Represents T c keys b m) {k : Bytes} (hk : b.rows T c k ≠ none) : k ∈ keys :=
  h.keys k (by rw [← h.rows]; exact hk)

theorem sound (h : Represents T c keys b m) (hs : Sized keys) : Sound T c b := by
  refine ⟨h.consistent, h.named, hs.of_subset (b.bucket T.bucket).rising_keys (fun k hk => h.keys k ?_)⟩
  obtain ⟨raw, hv⟩ := (b.bucket T.bucket).mem_keys.1 hk
  rw [Ne, ← h.value?_eq_none, show b.value? T.bucket k = some raw from hv]
  exact Option.some_ne_none raw

/-- The keys after the change of the bucket are still sized. -/
theorem sized_change (h : Represents T x.codec keys b m) (hs : Sized keys) (hk : k ∈ keys) {n : Buckets}
    (hm : op.change x k b = .ok n) : Sized (n.bucket T.bucket).keys := by
  refine hs.of_subset (n.bucket T.bucket).rising_keys (fun j hj => ?_)
  obtain ⟨raw, hv⟩ := (n.bucket T.bucket).mem_keys.1 hj
  by_cases he : j = k
  · rw [he]
    exact hk
  · refine h.keys j (fun hnone => ?_)
    have hvj := (Operation.change_spec hm).2 j
    rw [if_neg he, (h.value?_eq_none j).2 hnone, show n.value? T.bucket j = some raw from hv] at hvj
    cases hvj

/-- **A write that gets past the checks** fails if its record cannot be indexed, and else leads to a state that
represents the table with the same change. -/
theorem changed (h : Represents T x.codec keys b m) (hs : Sized keys) (hk : k ∈ keys)
    (hkept : op.Kept x.codec)
    (hasks : ∀ there, op.asks = some there → (b.value? T.bucket k).isSome = there) {n : Buckets}
    (hm : op.change x k b = .ok n) :
    ((op.reindex x.codec k (b.rows T x.codec k)).runOn n).1 = op.indexing ∧
      (op.indexing = .ok () → Represents T x.codec keys ((op.reindex x.codec k (b.rows T x.codec k)).runOn n).2
        (m.leave k op.record?)) := by
  obtain ⟨n', hre, -⟩ := Operation.reindex_butFor h.consistent hs (fun _ hj => h.mem_keys hj) hk hm
  have hentries := Operation.value?_reindex (c := x.codec) (k := k) (m := n) (b.rows T x.codec k) op
  rw [hre] at hentries ⊢
  refine ⟨rfl, fun hi => ?_⟩
  have hrows : ∀ j, n'.rows T x.codec j = (m.leave k op.record?).get? j := by
    intro j
    rw [Buckets.rows, hentries, Table.get?_leave, ← h.rows]
    exact Operation.rows_change hkept hm j
  have hkeys : ∀ j, (m.leave k op.record?).get? j ≠ none → j ∈ keys := by
    intro j hj
    rw [Table.get?_leave] at hj
    by_cases he : j = k
    · rw [he]
      exact hk
    · rw [if_neg he] at hj
      exact h.keys j hj
  suffices hc : Consistent T x.codec n' ∧ n'.Named from ⟨hc.1, hc.2, hrows, hkeys⟩
  have hsized := h.sized_change hs hk hm
  replace hm := Operation.change_eq_ok hm
  unfold Operation.reindex at hre
  unfold Operation.indexing at hi
  cases hr : op.record? with
  | some r =>
    simp only [hr] at hre hm hi
    obtain ⟨raw, hraw, hput⟩ := hm
    obtain ⟨raw', hraw', hread⟩ := hkept r hr
    obtain rfl : raw = raw' := Except.ok.inj (hraw.symm.trans hraw')
    obtain ⟨n'', hrun, hc, hn, -⟩ := h.consistent.put hput hread (Record.indexing_eq_ok.1 hi) hsized
    rw [hrun] at hre
    obtain rfl := (Prod.mk.inj hre).2
    exact ⟨hc, hn h.named⟩
  | none =>
    obtain ⟨raw, hv⟩ := Option.isSome_iff_exists.1 (hasks true (Operation.asks_of_none hr))
    obtain ⟨r, hd, -⟩ := h.consistent.readable k raw hv
    have hrow := rows_eq_some.2 ⟨raw, hv, hd⟩
    obtain ⟨n₁, n'', hrem, hrun, hc, hn, -⟩ := h.consistent.remove h.named (h.sound hs).sized hrow
    simp only [hr, hrow] at hre hm
    rw [hrem] at hm
    cases hm
    rw [hrun] at hre
    obtain rfl := (Prod.mk.inj hre).2
    exact ⟨hc, hn⟩

/-- **A write is answered alike** by a store and by the table it represents, and what it leaves represents what it
leaves of the table. -/
theorem run (h : Represents T x.codec keys b m) (hs : Sized keys)
    (hkept : op.Kept x.codec) (hkey : ∀ k, op.key.encode x.codec = .ok k → k ∈ keys) :
    ((op.run x).runOn b).1 = (m.perform x op).map (fun _ => ()) ∧
      ∀ m', m.perform x op = .ok m' → Represents T x.codec keys ((op.run x).runOn b).2 m' := by
  have hexit := op.exits x b
  generalize (op.run x).runOn b = res at hexit ⊢
  cases hexit with
  | @unstorable e hkey' =>
    have ha : address x T op.key = .error (.codec e) := address_of_error hkey'
    rw [Table.perform_of_error ha]
    exact ⟨rfl, nofun⟩
  | @unnamed k e hkey' hnames =>
    have ha : address x T op.key = .error (.store e) := address_of_unnamed hkey' hnames
    rw [Table.perform_of_error ha]
    exact ⟨rfl, nofun⟩
  | @taken k hkey' hnames hasks hv =>
    have ha : address x T op.key = .ok k := address_of_named hkey' hnames
    have hthere := (h.isSome_value? k).symm.trans (Option.isSome_iff_ne_none.2 hv)
    rw [Table.perform_of_ok ha, Table.performAt_taken hasks hthere]
    exact ⟨rfl, nofun⟩
  | @missing k hkey' hnames hasks hv =>
    have ha : address x T op.key = .ok k := address_of_named hkey' hnames
    rw [Table.perform_of_ok ha, Table.performAt_missing hasks ((h.value?_eq_none k).1 hv)]
    exact ⟨rfl, nofun⟩
  | @unreadable k raw e hkey' hnames hasks hv hr =>
    -- in a consistent state every entry can be read
    obtain ⟨r, hd, -⟩ := h.consistent.readable k raw hv
    rw [hd] at hr
    cases hr
  | @unwritable k r e hkey' hnames hasks hr he =>
    obtain ⟨raw, hraw, -⟩ := hkept r hr
    rw [hraw] at he
    cases he
  | @changed k n hkey' hnames hasks hm =>
    have ha : address x T op.key = .ok k := address_of_named hkey' hnames
    obtain ⟨hans, hrep⟩ := h.changed hs (hkey k hkey') hkept hasks hm
    rw [h.isSome_value? k] at hasks
    rw [Table.perform_of_ok ha, Table.performAt_changed hasks, hans]
    cases hi : op.indexing with
    | error i => exact ⟨rfl, nofun⟩
    | ok u =>
      refine ⟨rfl, fun m' hm' => ?_⟩
      cases hm'
      exact hrep hi

/-- **A record is read** as it is in the table. -/
theorem get (h : Represents T x.codec keys b m) (key : Key) :
    Hold.get x T key b = (address x T key).map (fun k => m.get? k) := by
  unfold Hold.get Hold.encodeKey
  cases hkey : key.encode x.codec with
  | error e =>
    rw [address_of_error hkey]
    rfl
  | ok k =>
    change Hold.load x T k b = _
    cases hnames : checkNames T.bucket k with
    | error e =>
      rw [Hold.load_of_error hnames, address_of_unnamed hkey hnames]
      rfl
    | ok u =>
      rw [Hold.load_of_ok hnames, address_of_named hkey hnames, Except.map, ← h.rows]
      cases hv : b.value? T.bucket k with
      | none => rw [rows_of_none hv]
      | some raw =>
        obtain ⟨r, hd, -⟩ := h.consistent.readable k raw hv
        rw [rows_eq_some.2 ⟨raw, hv, hd⟩]
        simp only [hd]
        rfl

/-- **Without a query all records are found**, in the order of their keys. -/
theorem find_none (h : Represents T x.codec keys b m) (hs : Sized keys) (hT : T.bucket ≠ "") :
    Hold.find x T none b = .ok (m.entries.map Prod.snd) := by
  obtain ⟨s', part, hrun, hA⟩ := Executor.select_node_of_answers (x := x) (q := Query.empty) (s := ⟨.empty, []⟩)
    (h.sound hs) ⟨nofun, nofun⟩ hT Rising.nil (fun _ _ _ _ _ => ⟨true, rfl⟩)
  have hpart : part = m.entries := by
    refine Ascending.ext hA.ordered m.ascending (fun ⟨k, r⟩ => ?_)
    rw [hA.members, m.mem_entries, ← h.rows]
    exact ⟨fun hm => hm.2.1, fun hr => ⟨List.not_mem_nil, hr, nofun⟩⟩
  have hselect : x.select T b none ⟨.empty, []⟩ = (.ok (), s') := by
    unfold Query.empty at hrun
    unfold Executor.select Executor.orAll Answer.done
    rw [Option.getD_none, Query.empty, Visitor.traverse, hrun]
    rfl
  unfold Hold.find
  rw [hselect]
  exact congrArg Except.ok (by rw [hA.records, hpart]; rfl)

/-- **One request** is answered alike by a store and by the table its committed state represents. -/
theorem serve {s : Store} (h : Represents T x.codec keys s.committed m) (hs : Sized keys) {request : Request T}
    (hkept : request.Kept x.codec) (hkey : ∀ k, request.key.encode x.codec = .ok k → k ∈ keys) :
    (s.serve x request).1 = (m.serve x request).1 ∧
      Represents T x.codec keys (s.serve x request).2.committed (m.serve x request).2 := by
  cases request with
  | get key =>
    refine ⟨?_, h⟩
    unfold Store.serve Table.serve
    simp only [h.get]
    cases address x T key <;> rfl
  | write op =>
    obtain ⟨hans, hrep⟩ := h.run hs hkept hkey
    rcases hrun : (op.run x).runOn s.committed with ⟨e | u, b'⟩
    · rw [hrun] at hans
      cases hm : m.perform x op with
      | error e' =>
        rw [hm] at hans
        cases hans
        rw [Store.serve_of_error hrun, Table.serve_of_error hm]
        exact ⟨rfl, h⟩
      | ok m' =>
        rw [hm] at hans
        cases hans
    · rw [hrun] at hans hrep
      cases hm : m.perform x op with
      | error e' =>
        rw [hm] at hans
        cases hans
      | ok m' =>
        rw [Store.serve_of_ok hrun, Table.serve_of_ok hm]
        exact ⟨rfl, hrep m' hm⟩

/-- **All requests** are answered alike. -/
theorem serveAll : ∀ {requests : List (Request T)} {s : Store} {m : Table T}, Represents T x.codec keys s.committed m →
    Sized keys → (∀ request ∈ requests, request.Kept x.codec) →
    (∀ request ∈ requests, ∀ k, request.key.encode x.codec = .ok k → k ∈ keys) →
    (RecordHold.serveAll (Store.serve x) s requests).1 = (RecordHold.serveAll (Table.serve x) m requests).1 ∧
      Represents T x.codec keys (RecordHold.serveAll (Store.serve x) s requests).2.committed
        (RecordHold.serveAll (Table.serve x) m requests).2
  | [],                  _, _, h, _,  _,     _    => ⟨rfl, h⟩
  | request :: requests, s, m, h, hs, hkept, hkey => by
    obtain ⟨hans, hrep⟩ := h.serve hs (hkept request List.mem_cons_self) (hkey request List.mem_cons_self)
    obtain ⟨hrest, hlast⟩ := hrep.serveAll hs (fun r hr => hkept r (List.mem_cons_of_mem _ hr))
      (fun r hr => hkey r (List.mem_cons_of_mem _ hr))
    exact ⟨List.cons_eq_cons.2 ⟨hans, hrest⟩, hlast⟩

end Represents

/-! ## Whole runs -/

namespace Store

/-- **A hold refines a finite map.** From the empty hold a run of requests, with records that the codec keeps, is
answered as by a table.  After it, reading gives the record of the last write of the key that succeeded, if that was no
deletion; finding all gives the records of the table in the order of their keys; and a request that fails changes
nothing. -/
theorem refines_table (x : Executor γ) (T : RecordType γ) (requests : List (Request T))
    (hkept : ∀ request ∈ requests, request.Kept x.codec)
    (hsized : Sized (requests.filterMap (Request.encoded x.codec))) :
    let hold := serveAll (Store.serve x) Store.empty requests
    let table := serveAll (Table.serve x) SortedMap.empty requests
    hold.1 = table.1 ∧
      (∀ key, Hold.get x T key hold.2.committed =
        (address x T key).map (fun k => latest x.codec k (requests.zip hold.1))) ∧
      (T.bucket ≠ "" → Hold.find x T none hold.2.committed = .ok (table.2.entries.map Prod.snd)) ∧
      ∀ (request : Request T) (e : HoldError), (hold.2.serve x request).1 = .error e →
        (hold.2.serve x request).2.committed = hold.2.committed := by
  intro hold table
  have hkey : ∀ request ∈ requests, ∀ k, request.key.encode x.codec = .ok k →
      k ∈ requests.filterMap (Request.encoded x.codec) := fun request hr k hk =>
    List.mem_filterMap.2 ⟨request, hr, toOption_eq_some.2 hk⟩
  obtain ⟨hans, hrep⟩ := represents_empty.serveAll (s := Store.empty) (x := x) hsized hkept hkey
  refine ⟨hans, fun key => ?_, hrep.find_none hsized, fun _ _ => committed_of_error⟩
  have hlatest : ∀ k, table.2.get? k = latest x.codec k (requests.zip hold.1) := by
    intro k
    rw [latest, show hold.1 = table.1 from hans]
    exact Table.get?_serveAll k requests SortedMap.empty
  rw [hrep.get key]
  simp only [← hlatest]
  rfl

/-- A run in which every kind of failure occurs. -/
theorem refines_table_contacts :
    let requests : List (Request Sample.contact.type) := [
      .write (.insert Sample.firstKey Sample.timothy), .write (.insert Sample.firstKey Sample.otherTimothy),
      .write (.update Sample.firstKey Sample.nameless), .get Sample.firstKey,
      .write (.upsert Sample.secondKey Sample.timothy), .write (.update Sample.firstKey Sample.otherTimothy),
      .write (.delete Sample.thirdKey), .get .unit, .write (.delete (.unstorable "no key"))]
    let hold := serveAll (Store.serve Sample.stepwise) Store.empty requests
    (∀ request ∈ requests, request.Kept .binary) ∧ Sized (requests.filterMap (Request.encoded .binary)) ∧
      hold.1 = [.ok .done, .error .keyExists, .error (.index (.missingField "Nick" "Contact")),
        .ok (.found (some Sample.timothy)), .ok .done, .ok .done, .error .notFound, .error (.store .emptyKey),
        .error (.codec (.encode "no key"))] ∧
      Hold.get Sample.stepwise Sample.contact.type Sample.firstKey hold.2.committed = .ok (some Sample.otherTimothy) ∧
      Hold.find Sample.stepwise Sample.contact.type none hold.2.committed = .ok [Sample.otherTimothy, Sample.timothy] := by
  intro requests hold
  have hkept : ∀ request ∈ requests, request.Kept .binary := by
    have hcells : ∀ r ∈ [Sample.timothy, Sample.otherTimothy, Sample.nameless],
        Sample.contact.refuses r.cells = none ∧ (∀ s ∈ r.cells, s.Sized) ∧ ∀ s ∈ r.cells, s.Told := by decide
    have hkept : ∀ r ∈ [Sample.timothy, Sample.otherTimothy, Sample.nameless],
        ∃ raw, r.stored .binary = .ok raw ∧ Record.decode Sample.contact.type .binary raw = .ok r := by
      intro r hr
      obtain ⟨hrefuses, hsized, htold⟩ := hcells r hr
      exact ⟨_, Record.stored_eq_ok.2 ⟨hrefuses, rfl⟩, (Record.decode_binary_iff hsized).2 htold⟩
    intro request hrequest
    simp only [requests, List.mem_cons, List.not_mem_nil, or_false] at hrequest
    rcases hrequest with rfl | rfl | rfl | rfl | rfl | rfl | rfl | rfl | rfl
    all_goals first | trivial | (rintro r ⟨⟩ <;> exact hkept _ (by decide))
  have hsized : Sized (requests.filterMap (Request.encoded .binary)) := by decide +kernel
  obtain ⟨hans, hget, hfind, -⟩ := refines_table Sample.stepwise Sample.contact.type requests hkept hsized
  refine ⟨hkept, hsized, hans.trans (by decide +kernel), (hget _).trans (by decide +kernel),
    (hfind (by decide)).trans (by decide +kernel)⟩

end Store
end RecordHold
