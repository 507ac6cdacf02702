import RecordHold.Index
import RecordHold.Proofs.IndexOrder
import RecordHold.Proofs.JsonForms
/-!
# Proofs.StoredTimes — what becomes of times that are stored

A time is stored as text under both codecs.  If a clock tells it, in any year and also in a leap second at the end of a
minute, it is read back as the same second and nanosecond; any other is read as the one that a clock tells instead, which
has the same text (`Codec.scalar?_time`).  Different instants have different index keys (`IndexKey.ofScalar_time_injective`).
So the index key that is made of a stored time is the one that was made of it before exactly if a clock tells it, and
then an old index entry is found again (`Codec.times_survive`).  In a record a time fares so whatever its other cells are,
floats that JSON rounds among them.
-/
namespace RecordHold

variable {γ : Type}

/-- **A stored time is read as a clock tells it**, under either codec. -/
theorem Codec.scalar?_time : ∀ (c : Codec) (t : Instant),
    c.scalar? .time (c.scalar (.time t)) = .ok (.time t.told)
  | .binary, t => scalar?_binary (s := .time t) trivial
  | .json,   t => checked_eq_ok.2 ((JsonCodec.all_write (JsonCodec.written_scalar _)).2 (JsonCodec.reread_time t))

/-- **Times are stored alike exactly if a clock tells them alike.** -/
theorem Codec.scalar_time_eq_iff (c : Codec) {t u : Instant} :
    c.scalar (.time t) = c.scalar (.time u) ↔ t.told = u.told := by
  constructor
  · intro h
    have hread := c.scalar?_time t
    rw [h, c.scalar?_time u] at hread
    exact (Scalar.time.inj (Except.ok.inj hread)).symm
  · intro h
    have htext : t.rfc3339 = u.rfc3339 := by rw [← t.rfc3339_told, h, u.rfc3339_told]
    cases c <;> simp only [Codec.scalar, Binary.scalar, JsonCodec.scalar, htext]

/-- **Different instants have different index keys.** -/
theorem IndexKey.ofScalar_time_injective {t u : Instant} (h : ofScalar (.time t) = ofScalar (.time u)) : t = u := by
  have hcompare := compare_time t u
  rw [(List.cons.inj h).2, Std.ReflOrd.compare_self] at hcompare
  obtain ⟨hseconds, hnanos⟩ := Ordering.then_eq_eq.1 hcompare.symm
  obtain ⟨seconds, nanos, _, _⟩ := t
  obtain rfl : seconds = u.seconds := Int.compare_eq_eq.1 hseconds
  obtain rfl : nanos = u.nanos := Nat.compare_eq_eq.1 hnanos
  rfl

/-- A name that is looked up finds what its cell has become. -/
theorem JsonCodec.lookup_traverse {α β : Type} {f : α → Option β} {name : String} {a : α} :
    ∀ {names : List String} {l : List α} {l' : List β}, traverse f l = some l' →
      (names.zip l).lookup name = some a → ∃ b, f a = some b ∧ (names.zip l').lookup name = some b
  | [],         _,      _, _,    h => nomatch h
  | _ :: _,     [],     _, _,    h => nomatch h
  | n :: names, x :: l, _, hall, h => by
    rw [traverse] at hall
    cases hx : f x with
    | none =>
      rw [hx] at hall
      cases hall
    | some y =>
      rw [hx] at hall
      obtain ⟨l', hl', rfl⟩ := Option.map_eq_some_iff.1 hall
      rw [List.zip_cons_cons, List.lookup_cons] at h ⊢
      by_cases hn : name == n
      · rw [hn] at h ⊢
        cases h
        exact ⟨y, hx, rfl⟩
      · rw [Bool.eq_false_iff.2 hn] at h ⊢
        exact lookup_traverse hl' h

/-- A reader that always succeeds reads each item. -/
theorem JsonCodec.traverse_some {α β : Type} (g : α → β) : ∀ l : List α, traverse (fun a => some (g a)) l = some (l.map g)
  | []     => rfl
  | a :: t => by
    rw [traverse, traverse_some g t]
    rfl

namespace Record

variable {T : RowType γ} {r r' : Record T.type} {c : Codec}

/-- A column holds what has become of its cell. -/
theorem field_of_cells {names : List String} {field : String} {s : Scalar} {f : Scalar → Option Scalar}
    (hfields : T.field = columnFields names) (hcells : JsonCodec.traverse f r.cells = some r'.cells)
    (hs : r.field field = some (.plain s)) : ∃ s', f s = some s' ∧ r'.field field = some (.plain s') := by
  have hfield : ∀ q : Record T.type, q.field field = columnFields names q.cells field := fun q => by
    rw [← hfields]
    rfl
  rw [hfield, columnFields] at hs ⊢
  obtain ⟨a, hlookup, hplain⟩ := Option.map_eq_some_iff.1 hs
  cases hplain
  obtain ⟨s', hs', hlookup'⟩ := JsonCodec.lookup_traverse hcells hlookup
  exact ⟨s', hs', Option.map_eq_some_iff.2 ⟨s', hlookup', rfl⟩⟩

/-- **A column holds what has become of its cell** in what is read of the row from JSON. -/
theorem field_of_decode_json {names : List String} {field : String} {s : Scalar} (hfields : T.field = columnFields names)
    (hnames : (T.columns.map Prod.fst).Nodup) (h : decode T.type .json (r.encode .json) = .ok r')
    (hs : r.field field = some (.plain s)) :
    ∃ s', JsonCodec.reread s = some s' ∧ r'.field field = some (.plain s') :=
  field_of_cells hfields ((decode_json_eq_ok hnames).1 h) hs

/-- **A column that holds a time holds what a clock tells of it** in what is read of the row. -/
theorem time_of_decode {names : List String} {field : String} {t : Instant} (hfields : T.field = columnFields names)
    (hnames : (T.columns.map Prod.fst).Nodup) (hs : ∀ s ∈ r.cells, s.Sized) (h : decode T.type c (r.encode c) = .ok r')
    (ht : r.field field = some (.plain (.time t))) : r'.field field = some (.plain (.time t.told)) := by
  cases c with
  | binary =>
    have hcells : JsonCodec.traverse (fun s => some s.told) r.cells = some r'.cells := by
      rw [JsonCodec.traverse_some, (decode_binary_eq_ok hs).1 h]
    obtain ⟨s', hs', hfield⟩ := field_of_cells hfields hcells ht
    cases hs'
    exact hfield
  | json =>
    obtain ⟨s', hs', hfield⟩ := field_of_decode_json hfields hnames h ht
    rw [JsonCodec.reread_time] at hs'
    cases hs'
    exact hfield

end Record

variable [Custom γ]

/-- **Times that a clock tells survive storage**, under either codec, whatever the year and the fraction of the second, and
leap seconds at the end of a minute too; any other time is read as the one in the next second that a clock tells instead.
So what is stored of a time has the index key that it had before exactly if a clock tells it, and two such times that are
stored as the same bytes are one.  In a record whose fields are columns a time fares alike, and so does its index key,
as far as the record can be read at all. -/
theorem Codec.times_survive (c : Codec) :
    (∀ t u : Instant,
      (Value.plain (.time u) : Value γ).decodeLike c (c.scalar (.time t)) = .ok (.plain (.time t.told)) ∧
      (t.Told → t.told.seconds = t.seconds ∧ t.told.nanos = t.nanos) ∧
      (¬ t.Told → t.told.seconds = t.seconds + 1 ∧ t.told.nanos = t.nanos - 1000000000) ∧
      ((Value.plain (.time t.told) : Value γ).indexKey = (Value.plain (.time t) : Value γ).indexKey ↔ t.Told)) ∧
    (∀ t u : Instant, c.scalar (.time t) = c.scalar (.time u) ↔ t.told = u.told) ∧
    (∀ t u : Instant, t.Told → u.Told → c.scalar (.time t) = c.scalar (.time u) →
      t.seconds = u.seconds ∧ t.nanos = u.nanos) ∧
    ∀ (T : RowType γ) (names : List String) (r r' : Record T.type) (field : String) (t : Instant),
      T.field = columnFields names → (T.columns.map Prod.fst).Nodup → (∀ s ∈ r.cells, s.Sized) →
      Record.decode T.type c (r.encode c) = .ok r' → r.field field = some (.plain (.time t)) →
      r'.field field = some (.plain (.time t.told)) ∧ (Index.keyFor r' field = Index.keyFor r field ↔ t.Told) := by
  have hkey : ∀ t : Instant,
      (Value.plain (.time t.told) : Value γ).indexKey = (Value.plain (.time t) : Value γ).indexKey ↔ t.Told := by
    intro t
    constructor
    · intro h
      exact Instant.told_eq_self_iff.1 (IndexKey.ofScalar_time_injective (Except.ok.inj h))
    · intro h
      rw [Instant.told_of_told h]
  refine ⟨fun t u => ⟨?_, fun h => ?_, Instant.told_of_not, hkey t⟩, fun t u => c.scalar_time_eq_iff, fun t u ht hu h => ?_,
    fun T names r r' field t hfields hnames hs hread ht => ?_⟩
  · show (c.scalar? .time (c.scalar (.time t))).map Value.plain = _
    rw [c.scalar?_time t]
    rfl
  · rw [Instant.told_of_told h]
    exact ⟨rfl, rfl⟩
  · have heq := c.scalar_time_eq_iff.1 h
    rw [Instant.told_of_told ht, Instant.told_of_told hu] at heq
    rw [heq]
    exact ⟨rfl, rfl⟩
  · have ht' := Record.time_of_decode hfields hnames hs hread ht
    refine ⟨ht', ?_⟩
    unfold Index.keyFor
    rw [ht, ht']
    exact hkey t

/-- A leap second before the year 0 keeps its index key under JSON, in a record with a float that is read as another. -/
theorem Codec.times_survive_ancient :
    (Value.plain (.time Instant.epoch) : Value UserValue).decodeLike .json (Codec.json.scalar (.time Sample.ancientLeap)) =
        .ok (.plain (.time Sample.ancientLeap)) ∧
      Record.decode Sample.wide.type .json (Sample.ancient.encode .json) ≠ .ok Sample.ancient ∧
      ∃ r', Record.decode Sample.wide.type .json (Sample.ancient.encode .json) = .ok r' ∧
        r'.field "At" = some (.plain (.time Sample.ancientLeap)) ∧
        Index.keyFor r' "At" = Index.keyFor Sample.ancient "At" := by
  obtain ⟨htime, -, -, hrecord⟩ := Codec.times_survive (γ := UserValue) .json
  have htold : Sample.ancientLeap.Told := by decide
  have hread := (htime Sample.ancientLeap Instant.epoch).1
  have hnames : (Sample.wide.columns.map Prod.fst).Nodup := by decide
  have hchanged : ¬ ∀ s ∈ Sample.ancient.cells, s.Survives := by decide +kernel
  obtain ⟨r', hr'⟩ := Record.decode_json_finite (r := Sample.ancient) hnames (by decide +kernel)
  obtain ⟨hfield, hkey⟩ := hrecord Sample.wide _ Sample.ancient r' "At" Sample.ancientLeap rfl hnames (by decide) hr' rfl
  rw [Instant.told_of_told htold] at hread hfield
  exact ⟨hread, mt (Record.decode_json_iff hnames).1 hchanged, r', hr', hfield, hkey.2 htold⟩

/-- A billion nanoseconds in a second that is not the last of its minute are read as the next second by either codec, and
nothing that is stored tells the two instants apart, though their index keys do. -/
theorem Codec.times_told_otherwise :
    let late : Instant := ⟨0, 1000000000, by decide, by decide⟩
    let next : Instant := ⟨1, 0, by decide, by decide⟩
    (∀ c : Codec, c.scalar? .time (c.scalar (.time late)) = .ok (.time next) ∧
      c.scalar (.time late) = c.scalar (.time next)) ∧
      IndexKey.ofScalar (.time late) ≠ IndexKey.ofScalar (.time next) := by
  intro late next
  have htold : late.told = next := by decide
  refine ⟨fun c => ⟨?_, c.scalar_time_eq_iff.2 htold⟩, by decide +kernel⟩
  rw [c.scalar?_time, htold]

end RecordHold
