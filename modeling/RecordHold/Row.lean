import RecordHold.Record
/-!
# Row — records that are rows of cells

The cells of a row have the kinds of the columns it is stored in, which is part of the type; reading a row from storage
establishes it (`kinds_of_row?`).

A record type whose records are rows names its columns and the fields a query can ask for.  A field may be computed
from the cells, and some records may refuse to be stored, as some keys do.
-/
namespace RecordHold

def Fits (cs : Columns) (cells : List Scalar) : Prop := cells.map Scalar.kind = cs.map Prod.snd

instance (cs : Columns) (cells : List Scalar) : Decidable (Fits cs cells) := inferInstanceAs (Decidable (_ = _))

structure Row (cs : Columns) where
  cells : List Scalar
  fits  : Fits cs cells
deriving DecidableEq

/-! ## What is read back has the kinds that were asked for -/

theorem Binary.kind_readScalar (k : Kind) (b r : Bytes) (s : Scalar) (h : Binary.readScalar k b = .ok (s, r)) :
    s.kind = k := by
  cases k <;> obtain ⟨a, -, ha⟩ := Except.map_eq_ok h <;> cases ha <;> rfl

theorem Binary.kinds_readRow : ∀ (ks : List Kind) (b r : Bytes) (cells : List Scalar),
    Binary.readRow ks b = .ok (cells, r) → cells.map Scalar.kind = ks
  | [],      b, r, cells, h => by
    simp only [Binary.readRow, Except.ok.injEq, Prod.mk.injEq] at h
    simp [← h.1]
  | k :: ks, b, r, cells, h => by
    unfold Binary.readRow at h
    cases hx : Binary.readScalar k b with
    | error e => simp [hx, bind, Except.bind] at h
    | ok p =>
      cases hxs : Binary.readRow ks p.2 with
      | error e => simp [hx, hxs, bind, Except.bind] at h
      | ok q =>
        simp only [hx, hxs, bind, Except.bind, Except.ok.injEq, Prod.mk.injEq] at h
        rw [← h.1, List.map_cons, Binary.kind_readScalar k b p.2 p.1 hx, Binary.kinds_readRow ks p.2 q.2 q.1 hxs]

theorem JsonCodec.kind_readScalar (k : Kind) (j : Json) (s : Scalar) (h : JsonCodec.readScalar k j = some s) :
    s.kind = k := by
  cases k with
  | bool => cases j <;> simp [JsonCodec.readScalar] at h; subst h; rfl
  | time =>
    obtain ⟨t, -, ht⟩ := Option.bind_eq_some_iff.1 h
    obtain ⟨i, -, rfl⟩ := Option.map_eq_some_iff.1 ht
    rfl
  | _ =>
    obtain ⟨x, -, rfl⟩ := Option.map_eq_some_iff.1 h
    rfl

theorem JsonCodec.kinds_readColumns (ms : List (Bytes × Json)) : ∀ (cs : Columns) (cells : List Scalar),
    JsonCodec.readColumns ms cs = some cells → Fits cs cells
  | [],           cells, h => by simp only [JsonCodec.readColumns, Option.some.injEq] at h; subst h; rfl
  | (name, k) :: cs, cells, h => by
    unfold JsonCodec.readColumns at h
    split at h
    · cases h
    · rename_i x hx
      obtain ⟨xs, hxs, rfl⟩ := Option.map_eq_some_iff.1 h
      obtain ⟨j, -, hj⟩ := Option.bind_eq_some_iff.1 hx
      have ih := JsonCodec.kinds_readColumns ms cs xs hxs
      simp only [Fits] at ih ⊢
      simp [ih, JsonCodec.kind_readScalar k j x hj]

theorem JsonCodec.kinds_readCells : ∀ (cs : Columns) (js : List Json) (cells : List Scalar),
    JsonCodec.readCells cs js = some cells → Fits cs cells
  | [],           [],      cells, h => by simp only [JsonCodec.readCells, Option.some.injEq] at h; subst h; rfl
  | [],           _ :: _,  cells, h => by simp [JsonCodec.readCells] at h
  | _ :: _,       [],      cells, h => by simp [JsonCodec.readCells] at h
  | (_, k) :: cs, j :: js, cells, h => by
    unfold JsonCodec.readCells at h
    split at h
    · cases h
    · rename_i x hx
      obtain ⟨xs, hxs, rfl⟩ := Option.map_eq_some_iff.1 h
      have ih := JsonCodec.kinds_readCells cs js xs hxs
      simp only [Fits] at ih ⊢
      simp [ih, JsonCodec.kind_readScalar k j x hx]

theorem JsonCodec.kinds_readRow (cs : Columns) (j : Json) (cells : List Scalar)
    (h : JsonCodec.readRow cs j = some cells) : Fits cs cells := by
  unfold JsonCodec.readRow at h
  split at h
  · split at h
    · exact JsonCodec.kinds_readColumns _ cs cells h
    · cases h
  · exact JsonCodec.kinds_readCells cs _ cells h
  · cases h

theorem kinds_of_row? (c : Codec) (cs : Columns) (b : Bytes) (cells : List Scalar)
    (h : c.row? cs b = .ok cells) : Fits cs cells := by
  cases c with
  | binary =>
    simp only [Codec.row?, Binary.all] at h
    cases hr : Binary.readRow (cs.map Prod.snd) b with
    | error e => simp [hr, bind, Except.bind, Codec.checked] at h
    | ok p =>
      simp only [hr, bind, Except.bind] at h
      split at h
      · simp only [Codec.checked, Except.ok.injEq] at h
        subst h
        exact Binary.kinds_readRow _ b p.2 p.1 hr
      · simp [Codec.checked] at h
  | json =>
    simp only [Codec.row?, JsonCodec.all] at h
    cases hr : (Json.read b).bind (JsonCodec.readRow cs) with
    | none => simp [hr, Codec.checked] at h
    | some x =>
      simp only [hr, Codec.checked, Except.ok.injEq] at h
      subst h
      obtain ⟨j, -, hj⟩ := Option.bind_eq_some_iff.1 hr
      exact JsonCodec.kinds_readRow cs j x hj

def Row.decode (cs : Columns) (c : Codec) (b : Bytes) : Except CodecError (Row cs) :=
  match h : c.row? cs b with
  | .ok cells => .ok ⟨cells, kinds_of_row? c cs b cells h⟩
  | .error e  => .error e

/-! ## Record types of rows -/

structure RowType (γ : Type) where
  bucket  : String
  columns : Columns
  field   : List Scalar → String → Option (Value γ)
  indexes : List String
  refuses : List Scalar → Option String := fun _ => none

/-- Fields that are just columns under names of their own, in the order of the columns. -/
def columnFields {γ : Type} (names : List String) (cells : List Scalar) (name : String) : Option (Value γ) :=
  ((names.zip cells).lookup name).map .plain

/-- The record type.  A row is written unless it refuses to be stored. -/
def RowType.type {γ : Type} (T : RowType γ) : RecordType γ where
  Carrier      := Row T.columns
  bucket       := T.bucket
  indexes      := T.indexes
  field r name := T.field r.cells name
  encode c r   :=
    match T.refuses r.cells with
    | some reason => .error (c.refusal reason)
    | none        => .ok (c.row T.columns r.cells)
  decode c b   := Row.decode T.columns c b

namespace Record
variable {γ : Type} {T : RowType γ}

instance : DecidableEq (Record T.type) := inferInstanceAs (DecidableEq (Row T.columns))

def ofCells (cells : List Scalar) (h : Fits T.columns cells) : Record T.type := Row.mk cells h

def ofCells? (T : RowType γ) (cells : List Scalar) : Option (Record T.type) :=
  if h : Fits T.columns cells then some (ofCells cells h) else none

def cells (r : Record T.type) : List Scalar := Row.cells r

/-- The row as it is written. -/
def encode (c : Codec) (r : Record T.type) : Bytes := c.row T.columns r.cells

end Record
end RecordHold
