import RecordHold.Proofs.StoredRecords
import RecordHold.Sample.Records
/-!
# Proofs.BinaryForms — the binary form of a value is the only one that is read

Under the binary codec reading is the exact inverse of writing (`Codec.binary_exact`).  A scalar, a key list or a record
is read back from its form, and what is read from other bytes is nothing: not from the beginning of a form, not from a
form and more, not from anything else.

The readers are taken one by one.  Each gets a value from the front of its input exactly if the form of that value
stands there (`Takes`), and the reader of a whole takes it if those of its parts do.  Times are left out of all this,
since an instant can be written in several ways.  The lengths of texts, byte strings and lists are taken to be 64-bit
words, as those of everything in memory are; for what is read that is not assumed but proved.

Three beginnings that are nobody's form are named, with the fault that is reported for them: a byte that is no boolean,
a length that goes beyond the input, and a text that is none (`Malformed`).
-/
namespace RecordHold

theorem Except.bind_eq_ok {ε α β : Type} {x : Except ε α} {f : α → Except ε β} {b : β} :
    (x >>= f) = .ok b ↔ ∃ a, x = .ok a ∧ f a = .ok b := by
  cases x with
  | error e => exact ⟨fun h => (nomatch h), fun ⟨_, h, _⟩ => (nomatch h)⟩
  | ok a    => exact ⟨fun h => ⟨a, rfl, h⟩, fun ⟨_, ha, h⟩ => Except.ok.inj ha ▸ h⟩

namespace Binary

/-- **A reader takes a form**: it gets a value, and leaves a rest, exactly if the value is valid and the input is its
form and the rest. -/
def Takes {α : Type} (read : Reader α) (valid : α → Prop) (write : α → Bytes) : Prop :=
  ∀ b x rest, read b = .ok (x, rest) ↔ valid x ∧ b = write x ++ rest

/-- **What goes on after a reader** starts behind the form that the reader takes. -/
theorem Takes.bind_eq_ok {α β : Type} {read : Reader α} {valid : α → Prop} {write : α → Bytes}
    (h : Takes read valid write) {next : α × Bytes → Except DecodeFault β} {b : Bytes} {y : β} :
    (read b >>= next) = .ok y ↔ ∃ x rest, valid x ∧ b = write x ++ rest ∧ next (x, rest) = .ok y := by
  rw [Except.bind_eq_ok]
  constructor
  · rintro ⟨⟨x, rest⟩, hread, hnext⟩
    obtain ⟨hv, hw⟩ := (h _ _ _).1 hread
    exact ⟨x, rest, hv, hw, hnext⟩
  · rintro ⟨x, rest, hv, hw, hnext⟩
    exact ⟨(x, rest), (h _ _ _).2 ⟨hv, hw⟩, hnext⟩

/-! ## The parts of a form -/

theorem eq_of_readWord {n v : Nat} {b rest : Bytes} (h : readWord n b = .ok (v, rest)) :
    v < Bytes.capacity n ∧ b = word n v ++ rest := by
  unfold readWord at h
  split at h
  · cases h
  · rename_i hlen
    cases h
    have htake : (b.take n).length = n := by rw [List.length_take]; omega
    have hlt := Bytes.toNatLE_lt (b.take n)
    have hback := Bytes.ofNatLE_toNatLE (b.take n)
    rw [htake] at hlt hback
    exact ⟨hlt, by rw [word, hback, List.take_append_drop]⟩

theorem takes_word (n : Nat) : Takes (readWord n) (· < Bytes.capacity n) (word n) := by
  intro b v rest
  constructor
  · exact eq_of_readWord
  · rintro ⟨h, rfl⟩
    exact readWord_append h rest

theorem takes_bool : Takes readBool (fun _ => True) (fun x => [if x then 1 else 0]) := by
  intro b x rest
  constructor
  · intro h
    cases b with
    | nil => cases h
    | cons y t =>
      rw [readBool] at h
      by_cases h0 : y = 0
      · rw [if_pos h0] at h
        cases h
        exact ⟨trivial, by rw [h0]; rfl⟩
      · rw [if_neg h0] at h
        by_cases h1 : y = 1
        · rw [if_pos h1] at h
          cases h
          exact ⟨trivial, by rw [h1]; rfl⟩
        · rw [if_neg h1] at h
          cases h
  · rintro ⟨-, rfl⟩
    cases x <;> rfl

theorem takes_blob (short : DecodeFault) : Takes (readBlob short) (·.length < Bytes.capacity 8) blob := by
  intro b x rest
  constructor
  · intro h
    obtain ⟨n, r, hn, rfl, hrest⟩ := (takes_word 8).bind_eq_ok.1 h
    simp only at hrest
    split at hrest
    · cases hrest
    · rename_i hlen
      cases hrest
      have htake : (r.take n).length = n := by rw [List.length_take]; omega
      have hsized : (r.take n).length < Bytes.capacity 8 := by rwa [htake]
      exact ⟨hsized, by rw [blob, htake, List.append_assoc, List.take_append_drop]⟩
  · rintro ⟨h, rfl⟩
    exact readBlob_append short h rest

theorem takes_text : Takes readText (fun s => (utf8 s).length < Bytes.capacity 8) (fun s => blob (utf8 s)) := by
  intro b s rest
  constructor
  · intro h
    obtain ⟨body, r, hlen, rfl, hrest⟩ := (takes_blob .malformed).bind_eq_ok.1 h
    simp only at hrest
    split at hrest
    · rename_i s' hs
      cases hrest
      obtain rfl := utf8_of_ofUtf8? hs
      exact ⟨hlen, rfl⟩
    · cases hrest
  · rintro ⟨h, rfl⟩
    exact readText_append h rest

theorem intPattern_intOfPattern {t : IntType} {v : Nat} (h : v < Bytes.capacity t.width) :
    intPattern t (intOfPattern t v) = v := by
  obtain ⟨h1, h2, h4, h8⟩ := Bytes.capacity_words
  unfold intPattern intOfPattern
  unfold IntType.greatest IntType.size
  cases t <;>
    simp only [IntType.signed, IntType.width, h1, h2, h4, h8, if_true, Bool.false_eq_true, if_false] at h ⊢ <;>
    split <;> omega

theorem takes_int (t : IntType) :
    Takes (readInt t) (fun _ => True) (fun i => word t.width (intPattern t i.val)) := by
  intro b i rest
  constructor
  · intro h
    obtain ⟨v, r, hv, rfl, hrest⟩ := (takes_word t.width).bind_eq_ok.1 h
    simp only at hrest
    split at hrest
    · rename_i i' hi
      cases hrest
      unfold IntOf.ofInt? at hi
      split at hi
      · cases hi
        exact ⟨trivial, by simp only [intPattern_intOfPattern hv]⟩
      · cases hi
    · cases hrest
  · rintro ⟨-, rfl⟩
    exact readInt_append i rest

/-! ## Scalars and rows -/

/-- A reader that renames what another reads takes the same forms. -/
theorem Takes.map {α β : Type} {read : Reader α} {valid : α → Prop} {write : α → Bytes} {f : α → β}
    {valid' : β → Prop} {write' : β → Bytes} (h : Takes read valid write)
    (hvalid : ∀ y, valid' y ↔ ∃ x, valid x ∧ f x = y) (hwrite : ∀ x, valid x → write' (f x) = write x) :
    Takes (fun b => (read b).map (fun (x, r) => (f x, r))) valid' write' := by
  intro b y rest
  constructor
  · intro hy
    obtain ⟨⟨x, r⟩, hx, hf⟩ := Except.map_eq_ok hy
    cases hf
    obtain ⟨hv, rfl⟩ := (h _ _ _).1 hx
    exact ⟨(hvalid _).2 ⟨x, hv, rfl⟩, by rw [hwrite x hv]⟩
  · rintro ⟨hy, rfl⟩
    obtain ⟨x, hv, rfl⟩ := (hvalid y).1 hy
    have hx := (h (write x ++ rest) x rest).2 ⟨hv, rfl⟩
    simp only [hwrite x hv, hx, Except.map]

theorem takes_scalar {k : Kind} (hk : k ≠ .time) :
    Takes (readScalar k) (fun s => s.kind = k ∧ s.Sized) scalar := by
  cases k with
  | time => exact absurd rfl hk
  | bool =>
    refine takes_bool.map (fun s => ?_) (fun _ _ => rfl)
    constructor
    · rintro ⟨hs, -⟩
      cases s <;> cases hs
      exact ⟨_, trivial, rfl⟩
    · rintro ⟨x, -, rfl⟩
      exact ⟨rfl, trivial⟩
  | int t =>
    refine (takes_int t).map (fun s => ?_) (fun _ _ => rfl)
    constructor
    · rintro ⟨hs, -⟩
      cases s <;> cases hs
      exact ⟨_, trivial, rfl⟩
    · rintro ⟨x, -, rfl⟩
      exact ⟨rfl, trivial⟩
  | f32 =>
    refine (takes_word 4).map (f := fun n => Scalar.f32 (UInt32.ofNat n)) (fun s => ?_) (fun x hx => ?_)
    · constructor
      · rintro ⟨hs, -⟩
        cases s with
        | f32 bits => exact ⟨bits.toNat, bits.toNat_lt, by rw [UInt32.ofNat_toNat]⟩
        | _ => cases hs
      · rintro ⟨x, -, rfl⟩
        exact ⟨rfl, trivial⟩
    · have hbits : (UInt32.ofNat x).toNat = x := by rw [UInt32.toNat_ofNat']; exact Nat.mod_eq_of_lt hx
      rw [scalar, hbits]
  | f64 =>
    refine (takes_word 8).map (f := fun n => Scalar.f64 (UInt64.ofNat n)) (fun s => ?_) (fun x hx => ?_)
    · constructor
      · rintro ⟨hs, -⟩
        cases s with
        | f64 bits => exact ⟨bits.toNat, bits.toNat_lt, by rw [UInt64.ofNat_toNat]⟩
        | _ => cases hs
      · rintro ⟨x, -, rfl⟩
        exact ⟨rfl, trivial⟩
    · have hbits : (UInt64.ofNat x).toNat = x := by rw [UInt64.toNat_ofNat']; exact Nat.mod_eq_of_lt hx
      rw [scalar, hbits]
  | string =>
    refine takes_text.map (fun s => ?_) (fun _ _ => rfl)
    constructor
    · rintro ⟨hs, hsized⟩
      cases s <;> cases hs
      exact ⟨_, hsized, rfl⟩
    · rintro ⟨x, hx, rfl⟩
      exact ⟨rfl, hx⟩
  | bytes =>
    refine (takes_blob .endOfInput).map (fun s => ?_) (fun _ _ => rfl)
    constructor
    · rintro ⟨hs, hsized⟩
      cases s <;> cases hs
      exact ⟨_, hsized, rfl⟩
    · rintro ⟨x, hx, rfl⟩
      exact ⟨rfl, hx⟩

/-- Cells of other kinds than times are read back. -/
theorem map_told_of_kinds {ks : List Kind} (hk : .time ∉ ks) {cells : List Scalar} (hkinds : cells.map Scalar.kind = ks) :
    cells.map Scalar.told = cells := by
  refine Scalar.map_told.2 (fun s hs => Scalar.told_of_kind (fun htime => hk ?_))
  rw [← hkinds, ← htime]
  exact List.mem_map_of_mem hs

theorem takes_row : ∀ {ks : List Kind}, .time ∉ ks →
    Takes (readRow ks) (fun cells => cells.map Scalar.kind = ks ∧ ∀ s ∈ cells, s.Sized) row
  | [],      _ => by
    intro b cells rest
    constructor
    · intro h
      cases h
      exact ⟨⟨rfl, fun _ hs => (nomatch hs)⟩, rfl⟩
    · rintro ⟨⟨hkinds, -⟩, rfl⟩
      rw [List.map_eq_nil_iff.1 hkinds]
      rfl
  | k :: ks, hk => by
    have ih := takes_row (fun h => hk (List.mem_cons_of_mem _ h))
    have hhead := takes_scalar (fun h => hk (h ▸ List.mem_cons_self))
    intro b cells rest
    constructor
    · intro h
      obtain ⟨s, r, ⟨hkind, hsized⟩, rfl, htail⟩ := hhead.bind_eq_ok.1 h
      obtain ⟨cells', r', ⟨hkinds, hall⟩, rfl, hend⟩ := ih.bind_eq_ok.1 htail
      cases hend
      refine ⟨⟨by rw [List.map_cons, hkind, hkinds], List.forall_mem_cons.2 ⟨hsized, hall⟩⟩, ?_⟩
      simp only [row, List.flatMap_cons, List.append_assoc]
    · rintro ⟨⟨hkinds, hall⟩, rfl⟩
      have hread := readRow_append hall rest
      rwa [map_told_of_kinds hk hkinds, hkinds] at hread

/-! ## Key lists -/

theorem takes_items : ∀ n : Nat,
    Takes (readItems n) (fun ls => ls.length = n ∧ ∀ b ∈ ls, b.length < Bytes.capacity 8) (·.flatMap blob)
  | 0     => by
    intro b ls rest
    constructor
    · intro h
      cases h
      exact ⟨⟨rfl, fun _ hb => (nomatch hb)⟩, rfl⟩
    · rintro ⟨⟨hlen, -⟩, rfl⟩
      rw [List.length_eq_zero_iff.1 hlen]
      rfl
  | n + 1 => by
    intro b ls rest
    constructor
    · intro h
      obtain ⟨x, r, hlen, rfl, htail⟩ := (takes_blob _).bind_eq_ok.1 h
      obtain ⟨xs, r', ⟨rfl, hall⟩, rfl, hend⟩ := (takes_items n).bind_eq_ok.1 htail
      cases hend
      exact ⟨⟨rfl, List.forall_mem_cons.2 ⟨hlen, hall⟩⟩, by simp only [List.flatMap_cons, List.append_assoc]⟩
    · rintro ⟨⟨hn, hall⟩, rfl⟩
      rw [← hn]
      exact readItems_append hall rest

theorem takes_byteLists : Takes readByteLists Sized byteLists := by
  intro b ls rest
  constructor
  · intro h
    obtain ⟨n, r, hn, rfl, hrest⟩ := (takes_word 8).bind_eq_ok.1 h
    simp only at hrest
    split at hrest
    · cases hrest
    · obtain ⟨⟨rfl, hall⟩, rfl⟩ := (takes_items n _ _ _).1 hrest
      exact ⟨⟨hn, hall⟩, by rw [byteLists, List.append_assoc]⟩
  · rintro ⟨⟨hn, hall⟩, rfl⟩
    exact readByteLists_append hn hall rest

/-! ## Whole inputs -/

section Whole
variable {α : Type} {read : Reader α} {valid : α → Prop} {write : α → Bytes} {x : α}

theorem Takes.all_eq_ok (h : Takes read valid write) {b : Bytes} : all read b = .ok x ↔ valid x ∧ write x = b := by
  constructor
  · intro hb
    obtain ⟨y, r, hv, rfl, hend⟩ := h.bind_eq_ok.1 hb
    simp only at hend
    split at hend
    · rename_i hr
      cases hend
      exact ⟨hv, by rw [hr, List.append_nil]⟩
    · cases hend
  · rintro ⟨hv, rfl⟩
    have hread := (h (write x) x []).2 ⟨hv, (List.append_nil _).symm⟩
    rw [all, hread]
    rfl

theorem Takes.all_append (h : Takes read valid write) (hv : valid x) {e : Bytes} (he : e ≠ []) :
    all read (write x ++ e) = .error .trailingBytes := by
  have hread := (h (write x ++ e) x e).2 ⟨hv, rfl⟩
  rw [all, hread]
  simp only [bind, Except.bind]
  rw [if_neg he]

/-- A form is not the beginning of another. -/
theorem Takes.all_cut (h : Takes read valid write) (hv : valid x) {p e : Bytes} (hw : write x = p ++ e) (he : e ≠ []) :
    ∃ f, all read p = .error f := by
  cases hp : all read p with
  | error f => exact ⟨f, rfl⟩
  | ok y =>
    obtain ⟨hvy, rfl⟩ := h.all_eq_ok.1 hp
    have hx := (h _ x []).2 ⟨hv, (List.append_nil _).symm⟩
    rw [hw, (h _ y e).2 ⟨hvy, rfl⟩] at hx
    cases hx
    exact absurd rfl he

end Whole

/-! ## What begins no form -/

/-- **A byte string that begins with the form of no value of a kind**, and the fault that is found in it. -/
inductive Malformed : Kind → DecodeFault → Bytes → Prop
  | badBool {b : UInt8} (h : 1 < b.toNat) (rest : Bytes) : Malformed .bool (.badBool b) (b :: rest)
  | longBytes {n : Nat} {body : Bytes} (hn : n < Bytes.capacity 8) (h : body.length < n) :
      Malformed .bytes .endOfInput (word 8 n ++ body)
  | longText {n : Nat} {body : Bytes} (hn : n < Bytes.capacity 8) (h : body.length < n) :
      Malformed .string .malformed (word 8 n ++ body)
  | noText {body : Bytes} (hlen : body.length < Bytes.capacity 8) (h : ∀ s, utf8 s ≠ body) (rest : Bytes) :
      Malformed .string .malformed (blob body ++ rest)

theorem readBlob_long {n : Nat} {body : Bytes} (short : DecodeFault) (hn : n < Bytes.capacity 8)
    (h : body.length < n) : readBlob short (word 8 n ++ body) = .error short := by
  unfold readBlob
  rw [readWord_append hn]
  simp only [bind, Except.bind]
  rw [if_pos h]

theorem Malformed.readScalar {k : Kind} {f : DecodeFault} {b : Bytes} (h : Malformed k f b) :
    readScalar k b = .error f := by
  cases h with
  | @badBool b h rest =>
    have h0 : b ≠ 0 := fun hb => absurd h (by rw [hb]; decide)
    have h1 : b ≠ 1 := fun hb => absurd h (by rw [hb]; decide)
    simp only [Binary.readScalar, readBool, if_neg h0, if_neg h1, Except.map]
  | longBytes hn h => simp only [Binary.readScalar, readBlob_long _ hn h, Except.map]
  | longText hn h =>
    have hread := readBlob_long .malformed hn h
    simp only [Binary.readScalar, readText, hread, bind, Except.bind, Except.map]
  | @noText body hlen h rest =>
    have hnone : ofUtf8? body = none := by
      cases hb : ofUtf8? body with
      | none   => rfl
      | some s => exact absurd (utf8_of_ofUtf8? hb) (h s)
    have hread := readBlob_append .malformed hlen rest
    simp only [Binary.readScalar, readText, hread, hnone, bind, Except.bind, Except.map]

/-- Well-formed cells in front do not matter. -/
theorem Malformed.readRow {k : Kind} {f : DecodeFault} {b : Bytes} (h : Malformed k f b) (ks : List Kind) :
    ∀ {cells : List Scalar}, (∀ s ∈ cells, s.Sized) →
      readRow (cells.map Scalar.kind ++ k :: ks) (row cells ++ b) = .error f
  | [],         _  => by
    show Binary.readRow (k :: ks) b = _
    rw [Binary.readRow, h.readScalar]
    rfl
  | s :: cells, hs => by
    have ih := h.readRow ks (fun x hx => hs x (List.mem_cons_of_mem _ hx))
    have hhead := readScalar_append (hs s List.mem_cons_self) (row cells ++ b)
    rw [row, List.flatMap_cons, List.append_assoc, List.map_cons, List.cons_append, Binary.readRow]
    unfold row at ih hhead
    rw [hhead]
    simp only [bind, Except.bind]
    rw [ih]

/-- **A byte string that begins with the form of no key list**: it has fewer bytes than keys, or it ends within a key
after some whole ones. -/
inductive MalformedKeys : Bytes → Prop
  | longCount {n : Nat} {rest : Bytes} (hn : n < Bytes.capacity 8) (h : rest.length < n) :
      MalformedKeys (word 8 n ++ rest)
  | longKey {n m : Nat} {ls : List Bytes} {body : Bytes} (hn : n < Bytes.capacity 8) (hls : ls.length < n)
      (hsized : ∀ b ∈ ls, b.length < Bytes.capacity 8) (hm : m < Bytes.capacity 8) (h : body.length < m) :
      MalformedKeys (word 8 n ++ (ls.flatMap blob ++ (word 8 m ++ body)))

theorem readItems_long {b : Bytes} (hb : readBlob .endOfInput b = .error .endOfInput) :
    ∀ {n : Nat} {ls : List Bytes}, ls.length < n → (∀ x ∈ ls, x.length < Bytes.capacity 8) →
      readItems n (ls.flatMap blob ++ b) = .error .endOfInput
  | 0,     _,      hn, _  => absurd hn (Nat.not_lt_zero _)
  | n + 1, [],     _,  _  => by
    rw [List.flatMap_nil, List.nil_append, readItems, hb]
    rfl
  | n + 1, x :: t, hn, hs => by
    have ih := readItems_long hb (Nat.lt_of_succ_lt_succ hn) (fun y hy => hs y (List.mem_cons_of_mem _ hy))
    have hhead := readBlob_append .endOfInput (hs x List.mem_cons_self) (t.flatMap blob ++ b)
    rw [List.flatMap_cons, List.append_assoc, readItems, hhead]
    simp only [bind, Except.bind]
    rw [ih]

theorem MalformedKeys.readByteLists {b : Bytes} (h : MalformedKeys b) : readByteLists b = .error .endOfInput := by
  cases h with
  | longCount hn h =>
    unfold Binary.readByteLists
    rw [readWord_append hn]
    simp only [bind, Except.bind]
    rw [if_pos h]
  | longKey hn hls hsized hm h =>
    have hitems := readItems_long (readBlob_long .endOfInput hm h) hls hsized
    unfold Binary.readByteLists
    rw [readWord_append hn]
    simp only [bind, Except.bind]
    split
    · rfl
    · exact hitems

end Binary

/-! ## Through the codec -/

/-- **Reading is the exact inverse of writing**: a valid value is read back from its form, whatever is read is valid and
has the bytes it was read from as its form, and neither a form cut short nor a form with more behind it is read. -/
structure Exact {α : Type} (valid : α → Prop) (write : α → Bytes) (read : Bytes → Except CodecError α) : Prop where
  read_write : ∀ x, valid x → read (write x) = .ok x
  write_read : ∀ b x, read b = .ok x → valid x ∧ write x = b
  cut        : ∀ x, valid x → ∀ p e, write x = p ++ e → e ≠ [] → ∃ f, read p = .error (.decode f)
  extended   : ∀ x, valid x → ∀ e, e ≠ [] → read (write x ++ e) = .error (.decode .trailingBytes)

/-- A codec that reads just what a reader of whole inputs reads is as exact as that reader. -/
theorem Binary.Takes.exact {α β : Type} {read : Reader α} {valid : α → Prop} {write : α → Bytes} {valid' : β → Prop}
    {read' : Bytes → Except CodecError β} (h : Takes read valid write) (part : β → α)
    (hvalid : ∀ y, valid' y ↔ valid (part y)) (hok : ∀ b y, read' b = .ok y ↔ all read b = .ok (part y))
    (herror : ∀ b f, all read b = .error f → read' b = .error (.decode f)) :
    Exact valid' (fun y => write (part y)) read' where
  read_write y hy := (hok _ y).2 (h.all_eq_ok.2 ⟨(hvalid y).1 hy, rfl⟩)
  write_read b y hb := by
    obtain ⟨hv, hw⟩ := h.all_eq_ok.1 ((hok b y).1 hb)
    exact ⟨(hvalid y).2 hv, hw⟩
  cut y hy p e hw he := by
    obtain ⟨f, hf⟩ := h.all_cut ((hvalid y).1 hy) hw he
    exact ⟨f, herror p f hf⟩
  extended y hy e he := herror _ _ (h.all_append ((hvalid y).1 hy) he)

namespace Codec

theorem exact_scalar {k : Kind} (hk : k ≠ .time) :
    Exact (fun s : Scalar => s.kind = k ∧ s.Sized) binary.scalar (binary.scalar? k) :=
  (Binary.takes_scalar hk).exact id (fun _ => Iff.rfl) (fun _ _ => checked_eq_ok)
    (fun b f h => by simp only [scalar?, h, checked])

theorem exact_keyList : Exact (fun l : KeyList => Sized l.keys) binary.keyList binary.keyList? := by
  refine Binary.takes_byteLists.exact KeyList.keys (fun _ => Iff.rfl) (fun b l => ?_) (fun b f h => ?_)
  · unfold keyList?
    rw [checked_eq_ok]
    constructor
    · intro h
      obtain ⟨ls, hls, rfl⟩ := Except.map_eq_ok h
      exact hls
    · intro h
      rw [h]
      rfl
  · simp only [keyList?, h, Except.map, checked]

end Codec

theorem Record.exact_record {γ : Type} {T : RowType γ} (hT : .time ∉ T.columns.map Prod.snd) :
    Exact (fun r : Record T.type => ∀ s ∈ r.cells, s.Sized) (encode .binary) (decode T.type .binary) := by
  refine (Binary.takes_row hT).exact Record.cells (fun r => ?_) (fun b r => ?_) (fun b f h => ?_)
  · exact ⟨fun h => ⟨r.fits, h⟩, fun h => h.2⟩
  · exact Record.decode_eq_ok_iff.trans Codec.checked_eq_ok
  · exact Record.decode_of_row_error (by simp only [Codec.row?, h, Codec.checked])

/-- **Binary reading is the exact inverse of binary writing**, for scalars of every kind but times, for key lists and for
rows of every type without times.  In particular nothing is read from a form with a byte that is no boolean, a
length beyond the input or a text that is none, be it by itself, among the cells of a row or within a key list. -/
theorem Codec.binary_exact {γ : Type} :
    (∀ k : Kind, k ≠ .time → Exact (fun s : Scalar => s.kind = k ∧ s.Sized) binary.scalar (binary.scalar? k)) ∧
      Exact (fun l : KeyList => Sized l.keys) binary.keyList binary.keyList? ∧
      (∀ T : RowType γ, .time ∉ T.columns.map Prod.snd →
        Exact (fun r : Record T.type => ∀ s ∈ r.cells, s.Sized) (Record.encode .binary)
          (Record.decode T.type .binary)) ∧
      (∀ k f b, Binary.Malformed k f b → binary.scalar? k b = .error (.decode f)) ∧
      (∀ b, Binary.MalformedKeys b → binary.keyList? b = .error (.decode .endOfInput)) ∧
      ∀ (T : RowType γ) (cells : List Scalar) k ks f b, T.columns.map Prod.snd = cells.map Scalar.kind ++ k :: ks →
        (∀ s ∈ cells, s.Sized) → Binary.Malformed k f b →
          Record.decode T.type .binary (Binary.row cells ++ b) = .error (.decode f) := by
  refine ⟨fun k => exact_scalar, exact_keyList, fun T => Record.exact_record, fun k f b h => ?_, fun b h => ?_,
    fun T cells k ks f b hT hs h => ?_⟩
  · simp only [scalar?, Binary.all, h.readScalar, bind, Except.bind, checked]
  · simp only [keyList?, Binary.all, h.readByteLists, bind, Except.bind, Except.map, checked]
  · have hrow := h.readRow ks hs
    rw [← hT] at hrow
    exact Record.decode_of_row_error (by simp only [row?, Binary.all, hrow, bind, Except.bind, checked])

/-- An item without a number for a price is read back, payload and all, and the same bytes without the last, or with
one more, are not read; nor is the form of a text of one byte that no text has. -/
theorem Codec.binary_exact_item :
    (∀ s ∈ Sample.unpriced.cells, s.Sized) ∧
      Record.decode Sample.item.type .binary (Sample.unpriced.encode .binary) = .ok Sample.unpriced ∧
      (∃ f, Record.decode Sample.item.type .binary (Sample.unpriced.encode .binary).dropLast = .error (.decode f)) ∧
      Record.decode Sample.item.type .binary (Sample.unpriced.encode .binary ++ [0]) = .error (.decode .trailingBytes) ∧
      Record.decode Sample.item.type .binary (Binary.row [] ++ (Binary.word 8 200 ++ [65])) =
        .error (.decode .malformed) := by
  obtain ⟨-, -, hrecord, -, -, hmalformed⟩ := Codec.binary_exact (γ := UserValue)
  have hitem := hrecord Sample.item (by decide)
  have hsized : ∀ s ∈ Sample.unpriced.cells, s.Sized := by decide
  refine ⟨hsized, hitem.read_write _ hsized, hitem.cut _ hsized _ [127] rfl (by decide),
    hitem.extended _ hsized [0] (by decide), ?_⟩
  exact hmalformed Sample.item [] .string _ _ _ rfl (by decide) (.longText (by decide) (by decide))

end RecordHold
