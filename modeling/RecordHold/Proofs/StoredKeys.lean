import RecordHold.Codec
import RecordHold.Proofs.JsonText
import RecordHold.Proofs.Rising
/-!
# Proofs.StoredKeys — a stored key list is read back

Under either codec the bytes of a key list are read as exactly that list (`keyList?_keyList`).  The binary form
writes lengths as 64-bit words, so the list and its keys must not be longer than such a word can count (`Sized`),
which holds of everything that fits into memory.
-/
namespace RecordHold

/-! ## The binary form -/

namespace Binary

theorem readWord_append {n v : Nat} (h : v < Bytes.capacity n) (rest : Bytes) :
    readWord n (word n v ++ rest) = .ok (v, rest) := by
  have hl : (word n v).length = n := Bytes.length_ofNatLE n v
  unfold readWord
  rw [if_neg (by rw [List.length_append, hl]; omega), List.take_left' hl, List.drop_left' hl]
  rw [word, Bytes.toNatLE_ofNatLE n v h]

theorem readBlob_append (short : DecodeFault) {b : Bytes} (h : b.length < Bytes.capacity 8) (rest : Bytes) :
    readBlob short (blob b ++ rest) = .ok (b, rest) := by
  unfold readBlob blob
  rw [List.append_assoc, readWord_append h]
  simp only [bind, Except.bind]
  rw [if_neg (by rw [List.length_append]; omega), List.take_left, List.drop_left]

theorem readItems_append : ∀ {ls : List Bytes}, (∀ b ∈ ls, b.length < Bytes.capacity 8) → ∀ rest : Bytes,
    readItems ls.length (ls.flatMap blob ++ rest) = .ok (ls, rest)
  | [],     _, rest => rfl
  | b :: t, h, rest => by
    have ih := readItems_append (fun x hx => h x (List.mem_cons_of_mem _ hx)) rest
    rw [List.length_cons, readItems, List.flatMap_cons, List.append_assoc,
      readBlob_append .endOfInput (h b List.mem_cons_self)]
    simp only [bind, Except.bind]
    rw [ih]

theorem length_le_flatMap_blob : ∀ ls : List Bytes, ls.length ≤ (ls.flatMap blob).length
  | []     => Nat.le_refl _
  | b :: t => by
    have ih := length_le_flatMap_blob t
    have hb : (blob b).length = 8 + b.length := by rw [blob, List.length_append, word, Bytes.length_ofNatLE]
    rw [List.flatMap_cons, List.length_append, List.length_cons]
    omega

theorem readByteLists_append {ls : List Bytes} (hl : ls.length < Bytes.capacity 8)
    (h : ∀ b ∈ ls, b.length < Bytes.capacity 8) (rest : Bytes) :
    readByteLists (byteLists ls ++ rest) = .ok (ls, rest) := by
  have hitems := readItems_append h rest
  have hlen := length_le_flatMap_blob ls
  unfold readByteLists byteLists
  rw [List.append_assoc, readWord_append hl]
  simp only [bind, Except.bind]
  rw [if_neg (by rw [List.length_append]; omega), hitems]

theorem all_readByteLists {ls : List Bytes} (hl : ls.length < Bytes.capacity 8)
    (h : ∀ b ∈ ls, b.length < Bytes.capacity 8) : all readByteLists (byteLists ls) = .ok ls := by
  have hread := readByteLists_append hl h []
  rw [List.append_nil] at hread
  unfold all
  rw [hread]
  rfl

end Binary

/-! ## The JSON form -/

namespace JsonCodec

theorem traverse_map {α β : Type} {f : β → Option α} {g : α → β} (h : ∀ a, f (g a) = some a) :
    ∀ l : List α, traverse f (l.map g) = some l
  | []     => rfl
  | a :: t => by
    rw [List.map_cons, traverse, h a, traverse_map h t]
    rfl

theorem u64_or_i64_holds {t : IntType} {i : Int} (h : t.holds i) :
    if i < 0 then IntType.i64.holds i else IntType.u64.holds i := by
  obtain ⟨h1, h2, h4, h8⟩ := Bytes.capacity_words
  unfold IntType.holds IntType.least IntType.greatest IntType.size at h ⊢
  cases t <;>
    simp only [IntType.signed, IntType.width, h1, h2, h4, h8, if_true, Bool.false_eq_true, if_false] at h ⊢ <;>
    split <;> omega

theorem intValue_ofInt (i : Int) : (Numeral.ofInt i).intValue = i := by
  unfold Numeral.intValue Numeral.ofInt
  simp only [decide_eq_true_eq]
  split <;> omega

theorem isInteger_ofInt {t : IntType} {i : Int} (h : t.holds i) : (Numeral.ofInt i).isInteger = true := by
  have hbound := u64_or_i64_holds h
  have hvalue := intValue_ofInt i
  unfold Numeral.isInteger
  rw [hvalue]
  simp only [Numeral.ofInt, Option.isNone_none, Bool.true_and, decide_eq_true_eq]
  split
  · rename_i hneg
    rw [if_pos hneg] at hbound
    exact decide_eq_true ⟨by omega, hbound⟩
  · rename_i hneg
    rw [if_neg hneg] at hbound
    exact decide_eq_true hbound

/-- An integer of any type is read back as one of that type. -/
theorem readInt_ofInt {t : IntType} (i : IntOf t) : readInt t (.number (.ofInt i.val)) = some i := by
  unfold readInt IntOf.ofInt?
  simp only [isInteger_ofInt i.holds, intValue_ofInt, if_true, dif_pos i.holds]

theorem readByte_ofInt (x : UInt8) : readByte (.number (.ofInt x.toNat)) = some x := by
  have hx : x.toNat < 256 := x.toNat_lt
  have hholds : IntType.u8.holds (x.toNat : Int) := by
    refine ⟨Int.natCast_nonneg _, ?_⟩
    show (x.toNat : Int) ≤ 255
    omega
  have hread := readInt_ofInt (t := .u8) ⟨x.toNat, hholds⟩
  unfold readByte
  rw [hread, Option.map_some, Int.toNat_natCast, UInt8.ofNat_toNat]

theorem readByteArray_byteArray (b : Bytes) : readByteArray (byteArray b) = some b := traverse_map readByte_ofInt b

theorem written_byteArray : ∀ b : Bytes, Json.WrittenItems (b.map (fun x => .number (.ofInt x.toNat)))
  | []     => trivial
  | _ :: t => ⟨fun _ h => (nomatch h), written_byteArray t⟩

theorem written_byteLists : ∀ ls : List Bytes, Json.WrittenItems (ls.map byteArray)
  | []     => trivial
  | b :: t => ⟨written_byteArray b, written_byteLists t⟩

theorem all_readByteLists (ls : List Bytes) : all readByteLists (byteLists ls).write = .ok ls := by
  have hw : (byteLists ls).Written := written_byteLists ls
  have hread : readByteLists (byteLists ls) = some ls := traverse_map readByteArray_byteArray ls
  rw [all, Json.read_write hw, Option.bind_some, hread]

end JsonCodec

/-- **The lengths of a list of keys are 64-bit words.** -/
def Sized (keys : List Bytes) : Prop := keys.length < Bytes.capacity 8 ∧ ∀ k ∈ keys, k.length < Bytes.capacity 8

instance (keys : List Bytes) : Decidable (Sized keys) := inferInstanceAs (Decidable (_ ∧ _))

/-- Fewer keys are sized, too. -/
theorem Sized.of_subset {keys l : List Bytes} (h : Sized keys) (hl : Rising l) (hs : ∀ k ∈ l, k ∈ keys) : Sized l :=
  ⟨Nat.lt_of_le_of_lt (hl.nodup.length_le_of_subset hs) h.1, fun k hk => h.2 k (hs k hk)⟩

theorem Codec.keyList?_json (l : KeyList) : json.keyList? (json.keyList l) = .ok l := by
  unfold keyList? keyList
  rw [JsonCodec.all_readByteLists]
  rfl

/-- **A stored key list is read back**, under either codec. -/
theorem Codec.keyList?_keyList (c : Codec) {l : List Bytes} (h : Sized l) : c.keyList? (c.keyList ⟨l⟩) = .ok ⟨l⟩ := by
  cases c with
  | binary =>
    unfold keyList? keyList
    rw [Binary.all_readByteLists h.1 h.2]
    rfl
  | json => exact keyList?_json ⟨l⟩

end RecordHold
