import RecordHold.Json.Read
/-!
# Proofs.JsonText — a written document is read back

Reading undoes writing, document by document (`read_write`): the compact text of a document, whatever follows it, is
read as that document and leaves what follows (`readValue_write`).  The one condition is on numbers, whose digits
have to be digits (`Numeral.Written`); and what follows a number must not go on with it (`Stops`).

The induction is on the document, a list of items or members being read along with its closing bracket.
-/
namespace RecordHold
namespace Json

/-! ## Digits -/

theorem isDigitByte_of_isDigit {c : Char} (h : c.isDigit = true) : isDigitByte (UInt8.ofNat c.toNat) = true := by
  obtain ⟨hlo, hhi⟩ : 48 ≤ c.toNat ∧ c.toNat ≤ 57 := Char.isDigit_iff_toNat.1 h
  simp only [isDigitByte, Bool.and_eq_true, decide_eq_true_eq, UInt8.le_iff_toNat_le, UInt8.toNat_ofNat']
  constructor
  · show 48 ≤ c.toNat % 256
    omega
  · show c.toNat % 256 ≤ 57
    omega

theorem all_digits (n : Nat) : ∀ b ∈ digitBytes n, isDigitByte b = true := by
  intro b hb
  obtain ⟨c, hc, rfl⟩ := List.mem_map.1 hb
  exact isDigitByte_of_isDigit (Nat.isDigit_of_mem_toDigits (by decide) (by decide) hc)

theorem digitBytes_ne_nil (n : Nat) : digitBytes n ≠ [] := by
  simp [digitBytes, Nat.toDigits_ne_nil]

theorem digitValues_digitBytes (n : Nat) :
    digitValues (digitBytes n) = (Nat.toDigits 10 n).map (fun c => c.toNat - 48) := by
  unfold digitValues digitBytes
  rw [List.map_map]
  refine List.map_congr_left (fun c hc => ?_)
  have hd := Nat.isDigit_of_mem_toDigits (by decide) (by decide) hc
  have hhi : c.toNat ≤ 57 := (Char.isDigit_iff_toNat.1 hd).2
  show (UInt8.ofNat c.toNat).toNat - 48 = c.toNat - 48
  rw [UInt8.toNat_ofNat', Nat.mod_eq_of_lt (by omega)]

theorem numberValue_digitBytes (n : Nat) : numberValue (digitValues (digitBytes n)) = n := by
  rw [digitValues_digitBytes, numberValue, List.foldl_map]
  have h := @Nat.ofDigitChars_ten_toDigits n
  rw [Nat.ofDigitChars_eq_foldl] at h
  simpa [Nat.mul_comm] using h

theorem head_toDigits {n : Nat} (h : 0 < n) {c : Char} (hc : (Nat.toDigits 10 n).head? = some c) :
    c.toNat - 48 ≠ 0 := by
  by_cases hn : n < 10
  · rw [Nat.toDigits_of_lt_base hn, List.head?_cons, Option.some.injEq] at hc
    rw [← hc, Nat.toNat_digitChar_sub_48_of_lt_ten hn]
    omega
  · rw [Nat.toDigits_of_base_le (by decide) (by omega), List.head?_append] at hc
    have hsome : (Nat.toDigits 10 (n / 10)).head?.isSome = true := by simp [Nat.toDigits_ne_nil]
    obtain ⟨d, hd⟩ := Option.isSome_iff_exists.1 hsome
    rw [hd, Option.some_or, Option.some.injEq] at hc
    have hpos : 0 < n / 10 := by omega
    exact head_toDigits hpos (hc ▸ hd)
termination_by n

/-- No number of several digits begins with zero. -/
theorem head_digits (n : Nat) (h : (digitValues (digitBytes n)).head? = some 0) :
    (digitValues (digitBytes n)).length = 1 := by
  rw [digitValues_digitBytes] at h ⊢
  rw [List.head?_map, Option.map_eq_some_iff] at h
  obtain ⟨c, hc, h0⟩ := h
  rcases Nat.eq_zero_or_pos n with rfl | hn
  · rfl
  · exact absurd h0 (head_toDigits hn hc)

/-- **What follows a number does not go on with it**: no digit, point or exponent. -/
def Stops : Bytes → Prop
  | []     => True
  | b :: _ => isDigitByte b = false ∧ b ≠ 46 ∧ b ≠ 101 ∧ b ≠ 69

theorem readDigits_append {ds rest : Bytes} (hd : ∀ b ∈ ds, isDigitByte b = true) (hne : ds ≠ [])
    (hr : ∀ b t, rest = b :: t → isDigitByte b = false) : readDigits (ds ++ rest) = some (digitValues ds, rest) := by
  have htake : (ds ++ rest).takeWhile isDigitByte = ds := by
    rw [List.takeWhile_append_of_pos hd]
    cases rest with
    | nil => simp
    | cons b t => rw [List.takeWhile_cons, hr b t rfl]; simp
  have hdrop : (ds ++ rest).dropWhile isDigitByte = rest := by
    rw [List.dropWhile_append_of_pos hd]
    cases rest with
    | nil => rfl
    | cons b t => rw [List.dropWhile_cons, hr b t rfl]; simp
  unfold readDigits
  rw [htake, hdrop, if_neg hne]

theorem readDigits_digitBytes (n : Nat) {rest : Bytes} (hr : ∀ b t, rest = b :: t → isDigitByte b = false) :
    readDigits (digitBytes n ++ rest) = some (digitValues (digitBytes n), rest) :=
  readDigits_append (all_digits n) (digitBytes_ne_nil n) hr

end Json

/-! ## Numbers -/

/-- **The digits of a number are digits**, and a fraction has some. -/
def Numeral.Written (n : Numeral) : Prop := ∀ ds, n.fraction = some ds → ds ≠ [] ∧ ∀ d ∈ ds, d < 10

namespace Json

theorem isDigitByte_digitByte {d : Nat} (h : d < 10) : isDigitByte (digitByte d) = true := by
  have hall : ∀ d, d < 10 → isDigitByte (digitByte d) = true := by decide
  exact hall d h

theorem digitValues_digitByte {ds : List Nat} (h : ∀ d ∈ ds, d < 10) : digitValues (ds.map digitByte) = ds := by
  have hall : ∀ d, d < 10 → (digitByte d).toNat - 48 = d := by decide
  unfold digitValues
  rw [List.map_map]
  conv => rhs; rw [← List.map_id' ds]
  exact List.map_congr_left (fun d hd => hall d (h d hd))

/-- The fraction of a number as it is written. -/
def fractionBytes : Option (List Nat) → Bytes
  | none    => []
  | some ds => 46 :: ds.map digitByte

/-- The exponent of a number as it is written. -/
def exponentBytes : Option Int → Bytes
  | none   => []
  | some e => writeExponent e

theorem writeNumber_eq (n : Numeral) :
    writeNumber n =
      (if n.negative then [45] else []) ++
        (digitBytes n.whole ++ (fractionBytes n.fraction ++ exponentBytes n.exponent)) := by
  unfold writeNumber
  cases n.fraction <;> cases n.exponent <;> simp [fractionBytes, exponentBytes]

theorem readFraction_append {f : Option (List Nat)} (hf : ∀ ds, f = some ds → ds ≠ [] ∧ ∀ d ∈ ds, d < 10) {rest : Bytes}
    (hr : ∀ b t, rest = b :: t → isDigitByte b = false ∧ b ≠ 46) :
    readFraction (fractionBytes f ++ rest) = some (f, rest) := by
  cases f with
  | none =>
    show readFraction rest = _
    cases rest with
    | nil => rfl
    | cons b t =>
      unfold readFraction
      split
      · rename_i h
        cases h
        exact absurd rfl (hr _ _ rfl).2
      · rfl
  | some ds =>
    obtain ⟨hne, hlt⟩ := hf ds rfl
    have hd : ∀ b ∈ ds.map digitByte, isDigitByte b = true := by
      intro b hb
      obtain ⟨d, hd, rfl⟩ := List.mem_map.1 hb
      exact isDigitByte_digitByte (hlt d hd)
    have hread := readDigits_append hd (by simpa using hne) (fun b t h => (hr b t h).1)
    show (readDigits (ds.map digitByte ++ rest)).map _ = _
    rw [hread, digitValues_digitByte hlt]
    rfl

theorem readExponent_append (e : Option Int) {rest : Bytes}
    (hr : ∀ b t, rest = b :: t → isDigitByte b = false ∧ b ≠ 101 ∧ b ≠ 69) :
    readExponent (exponentBytes e ++ rest) = some (e, rest) := by
  cases e with
  | none =>
    show readExponent rest = _
    cases rest with
    | nil => rfl
    | cons b t =>
      obtain ⟨-, h1, h2⟩ := hr b t rfl
      unfold readExponent
      exact if_neg (fun h => h.elim h1 h2)
  | some e =>
    have hread := readDigits_digitBytes e.natAbs (fun b t h => (hr b t h).1)
    by_cases he : e < 0
    · have habs : -((e.natAbs : Nat) : Int) = e := by omega
      have hb : exponentBytes (some e) = 101 :: 45 :: digitBytes e.natAbs := by
        rw [exponentBytes, writeExponent, if_pos he]
      rw [hb]
      show (readDigits (digitBytes e.natAbs ++ rest)).map _ = _
      simp only [hread, Option.map_some, numberValue_digitBytes, habs]
    · have habs : ((e.natAbs : Nat) : Int) = e := by omega
      have hb : exponentBytes (some e) = 101 :: 43 :: digitBytes e.natAbs := by
        rw [exponentBytes, writeExponent, if_neg he]
      rw [hb]
      show (readDigits (digitBytes e.natAbs ++ rest)).map _ = _
      simp only [hread, Option.map_some, numberValue_digitBytes, habs]

theorem exponentBytes_head {e : Option Int} {rest : Bytes} (hr : Stops rest) {b : UInt8} {t : Bytes}
    (h : exponentBytes e ++ rest = b :: t) : isDigitByte b = false ∧ b ≠ 46 := by
  cases e with
  | none =>
    obtain rfl : rest = b :: t := h
    exact ⟨hr.1, hr.2.1⟩
  | some e =>
    obtain ⟨rfl, -⟩ := List.cons.inj h
    decide

theorem fractionBytes_head {f : Option (List Nat)} {e : Option Int} {rest : Bytes} (hr : Stops rest) {b : UInt8}
    {t : Bytes} (h : fractionBytes f ++ (exponentBytes e ++ rest) = b :: t) : isDigitByte b = false := by
  cases f with
  | none => exact (exponentBytes_head hr h).1
  | some ds =>
    obtain ⟨rfl, -⟩ := List.cons.inj h
    decide

theorem readUnsigned_append (negative : Bool) {n : Numeral} (hn : n.Written) {rest : Bytes} (hr : Stops rest) :
    readUnsigned negative (digitBytes n.whole ++ (fractionBytes n.fraction ++ (exponentBytes n.exponent ++ rest))) =
      some (⟨negative, n.whole, n.fraction, n.exponent⟩, rest) := by
  have hdigits : readDigits (digitBytes n.whole ++ (fractionBytes n.fraction ++ (exponentBytes n.exponent ++ rest))) =
      some (digitValues (digitBytes n.whole), fractionBytes n.fraction ++ (exponentBytes n.exponent ++ rest)) :=
    readDigits_digitBytes n.whole (fun b t h => fractionBytes_head hr h)
  have hfraction : readFraction (fractionBytes n.fraction ++ (exponentBytes n.exponent ++ rest)) =
      some (n.fraction, exponentBytes n.exponent ++ rest) :=
    readFraction_append hn (fun b t h => exponentBytes_head hr h)
  have hexponent : readExponent (exponentBytes n.exponent ++ rest) = some (n.exponent, rest) := by
    refine readExponent_append _ (fun b t h => ?_)
    subst h
    exact ⟨hr.1, hr.2.2.1, hr.2.2.2⟩
  have hlead : ¬ ((digitValues (digitBytes n.whole)).head? = some 0 ∧ (digitValues (digitBytes n.whole)).length ≠ 1) :=
    fun ⟨h0, h1⟩ => h1 (head_digits _ h0)
  unfold readUnsigned
  rw [hdigits]
  simp only [Option.bind_eq_bind, Option.bind_some, if_neg hlead, hfraction, hexponent, numberValue_digitBytes]

/-- **A written number is read back**, up to where it stops. -/
theorem readNumber_append {n : Numeral} (hn : n.Written) {rest : Bytes} (hr : Stops rest) :
    readNumber (writeNumber n ++ rest) = some (n, rest) := by
  obtain ⟨negative, whole, fraction, exponent⟩ := n
  rw [writeNumber_eq]
  simp only [List.append_assoc]
  cases negative with
  | true => exact readUnsigned_append true hn hr
  | false =>
    have h := readUnsigned_append false hn hr
    simp only [Bool.false_eq_true, if_false, List.nil_append]
    cases hd : digitBytes whole with
    | nil => exact absurd hd (digitBytes_ne_nil whole)
    | cons b t =>
      have hb : isDigitByte b = true := all_digits whole b (by rw [hd]; exact List.mem_cons_self)
      simp only [hd, List.cons_append] at h ⊢
      unfold readNumber
      split
      · rename_i heq
        cases heq
        cases hb
      · exact h

/-! ## Strings -/

theorem hexQuad_control : ∀ n, n < 32 → hexQuad 48 48 (hexByte (n / 16)) (hexByte (n % 16)) = some n := by decide

theorem readString_control (b : UInt8) (h : b < 32) (t : Bytes) :
    readString (92 :: 117 :: 48 :: 48 :: hexByte (b.toNat / 16) :: hexByte (b.toNat % 16) :: t) =
      (readString t).map (fun (s, r) => (b :: s, r)) := by
  have hb : b.toNat < 32 := UInt8.lt_iff_toNat_lt.1 h
  have hsur : isHighSurrogate b.toNat = false := by
    simp only [isHighSurrogate, Bool.and_eq_false_iff, decide_eq_false_iff_not]
    omega
  have hcode : codePointBytes b.toNat = [b] := by
    rw [codePointBytes, if_pos (by omega), UInt8.ofNat_toNat]
  rw [readString, hexQuad_control b.toNat hb]
  simp only [hsur, Bool.false_eq_true, if_false, hcode, List.singleton_append]

theorem readString_plain (b : UInt8) (h34 : b ≠ 34) (h92 : b ≠ 92) (h : ¬ b < 32) (t : Bytes) :
    readString (b :: t) = (readString t).map (fun (s, r) => (b :: s, r)) := by
  conv => lhs; unfold readString
  split
  · cases ‹b :: t = []›
  · rename_i heq
    exact absurd (List.cons.inj heq).1 h34
  · rename_i heq
    exact absurd (List.cons.inj heq).1 h92
  · rename_i heq
    exact absurd (List.cons.inj heq).1 h92
  · rename_i heq
    obtain ⟨rfl, rfl⟩ := List.cons.inj heq
    rw [if_neg (fun hor => hor.elim h h92)]

/-- Reading one escaped byte yields the byte. -/
theorem readString_escapeByte (b : UInt8) (t : Bytes) :
    readString (escapeByte b ++ t) = (readString t).map (fun (s, r) => (b :: s, r)) := by
  by_cases h34 : b = 34
  · subst h34; rfl
  by_cases h92 : b = 92
  · subst h92; rfl
  by_cases h8 : b = 8
  · subst h8; rfl
  by_cases h9 : b = 9
  · subst h9; rfl
  by_cases h10 : b = 10
  · subst h10; rfl
  by_cases h12 : b = 12
  · subst h12; rfl
  by_cases h13 : b = 13
  · subst h13; rfl
  by_cases h32 : b < 32
  · rw [escapeByte, if_neg h34, if_neg h92, if_neg h8, if_neg h9, if_neg h10, if_neg h12, if_neg h13, if_pos h32]
    exact readString_control b h32 t
  · rw [escapeByte, if_neg h34, if_neg h92, if_neg h8, if_neg h9, if_neg h10, if_neg h12, if_neg h13, if_neg h32]
    exact readString_plain b h34 h92 h32 t

/-- **A written string is read back**, up to its closing quote. -/
theorem readString_append : ∀ (content rest : Bytes),
    readString (content.flatMap escapeByte ++ 34 :: rest) = some (content, rest)
  | [],     rest => by rw [List.flatMap_nil, List.nil_append, readString]
  | b :: t, rest => by
    rw [List.flatMap_cons, List.append_assoc, readString_escapeByte, readString_append t rest]
    rfl

/-! ## Documents -/

mutual
/-- **The numbers of a document are written in digits.** -/
def Written : Json → Prop
  | number n  => n.Written
  | array xs  => WrittenItems xs
  | object ms => WrittenMembers ms
  | _         => True

def WrittenItems : List Json → Prop
  | []     => True
  | x :: t => Written x ∧ WrittenItems t

def WrittenMembers : List (Bytes × Json) → Prop
  | []          => True
  | (_, x) :: t => Written x ∧ WrittenMembers t
end

/-- A document begins with a byte that is no white space. -/
theorem writeNumber_head (n : Numeral) : ∃ b t, writeNumber n = b :: t ∧ (b = 45 ∨ isDigitByte b = true) := by
  rw [writeNumber_eq]
  cases n.negative with
  | true => exact ⟨45, _, rfl, Or.inl rfl⟩
  | false =>
    cases hd : digitBytes n.whole with
    | nil => exact absurd hd (digitBytes_ne_nil _)
    | cons b t => exact ⟨b, _, rfl, Or.inr (all_digits n.whole b (by rw [hd]; exact List.mem_cons_self))⟩

theorem write_head (j : Json) : ∃ b t, write j = b :: t ∧ isSpace b = false ∧ b ≠ 93 ∧ b ≠ 125 := by
  cases j with
  | null => exact ⟨_, _, rfl, by decide, by decide, by decide⟩
  | bool b => cases b <;> exact ⟨_, _, rfl, by decide, by decide, by decide⟩
  | string s => exact ⟨_, _, rfl, by decide, by decide, by decide⟩
  | array xs => exact ⟨_, _, by rw [write]; rfl, by decide, by decide, by decide⟩
  | object ms => exact ⟨_, _, by rw [write]; rfl, by decide, by decide, by decide⟩
  | number n =>
    obtain ⟨b, t, hbt, hb⟩ := writeNumber_head n
    have hall : ∀ b : UInt8, (b = 45 ∨ isDigitByte b = true) → isSpace b = false ∧ b ≠ 93 ∧ b ≠ 125 := by
      intro b hb
      simp only [isSpace, isDigitByte, Bool.or_eq_false_iff, beq_eq_false_iff_ne] at *
      grind
    exact ⟨b, t, by rw [write]; exact hbt, hall b hb⟩

theorem skipSpace_write (j : Json) (rest : Bytes) : skipSpace (write j ++ rest) = write j ++ rest := by
  obtain ⟨b, t, hbt, hs, -⟩ := write_head j
  rw [hbt, List.cons_append, skipSpace, List.dropWhile_cons, hs]
  rfl

theorem skipSpace_cons {b : UInt8} (h : isSpace b = false) (t : Bytes) : skipSpace (b :: t) = b :: t := by
  rw [skipSpace, List.dropWhile_cons, h]
  rfl

theorem readValue_number {n : Numeral} (hn : n.Written) {rest : Bytes} (hr : Stops rest) (fuel : Nat) :
    readValue (fuel + 1) (writeNumber n ++ rest) = some (number n, rest) := by
  have hskip := skipSpace_write (number n) rest
  have hread := readNumber_append hn hr
  obtain ⟨b, t, hbt, hb⟩ := writeNumber_head n
  rw [write] at hskip
  rw [hbt] at hskip hread ⊢
  unfold readValue
  rw [hskip]
  split
  case h_7 => rw [hread]; rfl
  all_goals
    rename_i heq
    rw [List.cons_append, List.cons.injEq] at heq
    obtain ⟨rfl, -⟩ := heq
    exact absurd hb (by decide)

theorem writeItems_head (x : Json) (xs : List Json) :
    ∃ b t, writeItems (x :: xs) = b :: t ∧ isSpace b = false ∧ b ≠ 93 := by
  obtain ⟨b, t, hbt, hs, h93, -⟩ := write_head x
  cases xs with
  | nil => exact ⟨b, t, by rw [writeItems, hbt], hs, h93⟩
  | cons y t' => exact ⟨b, _, by rw [writeItems, hbt]; rfl, hs, h93⟩

theorem writeMembers_head (m : Bytes × Json) (ms : List (Bytes × Json)) :
    ∃ t, writeMembers (m :: ms) = 34 :: t := by
  obtain ⟨k, v⟩ := m
  cases ms with
  | nil => exact ⟨_, by rw [writeMembers, writeString]; rfl⟩
  | cons m t' => exact ⟨_, by rw [writeMembers, writeString]; rfl⟩

theorem length_write_pos (j : Json) : 0 < (write j).length := by
  obtain ⟨b, t, hbt, -⟩ := write_head j
  rw [hbt]
  exact Nat.succ_pos _

theorem stops_of_ne {b : UInt8} {t : Bytes} (h : b = 44 ∨ b = 93 ∨ b = 125) : Stops (b :: t) := by
  rcases h with rfl | rfl | rfl <;> exact ⟨by decide, by decide, by decide, by decide⟩

/-- The first member of an object is read: after its value a comma goes on to the others, and a brace ends them. -/
theorem readMembers_first (k b : Bytes) (v : Json) (fuel : Nat) (rest : Bytes) :
    (readValue fuel b = some (v, 44 :: rest) →
      readMembers (fuel + 1) (34 :: (k.flatMap escapeByte ++ 34 :: 58 :: b)) =
        (readMembers fuel rest).map (fun (ms, r) => ((k, v) :: ms, r))) ∧
    (readValue fuel b = some (v, 125 :: rest) →
      readMembers (fuel + 1) (34 :: (k.flatMap escapeByte ++ 34 :: 58 :: b)) = some ([(k, v)], rest)) := by
  have hcolon : isSpace 58 = false := by decide
  rw [readMembers, skipSpace_cons (by decide)]
  simp only [readString_append, skipSpace_cons hcolon]
  constructor
  · intro hread
    rw [hread]
    rfl
  · intro hread
    rw [hread]
    rfl

mutual
/-- **A written document is read back**, if the fuel is twice its length. -/
theorem readValue_write : ∀ (j : Json) (fuel : Nat) (rest : Bytes), j.Written → Stops rest →
    2 * (write j).length ≤ fuel + 1 → readValue (fuel + 1) (write j ++ rest) = some (j, rest)
  | null,       fuel, rest, _, _, _ => rfl
  | bool true,  fuel, rest, _, _, _ => rfl
  | bool false, fuel, rest, _, _, _ => rfl
  | number n,   fuel, rest, hw, hr, _ => readValue_number hw hr fuel
  | string s,   fuel, rest, _, _, _ => by
    have hs : write (string s) ++ rest = 34 :: (s.flatMap escapeByte ++ 34 :: rest) := by
      rw [write, writeString]
      simp
    rw [hs]
    show (readString _).map _ = _
    rw [readString_append]
    rfl
  | array [],   fuel, rest, _, _, _ => rfl
  | array (x :: xs), fuel, rest, hw, _, hf => by
    have hs : write (array (x :: xs)) ++ rest = 91 :: (writeItems (x :: xs) ++ 93 :: rest) := by
      rw [write]
      simp
    have hlen : (write (array (x :: xs))).length = (writeItems (x :: xs)).length + 2 := by
      rw [write]
      simp
    have hread := readItems_write x xs fuel rest hw (by omega)
    obtain ⟨b, t, hbt, hb, h93⟩ := writeItems_head x xs
    rw [hs]
    rw [hbt, List.cons_append] at hread ⊢
    show (match skipSpace (b :: (t ++ 93 :: rest)) with
      | 93 :: r => some (array [], r)
      | r       => (readItems fuel r).map (fun (xs, r) => (array xs, r))) = _
    rw [skipSpace_cons hb]
    split
    · rename_i heq
      exact absurd (List.cons.inj heq).1 h93
    · rw [hread]
      rfl
  | object [],  fuel, rest, _, _, _ => rfl
  | object (m :: ms), fuel, rest, hw, _, hf => by
    have hs : write (object (m :: ms)) ++ rest = 123 :: (writeMembers (m :: ms) ++ 125 :: rest) := by
      rw [write]
      simp
    have hlen : (write (object (m :: ms))).length = (writeMembers (m :: ms)).length + 2 := by
      rw [write]
      simp
    have hread := readMembers_write m ms fuel rest hw (by omega)
    obtain ⟨t, hbt⟩ := writeMembers_head m ms
    rw [hs]
    rw [hbt, List.cons_append] at hread ⊢
    show (readMembers fuel (34 :: (t ++ 125 :: rest))).map (fun (ms, r) => (object ms, r)) = _
    rw [hread]
    rfl

theorem readItems_write : ∀ (x : Json) (xs : List Json) (fuel : Nat) (rest : Bytes), WrittenItems (x :: xs) →
    2 * (writeItems (x :: xs)).length + 1 ≤ fuel →
    readItems fuel (writeItems (x :: xs) ++ 93 :: rest) = some (x :: xs, rest)
  | x, [],     fuel, rest, hw, hf => by
    obtain ⟨fuel, rfl⟩ : ∃ m, fuel = m + 2 := by
      have := length_write_pos x
      rw [writeItems] at hf
      exact ⟨fuel - 2, by omega⟩
    rw [writeItems] at hf ⊢
    have hread := readValue_write x fuel (93 :: rest) hw.1 (stops_of_ne (by decide)) (by omega)
    unfold readItems
    rw [hread]
    rfl
  | x, y :: t, fuel, rest, hw, hf => by
    obtain ⟨fuel, rfl⟩ : ∃ m, fuel = m + 2 := by
      have := length_write_pos x
      rw [writeItems, List.length_append] at hf
      exact ⟨fuel - 2, by omega⟩
    have hs : writeItems (x :: y :: t) ++ 93 :: rest = write x ++ 44 :: (writeItems (y :: t) ++ 93 :: rest) := by
      rw [writeItems]
      simp
    rw [writeItems, List.length_append, List.length_cons] at hf
    have hx := length_write_pos x
    have hread := readValue_write x fuel (44 :: (writeItems (y :: t) ++ 93 :: rest)) hw.1 (stops_of_ne (by decide))
      (by omega)
    have hitems := readItems_write y t (fuel + 1) rest hw.2 (by omega)
    rw [hs]
    unfold readItems
    rw [hread]
    show (readItems (fuel + 1) (writeItems (y :: t) ++ 93 :: rest)).map (fun (xs, r) => (x :: xs, r)) = _
    rw [hitems]
    rfl

theorem readMembers_write : ∀ (m : Bytes × Json) (ms : List (Bytes × Json)) (fuel : Nat) (rest : Bytes),
    WrittenMembers (m :: ms) → 2 * (writeMembers (m :: ms)).length + 1 ≤ fuel →
    readMembers fuel (writeMembers (m :: ms) ++ 125 :: rest) = some (m :: ms, rest)
  | (k, v), [],     fuel, rest, hw, hf => by
    have hs : writeMembers [(k, v)] ++ 125 :: rest =
        34 :: (k.flatMap escapeByte ++ 34 :: 58 :: (write v ++ 125 :: rest)) := by
      rw [writeMembers, writeString]
      simp
    obtain ⟨fuel, rfl⟩ : ∃ m, fuel = m + 2 := by
      rw [writeMembers, writeString] at hf
      exact ⟨fuel - 2, by grind⟩
    have hv : 2 * (write v).length ≤ fuel + 1 := by
      rw [writeMembers, List.length_append, List.length_cons] at hf
      omega
    have hread := readValue_write v fuel (125 :: rest) hw.1 (stops_of_ne (by decide)) hv
    rw [hs]
    exact (readMembers_first k _ v _ rest).2 hread
  | (k, v), m :: t, fuel, rest, hw, hf => by
    have hs : writeMembers ((k, v) :: m :: t) ++ 125 :: rest =
        34 :: (k.flatMap escapeByte ++ 34 :: 58 :: (write v ++ 44 :: (writeMembers (m :: t) ++ 125 :: rest))) := by
      rw [writeMembers, writeString]
      simp
    have hlen : (write v).length + (writeMembers (m :: t)).length + 2 ≤ (writeMembers ((k, v) :: m :: t)).length := by
      rw [writeMembers]
      grind
    obtain ⟨fuel, rfl⟩ : ∃ m, fuel = m + 2 := ⟨fuel - 2, by omega⟩
    have hread := readValue_write v fuel (44 :: (writeMembers (m :: t) ++ 125 :: rest)) hw.1 (stops_of_ne (by decide))
      (by omega)
    have hmembers := readMembers_write m t (fuel + 1) rest hw.2 (by omega)
    rw [hs, (readMembers_first k _ v _ _).1 hread, hmembers]
    rfl
end

/-- **Reading undoes writing.** -/
theorem read_write {j : Json} (h : j.Written) : read (write j) = some j := by
  have hread := readValue_write j (2 * (write j).length + 1) [] h trivial (by omega)
  rw [List.append_nil] at hread
  rw [read, hread]
  rfl

end Json
end RecordHold
