import RecordHold.Config.TomlWrite
import RecordHold.Proofs.JsonText
/-!
# Proofs.TomlText — a plain TOML document is read back

A plain document can be written exactly if its numbers are integers of TOML (`PlainDocument.write_isSome`), and what is
written is read as its tables (`PlainDocument.read_write`).

Reading goes line by line.  `Leads` says that reading from one place goes on at a later one; every kind of line leads on
to the next, and a document to its end.
-/
namespace RecordHold
namespace Toml

open Growing

/-! ## What is written -/

theorem writeAll_cons_eq_some {α : Type} {write : α → Option (List Char)} {a : α} {l : List α} {s : List Char}
    (h : writeAll write (a :: l) = some s) : ∃ s₁ s₂, write a = some s₁ ∧ writeAll write l = some s₂ ∧ s₁ ++ s₂ = s := by
  obtain ⟨s₁, h₁, hrest⟩ := Option.bind_eq_some_iff.1 h
  obtain ⟨s₂, h₂, hs⟩ := Option.map_eq_some_iff.1 hrest
  exact ⟨s₁, s₂, h₁, h₂, hs⟩

/-- Texts are written one after the other if each of them can be. -/
theorem writeAll_isSome {α : Type} {write : α → Option (List Char)} : ∀ {l : List α},
    (writeAll write l).isSome ↔ ∀ a ∈ l, (write a).isSome
  | []     => iff_of_true rfl (fun _ h => nomatch h)
  | a :: l => by
    rw [List.forall_mem_cons, ← writeAll_isSome, writeAll, Option.isSome_bind]
    cases write a with
    | none   => exact iff_of_false nofun (fun h => nomatch h.1)
    | some s =>
      rw [Option.any_some, Option.isSome_map]
      exact (and_iff_right rfl).symm

/-- **A value can be written**: a number that has 64 bits with its sign, or any word. -/
def Plain.Fits : Plain → Prop
  | .number n => IntType.i64.holds n
  | .word _   => True

theorem Plain.write_isSome {p : Plain} : p.write.isSome ↔ p.Fits := by
  cases p with
  | number n =>
    show (if IntType.i64.holds n then some (Nat.toDigits 10 n) else none).isSome ↔ IntType.i64.holds n
    by_cases h : IntType.i64.holds n
    · rw [if_pos h]
      exact iff_of_true rfl h
    · rw [if_neg h]
      exact iff_of_false nofun h
  | word w => exact iff_of_true rfl trivial

theorem PlainTable.write_isSome {t : PlainTable} : t.write.isSome ↔ ∀ e ∈ t.rows, e.2.Fits := by
  rw [write, Option.isSome_map, writeAll_isSome]
  refine forall₂_congr (fun e _ => ?_)
  rw [writeRow, Option.isSome_map, Plain.write_isSome]

/-- **A document can be written exactly if its values can.** -/
theorem PlainDocument.write_isSome {d : PlainDocument} :
    d.write.isSome ↔ ∀ t ∈ d.tables, ∀ e ∈ t.rows, e.2.Fits := by
  unfold write
  cases d.tables with
  | nil => exact iff_of_true rfl (fun _ h => nomatch h)
  | cons t ts =>
    rw [List.forall_mem_cons, ← PlainTable.write_isSome, Option.isSome_map, Option.isSome_bind]
    have hts : (writeAll (fun t : PlainTable => t.write.map ('\n' :: ·)) ts).isSome ↔
        ∀ t ∈ ts, ∀ e ∈ t.rows, e.2.Fits := by
      rw [writeAll_isSome]
      refine forall₂_congr (fun t _ => ?_)
      rw [Option.isSome_map, PlainTable.write_isSome]
    rw [← hts]
    cases t.write with
    | none   => exact iff_of_false nofun (fun h => nomatch h.1)
    | some s =>
      rw [Option.any_some, Option.isSome_map]
      exact (and_iff_right rfl).symm

/-! ## Words -/

section
variable {p : Char → Bool} {s u : List Char}

/-- What begins with another character does not begin with one of these. -/
theorem head_cons {d : Char} (hd : p d = false) (t : List Char) : ∀ c ∈ (d :: t).head?, p c = false := by
  intro c hc
  cases hc
  exact hd

theorem takeWhile_append_of_head (hs : ∀ c ∈ s, p c = true) (hu : ∀ c ∈ u.head?, p c = false) :
    (s ++ u).takeWhile p = s := by
  rw [List.takeWhile_append_of_pos hs]
  cases u with
  | nil      => exact List.append_nil s
  | cons c t =>
    rw [List.takeWhile_cons_of_neg (by rw [hu c rfl]; exact Bool.false_ne_true), List.append_nil]

/-- A word of some characters does not begin with any other. -/
theorem append_ne_cons (hne : s ≠ []) (hs : ∀ c ∈ s, p c = true) {d : Char} (hd : p d = false) (t : List Char) :
    s ++ u ≠ d :: t := by
  obtain ⟨c, r, rfl⟩ := List.exists_cons_of_ne_nil hne
  intro hcons
  have hc := hs c List.mem_cons_self
  rw [(List.cons.inj hcons).1, hd] at hc
  cases hc

theorem skipBlanks_append (hne : s ≠ []) (hs : ∀ c ∈ s, p c = true) (hspace : p ' ' = false) (htab : p '\t' = false) :
    skipBlanks (s ++ u) = s ++ u := by
  obtain ⟨c, r, rfl⟩ := List.exists_cons_of_ne_nil hne
  refine List.dropWhile_cons_of_neg (fun hblank => ?_)
  rcases Bool.or_eq_true_iff.1 hblank with hc | hc
  · exact append_ne_cons (u := u) hne hs hspace (r ++ u) (by rw [eq_of_beq hc]; rfl)
  · exact append_ne_cons (u := u) hne hs htab (r ++ u) (by rw [eq_of_beq hc]; rfl)

end

/-! ## Keys -/

namespace BareName

variable (name : BareName) {u r : List Char}

theorem bareKeys : ∀ c ∈ name.text.toList, isBareKey c = true := List.all_eq_true.1 name.bare.2

theorem readSimpleKey (hu : ∀ c ∈ u.head?, isBareKey c = false) :
    readSimpleKey (name.text.toList ++ u) = some (name.text, u) := by
  unfold Toml.readSimpleKey
  split
  · exact absurd ‹_› (append_ne_cons name.bare.1 name.bareKeys rfl _)
  · exact absurd ‹_› (append_ne_cons name.bare.1 name.bareKeys rfl _)
  · dsimp only
    rw [takeWhile_append_of_head name.bareKeys hu, if_neg name.bare.1, List.drop_left, String.ofList_toList]

/-- **A bare name is a key**, whatever follows it but a dot. -/
theorem readKey (hu : ∀ c ∈ u.head?, isBareKey c = false) (hr : Toml.skipBlanks u = r) (hdot : r.head? ≠ some '.') :
    readKey (name.text.toList ++ u) = some ([name.text], r) := by
  show readParts (78 + 1) (name.text.toList ++ u) = some ([name.text], r)
  rw [readParts, skipBlanks_append name.bare.1 name.bareKeys rfl rfl, name.readSimpleKey hu, Option.bind_some]
  dsimp only
  rw [hr]
  split
  · exact absurd rfl hdot
  · rfl

end BareName

/-! ## Values -/

theorem plainDigits_of_digits : ∀ {ds : List Char}, ds ≠ [] → (∀ c ∈ ds, c.isDigit = true) →
    plainDigits Char.isDigit ds = some ds
  | [],          hne, _ => absurd rfl hne
  | [c],         _,   h => by
    rw [plainDigits, if_pos (h c List.mem_cons_self)]
  | c :: d :: t, _,   h => by
    obtain ⟨hc, ht⟩ := List.forall_mem_cons.1 h
    have hd : d ≠ '_' := by
      rintro rfl
      exact absurd (ht '_' List.mem_cons_self) (by decide)
    rw [plainDigits, if_pos hc, plainDigits_of_digits (List.cons_ne_nil d t) ht]
    · rfl
    · exact List.cons_ne_nil d t
    · intro u hu
      exact hd (List.cons.inj hu).1

theorem foldl_digits : ∀ {ds : List Char} {n : Nat}, (∀ c ∈ ds, c.isDigit = true) →
    ds.foldl (fun n c => n.bind (fun n => (hexDigit? c).bind (fun d =>
      if d < 10 then some (n * 10 + d) else none))) (some n) = some (Nat.ofDigitChars 10 ds n)
  | [],     n, _ => rfl
  | c :: t, n, h => by
    obtain ⟨hc, ht⟩ := List.forall_mem_cons.1 h
    have hlt : c.toNat - 48 < 10 := by
      have hle : c.toNat ≤ 57 := (Char.isDigit_iff_toNat.1 hc).2
      omega
    rw [List.foldl_cons, Option.bind_some, hexDigit?, if_pos hc, Option.bind_some, if_pos hlt, foldl_digits ht,
      Nat.ofDigitChars_cons, Nat.mul_comm]
    rfl

theorem digits_toDigits (n : Nat) : ∀ c ∈ Nat.toDigits 10 n, c.isDigit = true :=
  fun _ hc => Nat.isDigit_of_mem_toDigits (by decide) (by decide) hc

theorem toDigits_ne (n : Nat) {d : Char} (hd : d.isDigit = false) (t : List Char) : Nat.toDigits 10 n ≠ d :: t := by
  have hne := append_ne_cons (u := []) (Nat.toDigits_ne_nil (b := 10) (n := n)) (digits_toDigits n) hd t
  rwa [List.append_nil] at hne

theorem number?_toDigits (n : Nat) : number? 10 (Nat.toDigits 10 n) = some n := by
  unfold number?
  rw [foldl_digits (digits_toDigits n), Nat.ofDigitChars_ten_toDigits]

theorem whole?_toDigits (n : Nat) : whole? (Nat.toDigits 10 n) = some n := by
  unfold whole?
  rw [plainDigits_of_digits Nat.toDigits_ne_nil (digits_toDigits n), Option.bind_some, if_neg, number?_toDigits]
  rintro ⟨hhead, hlength⟩
  rcases Nat.eq_zero_or_pos n with rfl | hn
  · exact hlength rfl
  · exact Json.head_toDigits hn hhead rfl

/-- **The digits of a number that has 64 bits with its sign are an integer.** -/
theorem integer?_toDigits {n : Nat} (h : IntType.i64.holds n) : integer? (Nat.toDigits 10 n) = some (.integer n) := by
  have hsign : stripSign (Nat.toDigits 10 n) = (false, Nat.toDigits 10 n) := by
    unfold stripSign
    split
    · exact absurd ‹_› (toDigits_ne n rfl _)
    · exact absurd ‹_› (toDigits_ne n rfl _)
    · rfl
  have hletter (a c : Char) (t : List Char) (hc : c.isDigit = false) (ht : Nat.toDigits 10 n = a :: c :: t) : False := by
    have hd := digits_toDigits n c (by rw [ht]; exact List.mem_cons_of_mem a List.mem_cons_self)
    rw [hc] at hd
    cases hd
  rw [integer?.eq_4 _ (fun t => hletter '0' 'x' t rfl) (fun t => hletter '0' 'o' t rfl)
    (fun t => hletter '0' 'b' t rfl), hsign]
  dsimp only
  rw [whole?_toDigits, Option.bind_some, if_neg Bool.false_ne_true, bounded, if_pos h]

theorem ofWord_toDigits {n : Nat} (h : IntType.i64.holds n) : ofWord (Nat.toDigits 10 n) = some (.integer n) := by
  rw [ofWord, if_neg (toDigits_ne n rfl _), if_neg (toDigits_ne n rfl _), integer?_toDigits h]

theorem isWordChar_of_isDigit {c : Char} (h : c.isDigit = true) : isWordChar c = true := by
  simp [isWordChar, isBareKey, Char.isAlphanum, h]

theorem readWord_toDigits {n : Nat} (h : IntType.i64.holds n) (rest : List Char) :
    readWord (Nat.toDigits 10 n ++ '\n' :: rest) = some (.integer n, '\n' :: rest) := by
  have htake : (Nat.toDigits 10 n ++ '\n' :: rest).takeWhile isWordChar = Nat.toDigits 10 n :=
    takeWhile_append_of_head (fun c hc => isWordChar_of_isDigit (digits_toDigits n c hc)) (head_cons rfl _)
  rw [readWord, htake, List.drop_left]
  dsimp only
  rw [ofWord_toDigits h]
  rfl

theorem readBasic_append : ∀ {cs : List Char} {rest : List Char} {fuel : Nat},
    (∀ c ∈ cs, isVisible c = true ∧ c ≠ '"' ∧ c ≠ '\\') → cs.length < fuel →
    readBasic fuel (cs ++ '"' :: rest) = some (cs, rest)
  | [],      rest, fuel + 1, _, _ => rfl
  | c :: cs, rest, fuel + 1, h, hfuel => by
    obtain ⟨⟨hvisible, hquote, hescape⟩, hcs⟩ := List.forall_mem_cons.1 h
    rw [List.cons_append, readBasic.eq_4 _ _ _ hquote hescape, if_pos hvisible,
      readBasic_append hcs (Nat.lt_of_succ_lt_succ hfuel)]
    rfl

/-- **A string is read up to its closing quote.** -/
theorem readString_word {cs : List Char} (h : ∀ c ∈ cs, isVisible c = true ∧ c ≠ '"' ∧ c ≠ '\\') (rest : List Char) :
    readString ('"' :: (cs ++ '"' :: '\n' :: rest)) = some (cs, '\n' :: rest) := by
  rw [readString.eq_3]
  · exact readBasic_append h (by rw [List.length_append, List.length_cons]; omega)
  · -- no three quotes stand in a row
    intro t ht
    cases cs with
    | nil => cases ht
    | cons c cs => exact (h c List.mem_cons_self).2.1 (List.cons.inj ht).1

theorem Word.plainText (w : Word) : ∀ c ∈ w.text.toList, isVisible c = true ∧ c ≠ '"' ∧ c ≠ '\\' := by
  intro c hc
  have hplain := List.all_eq_true.1 w.plain c hc
  rw [isPlain, Bool.and_eq_true, Bool.and_eq_true, bne_iff_ne, bne_iff_ne] at hplain
  exact ⟨hplain.1.1, hplain.1.2, hplain.2⟩

/-- What a value is. -/
def Plain.value : Plain → Toml
  | .number n => .integer n
  | .word w   => .string w.text

/-- **A value is read back** at the end of a line. -/
theorem Plain.readValue_write {p : Plain} {s : List Char} (h : p.write = some s) (fuel room : Nat) (rest : List Char) :
    readValue (fuel + 1) room (s ++ '\n' :: rest) = some (p.value, '\n' :: rest) := by
  cases p with
  | number n =>
    obtain ⟨hn, hs⟩ := Option.ite_none_right_eq_some.1 h
    cases hs
    have hhead (d : Char) (t : List Char) (hd : d.isDigit = false) : Nat.toDigits 10 n ++ '\n' :: rest ≠ d :: t :=
      append_ne_cons Nat.toDigits_ne_nil (digits_toDigits n) hd t
    rw [readValue.eq_8 room _ fuel (fun t => hhead '"' t rfl) (fun t => hhead '\'' t rfl)
      (fun t ht => absurd ht (hhead '[' t rfl)) (fun t _ ht => absurd ht (hhead '[' t rfl))
      (fun t ht => absurd ht (hhead '\x7b' t rfl)) (fun t _ ht => absurd ht (hhead '\x7b' t rfl))]
    exact readWord_toDigits hn rest
  | word w =>
    cases h
    have htext : ('"' :: w.text.toList ++ ['"']) ++ '\n' :: rest = '"' :: (w.text.toList ++ '"' :: '\n' :: rest) := by
      simp
    rw [htext, readValue.eq_2, readString_word w.plainText]
    exact congrArg (fun s => some (Toml.string s, '\n' :: rest)) String.ofList_toList

theorem Plain.skipBlanks_write {p : Plain} {s : List Char} (h : p.write = some s) (u : List Char) :
    skipBlanks (' ' :: (s ++ u)) = s ++ u := by
  cases p with
  | number n =>
    obtain ⟨-, hs⟩ := Option.ite_none_right_eq_some.1 h
    cases hs
    exact skipBlanks_append Nat.toDigits_ne_nil (digits_toDigits n) rfl rfl
  | word w =>
    cases h
    rfl

/-! ## Lines -/

/-- **Where reading is**: the path of the last header, the tables so far and the text to come. -/
structure Spot where
  header : List String
  tables : Entries
  rest   : List Char

/-- **Reading goes on from one place at a later one.** -/
def Leads (a b : Spot) : Prop :=
  ∀ fuel, a.rest.length < fuel → ∃ fuel', b.rest.length < fuel' ∧
    readLines fuel a.header a.tables a.rest = readLines fuel' b.header b.tables b.rest

theorem Leads.refl (a : Spot) : Leads a a := fun fuel h => ⟨fuel, h, rfl⟩

theorem Leads.trans {a b c : Spot} (hab : Leads a b) (hbc : Leads b c) : Leads a c := by
  intro fuel h
  obtain ⟨fuel', h', hread⟩ := hab fuel h
  obtain ⟨fuel'', h'', hread'⟩ := hbc fuel' h'
  exact ⟨fuel'', h'', hread.trans hread'⟩

/-- One line leads on, if it is read so with any fuel. -/
theorem Leads.of_line {a b : Spot} (hlength : b.rest.length < a.rest.length)
    (hread : ∀ fuel, readLines (fuel + 1) a.header a.tables a.rest = readLines fuel b.header b.tables b.rest) :
    Leads a b
  | 0,        h => absurd h (Nat.not_lt_zero _)
  | fuel + 1, h => ⟨fuel, Nat.lt_of_lt_of_le hlength (Nat.le_of_lt_succ h), hread fuel⟩

theorem leads_blank (header : List String) (es : Entries) (rest : List Char) :
    Leads ⟨header, es, '\n' :: rest⟩ ⟨header, es, rest⟩ :=
  .of_line (Nat.lt_succ_self _) (fun _ => rfl)

theorem finishLine_newline (rest : List Char) : finishLine ('\n' :: rest) = some rest := rfl

/-- **A header opens its table.** -/
theorem leads_header (name : BareName) {header : List String} {es es' : Entries}
    (hopen : openTable [name.text] es = some es') (rest : List Char) :
    Leads ⟨header, es, '[' :: name.text.toList ++ ']' :: '\n' :: rest⟩ ⟨[name.text], es', rest⟩ := by
  refine .of_line (by simp only [List.length_append, List.length_cons]; omega) (fun fuel => ?_)
  have hskip : skipBlanks ('[' :: name.text.toList ++ ']' :: '\n' :: rest) =
      '[' :: (name.text.toList ++ ']' :: '\n' :: rest) := rfl
  have hkey : readKey (name.text.toList ++ ']' :: '\n' :: rest) = some ([name.text], ']' :: '\n' :: rest) :=
    name.readKey (head_cons rfl _) rfl (by simp)
  rw [readLines, hskip]
  split
  · rename_i h
    cases h
  · rename_i h
    cases h
  · rename_i h
    exact absurd (List.cons.inj h).2 (append_ne_cons name.bare.1 name.bareKeys rfl _)
  · rename_i h
    cases h
    rw [hkey]
    show ((finishLine ('\n' :: rest)).bind fun r =>
      (openTable [name.text] es).bind fun es => readLines fuel [name.text] es r) = readLines fuel [name.text] es' rest
    rw [finishLine_newline, Option.bind_some, hopen, Option.bind_some]
  · rename_i h
    exact (h _ rfl).elim

/-- **A row is added** to the table of the last header. -/
theorem leads_row {e : BareName × Plain} {line : List Char} (hline : writeRow e = some line) {header : List String}
    {es es' : Entries} (hadd : addUnder header [e.1.text] e.2.value es = some es') (rest : List Char) :
    Leads ⟨header, es, line ++ rest⟩ ⟨header, es', rest⟩ := by
  obtain ⟨s, hs, rfl⟩ := Option.map_eq_some_iff.1 hline
  obtain ⟨name, value⟩ := e
  refine .of_line (by simp only [List.length_append, List.length_cons]; omega) (fun fuel => ?_)
  have htext : (name.text.toList ++ ' ' :: '=' :: ' ' :: s ++ ['\n']) ++ rest =
      name.text.toList ++ ' ' :: '=' :: ' ' :: (s ++ '\n' :: rest) := by
    simp
  have hnewline : newline? (name.text.toList ++ ' ' :: '=' :: ' ' :: (s ++ '\n' :: rest)) = none :=
    newline?.eq_3 _ (fun _ => append_ne_cons name.bare.1 name.bareKeys rfl _)
      (fun _ => append_ne_cons name.bare.1 name.bareKeys rfl _)
  have hkey : readKey (name.text.toList ++ ' ' :: '=' :: ' ' :: (s ++ '\n' :: rest)) =
      some ([name.text], '=' :: ' ' :: (s ++ '\n' :: rest)) :=
    name.readKey (head_cons rfl _) rfl (by simp)
  dsimp only at hs hadd ⊢
  rw [htext, readLines, skipBlanks_append name.bare.1 name.bareKeys rfl rfl]
  split
  · rename_i h
    exact absurd (List.append_eq_nil_iff.1 h).1 name.bare.1
  · exact absurd ‹_› (append_ne_cons name.bare.1 name.bareKeys rfl _)
  · exact absurd ‹_› (append_ne_cons name.bare.1 name.bareKeys rfl _)
  · exact absurd ‹_› (append_ne_cons name.bare.1 name.bareKeys rfl _)
  · have hread (r : List Char) : readValue (2 * r.length + 2) (depthLimit - 1) (s ++ '\n' :: rest) =
        some (value.value, '\n' :: rest) := Plain.readValue_write hs (2 * r.length + 1) _ rest
    rw [hnewline, hkey]
    simp only [Plain.skipBlanks_write hs, hread, finishLine_newline, Option.bind_some, hadd]

/-! ## Documents -/

/-- Rows as they are in their table while a document is read. -/
def grownRows (rows : List (BareName × Plain)) : Entries := rows.map (fun e => (e.1.text, .value e.2.value))

/-- A table as it is while its document is read. -/
def PlainTable.grown (t : PlainTable) : String × Growing := (t.name.text, .table false false (grownRows t.rows))

def PlainTable.toml (t : PlainTable) : String × Toml :=
  (t.name.text, .table (t.rows.map (fun e => (e.1.text, e.2.value))))

theorem lookup_eq_none {β : Type} {k : String} {es : List (String × β)} (h : k ∉ es.map Prod.fst) :
    es.lookup k = none :=
  List.lookup_eq_none_iff.2 (fun _ he => bne_iff_ne.2 (fun heq => h (heq ▸ List.mem_map_of_mem he)))

theorem assign_append {k : String} (g h : Growing) : ∀ {es : Entries}, k ∉ es.map Prod.fst →
    assign k g (es ++ [(k, h)]) = es ++ [(k, g)]
  | [],     _   => if_pos rfl
  | e :: t, hne => by
    have he : e.1 ≠ k := fun heq => hne (heq ▸ List.mem_cons_self)
    rw [List.cons_append, assign, if_neg he, assign_append g h (fun ht => hne (List.mem_cons_of_mem _ ht))]
    rfl

theorem openTable_new {name : String} {es : Entries} (h : name ∉ es.map Prod.fst) :
    openTable [name] es = some (es ++ [(name, .table false false [])]) := by
  rw [openTable]
  simp only [List.getLast?_singleton, List.dropLast_singleton, descend, lookup_eq_none h]

theorem addUnder_last {name key : String} {es sub : Entries} (v : Toml) (hname : name ∉ es.map Prod.fst)
    (hkey : key ∉ sub.map Prod.fst) :
    addUnder [name] [key] v (es ++ [(name, .table false false sub)]) =
      some (es ++ [(name, .table false false (sub ++ [(key, .value v)]))]) := by
  have hadd : addValue [key] v sub = some (sub ++ [(key, .value v)]) := by
    simp [addValue, descend, lookup_eq_none hkey]
  have hlookup : (es ++ [(name, Growing.table false false sub)]).lookup name = some (.table false false sub) := by
    rw [List.lookup_append, lookup_eq_none hname, Option.none_or, List.lookup_cons_self]
  rw [addUnder, descend, hlookup]
  simp only [descend, hadd, Option.map_some, assign_append _ _ hname, Bool.false_eq_true, false_and, if_false]

/-- Rows under a header go to its table. -/
theorem leads_rows {name : String} {es : Entries} (hname : name ∉ es.map Prod.fst) (rest : List Char) :
    ∀ (done : List (BareName × Plain)) {rows : List (BareName × Plain)} {s : List Char},
      writeAll writeRow rows = some s → ((done ++ rows).map (fun e => e.1.text)).Nodup →
      Leads ⟨[name], es ++ [(name, .table false false (grownRows done))], s ++ rest⟩
        ⟨[name], es ++ [(name, .table false false (grownRows (done ++ rows)))], rest⟩
  | done, [],        s, h, _ => by
    cases h
    rw [List.append_nil]
    exact .refl _
  | done, e :: rows, s, h, hnodup => by
    obtain ⟨line, others, hline, hothers, rfl⟩ := writeAll_cons_eq_some h
    have hkey : e.1.text ∉ (grownRows done).map Prod.fst := by
      rw [List.map_append, List.nodup_append] at hnodup
      intro hmem
      rw [grownRows, List.map_map] at hmem
      exact hnodup.2.2 e.1.text hmem e.1.text List.mem_cons_self rfl
    have hadd : addUnder [name] [e.1.text] e.2.value (es ++ [(name, .table false false (grownRows done))]) =
        some (es ++ [(name, .table false false (grownRows (done ++ [e])))]) := by
      have hgrown : grownRows (done ++ [e]) = grownRows done ++ [(e.1.text, .value e.2.value)] := List.map_append
      rw [hgrown]
      exact addUnder_last e.2.value hname hkey
    rw [List.append_assoc, List.append_cons done e rows]
    rw [List.append_cons done e rows] at hnodup
    exact (leads_row hline hadd _).trans (leads_rows hname rest _ hothers hnodup)

theorem leads_table {t : PlainTable} {s : List Char} (h : t.write = some s) {es : Entries}
    (hname : t.name.text ∉ es.map Prod.fst) (header : List String) (rest : List Char) :
    Leads ⟨header, es, s ++ rest⟩ ⟨[t.name.text], es ++ [t.grown], rest⟩ := by
  obtain ⟨rows, hrows, rfl⟩ := Option.map_eq_some_iff.1 h
  have htext : ('[' :: t.name.text.toList ++ ']' :: '\n' :: rows) ++ rest =
      '[' :: t.name.text.toList ++ ']' :: '\n' :: (rows ++ rest) := by
    simp
  rw [htext]
  exact (leads_header t.name (openTable_new hname) _).trans (leads_rows hname rest [] hrows t.distinct)

theorem leads_tables (rest : List Char) : ∀ {ts : List PlainTable} {s : List Char} (es : Entries)
    (header : List String), writeAll (fun t => t.write.map ('\n' :: ·)) ts = some s →
    (es.map Prod.fst ++ ts.map (fun t => t.name.text)).Nodup →
      ∃ header', Leads ⟨header, es, s ++ rest⟩ ⟨header', es ++ ts.map PlainTable.grown, rest⟩
  | [],      s, es, header, h, _ => by
    cases h
    exact ⟨header, by rw [List.map_nil, List.append_nil]; exact .refl _⟩
  | t :: ts, s, es, header, h, hnodup => by
    obtain ⟨first, others, hfirst, hothers, rfl⟩ := writeAll_cons_eq_some h
    obtain ⟨table, htable, rfl⟩ := Option.map_eq_some_iff.1 hfirst
    have hname : t.name.text ∉ es.map Prod.fst := fun hmem =>
      (List.nodup_append.1 hnodup).2.2 _ hmem _ List.mem_cons_self rfl
    have hnodup' : ((es ++ [t.grown]).map Prod.fst ++ ts.map (fun t => t.name.text)).Nodup := by
      rw [List.map_append, List.append_assoc]
      exact hnodup
    obtain ⟨header', hrest⟩ := leads_tables rest _ [t.name.text] hothers hnodup'
    rw [List.map_cons, List.append_cons, List.append_assoc]
    exact ⟨header', (leads_blank header es _).trans ((leads_table htable hname header _).trans hrest)⟩

theorem closeEntries_grownRows : ∀ rows : List (BareName × Plain),
    closeEntries (grownRows rows) = rows.map (fun e => (e.1.text, e.2.value))
  | []        => rfl
  | e :: rows => by
    rw [grownRows, List.map_cons, closeEntries, List.map_cons, ← closeEntries_grownRows rows, close]
    rfl

theorem closeEntries_grown : ∀ ts : List PlainTable, closeEntries (ts.map PlainTable.grown) = ts.map PlainTable.toml
  | []      => rfl
  | t :: ts => by
    rw [List.map_cons, PlainTable.grown, closeEntries, closeEntries_grown ts, close, closeEntries_grownRows]
    rfl

/-- **A document that is written is read as its tables.** -/
theorem PlainDocument.read_write {d : PlainDocument} {s : String} (h : d.write = some s) :
    read s = some (d.tables.map PlainTable.toml) := by
  obtain ⟨tables, hdistinct⟩ := d
  have hend {text : List Char} {header : List String} {es : Entries} (hleads : Leads ⟨[], [], text⟩ ⟨header, es, []⟩) :
      readLines (text.length + 1) [] [] text = some es := by
    obtain ⟨fuel, hfuel, hread⟩ := hleads _ (Nat.lt_succ_self _)
    obtain ⟨fuel, rfl⟩ := Nat.exists_eq_succ_of_ne_zero (Nat.pos_iff_ne_zero.1 hfuel)
    exact hread
  unfold Toml.read
  cases tables with
  | nil =>
    cases h
    rfl
  | cons t ts =>
    obtain ⟨text, htext, rfl⟩ := Option.map_eq_some_iff.1 h
    obtain ⟨first, hfirst, hrest⟩ := Option.bind_eq_some_iff.1 htext
    obtain ⟨others, hothers, rfl⟩ := Option.map_eq_some_iff.1 hrest
    obtain ⟨header, hlast⟩ := leads_tables [] [t.grown] [t.name.text] hothers hdistinct
    rw [List.append_nil] at hlast
    have htable : Leads ⟨[], [], first ++ others⟩ ⟨[t.name.text], [t.grown], others⟩ :=
      leads_table hfirst List.not_mem_nil [] others
    -- the text begins with a bracket, so there is no byte order mark to drop
    have hread : (readLines ((first ++ others).length + 1) [] [] (first ++ others)).map closeEntries =
        some ((t :: ts).map PlainTable.toml) := by
      rw [hend (htable.trans hlast), Option.map_some]
      exact congrArg some (closeEntries_grown (t :: ts))
    obtain ⟨rows, -, rfl⟩ := Option.map_eq_some_iff.1 hfirst
    rw [String.toList_ofList]
    exact hread

end Toml
end RecordHold
