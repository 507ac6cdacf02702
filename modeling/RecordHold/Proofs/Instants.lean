import RecordHold.Proofs.Calendar
import RecordHold.Time.Rfc3339
/-!
# Proofs.Instants — the text of an instant is read back

Reading undoes writing, whatever the year and the fraction, of every instant that a clock tells (`Instant.Told`), which
includes the leap seconds at the end of a minute.  Another instant has the text of one in the next second, and that is
read of it (`Instant.told`, `ofRfc3339?_rfc3339`).

The text is read part by part, each part leaving what follows it: padded numbers, of which a reader takes as many digits
as it may or as there are (`readNumber_padded`, `readNumber_all`), signed years (`readYear_yearText`) and fractions
(`readFraction_fractionText`).
-/
namespace RecordHold

/-! ## Digits -/

theorem isBlank_of_isDigit {c : Char} (h : c.isDigit = true) : isBlank c = false := by
  obtain ⟨hlo, hhi⟩ : 48 ≤ c.toNat ∧ c.toNat ≤ 57 := Char.isDigit_iff_toNat.1 h
  unfold isBlank
  simp only [Bool.or_eq_false_iff, Bool.and_eq_false_iff, beq_eq_false_iff_ne, decide_eq_false_iff_not]
  omega

theorem dropBlanks_cons {c : Char} (h : isBlank c = false) (t : List Char) : dropBlanks (c :: t) = c :: t := by
  rw [dropBlanks, List.dropWhile_cons_of_neg (by rw [h]; exact Bool.false_ne_true)]

theorem isDigit_padded (w n : Nat) : ∀ c ∈ padded w n, c.isDigit = true := by
  intro c hc
  unfold padded at hc
  rcases List.mem_append.1 hc with hc | hc
  · rw [List.eq_of_mem_replicate hc]
    rfl
  · exact Nat.isDigit_of_mem_toDigits (by decide) (by decide) hc

theorem padded_ne_nil (w n : Nat) : padded w n ≠ [] := by
  unfold padded
  exact List.append_ne_nil_of_right_ne_nil _ Nat.toDigits_ne_nil

theorem length_padded {w n : Nat} (hw : 0 < w) (h : n < Nat.pow 10 w) : (padded w n).length = w := by
  have hle := (Nat.length_toDigits_le_iff (by decide) hw).2 h
  unfold padded
  rw [List.length_append, List.length_replicate]
  omega

theorem exists_padded (w n : Nat) : ∃ c t, padded w n = c :: t ∧ c.isDigit = true := by
  obtain ⟨c, t, h⟩ := List.exists_cons_of_ne_nil (padded_ne_nil w n)
  exact ⟨c, t, h, isDigit_padded w n c (by rw [h]; exact List.mem_cons_self)⟩

namespace Instant

theorem decimalValue_eq (ds : List Char) : decimalValue ds = Nat.ofDigitChars 10 ds 0 := by
  rw [Nat.ofDigitChars_eq_foldl, decimalValue]
  refine congrArg (fun f => List.foldl f 0 ds) (funext (fun n => funext (fun c => ?_)))
  rw [Nat.mul_comm]
  rfl

theorem decimalValue_padded (w n : Nat) : decimalValue (padded w n) = n := by
  rw [decimalValue_eq, padded, Nat.ofDigitChars_append, Nat.ofDigitChars_replicate_zero, Nat.mul_zero,
    Nat.ofDigitChars_ten_toDigits]

/-- Zeros at the end are powers of ten. -/
theorem decimalValue_append_zeros (ds : List Char) (k : Nat) :
    decimalValue (ds ++ List.replicate k '0') = Nat.pow 10 k * decimalValue ds := by
  rw [decimalValue_eq, decimalValue_eq, Nat.ofDigitChars_append]
  exact Nat.ofDigitChars_replicate_zero

/-! ## Numbers -/

theorem takeWhile_digits {ds rest : List Char} (hd : ∀ c ∈ ds, c.isDigit = true)
    (hr : rest.head?.any Char.isDigit = false) :
    (ds ++ rest).takeWhile Char.isDigit = ds := by
  rw [List.takeWhile_append_of_pos hd]
  cases rest with
  | nil => exact List.append_nil ds
  | cons c t => rw [List.takeWhile_cons_of_neg (by simpa using hr), List.append_nil]

theorem dropBlanks_padded (w n : Nat) (rest : List Char) : dropBlanks (padded w n ++ rest) = padded w n ++ rest := by
  obtain ⟨c, t, h, hc⟩ := exists_padded w n
  rw [h, List.cons_append, dropBlanks_cons (isBlank_of_isDigit hc)]

/-- As many digits as may be read, whatever follows. -/
theorem readNumber_padded {w n : Nat} (hw : 0 < w) (h : n < Nat.pow 10 w) (rest : List Char) :
    readNumber (some w) (padded w n ++ rest) = some (n, rest) := by
  have hlen := length_padded hw h
  have htake : ((padded w n ++ rest).take w).takeWhile Char.isDigit = padded w n := by
    have hdigits : (padded w n ++ []).takeWhile Char.isDigit = padded w n := takeWhile_digits (isDigit_padded w n) rfl
    rw [List.append_nil] at hdigits
    rw [List.take_left' hlen, hdigits]
  unfold readNumber
  simp only [dropBlanks_padded, Option.map_some, Option.getD_some, htake]
  rw [if_neg (padded_ne_nil w n), decimalValue_padded, List.drop_left]

theorem readNumber_two {n : Nat} (h : n < 100) (rest : List Char) :
    readNumber (some 2) (padded 2 n ++ rest) = some (n, rest) := readNumber_padded (by decide) h rest

/-- All digits, up to something else. -/
theorem readNumber_all (w n : Nat) {rest : List Char} (hr : rest.head?.any Char.isDigit = false) :
    readNumber none (padded w n ++ rest) = some (n, rest) := by
  unfold readNumber
  simp only [dropBlanks_padded, Option.map_none, Option.getD_none, takeWhile_digits (isDigit_padded w n) hr]
  rw [if_neg (padded_ne_nil w n), decimalValue_padded, List.drop_left]

theorem expect_self {c : Char} (h : isBlank c = false) (t : List Char) : expect c (c :: t) = some t := by
  unfold expect
  rw [dropBlanks_cons h]
  exact if_pos rfl

/-! ## Parts -/

theorem readYear_yearText (y : Int) {rest : List Char} (hr : rest.head?.any Char.isDigit = false) :
    readYear (Date.yearText y ++ rest) = some (y, rest) := by
  unfold Date.yearText
  split
  · rename_i h
    obtain ⟨c, t, hp, hc⟩ := exists_padded 4 y.toNat
    have hlt : y.toNat < 10000 := by omega
    have hread : readNumber (some 4) (padded 4 y.toNat ++ rest) = some (y.toNat, rest) :=
      readNumber_padded (by decide) hlt rest
    unfold readYear
    rw [dropBlanks_padded]
    split
    · rename_i heq
      rw [hp, List.cons_append] at heq
      obtain rfl := (List.cons.inj heq).1
      cases hc
    · rename_i heq
      rw [hp, List.cons_append] at heq
      obtain rfl := (List.cons.inj heq).1
      cases hc
    · rw [hread, Option.map_some]
      simp only [Int.toNat_of_nonneg h.1]
  · rename_i h
    have hread := readNumber_all 4 y.natAbs hr
    have hblank : (padded 4 y.natAbs ++ rest).head?.all isBlank = false := by
      obtain ⟨c, t, hp, hc⟩ := exists_padded 4 y.natAbs
      rw [hp]
      exact isBlank_of_isDigit hc
    by_cases hneg : y < 0
    · have habs : -(y.natAbs : Int) = y := by omega
      rw [if_pos hneg, List.cons_append, readYear, dropBlanks_cons (by decide)]
      simp only [hblank, Bool.false_eq_true, if_false, hread, Option.map_some, habs]
    · have habs : (y.natAbs : Int) = y := by omega
      rw [if_neg hneg, List.cons_append, readYear, dropBlanks_cons (by decide)]
      simp only [hblank, Bool.false_eq_true, if_false, hread, Option.map_some, habs]

/-- A fraction of so many digits, the others being zero. -/
theorem readFraction_padded {w n : Nat} (hw : 0 < w) (hw' : w ≤ 9) (h : n < Nat.pow 10 w) {rest : List Char}
    (hr : rest.head?.any Char.isDigit = false) :
    readFraction ('.' :: padded w n ++ rest) = some (Nat.pow 10 (9 - w) * n, rest) := by
  have hlen := length_padded hw h
  unfold readFraction
  simp only [List.cons_append, takeWhile_digits (isDigit_padded w n) hr]
  rw [if_neg (padded_ne_nil w n), List.take_of_length_le (by omega), decimalValue_append_zeros, decimalValue_padded,
    List.drop_left, hlen]

theorem readFraction_fractionText {n : Nat} (h : n < 1000000000) {c : Char} (hdot : c ≠ '.')
    (hdigit : c.isDigit = false) (t : List Char) :
    readFraction (fractionText n ++ c :: t) = some (n, c :: t) := by
  unfold fractionText
  split
  · rename_i h0
    rw [List.nil_append, readFraction, h0]
    intro t ht
    exact hdot (List.cons.inj ht).1
  · split
    · rename_i h6
      have hlt : n / 1000000 < 1000 := by omega
      have hn : 1000000 * (n / 1000000) = n := by omega
      rw [readFraction_padded (by decide) (by decide) hlt (by simpa using hdigit)]
      exact congrArg some (Prod.ext hn rfl)
    · split
      · rename_i h3
        have hlt : n / 1000 < 1000000 := by omega
        have hn : 1000 * (n / 1000) = n := by omega
        rw [readFraction_padded (by decide) (by decide) hlt (by simpa using hdigit)]
        exact congrArg some (Prod.ext hn rfl)
      · rw [readFraction_padded (by decide) (by decide) h (by simpa using hdigit)]
        exact congrArg some (Prod.ext (Nat.one_mul n) rfl)

/-! ## Instants -/

/-- **A clock tells the instant**: a second longer than others is the last of a minute, and goes on as second 60. -/
def Told (t : Instant) : Prop := 1000000000 ≤ t.nanos → t.seconds % 60 = 59

instance (t : Instant) : Decidable t.Told := inferInstanceAs (Decidable (_ → _))

theorem next_in_range {t : Instant} (h : ¬ t.Told) : firstSecond ≤ t.seconds + 1 ∧ t.seconds + 1 ≤ lastSecond := by
  obtain ⟨hfirst, hlast⟩ := t.in_range
  unfold Told at h
  unfold firstSecond at hfirst ⊢
  unfold lastSecond at hlast ⊢
  omega

/-- **The instant that a clock tells instead**: what runs over the end of a second belongs to the next one. -/
def told (t : Instant) : Instant :=
  if h : t.Told then t
  else ⟨t.seconds + 1, t.nanos - 1000000000, next_in_range h, Nat.lt_of_le_of_lt (Nat.sub_le _ _) t.nanos_lt⟩

theorem told_of_told {t : Instant} (h : t.Told) : t.told = t := dif_pos h

theorem told_of_not {t : Instant} (h : ¬ t.Told) :
    t.told.seconds = t.seconds + 1 ∧ t.told.nanos = t.nanos - 1000000000 := by
  rw [told, dif_neg h]
  exact ⟨rfl, rfl⟩

theorem told_eq_self_iff {t : Instant} : t.told = t ↔ t.Told := by
  refine ⟨fun heq => ?_, told_of_told⟩
  by_cases h : t.Told
  · exact h
  · have hseconds := (told_of_not h).1
    rw [heq] at hseconds
    omega

/-- A clock tells what it tells instead. -/
theorem told_told (t : Instant) : t.told.Told := by
  by_cases h : t.Told
  · rw [told_of_told h]
    exact h
  · intro hn
    have hlt := t.nanos_lt
    rw [(told_of_not h).2] at hn
    omega

theorem ofSeconds?_eq {t : Instant} {seconds : Int} {nanos : Nat} (hs : seconds = t.seconds) (hn : nanos = t.nanos) :
    ofSeconds? seconds nanos = some t := by
  subst hs hn
  unfold ofSeconds?
  rw [dif_pos ⟨t.in_range, t.nanos_lt⟩]

theorem secondOfDay_lt (t : Instant) : t.secondOfDay < 86400 := by
  unfold secondOfDay
  omega

/-- The date and the time of day that are written are those of the instant a clock tells. -/
theorem ofLocal?_told (t : Instant) :
    ofLocal? t.date (t.secondOfDay / 3600) (t.secondOfDay / 60 % 60)
      (t.secondOfDay % 60 + if t.nanos < 1000000000 then 0 else 1) (t.nanos % 1000000000) 0 = some t.told := by
  have hlt := t.secondOfDay_lt
  have hsec : t.seconds = t.date.toDays * 86400 + (t.secondOfDay : Int) := by
    rw [date, Date.toDays_ofDays, secondOfDay]
    omega
  have hmod : t.seconds % 60 = ((t.secondOfDay % 60 : Nat) : Int) := by
    unfold secondOfDay
    omega
  have hnanos := t.nanos_lt
  unfold ofLocal?
  rw [if_pos ⟨Date.ofDays_valid _, t.date_year.1, t.date_year.2, by omega, by omega, by split <;> omega, by decide⟩]
  by_cases htold : t.Told
  · rw [told_of_told htold]
    unfold Told at htold
    by_cases hn : t.nanos < 1000000000
    · rw [if_pos hn]
      refine ofSeconds?_eq ?_ ?_
      · omega
      · rw [if_neg (by omega)]
        omega
    · have h59 : t.secondOfDay % 60 = 59 := by omega
      rw [if_neg hn, h59]
      refine ofSeconds?_eq ?_ ?_
      · omega
      · rw [if_pos rfl]
        omega
  · obtain ⟨hseconds, hrest⟩ := told_of_not htold
    unfold Told at htold
    have hn : ¬ t.nanos < 1000000000 := by omega
    rw [if_neg hn]
    refine ofSeconds?_eq ?_ ?_
    · rw [hseconds]
      omega
    · rw [hrest, if_neg (by omega)]
      omega

/-- **The two have one text.** -/
theorem rfc3339_told (t : Instant) : t.told.rfc3339 = t.rfc3339 := by
  by_cases htold : t.Told
  · rw [told_of_told htold]
  · obtain ⟨hseconds, hrest⟩ := told_of_not htold
    have hlt := t.nanos_lt
    unfold Told at htold
    have hn : ¬ t.nanos < 1000000000 := by omega
    have hn' : t.told.nanos < 1000000000 := by omega
    have hday : t.told.seconds / 86400 = t.seconds / 86400 := by omega
    have hsecond : t.told.secondOfDay = t.secondOfDay + 1 ∧ t.secondOfDay % 60 ≠ 59 := by
      unfold secondOfDay
      omega
    have hhour : (t.secondOfDay + 1) / 3600 = t.secondOfDay / 3600 := by omega
    have hminute : (t.secondOfDay + 1) / 60 = t.secondOfDay / 60 := by omega
    have hclock : (t.secondOfDay + 1) % 60 = t.secondOfDay % 60 + 1 := by omega
    have hfraction : t.told.nanos % 1000000000 = t.nanos % 1000000000 := by omega
    unfold rfc3339 clockText date
    rw [hday, hsecond.1, hfraction]
    simp only [if_pos hn', if_neg hn, hhour, hminute, hclock, Nat.add_zero]

theorem date_month (t : Instant) : t.date.month < 100 := by
  have hvalid : t.date.Valid := Date.ofDays_valid _
  have := hvalid.2.1
  omega

theorem date_day (t : Instant) : t.date.day < 100 := by
  have hvalid : t.date.Valid := Date.ofDays_valid _
  have hle := hvalid.2.2.2
  unfold Date.daysInMonth at hle
  split at hle
  · split at hle <;> omega
  · split at hle <;> omega

theorem hour_lt (t : Instant) : t.secondOfDay / 3600 < 100 := by
  have := t.secondOfDay_lt
  omega

theorem minute_lt (t : Instant) : t.secondOfDay / 60 % 60 < 100 := by omega

/-- Also where the nanoseconds run over its end. -/
theorem second_lt (t : Instant) : t.secondOfDay % 60 + (if t.nanos < 1000000000 then 0 else 1) < 100 := by
  split <;> omega

theorem fraction_lt (t : Instant) : t.nanos % 1000000000 < 1000000000 := Nat.mod_lt _ (by decide)

/-- **The text of an instant is read as the instant that a clock tells.** -/
theorem ofRfc3339?_rfc3339 (t : Instant) : ofRfc3339? t.rfc3339 = some t.told := by
  have hdash : isBlank '-' = false := by decide
  have hcolon : isBlank ':' = false := by decide
  have hzone : 'Z' ≠ '.' := by decide
  unfold ofRfc3339? rfc3339 clockText Date.text
  simp only [List.append_assoc, List.cons_append]
  rw [readYear_yearText _ rfl]
  simp only [bind, Option.bind, expect_self hdash, expect_self hcolon,
    readNumber_two t.date_month, readNumber_two t.date_day, readNumber_two t.hour_lt, readNumber_two t.minute_lt,
    readNumber_two t.second_lt, readFraction_fractionText t.fraction_lt hzone rfl]
  exact t.ofLocal?_told

end Instant
end RecordHold
