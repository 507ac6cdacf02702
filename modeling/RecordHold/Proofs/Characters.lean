import RecordHold.Text.Utf8
/-!
# Proofs.Characters — written characters are read back

The bytes of a list of characters are read as those characters (`decode?_encode`), so the bytes of a text are read as
that text (`ofUtf8?_utf8`).  The induction is on the characters; one of them is read byte by byte, a first byte
saying how many more there are and between which bounds (`scan_start`), and each of those adding six bits
(`scan_more`, `scan_last`).

No other bytes are read as those characters (`encode_of_decode?`, `utf8_of_ofUtf8?`).  This induction is on the bytes
read: the first of them says which of the four forms the first character has (`lead_cases`), and the bounds of the
second are what makes that form the shortest and the character one that there is (`Heads`).
-/
namespace RecordHold
namespace Utf8

/-- A code point is no surrogate and not past the last plane. -/
theorem toNat_valid (c : Char) : c.toNat < 0xD800 ∨ 0xDFFF < c.toNat ∧ c.toNat < 0x110000 := c.valid

theorem toNat_ofNat_lt {n : Nat} (h : n < 256) : (UInt8.ofNat n).toNat = n := by
  rw [UInt8.toNat_ofNat']
  exact Nat.mod_eq_of_lt h

theorem scan_whole {n : Nat} (h : n < 0x80) (t : Bytes) :
    scan none (UInt8.ofNat n :: t) = some (Char.ofNat n) :: scan none t := by
  have hl : lead (UInt8.ofNat n) = .whole (Char.ofNat n) := by
    unfold lead
    rw [toNat_ofNat_lt (by omega), if_pos h]
  rw [scan, hl]

theorem scan_start {n : Nat} {p : Pending} (h : lead (UInt8.ofNat n) = .start p) (t : Bytes) :
    scan none (UInt8.ofNat n :: t) = scan (some p) t := by
  rw [scan, h]

/-- The last byte of a character. -/
theorem scan_last {code low high n : Nat} (h : low ≤ 0x80 + n) (h' : 0x80 + n ≤ high) (hn : n < 64) (t : Bytes) :
    scan (some ⟨code, 0, low, high⟩) (UInt8.ofNat (0x80 + n) :: t) =
      some (Char.ofNat (code * 64 + n)) :: scan none t := by
  have hb : (UInt8.ofNat (0x80 + n)).toNat = 0x80 + n := toNat_ofNat_lt (by omega)
  rw [scan]
  simp only [hb]
  rw [if_pos ⟨h, h'⟩, Nat.add_sub_cancel_left]

/-- A byte between the first and the last. -/
theorem scan_more {code more low high n : Nat} (h : low ≤ 0x80 + n) (h' : 0x80 + n ≤ high) (hn : n < 64) (t : Bytes) :
    scan (some ⟨code, more + 1, low, high⟩) (UInt8.ofNat (0x80 + n) :: t) =
      scan (some ⟨code * 64 + n, more, 0x80, 0xBF⟩) t := by
  have hb : (UInt8.ofNat (0x80 + n)).toNat = 0x80 + n := toNat_ofNat_lt (by omega)
  rw [scan]
  simp only [hb]
  rw [if_pos ⟨h, h'⟩, Nat.add_sub_cancel_left]

theorem lead_two {n : Nat} (h : 2 ≤ n) (h' : n < 0x20) :
    lead (UInt8.ofNat (0xC0 + n)) = .start ⟨n, 0, 0x80, 0xBF⟩ := by
  have hb : (UInt8.ofNat (0xC0 + n)).toNat = 0xC0 + n := toNat_ofNat_lt (by omega)
  unfold lead
  simp only [hb]
  rw [if_neg (by omega), if_neg (by omega), if_pos (by omega), Nat.add_sub_cancel_left]

theorem lead_three {n : Nat} (h : n < 0x10) : lead (UInt8.ofNat (0xE0 + n)) =
    .start ⟨n, 1, if n = 0 then 0xA0 else 0x80, if n = 13 then 0x9F else 0xBF⟩ := by
  have hb : (UInt8.ofNat (0xE0 + n)).toNat = 0xE0 + n := toNat_ofNat_lt (by omega)
  have hlow : 0xE0 + n = 0xE0 ↔ n = 0 := by omega
  have hhigh : 0xE0 + n = 0xED ↔ n = 13 := by omega
  unfold lead
  simp only [hb]
  rw [if_neg (by omega), if_neg (by omega), if_neg (by omega), if_pos (by omega), Nat.add_sub_cancel_left]
  simp only [hlow, hhigh]

theorem lead_four {n : Nat} (h : n < 5) : lead (UInt8.ofNat (0xF0 + n)) =
    .start ⟨n, 2, if n = 0 then 0x90 else 0x80, if n = 4 then 0x8F else 0xBF⟩ := by
  have hb : (UInt8.ofNat (0xF0 + n)).toNat = 0xF0 + n := toNat_ofNat_lt (by omega)
  have hlow : 0xF0 + n = 0xF0 ↔ n = 0 := by omega
  have hhigh : 0xF0 + n = 0xF4 ↔ n = 4 := by omega
  unfold lead
  simp only [hb]
  rw [if_neg (by omega), if_neg (by omega), if_neg (by omega), if_neg (by omega), if_pos (by omega),
    Nat.add_sub_cancel_left]
  simp only [hlow, hhigh]

/-- **One written character is read back**, whatever follows it. -/
theorem scan_encodeChar (c : Char) (t : Bytes) : scan none (encodeChar c ++ t) = some c :: scan none t := by
  have hv := toNat_valid c
  have hc : Char.ofNat c.toNat = c := Char.ofNat_toNat c
  unfold encodeChar
  generalize c.toNat = n at hv hc
  simp only
  split
  · rename_i h
    rw [List.singleton_append, scan_whole h, hc]
  · split
    · rename_i h1 h2
      have hn : n / 64 * 64 + n % 64 = n := by omega
      rw [List.cons_append, List.singleton_append, scan_start (lead_two (by omega) (by omega)),
        scan_last (by omega) (by omega) (by omega), hn, hc]
    · split
      · rename_i h1 h2 h3
        have hn : (n / 4096 * 64 + n / 64 % 64) * 64 + n % 64 = n := by omega
        rw [List.cons_append, List.cons_append, List.singleton_append, scan_start (lead_three (by omega)),
          scan_more (by split <;> omega) (by split <;> omega) (by omega), scan_last (by omega) (by omega) (by omega),
          hn, hc]
      · rename_i h1 h2 h3
        have hn : ((n / 262144 * 64 + n / 4096 % 64) * 64 + n / 64 % 64) * 64 + n % 64 = n := by omega
        rw [List.cons_append, List.cons_append, List.cons_append, List.singleton_append,
          scan_start (lead_four (by omega)), scan_more (by split <;> omega) (by split <;> omega) (by omega),
          scan_more (by omega) (by omega) (by omega), scan_last (by omega) (by omega) (by omega), hn, hc]

theorem scan_encode : ∀ cs : List Char, scan none (encode cs) = cs.map some
  | []      => rfl
  | c :: cs => by
    have ih := scan_encode cs
    unfold encode at ih ⊢
    rw [List.flatMap_cons, scan_encodeChar, ih, List.map_cons]

theorem sequence_map_some : ∀ cs : List Char, sequence (cs.map some) = some cs
  | []      => rfl
  | c :: cs => by
    rw [List.map_cons, sequence, sequence_map_some cs]
    rfl

/-- **Written characters are read back.** -/
theorem decode?_encode (cs : List Char) : decode? (encode cs) = some cs := by
  rw [decode?, scan_encode, sequence_map_some]

/-! ## What is read was written -/

theorem toNat_ofNat {n : Nat} (h : n < 0xD800 ∨ 0xDFFF < n ∧ n < 0x110000) : (Char.ofNat n).toNat = n := by
  have hv : n.isValidChar := h
  rw [Char.ofNat, dif_pos hv]
  rfl

theorem ofNat_add_sub {k : Nat} {b : UInt8} (h : k ≤ b.toNat) : UInt8.ofNat (k + (b.toNat - k)) = b := by
  rw [Nat.add_sub_cancel' h, UInt8.ofNat_toNat]

theorem encodeChar_one {n : Nat} (h : n < 0x80) : encodeChar (Char.ofNat n) = [UInt8.ofNat n] := by
  unfold encodeChar
  simp only [toNat_ofNat (show n < 0xD800 ∨ _ by omega), if_pos h]

theorem encodeChar_two {m n : Nat} (hm : 2 ≤ m) (hm' : m < 0x20) (hn : n < 64) :
    encodeChar (Char.ofNat (m * 64 + n)) = [UInt8.ofNat (0xC0 + m), UInt8.ofNat (0x80 + n)] := by
  have hdiv : (m * 64 + n) / 64 = m := by omega
  have hmod : (m * 64 + n) % 64 = n := by omega
  unfold encodeChar
  simp only [toNat_ofNat (show m * 64 + n < 0xD800 ∨ _ by omega), hdiv, hmod]
  rw [if_neg (by omega), if_pos (by omega)]

theorem encodeChar_three {l m n : Nat} (hl : l < 0x10) (hm : m < 64) (hn : n < 64) (hlow : l = 0 → 0x20 ≤ m)
    (hhigh : l = 13 → m < 0x20) : encodeChar (Char.ofNat ((l * 64 + m) * 64 + n)) =
      [UInt8.ofNat (0xE0 + l), UInt8.ofNat (0x80 + m), UInt8.ofNat (0x80 + n)] := by
  have hdiv : ((l * 64 + m) * 64 + n) / 4096 = l := by omega
  have hmid : ((l * 64 + m) * 64 + n) / 64 % 64 = m := by omega
  have hmod : ((l * 64 + m) * 64 + n) % 64 = n := by omega
  unfold encodeChar
  simp only [toNat_ofNat (show (l * 64 + m) * 64 + n < 0xD800 ∨ _ by omega), hdiv, hmid, hmod]
  rw [if_neg (by omega), if_neg (by omega), if_pos (by omega)]

theorem encodeChar_four {k l m n : Nat} (hk : k < 5) (hl : l < 64) (hm : m < 64) (hn : n < 64)
    (hlow : k = 0 → 0x10 ≤ l) (hhigh : k = 4 → l < 0x10) :
    encodeChar (Char.ofNat (((k * 64 + l) * 64 + m) * 64 + n)) =
      [UInt8.ofNat (0xF0 + k), UInt8.ofNat (0x80 + l), UInt8.ofNat (0x80 + m), UInt8.ofNat (0x80 + n)] := by
  have hdiv : (((k * 64 + l) * 64 + m) * 64 + n) / 262144 = k := by omega
  have hupper : (((k * 64 + l) * 64 + m) * 64 + n) / 4096 % 64 = l := by omega
  have hmid : (((k * 64 + l) * 64 + m) * 64 + n) / 64 % 64 = m := by omega
  have hmod : (((k * 64 + l) * 64 + m) * 64 + n) % 64 = n := by omega
  unfold encodeChar
  simp only [toNat_ofNat (show ((k * 64 + l) * 64 + m) * 64 + n < 0xD800 ∨ _ by omega), hdiv, hupper, hmid, hmod]
  rw [if_neg (by omega), if_neg (by omega), if_neg (by omega)]

theorem sequence_cons {x : Option Char} {xs : List (Option Char)} {cs : List Char}
    (h : sequence (x :: xs) = some cs) : ∃ c cs', x = some c ∧ sequence xs = some cs' ∧ cs = c :: cs' := by
  cases x with
  | none => cases h
  | some c =>
    obtain ⟨cs', hcs, rfl⟩ := Option.map_eq_some_iff.1 h
    exact ⟨c, cs', rfl, hcs, rfl⟩

/-- A character begun goes on with a byte between its bounds. -/
theorem scan_pending {p : Pending} {bs : Bytes} {cs : List Char} (hlow : 0x80 ≤ p.low) (hhigh : p.high ≤ 0xBF)
    (h : sequence (scan (some p) bs) = some cs) : ∃ n t, bs = UInt8.ofNat (0x80 + n) :: t ∧ n < 64 ∧
      p.low ≤ 0x80 + n ∧ 0x80 + n ≤ p.high := by
  cases bs with
  | nil => cases h
  | cons b t =>
    by_cases hb : p.low ≤ b.toNat ∧ b.toNat ≤ p.high
    · have hn : 0x80 + (b.toNat - 0x80) = b.toNat := by omega
      exact ⟨b.toNat - 0x80, t, by rw [ofNat_add_sub (by omega)], by omega, by omega, by omega⟩
    · rw [scan, if_neg hb] at h
      cases h

theorem last_of_scan {code low high : Nat} {bs : Bytes} {cs : List Char} (hlow : 0x80 ≤ low) (hhigh : high ≤ 0xBF)
    (h : sequence (scan (some ⟨code, 0, low, high⟩) bs) = some cs) :
    ∃ n t cs', bs = UInt8.ofNat (0x80 + n) :: t ∧ n < 64 ∧ low ≤ 0x80 + n ∧ 0x80 + n ≤ high ∧
      cs = Char.ofNat (code * 64 + n) :: cs' ∧ sequence (scan none t) = some cs' := by
  obtain ⟨n, t, rfl, hn, hl, hh⟩ := scan_pending hlow hhigh h
  rw [scan_last hl hh hn] at h
  obtain ⟨c, cs', hc, hcs, rfl⟩ := sequence_cons h
  cases hc
  exact ⟨n, t, cs', rfl, hn, hl, hh, rfl, hcs⟩

theorem more_of_scan {code more low high : Nat} {bs : Bytes} {cs : List Char} (hlow : 0x80 ≤ low) (hhigh : high ≤ 0xBF)
    (h : sequence (scan (some ⟨code, more + 1, low, high⟩) bs) = some cs) :
    ∃ n t, bs = UInt8.ofNat (0x80 + n) :: t ∧ n < 64 ∧ low ≤ 0x80 + n ∧ 0x80 + n ≤ high ∧
      sequence (scan (some ⟨code * 64 + n, more, 0x80, 0xBF⟩) t) = some cs := by
  obtain ⟨n, t, rfl, hn, hl, hh⟩ := scan_pending hlow hhigh h
  rw [scan_more hl hh hn] at h
  exact ⟨n, t, rfl, hn, hl, hh, h⟩

/-- The characters read begin with one that the bytes begin with, and the others are read from the rest. -/
def Heads (bs : Bytes) (cs : List Char) : Prop :=
  ∃ c cs' rest, cs = c :: cs' ∧ bs = encodeChar c ++ rest ∧ sequence (scan none rest) = some cs'

theorem heads_one {n : Nat} {t : Bytes} {cs : List Char} (hn : n < 0x80)
    (h : sequence (scan none (UInt8.ofNat n :: t)) = some cs) : Heads (UInt8.ofNat n :: t) cs := by
  rw [scan_whole hn] at h
  obtain ⟨c, cs', hc, hcs, rfl⟩ := sequence_cons h
  cases hc
  exact ⟨_, cs', t, rfl, by rw [encodeChar_one hn]; rfl, hcs⟩

theorem heads_two {m : Nat} {t : Bytes} {cs : List Char} (hm : 2 ≤ m) (hm' : m < 0x20)
    (h : sequence (scan none (UInt8.ofNat (0xC0 + m) :: t)) = some cs) : Heads (UInt8.ofNat (0xC0 + m) :: t) cs := by
  rw [scan_start (lead_two hm hm')] at h
  obtain ⟨n, t', cs', rfl, hn, -, -, rfl, hcs⟩ := last_of_scan (by omega) (by omega) h
  exact ⟨_, cs', t', rfl, by rw [encodeChar_two hm hm' hn]; rfl, hcs⟩

theorem heads_three {l : Nat} {t : Bytes} {cs : List Char} (hl : l < 0x10)
    (h : sequence (scan none (UInt8.ofNat (0xE0 + l) :: t)) = some cs) : Heads (UInt8.ofNat (0xE0 + l) :: t) cs := by
  rw [scan_start (lead_three hl)] at h
  obtain ⟨m, t', rfl, hm, hlow, hhigh, h⟩ := more_of_scan (by split <;> omega) (by split <;> omega) h
  obtain ⟨n, t'', cs', rfl, hn, -, -, rfl, hcs⟩ := last_of_scan (by omega) (by omega) h
  refine ⟨_, cs', t'', rfl, ?_, hcs⟩
  rw [encodeChar_three hl hm hn (fun h0 => ?_) (fun h13 => ?_)]
  · rfl
  · rw [if_pos h0] at hlow
    omega
  · rw [if_pos h13] at hhigh
    omega

theorem heads_four {k : Nat} {t : Bytes} {cs : List Char} (hk : k < 5)
    (h : sequence (scan none (UInt8.ofNat (0xF0 + k) :: t)) = some cs) : Heads (UInt8.ofNat (0xF0 + k) :: t) cs := by
  rw [scan_start (lead_four hk)] at h
  obtain ⟨l, t', rfl, hl, hlow, hhigh, h⟩ := more_of_scan (by split <;> omega) (by split <;> omega) h
  obtain ⟨m, t'', rfl, hm, -, -, h⟩ := more_of_scan (by omega) (by omega) h
  obtain ⟨n, t''', cs', rfl, hn, -, -, rfl, hcs⟩ := last_of_scan (by omega) (by omega) h
  refine ⟨_, cs', t''', rfl, ?_, hcs⟩
  rw [encodeChar_four hk hl hm hn (fun h0 => ?_) (fun h4 => ?_)]
  · rfl
  · rw [if_pos h0] at hlow
    omega
  · rw [if_pos h4] at hhigh
    omega

/-- The first byte says which form the first character has. -/
theorem lead_cases (b : UInt8) :
    (∃ n, n < 0x80 ∧ b = UInt8.ofNat n) ∨ (∃ m, 2 ≤ m ∧ m < 0x20 ∧ b = UInt8.ofNat (0xC0 + m)) ∨
      (∃ l, l < 0x10 ∧ b = UInt8.ofNat (0xE0 + l)) ∨ (∃ k, k < 5 ∧ b = UInt8.ofNat (0xF0 + k)) ∨ lead b = .bad := by
  by_cases h1 : b.toNat < 0x80
  · exact .inl ⟨b.toNat, h1, UInt8.ofNat_toNat.symm⟩
  by_cases h2 : b.toNat < 0xC2
  · exact .inr (.inr (.inr (.inr (by unfold lead; simp only [if_neg h1, if_pos h2]))))
  by_cases h3 : b.toNat < 0xE0
  · exact .inr (.inl ⟨b.toNat - 0xC0, by omega, by omega, (ofNat_add_sub (by omega)).symm⟩)
  by_cases h4 : b.toNat < 0xF0
  · exact .inr (.inr (.inl ⟨b.toNat - 0xE0, by omega, (ofNat_add_sub (by omega)).symm⟩))
  by_cases h5 : b.toNat < 0xF5
  · exact .inr (.inr (.inr (.inl ⟨b.toNat - 0xF0, by omega, (ofNat_add_sub (by omega)).symm⟩)))
  · exact .inr (.inr (.inr (.inr (by unfold lead; simp only [if_neg h1, if_neg h2, if_neg h3, if_neg h4, if_neg h5]))))

theorem heads_of_scan {b : UInt8} {t : Bytes} {cs : List Char} (h : sequence (scan none (b :: t)) = some cs) :
    Heads (b :: t) cs := by
  obtain ⟨n, hn, rfl⟩ | ⟨m, hm, hm', rfl⟩ | ⟨l, hl, rfl⟩ | ⟨k, hk, rfl⟩ | hbad := lead_cases b
  · exact heads_one hn h
  · exact heads_two hm hm' h
  · exact heads_three hl h
  · exact heads_four hk h
  · rw [scan, hbad] at h
    cases h

/-- **The characters read are written as the bytes they were read from.** -/
theorem encode_of_decode? : ∀ {cs : List Char} {bs : Bytes}, decode? bs = some cs → encode cs = bs
  | [],      [],     _ => rfl
  | _ :: _,  [],     h => nomatch h
  | [],      b :: t, h => by
    obtain ⟨c, cs', rest, hcs, -, -⟩ := heads_of_scan h
    cases hcs
  | c :: cs, b :: t, h => by
    obtain ⟨c', cs', rest, hcs, hb, hrest⟩ := heads_of_scan h
    cases hcs
    have ih := encode_of_decode? hrest
    unfold encode at ih ⊢
    rw [List.flatMap_cons, ih, hb]

end Utf8

/-- **A written text is read back.** -/
theorem ofUtf8?_utf8 (s : String) : ofUtf8? (utf8 s) = some s := by
  rw [ofUtf8?, utf8, Utf8.decode?_encode, Option.map_some, String.ofList_toList]

/-- **A text read is written as the bytes it was read from.** -/
theorem utf8_of_ofUtf8? {bs : Bytes} {s : String} (h : ofUtf8? bs = some s) : utf8 s = bs := by
  obtain ⟨cs, hcs, rfl⟩ := Option.map_eq_some_iff.1 h
  rw [utf8, String.toList_ofList, Utf8.encode_of_decode? hcs]

theorem utf8_injective {s t : String} (h : utf8 s = utf8 t) : s = t := by
  have hs := ofUtf8?_utf8 s
  rw [h, ofUtf8?_utf8] at hs
  exact (Option.some.inj hs).symm

end RecordHold
