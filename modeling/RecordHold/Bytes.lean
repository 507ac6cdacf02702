/-!
# Bytes — byte strings and the words written into them

A byte string is a list of bytes, and byte strings are ordered as lists are: at the first difference, a
beginning before its extension.  Fixed-width words are written least significant byte first in stored data
(`ofNatLE`) and most significant byte first where the byte order has to follow the numeric order (`ofNatBE`).
-/
namespace RecordHold

abbrev Bytes := List UInt8

/-- How many numbers fit `n` bytes. -/
def Bytes.capacity (n : Nat) : Nat := Nat.pow 256 n

/-- The low `n` bytes of a number, least significant first. -/
def Bytes.ofNatLE : Nat → Nat → Bytes
  | 0,     _ => []
  | n + 1, v => UInt8.ofNat v :: Bytes.ofNatLE n (v / 256)

/-- The number whose bytes, least significant first, are these. -/
def Bytes.toNatLE : Bytes → Nat
  | []     => 0
  | b :: t => b.toNat + 256 * Bytes.toNatLE t

/-- The low `n` bytes of a number, most significant first. -/
def Bytes.ofNatBE (n v : Nat) : Bytes := (Bytes.ofNatLE n v).reverse

/-- The bytes of a text that is known to be ASCII. -/
def Bytes.ofAscii (s : String) : Bytes := s.toList.map (fun c => UInt8.ofNat c.toNat)

@[simp] theorem Bytes.length_ofNatLE : ∀ n v : Nat, (Bytes.ofNatLE n v).length = n
  | 0,     _ => rfl
  | n + 1, v => by simp [Bytes.ofNatLE, Bytes.length_ofNatLE n]

/-- How many numbers fit the words in use. -/
theorem Bytes.capacity_words : Bytes.capacity 1 = 256 ∧ Bytes.capacity 2 = 65536 ∧ Bytes.capacity 4 = 4294967296 ∧
    Bytes.capacity 8 = 18446744073709551616 := ⟨rfl, rfl, rfl, rfl⟩

theorem Bytes.capacity_succ (n : Nat) : Bytes.capacity (n + 1) = 256 * Bytes.capacity n := Nat.mul_comm _ _

/-- A number that fits `n` bytes is read back from them. -/
theorem Bytes.toNatLE_ofNatLE : ∀ n v : Nat, v < Bytes.capacity n → Bytes.toNatLE (Bytes.ofNatLE n v) = v
  | 0,     v, h => by
    obtain rfl : v = 0 := Nat.lt_one_iff.1 h
    rfl
  | n + 1, v, h => by
    have hd : v / 256 < Bytes.capacity n := Nat.div_lt_of_lt_mul (by rwa [Bytes.capacity_succ] at h)
    simp only [Bytes.ofNatLE, Bytes.toNatLE, Bytes.toNatLE_ofNatLE n _ hd, UInt8.toNat_ofNat']
    omega

/-- Bytes are written again from the number they make. -/
theorem Bytes.ofNatLE_toNatLE : ∀ b : Bytes, Bytes.ofNatLE b.length (Bytes.toNatLE b) = b
  | []     => rfl
  | x :: t => by
    have hx : x.toNat < 256 := x.toNat_lt
    have hd : (x.toNat + 256 * Bytes.toNatLE t) / 256 = Bytes.toNatLE t := by omega
    have hm : (x.toNat + 256 * Bytes.toNatLE t) % 256 = x.toNat := by omega
    have hb : UInt8.ofNat (x.toNat + 256 * Bytes.toNatLE t) = x :=
      UInt8.toNat_inj.1 (by rw [UInt8.toNat_ofNat']; exact hm)
    rw [List.length_cons, Bytes.toNatLE, Bytes.ofNatLE, hd, hb, Bytes.ofNatLE_toNatLE t]

theorem Bytes.toNatLE_lt : ∀ b : Bytes, Bytes.toNatLE b < Bytes.capacity b.length
  | []     => Nat.zero_lt_one
  | x :: t => by
    have hx : x.toNat < 256 := x.toNat_lt
    have ih := Bytes.toNatLE_lt t
    rw [List.length_cons, Bytes.capacity_succ, Bytes.toNatLE]
    omega

end RecordHold
