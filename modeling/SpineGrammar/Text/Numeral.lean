/-!
# Numerals in a base

Reading natural numbers in any base up to sixteen, with letters of either case for the digits from
ten on, and characters that are given by such a number. What `Nat.toDigits` writes reads back
(`numeral?_toDigits`).
-/

namespace SpineGrammar

/-- The value of a hexadecimal digit. -/
def hexDigit? (c : Char) : Option Nat :=
  if c.isDigit then some (c.toNat - '0'.toNat)
  else if 'a' ≤ c ∧ c ≤ 'f' then some (c.toNat - 'a'.toNat + 10)
  else if 'A' ≤ c ∧ c ≤ 'F' then some (c.toNat - 'A'.toNat + 10)
  else none

/-- The value of a digit in a base. -/
def digitIn? (base : Nat) (c : Char) : Option Nat := (hexDigit? c).filter (· < base)

/-- The number that digits in a base denote; no digits denote zero. -/
def numeral? (base : Nat) (ds : List Char) : Option Nat :=
  ds.foldlM (fun n d => (digitIn? base d).map (n * base + ·)) 0

/-- The character with a code, if there is one. -/
def charOfCode? (code : Nat) : Option Char :=
  if h : code.isValidChar then some (Char.ofNatAux code h) else none

theorem digitIn?_digitChar {base d : Nat} (hbase : base ≤ 16) (hd : d < base) :
    digitIn? base (Nat.digitChar d) = some d := by
  have h : ∀ k < 16, hexDigit? (Nat.digitChar k) = some k := by decide
  simp [digitIn?, h d (by omega), hd]

theorem numeral?_append_singleton (base : Nat) (ds : List Char) (d : Char) :
    numeral? base (ds ++ [d]) =
      (numeral? base ds).bind fun n => (digitIn? base d).map (n * base + ·) := by
  simp [numeral?, List.foldlM_append, List.foldlM_cons]

theorem numeral?_toDigits {base : Nat} (hlow : 1 < base) (hhigh : base ≤ 16) (n : Nat) :
    numeral? base (Nat.toDigits base n) = some n := by
  induction n using Nat.strongRecOn with
  | ind n ih =>
    by_cases h : n < base
    · rw [Nat.toDigits_of_lt_base h]
      simp [numeral?, digitIn?_digitChar hhigh h]
    · have hsmaller : n / base < n := Nat.div_lt_self (by omega) hlow
      have hdigit : n % base < base := Nat.mod_lt n (by omega)
      rw [Nat.toDigits_of_base_le hlow (by omega), numeral?_append_singleton, ih _ hsmaller]
      simp [digitIn?_digitChar hhigh hdigit, Nat.div_add_mod']

theorem isSome_digitIn?_of_mem_toDigits {base : Nat} (hlow : 1 < base) (hhigh : base ≤ 16)
    {n : Nat} {c : Char} (hc : c ∈ Nat.toDigits base n) : (digitIn? base c).isSome = true := by
  induction n using Nat.strongRecOn with
  | ind n ih =>
    by_cases h : n < base
    · rw [Nat.toDigits_of_lt_base h, List.mem_singleton] at hc
      simp [hc, digitIn?_digitChar hhigh h]
    · have hsmaller : n / base < n := Nat.div_lt_self (by omega) hlow
      have hdigit : n % base < base := Nat.mod_lt n (by omega)
      rw [Nat.toDigits_of_base_le hlow (by omega), List.mem_append, List.mem_singleton] at hc
      rcases hc with hc | hc
      · exact ih _ hsmaller hc
      · simp [hc, digitIn?_digitChar hhigh hdigit]

theorem charOfCode?_toNat (c : Char) : charOfCode? c.toNat = some c := by
  have h : c.toNat.isValidChar := c.valid
  rw [charOfCode?, dif_pos h]
  rfl

end SpineGrammar
