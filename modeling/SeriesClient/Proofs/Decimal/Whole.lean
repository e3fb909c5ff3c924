import SeriesClient.Json.Printer
import Mathlib.Tactic.Common
import Mathlib.Data.Nat.Notation
import Mathlib.Data.Int.Notation

/-! Whole numbers and their digits. A number is told from the digits that stand for it, zeros in front of
them or not, and an integer from its sign and digits, so no two numbers are written alike. -/

namespace SeriesClient.Decimal

def natural? (chars : List Char) : Option ℕ :=
  if !chars.isEmpty && chars.all Char.isDigit then some (Nat.ofDigitChars 10 chars 0) else none

theorem natural?_eq_some_iff {chars : List Char} {n : ℕ} : natural? chars = some n ↔
    chars ≠ [] ∧ (∀ c ∈ chars, c.isDigit = true) ∧ Nat.ofDigitChars 10 chars 0 = n := by
  have htold : (!chars.isEmpty && chars.all Char.isDigit) = true ↔
      chars ≠ [] ∧ ∀ c ∈ chars, c.isDigit = true := by simp
  unfold natural?
  split_ifs with h
  · obtain ⟨hne, hdigits⟩ := htold.1 h
    constructor
    · intro hvalue
      exact ⟨hne, hdigits, Option.some.inj hvalue⟩
    · rintro ⟨-, -, rfl⟩
      rfl
  · constructor
    · intro hnone
      cases hnone
    · rintro ⟨hne, hdigits, -⟩
      exact absurd (htold.2 ⟨hne, hdigits⟩) h

theorem natural?_digitChars (n : ℕ) : natural? (digitChars n) = some n :=
  natural?_eq_some_iff.2
    ⟨Nat.toDigits_ne_nil, fun _ => isDigit_of_mem_digitChars, Nat.ofDigitChars_ten_toDigits⟩

theorem digitChars_injective : Function.Injective digitChars := by
  intro n m h
  apply Option.some.inj
  rw [← natural?_digitChars n, h, natural?_digitChars]

theorem minus_notMem_digitChars (n : ℕ) : '-' ∉ digitChars n := by
  intro h
  cases isDigit_of_mem_digitChars h

def integer? : List Char → Option ℤ
  | '-' :: chars => (natural? chars).map fun n : ℕ => -(n : ℤ)
  | chars => (natural? chars).map Nat.cast

theorem integer?_integerChars (n : ℤ) : integer? (Json.integerChars n) = some n := by
  unfold Json.integerChars
  split_ifs with hneg
  · rw [integer?, natural?_digitChars, Option.map_some, Option.some_inj]
    omega
  · have hminus := minus_notMem_digitChars n.natAbs
    have hdigits : integer? (digitChars n.natAbs) = (natural? (digitChars n.natAbs)).map Nat.cast := by
      unfold integer?
      split
      · next h => exact absurd (h ▸ List.mem_cons_self) hminus
      · rfl
    rw [hdigits, natural?_digitChars, Option.map_some, Option.some_inj]
    omega

theorem integerChars_injective : Function.Injective Json.integerChars := by
  intro n m h
  apply Option.some.inj
  rw [← integer?_integerChars n, h, integer?_integerChars]

end SeriesClient.Decimal
