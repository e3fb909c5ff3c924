import SeriesClient.Decimal
import Mathlib.Algebra.Order.Field.Basic
import Mathlib.Data.Rat.Cast.Order
import Mathlib.Tactic.Linarith
import Mathlib.Tactic.Ring
import Mathlib.Tactic.Positivity
import Mathlib.Tactic.FieldSimp

/-! The shortest decimal of a number lies where numbers are rounded to it. The intervals of numbers that
are rounded to one of the 64-bit format or another have no number in common, so that the decimal has
only the one to read back as; and the search for it comes to an end, since a grid that is finer than the
interval is wide has a point in it. -/

namespace SeriesClient

def Decimal.value (x : Decimal) : ℚ := x.digits * 10 ^ x.exponent

namespace Dyadic

variable {d d' : Dyadic} {q : ℚ}

/-- It is the magnitude of a number of the format, or follows on the largest. -/
structure Legal (d : Dyadic) : Prop where
  mantissa_lt : d.mantissa < 2 ^ 53
  le_exponent : -1074 ≤ d.exponent
  exponent_le : d.exponent ≤ 972
  normal : -1074 < d.exponent → 2 ^ 52 ≤ d.mantissa
  tight_iff : d.tight = true ↔ -1074 < d.exponent ∧ d.mantissa = 2 ^ 52

theorem legal_ofFloat (x : Float) : (ofFloat x).Legal := by
  unfold ofFloat
  generalize x.toBits.toNat = bits
  simp only
  split_ifs with hzero
  · exact ⟨by simp only; omega, by simp, by simp, by simp, by simp⟩
  · refine ⟨by simp only; omega, by simp only; omega, by simp only; omega, fun _ => ?_, ?_⟩
    · simp only
      omega
    · simp only [Bool.and_eq_true, beq_iff_eq, bne_iff_ne]
      omega

/-- How far below the number those reach that are rounded to it, in units of its last place. -/
def reach (d : Dyadic) : ℚ := if d.tight then 1 / 4 else 1 / 2

def low (d : Dyadic) : ℚ := (d.mantissa - d.reach) * 2 ^ d.exponent

def high (d : Dyadic) : ℚ := (d.mantissa + 1 / 2) * 2 ^ d.exponent

/-- It is rounded to `d`; the ends of the interval are if the mantissa is even. -/
def Rounds (d : Dyadic) (q : ℚ) : Prop :=
  d.low ≤ q ∧ q ≤ d.high ∧ (d.mantissa % 2 = 1 → d.low < q ∧ q < d.high)

def Precedes (d d' : Dyadic) : Prop :=
  d.exponent < d'.exponent ∨ d.exponent = d'.exponent ∧ d.mantissa < d'.mantissa

theorem unit_pos (e : ℤ) : (0 : ℚ) < 2 ^ e := zpow_pos two_pos e

theorem two_unit_le {e e' : ℤ} (h : e < e') : (2 : ℚ) * 2 ^ e ≤ 2 ^ e' := by
  calc (2 : ℚ) * 2 ^ e = 2 ^ (e + 1) := by rw [zpow_add_one₀ two_ne_zero, mul_comm]
    _ ≤ 2 ^ e' := zpow_le_zpow_right₀ one_le_two (by omega)

theorem high_le_low (hd : d.Legal) (hd' : d'.Legal) (h : d.Precedes d') :
    d.high ≤ d'.low ∧ (d.mantissa % 2 = 0 → d'.mantissa % 2 = 0 → d.high < d'.low) := by
  have hunit := unit_pos d.exponent
  rcases h with hlt | ⟨heq, hlt⟩
  · have hscale := two_unit_le hlt
    have hleast := hd.le_exponent
    have hnormal := hd'.normal (by omega)
    have hm : (d.mantissa : ℚ) + 1 ≤ 2 ^ 53 := by exact_mod_cast hd.mantissa_lt
    have hreach : (2 : ℚ) ^ 52 - 1 / 4 ≤ d'.mantissa - d'.reach := by
      unfold reach
      split_ifs with htight
      · rw [(hd'.tight_iff.1 htight).2]
        norm_num
      · have hne : d'.mantissa ≠ 2 ^ 52 := fun hm => htight (hd'.tight_iff.2 ⟨by omega, hm⟩)
        have hmore : (2 : ℚ) ^ 52 + 1 ≤ d'.mantissa := by exact_mod_cast (by omega :
          2 ^ 52 + 1 ≤ d'.mantissa)
        linarith
    have hlow : ((2 : ℚ) ^ 53 - 1 / 2) * 2 ^ d.exponent ≤ d'.low := by
      calc ((2 : ℚ) ^ 53 - 1 / 2) * 2 ^ d.exponent
          = (2 ^ 52 - 1 / 4) * (2 * 2 ^ d.exponent) := by ring
        _ ≤ (d'.mantissa - d'.reach) * 2 ^ d'.exponent := by
          apply mul_le_mul hreach hscale (by positivity)
          exact le_trans (by norm_num) hreach
    refine ⟨le_trans ?_ hlow, fun heven _ => lt_of_lt_of_le ?_ hlow⟩
    · exact mul_le_mul_of_nonneg_right (by linarith) hunit.le
    · -- The largest mantissa is odd.
      have hm : (d.mantissa : ℚ) + 2 ≤ 2 ^ 53 := by
        have := hd.mantissa_lt
        exact_mod_cast (by omega : d.mantissa + 2 ≤ 2 ^ 53)
      exact mul_lt_mul_of_pos_right (by linarith) hunit
  · have hreach : d'.reach = 1 / 2 := by
      unfold reach
      rw [if_neg]
      intro htight
      obtain ⟨hleast, hm⟩ := hd'.tight_iff.1 htight
      have := hd.normal (heq ▸ hleast)
      omega
    have hm : (d.mantissa : ℚ) + 1 ≤ d'.mantissa := by exact_mod_cast hlt
    unfold high low
    rw [hreach, ← heq]
    refine ⟨mul_le_mul_of_nonneg_right (by linarith) hunit.le, fun heven heven' => ?_⟩
    have hm : (d.mantissa : ℚ) + 2 ≤ d'.mantissa := by
      exact_mod_cast (by omega : d.mantissa + 2 ≤ d'.mantissa)
    exact mul_lt_mul_of_pos_right (by linarith) hunit

theorem not_rounds_of_precedes (hd : d.Legal) (hd' : d'.Legal) (h : d.Precedes d')
    (hq : d.Rounds q) : ¬ d'.Rounds q := by
  rintro ⟨hlow, -, hodd'⟩
  obtain ⟨-, hhigh, hodd⟩ := hq
  obtain ⟨hle, hlt⟩ := high_le_low hd hd' h
  rcases Nat.mod_two_eq_zero_or_one d.mantissa with heven | hm
  · rcases Nat.mod_two_eq_zero_or_one d'.mantissa with heven' | hm'
    · linarith [hlt heven heven']
    · linarith [(hodd' hm').1]
  · linarith [(hodd hm).2]

/-- A number is rounded to one number of the format only. -/
theorem rounds_unique (hd : d.Legal) (hd' : d'.Legal) (hq : d.Rounds q) (hq' : d'.Rounds q) :
    d = d' := by
  have hnot : ¬ d.Precedes d' := fun h => not_rounds_of_precedes hd hd' h hq hq'
  have hnot' : ¬ d'.Precedes d := fun h => not_rounds_of_precedes hd' hd h hq' hq
  unfold Precedes at hnot hnot'
  have hexponent : d.exponent = d'.exponent := by omega
  have hmantissa : d.mantissa = d'.mantissa := by omega
  have htight : d.tight = d'.tight := by
    rw [Bool.eq_iff_iff, hd.tight_iff, hd'.tight_iff, hexponent, hmantissa]
  cases d
  cases d'
  simp_all

end Dyadic

namespace Decimal

variable {tie : Tie} {d : Dyadic} {p : ℤ} {n : ℕ}

/-- In units of the step the number is `scaled / coarse`, and half a unit of its last place is
`2 * fine / coarse`. -/
def fine (d : Dyadic) (p : ℤ) : ℕ := Nat.pow 2 d.exponent.toNat * Nat.pow 10 (-p).toNat

def coarse (d : Dyadic) (p : ℤ) : ℕ :=
  4 * Nat.pow 2 (-d.exponent).toNat * Nat.pow 10 p.toNat

def scaled (d : Dyadic) (p : ℤ) : ℕ := 4 * d.mantissa * fine d p

theorem fine_pos (d : Dyadic) (p : ℤ) : 0 < fine d p :=
  Nat.mul_pos (Nat.pow_pos two_pos) (Nat.pow_pos (by decide))

theorem coarse_pos (d : Dyadic) (p : ℤ) : 0 < coarse d p :=
  Nat.mul_pos (Nat.mul_pos (by decide) (Nat.pow_pos two_pos)) (Nat.pow_pos (by decide))

def reachBelow (d : Dyadic) (p : ℤ) : ℕ := if d.tight then fine d p else 2 * fine d p

theorem zpow_mul_toNat {b : ℚ} (hb : b ≠ 0) (e : ℤ) : b ^ e * b ^ (-e).toNat = b ^ e.toNat := by
  rw [← zpow_natCast, ← zpow_natCast, ← zpow_add₀ hb]
  congr 1
  omega

theorem coarse_mul_unit (d : Dyadic) (p : ℤ) :
    (coarse d p : ℚ) * 2 ^ d.exponent = 4 * fine d p * 10 ^ p := by
  have htwo := zpow_mul_toNat (two_ne_zero : (2 : ℚ) ≠ 0) d.exponent
  have hten := zpow_mul_toNat (by norm_num : (10 : ℚ) ≠ 0) p
  unfold coarse fine
  push_cast [Nat.pow_eq]
  calc (4 : ℚ) * 2 ^ (-d.exponent).toNat * 10 ^ p.toNat * 2 ^ d.exponent
      = 4 * (2 ^ d.exponent * 2 ^ (-d.exponent).toNat) * 10 ^ p.toNat := by ring
    _ = 4 * (2 ^ d.exponent.toNat * 10 ^ (-p).toNat) * 10 ^ p := by rw [htwo, ← hten]; ring

/-- What is taken from a grid is the point below the number or the one above it, if that is rounded to
the number. -/
theorem onGrid?_cases (h : onGrid? tie d p = some n) :
    (n = scaled d p / coarse d p ∧
      (scaled d p % coarse d p < reachBelow d p ∨
        d.mantissa % 2 = 0 ∧ scaled d p % coarse d p = reachBelow d p)) ∨
    (n = scaled d p / coarse d p + 1 ∧
      (coarse d p - scaled d p % coarse d p < 2 * fine d p ∨
        d.mantissa % 2 = 0 ∧ coarse d p - scaled d p % coarse d p = 2 * fine d p)) := by
  simp only [onGrid?] at h
  rw [← fine, ← coarse, ← reachBelow, ← scaled] at h
  simp only [Bool.or_eq_true, Bool.and_eq_true, decide_eq_true_eq, beq_iff_eq] at h
  split_ifs at h with hboth hbelow habove heven hlow hhigh
  · exact Or.inl ⟨(Option.some.inj h).symm, hboth.1⟩
  · exact Or.inr ⟨(Option.some.inj h).symm, hboth.2⟩
  · cases tie with
    | toEven => exact Or.inl ⟨(Option.some.inj h).symm, hboth.1⟩
    | up => exact Or.inr ⟨(Option.some.inj h).symm, hboth.2⟩
  · cases tie with
    | toEven => exact Or.inr ⟨(Option.some.inj h).symm, hboth.2⟩
    | up => exact Or.inr ⟨(Option.some.inj h).symm, hboth.2⟩
  · exact Or.inl ⟨(Option.some.inj h).symm, hlow⟩
  · exact Or.inr ⟨(Option.some.inj h).symm, hhigh⟩

theorem onGrid?_bounds (h : onGrid? tie d p = some n) :
    scaled d p ≤ n * coarse d p + reachBelow d p ∧ n * coarse d p ≤ scaled d p + 2 * fine d p ∧
      (d.mantissa % 2 = 1 → scaled d p < n * coarse d p + reachBelow d p ∧
        n * coarse d p < scaled d p + 2 * fine d p) := by
  have hfine := fine_pos d p
  have hreach : 0 < reachBelow d p := by
    unfold reachBelow
    split_ifs <;> omega
  have hmod := Nat.mod_lt (scaled d p) (coarse_pos d p)
  have hdiv := Nat.div_add_mod' (scaled d p) (coarse d p)
  rcases onGrid?_cases h with ⟨rfl, hlow⟩ | ⟨rfl, hhigh⟩
  · omega
  · rw [Nat.add_one_mul]
    omega

/-- A point that is taken from a grid is rounded to the number. -/
theorem rounds_of_onGrid? (h : onGrid? tie d p = some n) : d.Rounds (n * 10 ^ p) := by
  obtain ⟨hlow, hhigh, hodd⟩ := onGrid?_bounds h
  have hfine : (0 : ℚ) < 4 * fine d p := by exact_mod_cast Nat.mul_pos (by decide) (fine_pos d p)
  have hunit := Dyadic.unit_pos d.exponent
  have hpoint : 4 * (fine d p : ℚ) * (n * 10 ^ p) = n * coarse d p * 2 ^ d.exponent := by
    rw [mul_assoc (n : ℚ), coarse_mul_unit]
    ring
  have hreach : (reachBelow d p : ℚ) = 4 * fine d p * d.reach := by
    unfold reachBelow Dyadic.reach
    split_ifs <;> push_cast <;> ring
  have hedge : 4 * (fine d p : ℚ) * d.low = (scaled d p - reachBelow d p) * 2 ^ d.exponent := by
    rw [hreach, Dyadic.low, scaled]
    push_cast
    ring
  have hedge' : 4 * (fine d p : ℚ) * d.high = (scaled d p + 2 * fine d p) * 2 ^ d.exponent := by
    rw [Dyadic.high, scaled]
    push_cast
    ring
  refine ⟨?_, ?_, fun hm => ⟨?_, ?_⟩⟩
  · refine le_of_mul_le_mul_left ?_ hfine
    rw [hedge, hpoint]
    have hle : (scaled d p : ℚ) ≤ n * coarse d p + reachBelow d p := by exact_mod_cast hlow
    exact mul_le_mul_of_nonneg_right (by linarith) hunit.le
  · refine le_of_mul_le_mul_left ?_ hfine
    rw [hedge', hpoint]
    exact mul_le_mul_of_nonneg_right (by exact_mod_cast hhigh) hunit.le
  · refine lt_of_mul_lt_mul_left ?_ hfine.le
    rw [hedge, hpoint]
    have hlt : (scaled d p : ℚ) < n * coarse d p + reachBelow d p := by exact_mod_cast (hodd hm).1
    exact mul_lt_mul_of_pos_right (by linarith) hunit
  · refine lt_of_mul_lt_mul_left ?_ hfine.le
    rw [hedge', hpoint]
    exact mul_lt_mul_of_pos_right (by exact_mod_cast (hodd hm).2) hunit

/-- A grid has a point that is rounded to the number if its step is less than three quarters of a unit
of the last place. -/
theorem onGrid?_of_fine (h : 4 * (10 : ℚ) ^ p < 3 * 2 ^ d.exponent) : onGrid? tie d p ≠ none := by
  have hsteps : coarse d p < 3 * fine d p := by
    have hfine : (0 : ℚ) < fine d p := by exact_mod_cast fine_pos d p
    have hlt : (coarse d p : ℚ) * 2 ^ d.exponent < 3 * fine d p * 2 ^ d.exponent := by
      calc (coarse d p : ℚ) * 2 ^ d.exponent = fine d p * (4 * 10 ^ p) := by
            rw [coarse_mul_unit]
            ring
        _ < fine d p * (3 * 2 ^ d.exponent) := mul_lt_mul_of_pos_left h hfine
        _ = 3 * fine d p * 2 ^ d.exponent := by ring
    exact_mod_cast lt_of_mul_lt_mul_right hlt (Dyadic.unit_pos d.exponent).le
  have hmod := Nat.mod_lt (scaled d p) (coarse_pos d p)
  have hreach : fine d p ≤ reachBelow d p := by
    unfold reachBelow
    split_ifs <;> omega
  intro hnone
  simp only [onGrid?] at hnone
  rw [← fine, ← coarse, ← reachBelow, ← scaled] at hnone
  simp only [Bool.or_eq_true, Bool.and_eq_true, decide_eq_true_eq, beq_iff_eq] at hnone
  split_ifs at hnone with hboth hbelow habove heven hlow hhigh
  · cases tie <;> cases hnone
  · cases tie <;> cases hnone
  · omega

theorem search_of_onGrid? {steps k : ℕ} (hk : k < steps) (h : onGrid? tie d (p - k) ≠ none) :
    ∃ q n, search tie d steps p = ⟨n, q⟩ ∧ onGrid? tie d q = some n := by
  induction steps generalizing k p with
  | zero => omega
  | succ steps ih =>
    unfold search
    cases hgrid : onGrid? tie d p with
    | some digits => exact ⟨p, digits, rfl, hgrid⟩
    | none =>
      obtain ⟨j, rfl⟩ : ∃ j, k = j + 1 := by
        cases k with
        | zero => exact absurd hgrid (by simpa using h)
        | succ j => exact ⟨j, rfl⟩
      refine ih (k := j) (by omega) ?_
      have hstep : p - 1 - (j : ℤ) = p - ((j + 1 : ℕ) : ℤ) := by
        push_cast
        ring
      rw [hstep]
      exact h

/-- A power of ten by a power of two, where `A / B` is just over the logarithm of 2. -/
theorem ten_zpow_le {A B : ℕ} (hB : 0 < B) (hlow : 2 ^ B ≤ 10 ^ A) (hhigh : 10 ^ A ≤ 2 ^ (B + 1))
    {T L : ℤ} (hT : T * B ≤ L * A) (hL : L ≤ B) : (10 : ℚ) ^ T ≤ 2 ^ (L + 1) := by
  have hlow : (2 : ℚ) ^ B ≤ 10 ^ A := by exact_mod_cast hlow
  have hhigh : (10 : ℚ) ^ A ≤ 2 ^ (B + 1) := by exact_mod_cast hhigh
  have hpower : ((10 : ℚ) ^ A) ^ L ≤ 2 ^ ((L + 1) * B) := by
    cases L with
    | ofNat k =>
      have hk : k ≤ B := Int.ofNat_le.1 hL
      rw [Int.ofNat_eq_natCast, zpow_natCast]
      calc ((10 : ℚ) ^ A) ^ k ≤ (2 ^ (B + 1)) ^ k := pow_le_pow_left₀ (by positivity) hhigh k
        _ = 2 ^ ((B + 1) * k) := (pow_mul _ _ _).symm
        _ ≤ 2 ^ ((k + 1) * B) := pow_le_pow_right₀ one_le_two (by nlinarith)
        _ = 2 ^ (((k : ℤ) + 1) * B) := by
          rw [← zpow_natCast]
          push_cast
          rfl
    | negSucc k =>
      rw [zpow_negSucc]
      calc (((10 : ℚ) ^ A) ^ (k + 1))⁻¹ ≤ ((2 ^ B) ^ (k + 1))⁻¹ :=
            inv_anti₀ (by positivity) (pow_le_pow_left₀ (by positivity) hlow _)
        _ = 2 ^ (-((B : ℤ) * (k + 1))) := by
          rw [← pow_mul, zpow_neg, ← zpow_natCast]
          push_cast
          rfl
        _ ≤ 2 ^ ((Int.negSucc k + 1) * B) := by
          refine zpow_le_zpow_right₀ one_le_two ?_
          rw [Int.negSucc_eq]
          nlinarith
  have hroot : ((10 : ℚ) ^ T) ^ B ≤ (2 ^ (L + 1)) ^ B := by
    calc ((10 : ℚ) ^ T) ^ B = 10 ^ (T * B) := by rw [← zpow_natCast, ← zpow_mul]
      _ ≤ 10 ^ (L * A) := zpow_le_zpow_right₀ (by norm_num) hT
      _ = ((10 : ℚ) ^ A) ^ L := by rw [← zpow_natCast, ← zpow_mul, mul_comm]
      _ ≤ 2 ^ ((L + 1) * B) := hpower
      _ = (2 ^ (L + 1)) ^ B := by rw [← zpow_natCast, ← zpow_mul]
  exact le_of_pow_le_pow_left₀ hB.ne' (Dyadic.unit_pos _).le hroot

/-- The last of the grids that are tried is fine enough. -/
theorem onGrid?_last (tie : Tie) (hd : d.Legal) (hm : d.mantissa ≠ 0) :
    onGrid? tie d (topExponent d - 23) ≠ none := by
  apply onGrid?_of_fine
  have hlog : d.mantissa.log2 < 53 := (Nat.log2_lt hm).2 hd.mantissa_lt
  have hmost := hd.exponent_le
  obtain ⟨L, hL⟩ : ∃ L : ℤ, (d.mantissa.log2 : ℤ) + 1 + d.exponent = L := ⟨_, rfl⟩
  have hten : (10 : ℚ) ^ (L * 30103 / 100000) ≤ 2 ^ (L + 1) := by
    refine ten_zpow_le (A := 30103) (B := 100000) (by decide) ?_ ?_ ?_ ?_
    · decide +kernel
    · decide +kernel
    · exact Int.ediv_mul_le _ (by decide)
    · omega
  have htwo : (2 : ℚ) ^ (L + 1) ≤ 2 ^ 54 * 2 ^ d.exponent := by
    rw [← zpow_natCast, ← zpow_add₀ two_ne_zero]
    exact zpow_le_zpow_right₀ one_le_two (by push_cast; omega)
  have hunit := Dyadic.unit_pos d.exponent
  have htop : topExponent d - 23 = L * 30103 / 100000 - 21 := by
    unfold topExponent
    rw [hL]
    ring
  rw [htop, zpow_sub₀ (by norm_num)]
  calc 4 * ((10 : ℚ) ^ (L * 30103 / 100000) / 10 ^ (21 : ℤ))
      ≤ 4 * (2 ^ 54 * 2 ^ d.exponent / 10 ^ (21 : ℤ)) := by
        gcongr
        exact hten.trans htwo
    _ = 4 * 2 ^ 54 / 10 ^ (21 : ℤ) * 2 ^ d.exponent := by ring
    _ < 3 * 2 ^ d.exponent := mul_lt_mul_of_pos_right (by norm_num) hunit

/-- The shortest decimal is rounded to the number that it stands for. -/
theorem rounds_shortest (tie : Tie) (hd : d.Legal) : d.Rounds (shortest tie d).value := by
  unfold shortest
  split_ifs with hm
  · have hunit := Dyadic.unit_pos d.exponent
    have hreach : 0 < d.reach := by
      unfold Dyadic.reach
      split_ifs <;> norm_num
    refine ⟨?_, ?_, fun hodd => by omega⟩
    · rw [Dyadic.low, hm, value]
      push_cast
      nlinarith
    · rw [Dyadic.high, hm, value]
      push_cast
      nlinarith
  · obtain ⟨q, n, hsearch, hgrid⟩ := search_of_onGrid? (k := 23) (Nat.lt_succ_self 23)
      (onGrid?_last tie hd hm)
    rw [hsearch]
    exact rounds_of_onGrid? hgrid

/-- Numbers with the same shortest decimal are the same. -/
theorem eq_of_shortest_value {tie tie' : Tie} {d d' : Dyadic} (hd : d.Legal) (hd' : d'.Legal)
    (h : (shortest tie d).value = (shortest tie' d').value) : d = d' :=
  Dyadic.rounds_unique hd hd' (rounds_shortest tie hd) (h ▸ rounds_shortest tie' hd')

end Decimal
end SeriesClient
