import SeriesClient.Proofs.Decimal.Rounding

/-! What is written positionally says which number it is. The digits and where the point stands among
them give the value of the decimal, that gives the number that it is rounded to, and a sign or a name
without digits the rest; so no two numbers are written alike, a zero and its negative included. -/

namespace SeriesClient

open Float (Model)
open Float.Model (UnpackedFloat)

theorem eq_of_toBits {x y : Float} (h : x.toBits = y.toBits) : x = y := by
  obtain ⟨⟨bits, _⟩⟩ := x
  obtain ⟨⟨bits', _⟩⟩ := y
  obtain rfl : bits = bits' := h
  rfl

abbrev exponentBits (x : Float) : BitVec Model.Format.binary64.exponentBits :=
  @UnpackedFloat.unpackExponent .binary64 x.toModel.toBits.toBitVec

abbrev fractionBits (x : Float) : BitVec Model.Format.binary64.mantissaBitsWithoutImplicit :=
  @UnpackedFloat.unpackMantissa .binary64 x.toModel.toBits.toBitVec

theorem finite_of_exponentBits {x : Float} (h : exponentBits x ≠ -1#_) :
    x.isNaN = false ∧ x.isInf = false := by
  unfold Float.isNaN Float.isInf Model.isNaN Model.isInf Model.unpack UnpackedFloat.unpack
  dsimp only
  rw [if_neg h]
  by_cases hzero : exponentBits x = 0#_
  · rw [if_pos hzero]
    by_cases hfraction : fractionBits x = 0#_
    · rw [dif_pos hfraction]
      exact ⟨rfl, rfl⟩
    · rw [dif_neg hfraction]
      exact ⟨rfl, rfl⟩
  · rw [if_neg hzero]
    exact ⟨rfl, rfl⟩

theorem isNaN_iff_of_exponentBits {x : Float} (h : exponentBits x = -1#_) :
    (x.isNaN = true ↔ fractionBits x ≠ 0#_) ∧ (x.isInf = true ↔ fractionBits x = 0#_) := by
  unfold Float.isNaN Float.isInf Model.isNaN Model.isInf Model.unpack UnpackedFloat.unpack
  dsimp only
  rw [if_pos h]
  by_cases hfraction : fractionBits x = 0#_
  · rw [if_pos hfraction]
    exact ⟨iff_of_false Bool.false_ne_true (not_not_intro hfraction), iff_of_true rfl hfraction⟩
  · rw [if_neg hfraction]
    exact ⟨iff_of_true rfl hfraction, iff_of_false Bool.false_ne_true hfraction⟩

/-- There is one NaN. -/
theorem toBits_of_isNaN {x : Float} (h : x.isNaN = true) :
    x.toBits.toBitVec = UnpackedFloat.packedNaN .binary64 := by
  have hexponent : exponentBits x = -1#_ := by
    by_contra hne
    rw [(finite_of_exponentBits hne).1] at h
    cases h
  exact x.toModel.valid.eq_packedNaN hexponent ((isNaN_iff_of_exponentBits hexponent).1.1 h)

theorem fields_of_isInf {x : Float} (h : x.isInf = true) :
    x.toBits.toNat / 0x10000000000000 % 0x800 = 2047 ∧ x.toBits.toNat % 0x10000000000000 = 0 := by
  have hexponent : exponentBits x = -1#_ := by
    by_contra hne
    rw [(finite_of_exponentBits hne).2] at h
    cases h
  have hfraction := congrArg BitVec.toNat ((isNaN_iff_of_exponentBits hexponent).2.1 h)
  have hexponent := congrArg BitVec.toNat hexponent
  simp only [exponentBits, fractionBits, UnpackedFloat.unpackExponent, UnpackedFloat.unpackMantissa,
    BitVec.toNat_cast, BitVec.extractLsb_toNat, Nat.shiftRight_eq_div_pow, pow_zero, Nat.div_one]
    at hexponent hfraction
  exact ⟨hexponent, hfraction⟩

theorem eq_of_ofFloat {x y : Float} (h : Dyadic.ofFloat x = Dyadic.ofFloat y)
    (hsign : isSigned x = isSigned y) : x = y := by
  apply eq_of_toBits
  rw [← UInt64.toNat_inj]
  have hx := x.toBits.toNat_lt
  have hy := y.toBits.toNat_lt
  unfold isSigned at hsign
  rw [Bool.eq_iff_iff, decide_eq_true_iff, decide_eq_true_iff] at hsign
  unfold Dyadic.ofFloat at h
  generalize x.toBits.toNat = bits at *
  generalize y.toBits.toNat = bits' at *
  simp only at h
  split_ifs at h <;> simp only [Dyadic.mk.injEq] at h <;> omega

theorem ofFloat_of_isInf {x : Float} (h : x.isInf = true) :
    Dyadic.ofFloat x = ⟨2 ^ 52, 972, true⟩ := by
  obtain ⟨hexponent, hfraction⟩ := fields_of_isInf h
  unfold Dyadic.ofFloat
  simp only [hexponent, hfraction]
  rfl

namespace Decimal

variable {digits : List Char}

/-- What digits with a point among them stand for. -/
def read (chars : List Char) : ℚ :=
  Nat.ofDigitChars 10 (chars.filter (· != '.')) 0 /
    10 ^ ((chars.dropWhile (· != '.')).length - 1)

theorem filter_digits (h : ∀ c ∈ digits, c.isDigit = true) : digits.filter (· != '.') = digits := by
  refine List.filter_eq_self.2 fun c hc => ?_
  rw [bne_iff_ne]
  rintro rfl
  cases h _ hc

theorem dropWhile_digits (h : ∀ c ∈ digits, c.isDigit = true) (rest : List Char) :
    (digits ++ rest).dropWhile (· != '.') = rest.dropWhile (· != '.') := by
  refine List.dropWhile_append_of_pos fun c hc => ?_
  rw [bne_iff_ne]
  rintro rfl
  cases h _ hc

theorem isDigit_zeros (k : ℕ) : ∀ c ∈ List.replicate k '0', c.isDigit = true := by
  intro c hc
  rw [List.eq_of_mem_replicate hc]
  rfl

theorem read_digits (h : ∀ c ∈ digits, c.isDigit = true) :
    read digits = Nat.ofDigitChars 10 digits 0 := by
  have htail := dropWhile_digits h []
  rw [List.append_nil, List.dropWhile_nil] at htail
  unfold read
  rw [filter_digits h, htail]
  simp

theorem read_point {back : List Char} (h : ∀ c ∈ digits, c.isDigit = true)
    (hback : ∀ c ∈ back, c.isDigit = true) :
    read (digits ++ '.' :: back) = Nat.ofDigitChars 10 (digits ++ back) 0 / 10 ^ back.length := by
  have hfilter : (digits ++ '.' :: back).filter (· != '.') = digits ++ back := by
    rw [List.filter_append, filter_digits h, List.filter_cons_of_neg (by decide), filter_digits hback]
  have htail : ('.' :: back).dropWhile (· != '.') = '.' :: back := rfl
  unfold read
  rw [hfilter, dropWhile_digits h, htail, List.length_cons, Nat.add_sub_cancel]

theorem read_writePositional (h : ∀ c ∈ digits, c.isDigit = true) (lead : ℤ) :
    read (writePositional false digits lead) =
      Nat.ofDigitChars 10 digits 0 * 10 ^ (lead + 1 - digits.length) := by
  unfold writePositional
  simp only [Bool.false_eq_true, if_false, List.append_nil]
  split_ifs with hlead hlong
  · -- Zeros stand between the point and the digits.
    obtain ⟨zeros, hzeros⟩ : ∃ zeros : ℕ, (-lead).toNat - 1 = zeros := ⟨_, rfl⟩
    have hback : ∀ c ∈ List.replicate zeros '0' ++ digits, c.isDigit = true := by
      intro c hc
      rcases List.mem_append.1 hc with hc | hc
      · exact isDigit_zeros zeros c hc
      · exact h c hc
    have hread := read_point (isDigit_zeros 1) hback
    have hexponent : lead + 1 - digits.length = -((zeros + digits.length : ℕ) : ℤ) := by omega
    rw [hzeros, hexponent, zpow_neg, zpow_natCast, ← div_eq_mul_inv]
    rw [← List.append_assoc, ← List.replicate_add, Nat.ofDigitChars_append,
      Nat.ofDigitChars_replicate_zero, Nat.mul_zero, List.length_append, List.length_replicate] at hread
    exact hread
  · obtain ⟨zeros, hzeros⟩ : ∃ zeros : ℕ, lead.toNat + 1 - digits.length = zeros := ⟨_, rfl⟩
    have hall : ∀ c ∈ digits ++ List.replicate zeros '0', c.isDigit = true := by
      intro c hc
      rcases List.mem_append.1 hc with hc | hc
      · exact h c hc
      · exact isDigit_zeros zeros c hc
    have hexponent : lead + 1 - digits.length = (zeros : ℤ) := by omega
    rw [hzeros, hexponent, read_digits hall, Nat.ofDigitChars_append, Nat.ofDigitChars_replicate_zero,
      zpow_natCast, mul_comm]
    push_cast
    rfl
  · have hexponent : lead + 1 - digits.length = -((digits.drop (lead.toNat + 1)).length : ℤ) := by
      rw [List.length_drop]
      omega
    rw [read_point (fun c hc => h c (List.mem_of_mem_take hc)) (fun c hc => h c (List.mem_of_mem_drop hc)),
      List.take_append_drop, hexponent, zpow_neg, zpow_natCast, ← div_eq_mul_inv]

theorem mem_writePositional (h : ∀ c ∈ digits, c.isDigit = true) {lead : ℤ} {c : Char}
    (hc : c ∈ writePositional false digits lead) : c.isDigit = true ∨ c = '.' := by
  unfold writePositional at hc
  simp only [Bool.false_eq_true, if_false, List.append_nil] at hc
  split_ifs at hc
  · rcases List.mem_cons.1 hc with rfl | hc
    · exact Or.inl rfl
    rcases List.mem_cons.1 hc with rfl | hc
    · exact Or.inr rfl
    rcases List.mem_append.1 hc with hc | hc
    · exact Or.inl (isDigit_zeros _ c hc)
    · exact Or.inl (h c hc)
  · rcases List.mem_append.1 hc with hc | hc
    · exact Or.inl (h c hc)
    · exact Or.inl (isDigit_zeros _ c hc)
  · rcases List.mem_append.1 hc with hc | hc
    · exact Or.inl (h c (List.mem_of_mem_take hc))
    rcases List.mem_cons.1 hc with rfl | hc
    · exact Or.inr rfl
    · exact Or.inl (h c (List.mem_of_mem_drop hc))

namespace Layout

/-- Every number is written positionally, and a whole one without a point. -/
structure Plain (layout : Layout) : Prop where
  positional : ∀ lead, layout.positional lead = true
  pointZero : layout.pointZero = false

variable {layout : Layout} {x y : Float}

theorem write_eq (h : layout.Plain) (d : Decimal) : write layout d =
    writePositional false (digitChars d.digits)
      (if d.digits = 0 then 0 else d.exponent + (digitChars d.digits).length - 1) := by
  unfold write
  simp only [h.positional, h.pointZero, if_true]

/-- What is written reads as the value of the decimal. -/
theorem read_write (h : layout.Plain) (d : Decimal) : read (write layout d) = d.value := by
  rw [write_eq h, read_writePositional fun c hc => isDigit_of_mem_digitChars hc]
  unfold digitChars value
  rw [Nat.ofDigitChars_ten_toDigits]
  split_ifs with hzero
  · simp [hzero]
  · congr 2
    ring

def unsigned (layout : Layout) (x : Float) : List Char :=
  if x.isInf then "inf".toList else write layout (shortest layout.tie (Dyadic.ofFloat x))

theorem text_eq (layout : Layout) (x : Float) : layout.text x =
    if x.isNaN then "NaN".toList
    else if isSigned x then '-' :: layout.unsigned x else layout.unsigned x := rfl

theorem mem_unsigned (h : layout.Plain) {c : Char} (hc : c ∈ layout.unsigned x) :
    x.isInf = true ∧ c ∈ "inf".toList ∨ x.isInf = false ∧ (c.isDigit = true ∨ c = '.') := by
  unfold unsigned at hc
  split_ifs at hc with hinf
  · exact Or.inl ⟨hinf, hc⟩
  · rw [write_eq h] at hc
    exact Or.inr ⟨Bool.eq_false_iff.2 hinf,
      mem_writePositional (fun c hc => isDigit_of_mem_digitChars hc) hc⟩

theorem isInf_of_unsigned (h : layout.Plain) (hx : x.isInf = true)
    (heq : layout.unsigned x = layout.unsigned y) : y.isInf = true := by
  have hi : 'i' ∈ layout.unsigned y := by
    rw [← heq, unsigned, if_pos hx]
    decide
  rcases mem_unsigned h hi with ⟨hy, -⟩ | ⟨-, hdigit | hpoint⟩
  · exact hy
  · cases hdigit
  · cases hpoint

theorem ofFloat_of_unsigned (h : layout.Plain) (heq : layout.unsigned x = layout.unsigned y) :
    Dyadic.ofFloat x = Dyadic.ofFloat y := by
  by_cases hx : x.isInf = true
  · rw [ofFloat_of_isInf hx, ofFloat_of_isInf (isInf_of_unsigned h hx heq)]
  · have hy : ¬ y.isInf = true := fun hy => hx (isInf_of_unsigned h hy heq.symm)
    unfold unsigned at heq
    rw [if_neg hx, if_neg hy] at heq
    have hvalue := congrArg read heq
    rw [read_write h, read_write h] at hvalue
    exact eq_of_shortest_value (Dyadic.legal_ofFloat x) (Dyadic.legal_ofFloat y) hvalue

theorem not_mem_unsigned (h : layout.Plain) {c : Char} (hc : c = 'N' ∨ c = '-') :
    c ∉ layout.unsigned x := by
  intro hmem
  rcases mem_unsigned h hmem with ⟨-, hinf⟩ | ⟨-, hdigit | hpoint⟩
  · revert hinf
    rcases hc with rfl | rfl <;> decide
  · rcases hc with rfl | rfl <;> cases hdigit
  · rcases hc with rfl | rfl <;> cases hpoint

theorem isNaN_iff (h : layout.Plain) : 'N' ∈ layout.text x ↔ x.isNaN = true := by
  rw [text_eq]
  split_ifs with hnan hsign
  · exact iff_of_true (by decide) hnan
  · refine iff_of_false (fun hmem => ?_) hnan
    rcases List.mem_cons.1 hmem with hminus | hmem
    · cases hminus
    · exact not_mem_unsigned h (Or.inl rfl) hmem
  · exact iff_of_false (not_mem_unsigned h (Or.inl rfl)) hnan

/-- No two numbers are written alike. -/
theorem text_injective (h : layout.Plain) : Function.Injective layout.text := by
  intro x y heq
  have hnan : x.isNaN = true ↔ y.isNaN = true := by rw [← isNaN_iff h, heq, isNaN_iff h]
  by_cases hx : x.isNaN = true
  · apply eq_of_toBits
    rw [← UInt64.toBitVec_inj, toBits_of_isNaN hx, toBits_of_isNaN (hnan.1 hx)]
  · rw [text_eq, text_eq, if_neg hx, if_neg (mt hnan.2 hx)] at heq
    have hminus : '-' ∉ layout.unsigned x ∧ '-' ∉ layout.unsigned y :=
      ⟨not_mem_unsigned h (Or.inr rfl), not_mem_unsigned h (Or.inr rfl)⟩
    cases hsx : isSigned x with
    | true =>
      cases hsy : isSigned y with
      | true =>
        rw [if_pos hsx, if_pos hsy] at heq
        exact eq_of_ofFloat (ofFloat_of_unsigned h (List.cons.inj heq).2) (hsx.trans hsy.symm)
      | false =>
        rw [if_pos hsx, if_neg (Bool.eq_false_iff.1 hsy)] at heq
        exact absurd (heq ▸ List.mem_cons_self) hminus.2
    | false =>
      cases hsy : isSigned y with
      | true =>
        rw [if_neg (Bool.eq_false_iff.1 hsx), if_pos hsy] at heq
        exact absurd (heq ▸ List.mem_cons_self) hminus.1
      | false =>
        rw [if_neg (Bool.eq_false_iff.1 hsx), if_neg (Bool.eq_false_iff.1 hsy)] at heq
        exact eq_of_ofFloat (ofFloat_of_unsigned h heq) (hsx.trans hsy.symm)

end Layout
end Decimal
end SeriesClient
