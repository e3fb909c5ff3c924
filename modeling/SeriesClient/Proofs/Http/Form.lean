import SeriesClient.Url.Form
import SeriesClient.Proofs.Codec.Utf8
import Mathlib.Data.List.Basic

/-! Form encoding loses nothing. A byte that is not written as itself is written as a plus sign or as a
percent sign with two digits, so the signs between names, values and pairs are in none of them, and
what is read back are the pairs that were written, in their order. -/

namespace SeriesClient.Url.Form

variable {c : Char} {chars : List Char} {b : UInt8}

/-- The bytes that are left to decode once the plus signs have been read. -/
def spacedBytes (chars : List Char) : List UInt8 :=
  utf8Bytes (chars.map fun c => if c = '+' then ' ' else c)

theorem spacedBytes_append (front back : List Char) :
    spacedBytes (front ++ back) = spacedBytes front ++ spacedBytes back := by
  unfold spacedBytes utf8Bytes
  rw [List.map_append, List.flatMap_append]

theorem hexUpper_mod (n : ℕ) : hexUpper (n % 16) = hexUpper n := by
  unfold hexUpper
  rw [Nat.mod_mod]

theorem hexDigit?_hexUpper (n : ℕ) :
    spacedBytes [hexUpper n] = [UInt8.ofNat (hexUpper n).toNat] ∧
      hexDigit? (UInt8.ofNat (hexUpper n).toNat) = some (n % 16) := by
  have hall : ∀ k < 16, spacedBytes [hexUpper k] = [UInt8.ofNat (hexUpper k).toNat] ∧
      hexDigit? (UInt8.ofNat (hexUpper k).toNat) = some k := by
    decide
  have hdigit := hall (n % 16) (Nat.mod_lt n (by decide))
  rwa [hexUpper_mod] at hdigit

theorem hexUpper_ne (n : ℕ) : hexUpper n ≠ '&' ∧ hexUpper n ≠ '=' := by
  have hall : ∀ k < 16, hexUpper k ≠ '&' ∧ hexUpper k ≠ '=' := by decide
  rw [← hexUpper_mod]
  exact hall (n % 16) (Nat.mod_lt n (by decide))

/-- A byte that is written as itself is neither a sign that separates nor one that escapes. -/
theorem ne_of_isPlain (h : isPlain b = true) :
    spacedBytes [Char.ofNat b.toNat] = [b] ∧ b ≠ 0x25 ∧
      Char.ofNat b.toNat ≠ '&' ∧ Char.ofNat b.toNat ≠ '=' := by
  have hall : ∀ n < 256, isPlain (UInt8.ofNat n) = true →
      spacedBytes [Char.ofNat n] = [UInt8.ofNat n] ∧ UInt8.ofNat n ≠ 0x25 ∧
        Char.ofNat n ≠ '&' ∧ Char.ofNat n ≠ '=' := by
    decide +kernel
  have hb := hall b.toNat b.toNat_lt
  rw [UInt8.ofNat_toNat] at hb
  exact hb h

/-- A byte is written as one byte or as three that stand for it. -/
theorem spacedBytes_encodeByte (b : UInt8) :
    spacedBytes (encodeByte b) = [b] ∧ b ≠ 0x25 ∨
      ∃ high low, spacedBytes (encodeByte b) = [0x25, high, low] ∧
        escapedByte? 0x25 high low = some b := by
  unfold encodeByte
  split_ifs with hplain hspace
  · obtain ⟨hbyte, hb, -⟩ := ne_of_isPlain hplain
    exact Or.inl ⟨hbyte, hb⟩
  · rw [hspace]
    exact Or.inl ⟨by decide, by decide⟩
  · right
    obtain ⟨hhigh, hhighDigit⟩ := hexDigit?_hexUpper (b.toNat / 16)
    obtain ⟨hlow, hlowDigit⟩ := hexDigit?_hexUpper b.toNat
    refine ⟨UInt8.ofNat (hexUpper (b.toNat / 16)).toNat, UInt8.ofNat (hexUpper b.toNat).toNat, ?_, ?_⟩
    · have hsplit : percentByte b =
          ['%'] ++ ([hexUpper (b.toNat / 16)] ++ [hexUpper b.toNat]) := rfl
      rw [hsplit, spacedBytes_append, spacedBytes_append, hhigh, hlow]
      rfl
    · unfold escapedByte?
      rw [if_pos rfl, hhighDigit, hlowDigit]
      have hb : b.toNat / 16 % 16 * 16 + b.toNat % 16 = b.toNat := by
        have hlt := b.toNat_lt
        omega
      simp only [hb, UInt8.ofNat_toNat]

theorem percentDecode_cons (h : b ≠ 0x25) (bytes : List UInt8) :
    percentDecode (b :: bytes) = b :: percentDecode bytes := by
  cases bytes with
  | nil => rfl
  | cons high bytes =>
    cases bytes with
    | nil => rfl
    | cons low bytes =>
      have hnone : escapedByte? b high low = none := if_neg h
      rw [percentDecode, hnone]

theorem percentDecode_encodeByte (b : UInt8) (bytes : List UInt8) :
    percentDecode (spacedBytes (encodeByte b) ++ bytes) = b :: percentDecode bytes := by
  rcases spacedBytes_encodeByte b with ⟨hbyte, hb⟩ | ⟨high, low, hbytes, hescaped⟩
  · rw [hbyte]
    exact percentDecode_cons hb bytes
  · rw [hbytes, List.cons_append, List.cons_append, List.cons_append, List.nil_append, percentDecode,
      hescaped]

theorem percentDecode_flatMap (bytes : List UInt8) :
    percentDecode (spacedBytes (bytes.flatMap encodeByte)) = bytes := by
  induction bytes with
  | nil => rfl
  | cons b bytes ih => rw [List.flatMap_cons, spacedBytes_append, percentDecode_encodeByte, ih]

theorem decodeText_encodeText (text : String) : decodeText (encodeText text) = text := by
  have hbytes : percentDecode (spacedBytes (encodeText text)) = utf8Bytes text.toList :=
    percentDecode_flatMap _
  have hread : Glyph.ofBytes (utf8Bytes text.toList) = Glyph.ofString text := Glyph.ofBytes_flatMap _
  have hdecode : decodeText (encodeText text) =
      Glyph.lossy (Glyph.ofBytes (percentDecode (spacedBytes (encodeText text)))) := rfl
  rw [hdecode, hbytes, hread, Glyph.lossy_ofString]

theorem mem_encodeByte (h : c ∈ encodeByte b) : c ≠ '&' ∧ c ≠ '=' := by
  unfold encodeByte at h
  split_ifs at h with hplain
  · rw [List.mem_singleton.1 h]
    exact (ne_of_isPlain hplain).2.2
  · rw [List.mem_singleton.1 h]
    decide
  · unfold percentByte at h
    rcases List.mem_cons.1 h with rfl | h
    · decide
    rcases List.mem_cons.1 h with rfl | h
    · exact hexUpper_ne _
    · rw [List.mem_singleton.1 h]
      exact hexUpper_ne _

theorem mem_encodeText {text : String} (h : c ∈ encodeText text) : c ≠ '&' ∧ c ≠ '=' := by
  obtain ⟨b, -, hb⟩ := List.mem_flatMap.1 h
  exact mem_encodeByte hb

theorem mem_encodePair {pair : String × String} (h : c ∈ encodePair pair) : c ≠ '&' := by
  rcases List.mem_append.1 h with h | h
  · exact (mem_encodeText h).1
  rcases List.mem_cons.1 h with rfl | h
  · decide
  · exact (mem_encodeText h).1

theorem decodePair_encodePair (pair : String × String) : decodePair (encodePair pair) = pair := by
  have hname : ∀ c ∈ encodeText pair.1, (c != '=') = true := fun c hc =>
    bne_iff_ne.2 (mem_encodeText hc).2
  unfold decodePair encodePair
  rw [List.takeWhile_append_of_pos hname, List.dropWhile_append_of_pos hname,
    List.takeWhile_cons_of_neg (by decide), List.dropWhile_cons_of_neg (by decide), List.append_nil,
    List.drop_one, List.tail_cons, decodeText_encodeText, decodeText_encodeText]

theorem splitOn_eq (c : Char) (chars : List Char) : splitOn c chars = chars.splitOn c := by
  induction chars with
  | nil => rfl
  | cons d chars ih =>
    unfold splitOn
    rw [ih, List.splitOn, List.splitOn, List.splitOnP_cons_eq_if_modifyHead]
    by_cases hd : d = c
    · simp [hd]
    · cases hrest : chars.splitOnP (· == c) with
      | nil => exact absurd hrest (List.splitOnP_ne_nil _ _)
      | cons part parts => simp [hd]

theorem encodePair_ne_nil (pair : String × String) : encodePair pair ≠ [] := by
  unfold encodePair
  simp

/-- What is read are the pairs that were written. -/
theorem decode_encode_pairs (pairs : List (String × String)) : decode (encode pairs) = pairs := by
  unfold decode encode
  rw [splitOn_eq]
  by_cases hpairs : pairs = []
  · subst hpairs
    rfl
  · have hsplit : (['&'].intercalate (pairs.map encodePair)).splitOn '&' = pairs.map encodePair := by
      refine List.splitOn_intercalate '&' ?_ (by simpa using hpairs)
      intro piece hpiece hmem
      obtain ⟨pair, -, rfl⟩ := List.mem_map.1 hpiece
      exact mem_encodePair hmem rfl
    have hall : ∀ piece ∈ pairs.map encodePair, (!piece.isEmpty) = true := by
      intro piece hpiece
      obtain ⟨pair, -, rfl⟩ := List.mem_map.1 hpiece
      simp [encodePair_ne_nil]
    rw [hsplit, List.filter_eq_self.2 hall, List.map_map]
    calc pairs.map (decodePair ∘ encodePair) = pairs.map id :=
          List.map_congr_left fun pair _ => decodePair_encodePair pair
      _ = pairs := List.map_id pairs

end SeriesClient.Url.Form
