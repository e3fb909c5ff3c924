import SeriesClient.Text.Utf8
import Mathlib.Tactic.Common

/-! The UTF-8 bytes of a string are read as its characters, none of them a stray. -/

namespace SeriesClient.Glyph

variable {b : UInt8} {bytes : List UInt8} {p : Pending}

theorem scan_opens (h : Lead.ofByte b.toNat = .opens p) :
    scan none (b :: bytes) = scan (some p) bytes := by
  simp only [scan, h]

theorem scan_next (hlow : p.low ≤ b.toNat) (hhigh : b.toNat ≤ p.high) (hdue : ¬ p.due ≤ 1) :
    scan (some p) (b :: bytes) =
      scan (some ⟨p.value * 0x40 + b.toNat % 0x40, p.due - 1, 0x80, 0xBF, p.width + 1⟩) bytes := by
  simp only [scan, hlow, hhigh, and_self, if_true, if_neg hdue]

theorem scan_last (hlow : p.low ≤ b.toNat) (hhigh : b.toNat ≤ p.high) (hdue : p.due ≤ 1) :
    scan (some p) (b :: bytes) =
      char (Char.ofNat (p.value * 0x40 + b.toNat % 0x40)) :: scan none bytes := by
  simp only [scan, hlow, hhigh, and_self, if_true, if_pos hdue]

/-! The first byte of a character tells how many follow and what the second may be. -/

theorem lead_one {v : Nat} (h : v ≤ 0x7F) : Lead.ofByte v = .whole (Char.ofNat v) := by
  rw [Lead.ofByte, if_pos (by omega)]

theorem lead_two {v : Nat} (hlow : 0x80 ≤ v) (hhigh : v ≤ 0x7FF) :
    Lead.ofByte (v / 64 + 0xC0) = .opens ⟨v / 64, 1, 0x80, 0xBF, 1⟩ := by
  rw [Lead.ofByte, if_neg (by omega), if_neg (by omega), if_pos (by omega)]
  have hvalue : (v / 64 + 0xC0) % 0x20 = v / 64 := by omega
  rw [hvalue]

theorem lead_three {v : Nat} (hlow : 0x800 ≤ v) (hhigh : v ≤ 0xFFFF)
    (hvalid : v < 0xD800 ∨ 0xDFFF < v) :
    ∃ low high, Lead.ofByte (v / 4096 + 0xE0) = .opens ⟨v / 4096, 2, low, high, 1⟩ ∧
      low ≤ v / 64 % 64 + 0x80 ∧ v / 64 % 64 + 0x80 ≤ high := by
  rw [Lead.ofByte, if_neg (by omega), if_neg (by omega), if_neg (by omega)]
  split_ifs with hfirst hsurrogate hlast
  · refine ⟨0xA0, 0xBF, ?_, by omega, by omega⟩
    rw [show v / 4096 = 0 by omega]
  · refine ⟨0x80, 0x9F, ?_, by omega, by omega⟩
    rw [show v / 4096 = 0xD by omega]
  · refine ⟨0x80, 0xBF, ?_, by omega, by omega⟩
    rw [show (v / 4096 + 0xE0) % 0x10 = v / 4096 by omega]
  all_goals omega

theorem lead_four {v : Nat} (hlow : 0x10000 ≤ v) (hhigh : v ≤ 0x10FFFF) :
    ∃ low high, Lead.ofByte (v / 262144 + 0xF0) = .opens ⟨v / 262144, 3, low, high, 1⟩ ∧
      low ≤ v / 4096 % 64 + 0x80 ∧ v / 4096 % 64 + 0x80 ≤ high := by
  rw [Lead.ofByte, if_neg (by omega), if_neg (by omega), if_neg (by omega), if_neg (by omega),
    if_neg (by omega), if_neg (by omega)]
  split_ifs with hfirst hmiddle hlast
  · refine ⟨0x90, 0xBF, ?_, by omega, by omega⟩
    rw [show v / 262144 = 0 by omega]
  · refine ⟨0x80, 0xBF, ?_, by omega, by omega⟩
    rw [show (v / 262144 + 0xF0) % 8 = v / 262144 by omega]
  · refine ⟨0x80, 0x8F, ?_, by omega, by omega⟩
    rw [show v / 262144 = 4 by omega]
  all_goals omega

theorem toNat_ofNat {n : Nat} (h : n < 256) : (UInt8.ofNat n).toNat = n :=
  UInt8.toNat_ofNat_of_lt' h

theorem toNat_continuation (n : Nat) : (UInt8.ofNat (n % 64 + 128)).toNat = n % 64 + 0x80 :=
  toNat_ofNat (by omega)

theorem scan_one {v : Nat} (h : v ≤ 0x7F) :
    scan none (UInt8.ofNat v :: bytes) = char (Char.ofNat v) :: scan none bytes := by
  simp only [scan, toNat_ofNat (show v < 256 by omega), lead_one h]

theorem scan_two {v : Nat} (hlow : 0x80 ≤ v) (hhigh : v ≤ 0x7FF) :
    scan none (UInt8.ofNat (v / 64 % 32 + 192) :: UInt8.ofNat (v % 64 + 128) :: bytes) =
      char (Char.ofNat v) :: scan none bytes := by
  have hlead : (UInt8.ofNat (v / 64 % 32 + 192)).toNat = v / 64 + 0xC0 := by
    rw [toNat_ofNat (by omega)]
    omega
  have hlast := toNat_continuation v
  rw [scan_opens (hlead ▸ lead_two hlow hhigh),
    scan_last (by simp only [hlast]; omega) (by simp only [hlast]; omega) (Nat.le_refl 1), hlast]
  have hvalue : v / 64 * 0x40 + (v % 64 + 0x80) % 0x40 = v := by omega
  simp only [hvalue]

theorem scan_three {v : Nat} (hlow : 0x800 ≤ v) (hhigh : v ≤ 0xFFFF)
    (hvalid : v < 0xD800 ∨ 0xDFFF < v) :
    scan none (UInt8.ofNat (v / 4096 % 16 + 224) :: UInt8.ofNat (v / 64 % 64 + 128) ::
      UInt8.ofNat (v % 64 + 128) :: bytes) = char (Char.ofNat v) :: scan none bytes := by
  have hlead : (UInt8.ofNat (v / 4096 % 16 + 224)).toNat = v / 4096 + 0xE0 := by
    rw [toNat_ofNat (by omega)]
    omega
  have hmiddle := toNat_continuation (v / 64)
  have hlast := toNat_continuation v
  obtain ⟨low, high, hopens, hmin, hmax⟩ := lead_three hlow hhigh hvalid
  rw [scan_opens (hlead ▸ hopens), scan_next (by rwa [hmiddle]) (by rwa [hmiddle]) (by simp),
    scan_last (by simp only [hlast]; omega) (by simp only [hlast]; omega) (Nat.le_refl 1), hmiddle,
    hlast]
  have hvalue : (v / 4096 * 0x40 + (v / 64 % 64 + 0x80) % 0x40) * 0x40 +
      (v % 64 + 0x80) % 0x40 = v := by omega
  simp only [hvalue]

theorem scan_four {v : Nat} (hlow : 0x10000 ≤ v) (hhigh : v ≤ 0x10FFFF) :
    scan none (UInt8.ofNat (v / 262144 % 8 + 240) :: UInt8.ofNat (v / 4096 % 64 + 128) ::
      UInt8.ofNat (v / 64 % 64 + 128) :: UInt8.ofNat (v % 64 + 128) :: bytes) =
      char (Char.ofNat v) :: scan none bytes := by
  have hlead : (UInt8.ofNat (v / 262144 % 8 + 240)).toNat = v / 262144 + 0xF0 := by
    rw [toNat_ofNat (by omega)]
    omega
  have hsecond := toNat_continuation (v / 4096)
  have hthird := toNat_continuation (v / 64)
  have hlast := toNat_continuation v
  obtain ⟨low, high, hopens, hmin, hmax⟩ := lead_four hlow hhigh
  rw [scan_opens (hlead ▸ hopens), scan_next (by rwa [hsecond]) (by rwa [hsecond]) (by simp),
    scan_next (by simp only [hthird]; omega) (by simp only [hthird]; omega) (by simp),
    scan_last (by simp only [hlast]; omega) (by simp only [hlast]; omega) (Nat.le_refl 1), hsecond,
    hthird, hlast]
  have hvalue : ((v / 262144 * 0x40 + (v / 4096 % 64 + 0x80) % 0x40) * 0x40 +
      (v / 64 % 64 + 0x80) % 0x40) * 0x40 + (v % 64 + 0x80) % 0x40 = v := by omega
  simp only [hvalue]

/-- The bytes of a character are read as the character. -/
theorem scan_utf8EncodeChar (c : Char) (bytes : List UInt8) :
    scan none (String.utf8EncodeChar c ++ bytes) = char c :: scan none bytes := by
  have hvalid : c.toNat < 0xD800 ∨ 0xDFFF < c.toNat ∧ c.toNat < 0x110000 := c.valid
  have hc : Char.ofNat c.toNat = c := Char.ofNat_toNat c
  have hv : c.val.toNat = c.toNat := rfl
  simp only [String.utf8EncodeChar, hv]
  generalize c.toNat = v at hvalid hc
  rw [← hc]
  split_ifs with h1 h2 h3
  · exact scan_one h1
  · exact scan_two (by omega) h2
  · exact scan_three (by omega) h3 (by omega)
  · exact scan_four (by omega) (by omega)

theorem ofBytes_flatMap (chars : List Char) :
    ofBytes (chars.flatMap String.utf8EncodeChar) = ofChars chars := by
  unfold ofBytes ofChars
  induction chars with
  | nil => rfl
  | cons c chars ih => rw [List.flatMap_cons, scan_utf8EncodeChar, ih, List.map_cons]

/-- The bytes of a string are read as its characters. -/
theorem ofBytes_toUTF8 (s : String) : ofBytes s.toUTF8.data.toList = ofString s := by
  have hbytes : s.toUTF8.data.toList = s.toList.flatMap String.utf8EncodeChar := by
    rw [String.toUTF8, ← String.utf8Encode_toList, List.utf8Encode, List.toList_data_toByteArray]
  rw [hbytes, ofBytes_flatMap, ofString]

theorem lossy_ofString (s : String) : lossy (ofString s) = s := by
  have hchars : (s.toList.map char).map toChar = s.toList := by
    rw [List.map_map]
    exact List.map_id s.toList
  rw [lossy, ofString, ofChars, hchars, String.ofList_toList]

end SeriesClient.Glyph
