import SchemaWriter.Json.Utf8

namespace SchemaWriter.Json.Utf8

variable {a b c d : UInt8} (rest : List UInt8)

theorem isTail_iff : isTail b = true ↔ 0x80 ≤ b.toNat ∧ b.toNat < 0xC0 := by
  simp [isTail, UInt8.le_iff_toNat_le, UInt8.lt_iff_toNat_lt]

theorem isScalar_toNat (c : Char) : isScalar c.toNat = true := by
  have hvalid : c.toNat < 0xD800 ∨ 0xDFFF < c.toNat ∧ c.toNat < 0x110000 := c.valid
  simp only [isScalar, Bool.or_eq_true, Bool.and_eq_true, decide_eq_true_eq]
  omega

theorem glyphs_one (ha : a.toNat < 0x80) :
    glyphs (a :: rest) = some (Char.ofNat a.toNat) :: glyphs rest := by
  have hrange : a < 0x80 := UInt8.lt_iff_toNat_lt.mpr ha
  rw [glyphs.eq_def]
  exact if_pos hrange

theorem glyphs_two (ha : 0xC2 ≤ a.toNat) (ha' : a.toNat < 0xE0) (hb : isTail b = true) :
    glyphs (a :: b :: rest) = some (Char.ofNat (join2 a b)) :: glyphs rest := by
  have hrange : ¬ a < 0x80 ∧ 0xC2 ≤ a ∧ a < 0xE0 ∧ ¬ 0xE0 ≤ a ∧ ¬ 0xF0 ≤ a := by
    simp only [UInt8.lt_iff_toNat_lt, UInt8.le_iff_toNat_le, UInt8.reduceToNat]
    omega
  match rest with
  | [] => simp [glyphs, hrange, hb]
  | [c] => simp [glyphs, hrange, hb]
  | c :: d :: more =>
    rw [glyphs]
    simp [hrange, hb]

theorem glyphs_three (ha : 0xE0 ≤ a.toNat) (ha' : a.toNat < 0xF0) (hb : isTail b = true)
    (hc : isTail c = true) (hsize : 0x800 ≤ join3 a b c) (hscalar : isScalar (join3 a b c) = true) :
    glyphs (a :: b :: c :: rest) = some (Char.ofNat (join3 a b c)) :: glyphs rest := by
  have hrange : ¬ a < 0x80 ∧ 0xE0 ≤ a ∧ a < 0xF0 ∧ ¬ 0xF0 ≤ a := by
    simp only [UInt8.lt_iff_toNat_lt, UInt8.le_iff_toNat_le, UInt8.reduceToNat]
    omega
  match rest with
  | [] => simp [glyphs, hrange, hb, hc, hsize, hscalar]
  | d :: more =>
    rw [glyphs]
    simp [hrange, hb, hc, hsize, hscalar]

theorem glyphs_four (ha : 0xF0 ≤ a.toNat) (ha' : a.toNat < 0xF8) (hb : isTail b = true)
    (hc : isTail c = true) (hd : isTail d = true) (hsize : 0x10000 ≤ join4 a b c d)
    (hscalar : isScalar (join4 a b c d) = true) :
    glyphs (a :: b :: c :: d :: rest) = some (Char.ofNat (join4 a b c d)) :: glyphs rest := by
  have hrange : ¬ a < 0x80 ∧ 0xF0 ≤ a ∧ a < 0xF8 := by
    simp only [UInt8.lt_iff_toNat_lt, UInt8.le_iff_toNat_le, UInt8.reduceToNat]
    omega
  rw [glyphs]
  simp [hrange, hb, hc, hd, hsize, hscalar]

theorem isTail_ofNat (n : Nat) : isTail (UInt8.ofNat (n % 0x40 + 0x80)) = true := by
  rw [isTail_iff, UInt8.toNat_ofNat']
  omega

theorem toNat_tail (n : Nat) : (UInt8.ofNat (n % 0x40 + 0x80)).toNat = n % 0x40 + 0x80 :=
  UInt8.toNat_ofNat_of_lt' (show _ < 0x100 by omega)

section

variable {n : Nat}

theorem glyphs_encoded_two (hmin : 0x80 ≤ n) (hmax : n < 0x800) :
    glyphs (UInt8.ofNat (n / 64 % 0x20 + 0xc0) :: UInt8.ofNat (n % 0x40 + 0x80) :: rest) =
      some (Char.ofNat n) :: glyphs rest := by
  have hfirst : (UInt8.ofNat (n / 64 % 0x20 + 0xc0)).toNat = n / 64 % 0x20 + 0xc0 :=
    UInt8.toNat_ofNat_of_lt' (show _ < 0x100 by omega)
  have hlast := toNat_tail n
  have hjoin : join2 (UInt8.ofNat (n / 64 % 0x20 + 0xc0)) (UInt8.ofNat (n % 0x40 + 0x80)) = n := by
    unfold join2
    omega
  rw [glyphs_two rest (by omega) (by omega) (isTail_ofNat n), hjoin]

theorem glyphs_encoded_three (hmin : 0x800 ≤ n) (hmax : n < 0x10000)
    (hscalar : isScalar n = true) :
    glyphs (UInt8.ofNat (n / 4096 % 0x10 + 0xe0) :: UInt8.ofNat (n / 64 % 0x40 + 0x80) ::
      UInt8.ofNat (n % 0x40 + 0x80) :: rest) = some (Char.ofNat n) :: glyphs rest := by
  have hfirst : (UInt8.ofNat (n / 4096 % 0x10 + 0xe0)).toNat = n / 4096 % 0x10 + 0xe0 :=
    UInt8.toNat_ofNat_of_lt' (show _ < 0x100 by omega)
  have hsecond := toNat_tail (n / 64)
  have hlast := toNat_tail n
  have hjoin : join3 (UInt8.ofNat (n / 4096 % 0x10 + 0xe0)) (UInt8.ofNat (n / 64 % 0x40 + 0x80))
      (UInt8.ofNat (n % 0x40 + 0x80)) = n := by
    unfold join3
    omega
  rw [glyphs_three rest (by omega) (by omega) (isTail_ofNat _) (isTail_ofNat n) (by omega)
    (hjoin.symm ▸ hscalar), hjoin]

theorem glyphs_encoded_four (hmin : 0x10000 ≤ n) (hmax : n < 0x110000)
    (hscalar : isScalar n = true) :
    glyphs (UInt8.ofNat (n / 262144 % 0x08 + 0xf0) :: UInt8.ofNat (n / 4096 % 0x40 + 0x80) ::
      UInt8.ofNat (n / 64 % 0x40 + 0x80) :: UInt8.ofNat (n % 0x40 + 0x80) :: rest) =
      some (Char.ofNat n) :: glyphs rest := by
  have hfirst : (UInt8.ofNat (n / 262144 % 0x08 + 0xf0)).toNat = n / 262144 % 0x08 + 0xf0 :=
    UInt8.toNat_ofNat_of_lt' (show _ < 0x100 by omega)
  have hsecond := toNat_tail (n / 4096)
  have hthird := toNat_tail (n / 64)
  have hlast := toNat_tail n
  have hjoin : join4 (UInt8.ofNat (n / 262144 % 0x08 + 0xf0)) (UInt8.ofNat (n / 4096 % 0x40 + 0x80))
      (UInt8.ofNat (n / 64 % 0x40 + 0x80)) (UInt8.ofNat (n % 0x40 + 0x80)) = n := by
    unfold join4
    omega
  rw [glyphs_four rest (by omega) (by omega) (isTail_ofNat _) (isTail_ofNat _) (isTail_ofNat n)
    (by omega) (hjoin.symm ▸ hscalar), hjoin]

end

theorem glyphs_utf8EncodeChar (char : Char) :
    glyphs (String.utf8EncodeChar char ++ rest) = some char :: glyphs rest := by
  have hscalar := isScalar_toNat char
  have hmax : char.toNat < 0x110000 := by
    have hvalid : char.toNat < 0xD800 ∨ 0xDFFF < char.toNat ∧ char.toNat < 0x110000 := char.valid
    omega
  have hval : char.val.toNat = char.toNat := rfl
  simp only [String.utf8EncodeChar, hval]
  generalize hn : char.toNat = n at *
  have hchar : Char.ofNat n = char := by rw [← hn, Char.ofNat_toNat]
  rw [← hchar]
  by_cases h1 : n ≤ 0x7f
  · have hbyte : (UInt8.ofNat n).toNat = n := UInt8.toNat_ofNat_of_lt' (show _ < 0x100 by omega)
    rw [if_pos h1, List.singleton_append, glyphs_one rest (by omega), hbyte]
  by_cases h2 : n ≤ 0x7ff
  · rw [if_neg h1, if_pos h2]
    exact glyphs_encoded_two rest (by omega) (by omega)
  by_cases h3 : n ≤ 0xffff
  · rw [if_neg h1, if_neg h2, if_pos h3]
    exact glyphs_encoded_three rest (by omega) (by omega) hscalar
  · rw [if_neg h1, if_neg h2, if_neg h3]
    exact glyphs_encoded_four rest (by omega) hmax hscalar

theorem glyphs_toUTF8 (text : String) : glyphs text.toUTF8.data.toList = Json.glyphs text := by
  rw [String.toUTF8_eq_toByteArray, ← String.utf8Encode_toList, List.utf8Encode,
    List.toList_data_toByteArray, Json.glyphs]
  induction text.toList with
  | nil => rfl
  | cons char chars ih => rw [List.flatMap_cons, glyphs_utf8EncodeChar, ih, List.map_cons]

end SchemaWriter.Json.Utf8
