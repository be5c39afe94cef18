import SchemaWriter.Json.Token

namespace SchemaWriter.Json.Utf8

def isTail (b : UInt8) : Bool :=
  0x80 ≤ b && b < 0xC0

def join2 (a b : UInt8) : Nat :=
  (a.toNat - 0xC0) * 0x40 + (b.toNat - 0x80)

def join3 (a b c : UInt8) : Nat :=
  ((a.toNat - 0xE0) * 0x40 + (b.toNat - 0x80)) * 0x40 + (c.toNat - 0x80)

def join4 (a b c d : UInt8) : Nat :=
  (((a.toNat - 0xF0) * 0x40 + (b.toNat - 0x80)) * 0x40 + (c.toNat - 0x80)) * 0x40 + (d.toNat - 0x80)

def isScalar (n : Nat) : Bool :=
  n < 0xD800 || (0xE000 ≤ n && n < 0x110000)

def glyphs : List UInt8 → List Glyph
  | [] => []
  | a :: rest =>
    if a < 0x80 then some (Char.ofNat a.toNat) :: glyphs rest
    else
      match rest with
      | b :: c :: d :: more =>
        if 0xF0 ≤ a && a < 0xF8 && isTail b && isTail c && isTail d
            && 0x10000 ≤ join4 a b c d && isScalar (join4 a b c d) then
          some (Char.ofNat (join4 a b c d)) :: glyphs more
        else if 0xE0 ≤ a && a < 0xF0 && isTail b && isTail c
            && 0x800 ≤ join3 a b c && isScalar (join3 a b c) then
          some (Char.ofNat (join3 a b c)) :: glyphs (d :: more)
        else if 0xC2 ≤ a && a < 0xE0 && isTail b then
          some (Char.ofNat (join2 a b)) :: glyphs (c :: d :: more)
        else none :: glyphs (b :: c :: d :: more)
      | [b, c] =>
        if 0xE0 ≤ a && a < 0xF0 && isTail b && isTail c
            && 0x800 ≤ join3 a b c && isScalar (join3 a b c) then
          [some (Char.ofNat (join3 a b c))]
        else if 0xC2 ≤ a && a < 0xE0 && isTail b then
          some (Char.ofNat (join2 a b)) :: glyphs [c]
        else none :: glyphs [b, c]
      | [b] =>
        if 0xC2 ≤ a && a < 0xE0 && isTail b then [some (Char.ofNat (join2 a b))]
        else none :: glyphs [b]
      | [] => [none]

end SchemaWriter.Json.Utf8
