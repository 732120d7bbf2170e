import KeyStore.Text.CodePoints

/-!
# Blanks

The twenty-five characters with the property White_Space (Unicode 17.0), and what is left of a text
when they are taken off its ends.
-/

namespace KeyStore.Text

/-- The code points with the property White_Space. -/
def blankRanges : List (Nat × Nat) :=
  [(0x9, 0xD), (0x20, 0x20), (0x85, 0x85), (0xA0, 0xA0), (0x1680, 0x1680), (0x2000, 0x200A),
   (0x2028, 0x2029), (0x202F, 0x202F), (0x205F, 0x205F), (0x3000, 0x3000)]

/-- Whether the character is white space. -/
def isBlank (c : Char) : Bool := inRanges blankRanges c.toNat

/-- The text without the white space at its start. -/
def trimStart (s : List Char) : List Char := s.dropWhile isBlank

/-- The text without the white space at its end. -/
def trimEnd (s : List Char) : List Char := (s.reverse.dropWhile isBlank).reverse

/-- The text without the white space at either end. -/
def trim (s : List Char) : List Char := trimEnd (trimStart s)

end KeyStore.Text
