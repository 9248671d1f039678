import FaultTreeExchange.Text.RangeTable

/-!
# Blank characters

The characters with the Unicode property White_Space, and the removal of blanks from the ends of a
text.
-/

namespace FaultTreeExchange.Text

/-- Code points with the property White_Space. -/
def blankRanges : RangeTable :=
  [(0x9, 0xD), (0x20, 0x20), (0x85, 0x85), (0xA0, 0xA0), (0x1680, 0x1680), (0x2000, 0x200A),
   (0x2028, 0x2029), (0x202F, 0x202F), (0x205F, 0x205F), (0x3000, 0x3000)]

/-- A character that separates tokens and is ignored at the ends of a line. -/
def isBlank (c : Char) : Bool :=
  blankRanges.covers c.toNat

/-- The text without the blanks it starts with. -/
def trimStart (text : List Char) : List Char :=
  text.dropWhile isBlank

/-- The text without the blanks it ends with. -/
def trimEnd (text : List Char) : List Char :=
  (text.reverse.dropWhile isBlank).reverse

/-- The text without the blanks at its two ends. -/
def trim (text : List Char) : List Char :=
  trimEnd (trimStart text)

end FaultTreeExchange.Text
