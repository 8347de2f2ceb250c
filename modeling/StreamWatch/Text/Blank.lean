import StreamWatch.Text.CodeRange

namespace StreamWatch.Text

/-! # Blanks

* `isBlank`: the characters with the property of being white space;
* `isMargin`: these and the four information separators;
* `trim`: a text without the characters of a class at either end.
-/

/-- The code points of white space. -/
def blankRanges : List CodeRange :=
  [(0x09, 0x0D), (0x20, 0x20), (0x85, 0x85), (0xA0, 0xA0), (0x1680, 0x1680),
   (0x2000, 0x200A), (0x2028, 0x2029), (0x202F, 0x202F), (0x205F, 0x205F),
   (0x3000, 0x3000)]

/-- Is a character white space? -/
def isBlank (c : Char) : Bool := inRanges blankRanges c

/-- Is a character white space or one of the information separators U+001C to U+001F? -/
def isMargin (c : Char) : Bool := isBlank c || inRanges [(0x1C, 0x1F)] c

/-- Drops the characters of a class from both ends. -/
def trim (margin : Char → Bool) (cs : List Char) : List Char :=
  ((cs.dropWhile margin).reverse.dropWhile margin).reverse

end StreamWatch.Text
