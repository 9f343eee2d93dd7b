/-!
Blank characters: those with the Unicode property White_Space. They separate words, surround
trimmed text and make up blank lines.
-/

set_option autoImplicit false
set_option relaxedAutoImplicit false

namespace GameOfLife.Text

/-- The code points with the property White_Space, as closed ranges in ascending order. -/
def blankRanges : List (Nat × Nat) :=
  [(0x09, 0x0D), (0x20, 0x20), (0x85, 0x85), (0xA0, 0xA0), (0x1680, 0x1680), (0x2000, 0x200A),
    (0x2028, 0x2029), (0x202F, 0x202F), (0x205F, 0x205F), (0x3000, 0x3000)]

def isBlank (c : Char) : Bool :=
  blankRanges.any fun range => range.1 ≤ c.toNat && c.toNat ≤ range.2

/-- Whether a text consists of blank characters only; the empty text does. -/
def allBlank (text : String) : Bool :=
  text.toList.all isBlank

def trim (text : String) : String :=
  String.ofList ((text.toList.dropWhile isBlank).reverse.dropWhile isBlank).reverse

end GameOfLife.Text
