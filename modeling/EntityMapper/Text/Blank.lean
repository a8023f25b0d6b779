/-!
# Blank characters and trimming

The characters with the property White_Space, and text without them at its ends.
-/

namespace EntityMapper.Text

/-- The property White_Space: 25 characters. -/
def isBlank (c : Char) : Bool :=
  let n := c.toNat
  (0x9 ≤ n && n ≤ 0xD) || n == 0x20 || n == 0x85 || n == 0xA0 || n == 0x1680
    || (0x2000 ≤ n && n ≤ 0x200A) || n == 0x2028 || n == 0x2029 || n == 0x202F || n == 0x205F
    || n == 0x3000

/-- Drops the blanks before the first other character. -/
def trimStart (cs : List Char) : List Char := cs.dropWhile isBlank

/-- Drops the blanks after the last other character. -/
def trimEnd (cs : List Char) : List Char := (cs.reverse.dropWhile isBlank).reverse

def trim (s : String) : String := String.ofList (trimEnd (trimStart s.toList))

end EntityMapper.Text
