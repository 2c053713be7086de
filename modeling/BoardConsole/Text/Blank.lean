/-!
# Text — Blank characters

The blank characters are those of the Unicode property White_Space. They separate tokens, and
`trim` removes them from both ends of a text.
-/

namespace BoardConsole.Text

/-- A character of the Unicode property White_Space. -/
def isBlank (c : Char) : Bool :=
  let n := c.toNat
  (0x09 ≤ n && n ≤ 0x0D) || n == 0x20 || n == 0x85 || n == 0xA0 || n == 0x1680 ||
    (0x2000 ≤ n && n ≤ 0x200A) || n == 0x2028 || n == 0x2029 || n == 0x202F || n == 0x205F ||
    n == 0x3000

/-- The characters with the blanks at both ends removed. -/
def trim (cs : List Char) : List Char :=
  ((cs.dropWhile isBlank).reverse.dropWhile isBlank).reverse

/-- A text that holds nothing but blanks. -/
def isBlankText (s : String) : Bool :=
  s.toList.all isBlank

end BoardConsole.Text
