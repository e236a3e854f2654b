/-!
White space. A character is blank when it has the Unicode property White_Space, a set of
twenty-five code points.
-/

namespace AccountGrants.Text

/-- Membership in White_Space. -/
def isBlank (c : Char) : Bool :=
  let n := c.toNat
  n = 0x20 || (0x09 ≤ n && n ≤ 0x0d) || n = 0x85 || n = 0xa0 || n = 0x1680 ||
    (0x2000 ≤ n && n ≤ 0x200a) || n = 0x2028 || n = 0x2029 || n = 0x202f || n = 0x205f || n = 0x3000

/-- A text without the characters in `p` at its two ends. -/
def strip (p : Char → Bool) (s : List Char) : List Char :=
  ((s.dropWhile p).reverse.dropWhile p).reverse

/-- A text without blanks at its two ends. -/
def trim (s : List Char) : List Char :=
  strip isBlank s

end AccountGrants.Text
