/-!
# White space

The characters with the property `White_Space` of the Unicode standard, and texts without the
white space around them.
-/

set_option autoImplicit false

namespace FeatureFlags.Text

/-- Whether a character is white space. -/
def isBlank (c : Char) : Bool :=
  let n := c.toNat
  (9 ≤ n && n ≤ 13) || n == 0x20 || n == 0x85 || n == 0xA0 || n == 0x1680 ||
    (0x2000 ≤ n && n ≤ 0x200A) || n == 0x2028 || n == 0x2029 || n == 0x202F || n == 0x205F ||
    n == 0x3000

/-- A text without the white space in front of it. -/
def trimLeft (cs : List Char) : List Char := cs.dropWhile isBlank

/-- A text without the white space behind it. -/
def trimRight (cs : List Char) : List Char := (cs.reverse.dropWhile isBlank).reverse

/-- A text without the white space around it. -/
def trim (cs : List Char) : List Char := trimRight (trimLeft cs)

end FeatureFlags.Text
