/-!
# Blank text

White space as Unicode defines it, and text without it at its ends.
-/

namespace ServiceSpec.Text

/-- The Unicode property `White_Space`. -/
def isBlankChar (c : Char) : Bool :=
  let n := c.toNat
  (9 ≤ n && n ≤ 13) || n == 0x20 || n == 0x85 || n == 0xa0 || n == 0x1680 ||
    (0x2000 ≤ n && n ≤ 0x200a) || n == 0x2028 || n == 0x2029 || n == 0x202f ||
    n == 0x205f || n == 0x3000

/-- Whether a text is empty or white space only. -/
def isBlank (s : String) : Bool :=
  s.toList.all isBlankChar

/-- The text without the white space at its two ends. -/
def trim (s : String) : String :=
  String.ofList
    ((s.toList.dropWhile isBlankChar).reverse.dropWhile isBlankChar).reverse

end ServiceSpec.Text
