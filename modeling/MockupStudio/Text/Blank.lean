/-
Blank characters: the Unicode property `White_Space`.

* `isBlank`: what separates tokens and what is trimmed from numerals;
* `trim`: a text without the blanks at both ends.
-/
namespace MockupStudio.Text

/-- Whether a character has the property `White_Space`. -/
def isBlank (c : Char) : Bool :=
  let n := c.toNat
  (9 ≤ n && n ≤ 13) || n = 0x20 || n = 0x85 || n = 0xa0 || n = 0x1680
    || (0x2000 ≤ n && n ≤ 0x200a) || n = 0x2028 || n = 0x2029 || n = 0x202f
    || n = 0x205f || n = 0x3000

/-- The characters between the leading and the trailing blanks. -/
def trim (cs : List Char) : List Char :=
  ((cs.dropWhile isBlank).reverse.dropWhile isBlank).reverse

end MockupStudio.Text
