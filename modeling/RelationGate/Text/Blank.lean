/-!
# White space

The characters that separate or pad a text: the Unicode property `White_Space`. A name, an
identifier or a header value is trimmed of exactly these, and an object id may hold none of
them. The zero-width space and the byte-order mark are not in the property.
-/

namespace RelationGate.Text

/-- Whether a character has the Unicode property `White_Space`. -/
def isBlank (c : Char) : Bool :=
  let n := c.toNat
  (9 ≤ n && n ≤ 13) || n == 0x20 || n == 0x85 || n == 0xA0 || n == 0x1680 ||
    (0x2000 ≤ n && n ≤ 0x200A) || n == 0x2028 || n == 0x2029 || n == 0x202F || n == 0x205F ||
    n == 0x3000

/-- A list of characters without the blank ones at either end. -/
def trimChars (cs : List Char) : List Char :=
  ((cs.dropWhile isBlank).reverse.dropWhile isBlank).reverse

/-- A text without the blank characters at either end. -/
def trim (s : String) : String :=
  String.ofList (trimChars s.toList)

/-- The text holds nothing but blank characters. -/
def isBlankText (s : String) : Bool :=
  s.toList.all isBlank

end RelationGate.Text
