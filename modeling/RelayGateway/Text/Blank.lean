/-! # White space and trimming

* `isBlank`: the characters with the Unicode property White_Space.
* `trim`, `trimEnd`: a text without the blanks at both ends, or at its end.

The zero-width space, the byte order mark and the four information separators are not blank.
-/

set_option autoImplicit false

namespace RelayGateway.Text

/-- The characters with the Unicode property White_Space. -/
def isBlank (c : Char) : Bool :=
  let code := c.toNat
  (0x09 ≤ code && code ≤ 0x0D) || code == 0x20 || code == 0x85 || code == 0xA0 || code == 0x1680 ||
    (0x2000 ≤ code && code ≤ 0x200A) || code == 0x2028 || code == 0x2029 || code == 0x202F ||
    code == 0x205F || code == 0x3000

/-- The characters left after the blanks at the end are dropped. -/
def trimEndChars (cs : List Char) : List Char :=
  (cs.reverse.dropWhile isBlank).reverse

/-- The characters left after the blanks at both ends are dropped. -/
def trimChars (cs : List Char) : List Char :=
  trimEndChars (cs.dropWhile isBlank)

def trim (text : String) : String :=
  String.ofList (trimChars text.toList)

end RelayGateway.Text
