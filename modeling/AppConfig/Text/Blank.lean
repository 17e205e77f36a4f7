/-! # Blank characters

* `isBlank`: the Unicode property `White_Space`.
* `trimLeft`: a text without its leading blank characters.

Joiners and marks of width zero (`U+200B`, `U+FEFF`), the Mongolian vowel separator `U+180E` and
the separators `U+001C` to `U+001F` are not blank.
-/

namespace AppConfig.Text
set_option autoImplicit false

/-- The Unicode property `White_Space`. -/
def isBlank (c : Char) : Bool :=
  let n := c.toNat
  (0x9 ≤ n && n ≤ 0xD) || n = 0x20 || n = 0x85 || n = 0xA0 || n = 0x1680
    || (0x2000 ≤ n && n ≤ 0x200A) || n = 0x2028 || n = 0x2029 || n = 0x202F || n = 0x205F
    || n = 0x3000

/-- A text without its leading blank characters. -/
def trimLeft (text : List Char) : List Char :=
  text.dropWhile isBlank

end AppConfig.Text
