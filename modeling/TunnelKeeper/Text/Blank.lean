/-!
# Blank characters

Which characters count as blank, and the text without its blank margins. Every reader of this
library trims with the same rule, so a value that has been trimmed once is never changed by a
later stage.
-/

namespace TunnelKeeper.Text

/-- The characters with the Unicode property `White_Space`. -/
def isBlank (c : Char) : Bool :=
  let n := c.toNat
  (0x09 ≤ n && n ≤ 0x0D) || n == 0x20 || n == 0x85 || n == 0xA0 || n == 0x1680 ||
    (0x2000 ≤ n && n ≤ 0x200A) || n == 0x2028 || n == 0x2029 || n == 0x202F || n == 0x205F ||
    n == 0x3000

/-- The characters from the first that is not blank. -/
def trimLeft (s : List Char) : List Char := s.dropWhile isBlank

/-- The characters up to the last that is not blank. -/
def trimRight (s : List Char) : List Char := (s.reverse.dropWhile isBlank).reverse

/-- The characters between the first and the last that are not blank. -/
def trimChars (s : List Char) : List Char := trimRight (trimLeft s)

/-- The text without blank characters at either end. -/
def trim (s : String) : String := String.ofList (trimChars s.toList)

/-- A text is blank when nothing is left of it after trimming. -/
def isBlankText (s : String) : Bool := s.toList.all isBlank

/-- Lower-cases the letters `A` to `Z`, the only ones that keywords are made of. -/
def lower (s : String) : String := String.ofList (s.toList.map Char.toLower)

end TunnelKeeper.Text
