/-!
# Blanks

The characters that separate words in any script, and text without those at its
ends.
-/

namespace Shortlink.Text

/-- Whether a character is a blank. -/
def isBlank (character : Char) : Bool :=
  let number := character.toNat
  (0x09 ≤ number && number ≤ 0x0D) || number == 0x20 || number == 0x85 || number == 0xA0 ||
    number == 0x1680 || (0x2000 ≤ number && number ≤ 0x200A) || number == 0x2028 ||
    number == 0x2029 || number == 0x202F || number == 0x205F || number == 0x3000

/-- What is left between the blanks at both ends. -/
def trim (characters : List Char) : List Char :=
  ((characters.dropWhile isBlank).reverse.dropWhile isBlank).reverse

end Shortlink.Text
