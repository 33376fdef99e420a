/-!
# White space

A character is blank when it has the white-space property.  `trim` removes the blank characters at
both ends of a text and keeps those inside.
-/

namespace Workflow
namespace Text

/-- Whether a character has the white-space property. -/
def isBlank (c : Char) : Bool :=
  let value := c.toNat
  (0x9 ≤ value && value ≤ 0xD) || value == 0x20 || value == 0x85 || value == 0xA0 ||
    value == 0x1680 || (0x2000 ≤ value && value ≤ 0x200A) || value == 0x2028 || value == 0x2029 ||
    value == 0x202F || value == 0x205F || value == 0x3000

/-- Drop the blank characters in front. -/
def trimFront (text : List Char) : List Char :=
  text.dropWhile isBlank

/-- Drop the characters at both ends that satisfy a test. -/
def strip (drop : Char → Bool) (text : List Char) : List Char :=
  ((text.dropWhile drop).reverse.dropWhile drop).reverse

/-- Drop the blank characters at both ends. -/
def trim (text : List Char) : List Char :=
  strip isBlank text

end Text
end Workflow
