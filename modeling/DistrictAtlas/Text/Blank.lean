/-!
# Blanks

Which characters are white space, and the trimming of a text. White space is the twenty-nine
characters that Unicode gives the property, together with the four information separators; so a
no-break space is blank and a zero-width space is not.
-/

namespace DistrictAtlas.Text

/-- Whether the character is white space. -/
def isBlank (c : Char) : Bool :=
  let n := c.toNat
  (0x09 ≤ n && n ≤ 0x0D) || (0x1C ≤ n && n ≤ 0x20) || n == 0x85 || n == 0xA0 || n == 0x1680 ||
    (0x2000 ≤ n && n ≤ 0x200A) || n == 0x2028 || n == 0x2029 || n == 0x202F || n == 0x205F ||
    n == 0x3000

/-- The characters without the blanks at either end. -/
def trimChars (cs : List Char) : List Char :=
  ((cs.dropWhile isBlank).reverse.dropWhile isBlank).reverse

/-- The text without the blanks at either end. -/
def trim (s : String) : String :=
  String.ofList (trimChars s.toList)

/-- Whether nothing is left of the text once its blanks are gone. -/
def isBlankText (s : String) : Bool :=
  s.toList.all isBlank

/-- The characters of a trimmed text. -/
@[simp] theorem toList_trim (s : String) : (trim s).toList = trimChars s.toList :=
  String.toList_ofList

end DistrictAtlas.Text
