/-! Blank characters are those with the Unicode property White_Space, and trimming removes them. -/

namespace Worksheet.Text

/-- Whether a character separates words without being part of any. -/
def isBlank (c : Char) : Bool :=
  -- Tab to carriage return, then the scattered spaces and separators in code point order.
  (0x09 ≤ c.val && c.val ≤ 0x0D) || c.val == 0x20 || c.val == 0x85 || c.val == 0xA0 ||
    c.val == 0x1680 || (0x2000 ≤ c.val && c.val ≤ 0x200A) || c.val == 0x2028 ||
    c.val == 0x2029 || c.val == 0x202F || c.val == 0x205F || c.val == 0x3000

/-- Removes the blanks at both ends of a character list. -/
def trimBlanks (cs : List Char) : List Char :=
  ((cs.dropWhile isBlank).reverse.dropWhile isBlank).reverse

/-- Removes the blanks at both ends of a string. -/
def trim (s : String) : String :=
  String.ofList (trimBlanks s.toList)

end Worksheet.Text
