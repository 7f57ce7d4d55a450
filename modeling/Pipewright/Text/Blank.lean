/-!
# Blank characters

The characters that separate words: exactly those of Unicode's White_Space property. Names,
workflow texts and log lines are judged empty by this class, so a text of ideographic spaces is
as blank as one of tabs.
-/
namespace Pipewright

/-- The characters with Unicode's White_Space property. -/
def isBlankChar (c : Char) : Bool :=
  let n := c.toNat
  (9 ≤ n && n ≤ 13) || n == 0x20 || n == 0x85 || n == 0xA0 || n == 0x1680
    || (0x2000 ≤ n && n ≤ 0x200A) || n == 0x2028 || n == 0x2029 || n == 0x202F
    || n == 0x205F || n == 0x3000

/-- A text with nothing but blank characters, the empty text included. -/
def isBlank (text : String) : Bool := text.toList.all isBlankChar

/-- The characters up to the last one that is not blank. -/
def dropTrailingBlanks (cs : List Char) : List Char :=
  (cs.reverse.dropWhile isBlankChar).reverse

end Pipewright
