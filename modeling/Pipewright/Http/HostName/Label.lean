import Pipewright.Http.HostName.Meaning
import Pipewright.Http.Punycode
import Pipewright.Text.Composed
import Pipewright.Text.Direction
import Pipewright.Text.Joining

/-!
# Labels

A label of a host name has a form in ASCII and the characters that are shown for it. What is shown
begins with no mark, has a joiner or a parting only where the letters around it ask for one, and,
in a name that holds letters of right-to-left scripts, keeps to one direction. A label that comes in
its form in ASCII keeps that form, and has to stand for characters that stand for themselves.
-/
namespace Pipewright.Http.HostName

/-- Whether a character is of ASCII. -/
def isAscii (c : Char) : Bool := c.toNat < 0x80

/-- A label. -/
structure Label where
  /-- Its form in ASCII. -/
  written : List Char
  /-- The characters that are shown for it. -/
  shown : List Char
  deriving DecidableEq

namespace Label

/-- What the form in ASCII of a label with other characters begins with. -/
def sign : List Char := ['x', 'n', '-', '-']

/-- The greatest number of characters beyond the sign of a label that comes in ASCII. -/
def maxWritten : Nat := 2000

/-- The greatest number of characters of a label that comes with others than ASCII. -/
def maxShown : Nat := 1000

/-! ## Joiners -/

/-- The character that parts two letters that would join. -/
def parting : Char := Char.ofNat 0x200C

/-- The character that joins two letters that would not. -/
def joiner : Char := Char.ofNat 0x200D

/-- Whether the first letter of a text, marks passed over, joins. -/
def firstJoins (joins : Char → Bool) (text : List Char) : Bool :=
  match text.dropWhile Joining.isPassedOver with
  | [] => false
  | c :: _ => joins c

/-- Whether a character may stand between the text before it, which is given in reverse, and the
text after it: after a virama stands either joiner, and a parting between letters that join. -/
def fits (before : List Char) (c : Char) (after : List Char) : Bool :=
  if c == parting || c == joiner then
    match before with
    | [] => false
    | d :: _ =>
      Mark.combiningClass d == Mark.viramaClass
        || (c == parting && firstJoins Joining.joinsNext before
          && firstJoins Joining.joinsPrevious after)
  else true

/-- Whether every character of a text may stand where it does, after a text in reverse. -/
def allFit (before : List Char) : List Char → Bool
  | [] => true
  | c :: after => fits before c after && allFit (c :: before) after

/-- Whether a label may be shown so. -/
def isShowable (shown : List Char) : Bool :=
  !(shown.head?.map Mark.isMark).getD false && allFit [] shown

/-! ## Reading -/

/-- The label of characters that stand for themselves, if they make one. -/
def ofChars? (chars : List Char) : Option Label := do
  if sign.isPrefixOf chars then
    let code := chars.drop sign.length
    if !code.all isAscii || maxWritten < code.length then none
    let shown ← Punycode.decode code
    if shown.all isPlain && Composed.ofText shown == shown && !sign.isPrefixOf shown
        && isShowable shown then
      some ⟨chars, shown⟩
    else none
  else if chars.all isAscii then some ⟨chars, chars⟩
  else if chars.length ≤ maxShown && isShowable chars then
    some ⟨sign ++ Punycode.encode chars, chars⟩
  else none

/-! ## Directions -/

/-- Whether a label holds a letter or a digit of a right-to-left script. -/
def turnsRight (label : Label) : Bool :=
  label.shown.any fun c =>
    Direction.ofChar c == .right || Direction.ofChar c == .arabicNumber

/-- Whether a label keeps to the direction of its first character, which has to be a letter; it ends
in a letter or a number, marks passed over, and does not mix numbers of two kinds. -/
def keepsDirection (label : Label) : Bool :=
  let directions := label.shown.map Direction.ofChar
  let last := directions.reverse.find? (· != .mark)
  match directions with
  | [] => true
  | .left :: _ =>
    !directions.contains .right && !directions.contains .arabicNumber
      && (last == some .left || last == some .number)
  | .right :: _ =>
    !directions.contains .left
      && (last == some .right || last == some .number || last == some .arabicNumber)
      && !(directions.contains .number && directions.contains .arabicNumber)
  | _ => false

end Label

end Pipewright.Http.HostName
