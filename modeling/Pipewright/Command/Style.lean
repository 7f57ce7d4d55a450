/-!
# Styled text

On a terminal, and where it is asked for, parts of the output are styled: the text stands between a
code that starts the style and one that ends every style. A text that itself ends every style does
not end the one around it.
-/
namespace Pipewright

/-- A style of text. -/
inductive Style where
  /-- Bold. -/
  | bold
  /-- Dimmed. -/
  | dimmed
  /-- Green. -/
  | green
  /-- Yellow. -/
  | yellow
  /-- Cyan. -/
  | cyan
  /-- Bold and red. -/
  | boldRed
  /-- Bold and green. -/
  | boldGreen
  /-- Bold and yellow. -/
  | boldYellow
  deriving DecidableEq

/-- The number of a style. -/
def Style.code : Style → String
  | bold => "1"
  | dimmed => "2"
  | green => "32"
  | yellow => "33"
  | cyan => "36"
  | boldRed => "1;31"
  | boldGreen => "1;32"
  | boldYellow => "1;33"

/-- The code that starts a style. -/
def Style.opening (style : Style) : List Char :=
  Char.ofNat 0x1B :: '[' :: style.code.toList ++ ['m']

/-- The code that ends every style. -/
def Style.closing : List Char := [Char.ofNat 0x1B, '[', '0', 'm']

/-- A text in which a code follows each one that ends every style. -/
def reopened (opening : List Char) : List Char → List Char
  | '\x1b' :: '[' :: '0' :: 'm' :: rest => Style.closing ++ opening ++ reopened opening rest
  | c :: rest => c :: reopened opening rest
  | [] => []

/-- A text in a style, if text is styled at all. -/
def Style.paint (style : Style) (styled : Bool) (text : String) : String :=
  if styled then
    String.ofList (style.opening ++ reopened style.opening text.toList ++ Style.closing)
  else text

/-- Whether text is styled: a variable may force it, another one may prevent it, and otherwise a
terminal decides unless a third one does. -/
def isStyled (env : String → Option String) (onTerminal : Bool) : Bool :=
  let isOn (value : Option String) : Bool :=
    match value with
    | some text => text != "0"
    | none => false
  if isOn (env "CLICOLOR_FORCE") then true
  else if (env "NO_COLOR").isSome then false
  else (env "CLICOLOR").getD "1" != "0" && onTerminal

end Pipewright
