import Pipewright.Http.HostName.Label

/-!
# Host names

A host name is looked up in ASCII. Every character becomes what it stands for, the text is composed,
and each of its labels is put into its form in ASCII. A name of ASCII alone, none of whose labels
claims to stand for other characters, only has its capital letters made small.
-/
namespace Pipewright.Http.HostName

/-- Whether a name is its own form in ASCII, but for capital letters. -/
def isAsciiAlone (name : List Char) : Bool :=
  name.all isAscii
    && (splitAtChar '.' name).all fun label => !Label.sign.isPrefixOf (label.map Char.toLower)

/-- The labels of a name, if each of its characters and each of its labels may be in one. -/
def labels? (name : List Char) : Option (List Label) := do
  let meanings ← name.mapM meaning?
  let labels ← (splitAtChar '.' (Composed.ofText meanings.flatten)).mapM Label.ofChars?
  if labels.any Label.turnsRight && !labels.all Label.keepsDirection then none else some labels

/-- The form in ASCII of a name, if it has one. -/
def ascii? (name : List Char) : Option (List Char) :=
  if isAsciiAlone name then some (name.map Char.toLower)
  else (labels? name).map fun labels => joinWith ['.'] (labels.map Label.written)

end Pipewright.Http.HostName
