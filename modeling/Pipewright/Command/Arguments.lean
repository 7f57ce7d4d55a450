/-!
# Arguments of the command line

The words of a command line are options and inputs. Which words are options follows from a list of
the options that there are; an option that needs a value takes it from the same word or the next.
-/
namespace Pipewright

/-- The options of a command. -/
structure OptionList where
  /-- The names of those that have a value. -/
  valued : List String
  /-- The names of those that have none. -/
  flags : List String
  /-- The letter of an option that has a value, and its name. -/
  letter : Option (Char × String)

/-- What words have been found to be. -/
structure Words where
  /-- The options with their values. -/
  values : List (String × String)
  /-- The options without a value. -/
  flags : List String
  /-- The inputs in order. -/
  inputs : List String

namespace Words

/-- No words. -/
def empty : Words := ⟨[], [], []⟩

/-- Adds an option with a value, unless it is there. -/
def addValue (words : Words) (name value : String) : Option Words :=
  if (words.values.lookup name).isSome then none
  else some { words with values := words.values ++ [(name, value)] }

/-- Adds an option without a value, unless it is there. -/
def addFlag (words : Words) (name : String) : Option Words :=
  if words.flags.contains name then none
  else some { words with flags := words.flags ++ [name] }

/-- Adds an input. -/
def addInput (words : Words) (input : String) : Words :=
  { words with inputs := words.inputs ++ [input] }

/-- The value of an option. -/
def value? (words : Words) (name : String) : Option String := words.values.lookup name

/-- Whether an option is there. -/
def hasFlag (words : Words) (name : String) : Bool := words.flags.contains name

end Words

/-- What a single word is on its own. -/
inductive WordKind where
  /-- The mark after which every word is an input. -/
  | mark
  /-- An option with a value. -/
  | valued (name value : String)
  /-- An option whose value is the next word. -/
  | awaiting (name : String)
  /-- An option without a value. -/
  | flag (name : String)
  /-- An input, or the value of an option before it. -/
  | plain
  /-- Something that looks like an option but is none. -/
  | unknown
  deriving DecidableEq

/-- What a word is on its own. -/
def OptionList.kind (options : OptionList) (word : String) : WordKind :=
  match word.toList with
  | ['-', '-'] => .mark
  | '-' :: '-' :: rest =>
    let name := String.ofList (rest.takeWhile (· != '='))
    match rest.dropWhile (· != '=') with
    | [] =>
      if options.valued.contains name then .awaiting name
      else if options.flags.contains name then .flag name
      else .unknown
    | _ :: value =>
      if options.valued.contains name then .valued name (String.ofList value) else .unknown
  | '-' :: letter :: rest =>
    match options.letter with
    | some (known, name) =>
      if letter = known then
        match rest with
        | [] => .awaiting name
        | '=' :: value => .valued name (String.ofList value)
        | value => .valued name (String.ofList value)
      else .unknown
    | none => .unknown
  | _ => .plain

/-- Sorts words, after those already sorted. -/
def OptionList.sort (options : OptionList) : List String → Words → Option Words
  | [], words => some words
  | word :: rest, words =>
    match options.kind word with
    | .mark => some { words with inputs := words.inputs ++ rest }
    | .valued name value => do
      let words ← words.addValue name value
      options.sort rest words
    | .awaiting name =>
      match rest with
      | value :: rest => do
        if options.kind value != .plain then none
        let words ← words.addValue name value
        options.sort rest words
      | [] => none
    | .flag name => do
      let words ← words.addFlag name
      options.sort rest words
    | .plain => options.sort rest (words.addInput word)
    | .unknown => none

/-- Sorts the words up to the first input, and returns that input and the words after it. -/
def OptionList.sortToInput (options : OptionList) :
    List String → Words → Option (Words × String × List String)
  | [], _ => none
  | word :: rest, words =>
    match options.kind word with
    | .valued name value => do
      let words ← words.addValue name value
      options.sortToInput rest words
    | .awaiting name =>
      match rest with
      | value :: rest => do
        if options.kind value != .plain then none
        let words ← words.addValue name value
        options.sortToInput rest words
      | [] => none
    | .flag name => do
      let words ← words.addFlag name
      options.sortToInput rest words
    | .plain => some (words, word, rest)
    | .mark => none
    | .unknown => none

end Pipewright
