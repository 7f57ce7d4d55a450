import Pipewright.Http.Url

/-!
# Paths of addresses

A path is a row of segments. Segments of dots are followed where they stand, so the written form of
a path of the web has none. A segment of a letter and a colon or bar names a drive: it is not taken
back by dots, and at the start of the path of a file it stands in place of the host.
-/
namespace Pipewright.Http.Url

/-- Whether a character separates the segments of a path. -/
def isSlash (kind : Kind) (c : Char) : Bool := c == '/' || (kind != .other && c == '\\')

/-- Whether a segment stands for the one it follows. -/
def isSingleDot (segment : List Char) : Bool :=
  let s := segment.map Char.toLower
  s == ['.'] || s == ['%', '2', 'e']

/-- Whether a segment takes back the one it follows. -/
def isDoubleDot (segment : List Char) : Bool :=
  let s := segment.map Char.toLower
  s == ['.', '.'] || s == ['.', '%', '2', 'e'] || s == ['%', '2', 'e', '.']
    || s == ['%', '2', 'e', '%', '2', 'e']

/-- Whether a text is the name of a drive. -/
def isDrive : List Char → Bool
  | [letter, mark] => letter.isAlpha && (mark == ':' || mark == '|')
  | _ => false

/-- Whether a segment is not taken back: it names a drive, up to its end or a backslash. -/
def isFixed (segment : List Char) : Bool :=
  isDrive (segment.take 2) && (segment.drop 2).head?.all (· == '\\')

/-- The segments of a path between its slashes. -/
def splitSegments (kind : Kind) : List Char → List (List Char)
  | [] => [[]]
  | c :: cs =>
    if isSlash kind c then [] :: splitSegments kind cs
    else
      match splitSegments kind cs with
      | [] => [[c]]
      | segment :: segments => (c :: segment) :: segments

/-- The segments that are left when the last one is taken back. -/
def takeBack (kept : List (List Char)) : List (List Char) :=
  if kept.getLast?.any isFixed then kept else kept.dropLast

/-- The written form of a segment; a drive at the start of the path of a file has a colon. -/
def writeSegment (kind : Kind) (isFirst : Bool) (segment : List Char) : List Char :=
  if kind = .file && isFirst && isDrive segment then segment.take 1 ++ [':']
  else percentEncode isEncodedInPath segment

/-- The segments that are left when dots have been followed, after those already kept. -/
def followDots (kind : Kind) (kept : List (List Char)) : List (List Char) → List (List Char)
  | [] => kept
  | segment :: rest =>
    let atEnd := rest.isEmpty
    if isDoubleDot segment then
      followDots kind (if atEnd then takeBack kept ++ [[]] else takeBack kept) rest
    else if isSingleDot segment then followDots kind (if atEnd then kept ++ [[]] else kept) rest
    else followDots kind (kept ++ [writeSegment kind kept.isEmpty segment]) rest

/-- The text of segments, each after a slash. The path of a file starts with one slash only. -/
def segmentsText (kind : Kind) (segments : List (List Char)) : String :=
  let text := segments.flatMap ('/' :: ·)
  String.ofList (if kind = .file then '/' :: text.dropWhile (· == '/') else text)

/-- The written form of the path that goes on with a text after segments already kept. -/
def extendPath (kind : Kind) (kept : List (List Char)) (text : List Char) : String :=
  segmentsText kind (followDots kind kept (splitSegments kind text))

/-- The written form of a path; its first slash need not be there unless the path may be empty. -/
def writePath (kind : Kind) (path : List Char) : String :=
  match path with
  | [] => if kind = .other then "" else "/"
  | c :: rest => extendPath kind [] (if isSlash kind c then rest else c :: rest)

/-- The written form of a path that does not start with a slash and is no row of segments. -/
def writeOpaquePath (path : List Char) : String :=
  String.ofList (percentEncode isEncodedAnywhere path)

/-- The segments of a written path but the last. -/
def parentSegments (path : String) : List (List Char) :=
  (splitSegments .other (path.toList.drop 1)).dropLast

/-- Whether a written path starts with a drive. -/
def startsWithDrive (path : String) : Bool :=
  match splitSegments .other (path.toList.drop 1) with
  | first :: _ => isDrive first
  | [] => false

end Pipewright.Http.Url
