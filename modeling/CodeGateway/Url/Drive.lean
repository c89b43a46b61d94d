import CodeGateway.Url.PathText

/-!
The path of a file. Its first segment may be a drive, whose mark is then a colon, and a drive is
always on this machine. Tabs and line ends do not count, but for one rule: where they part a drive
in the first segment from more text, a slash takes their place.
-/

namespace CodeGateway.Url

def isLineBreakOrTab (c : Char) : Bool :=
  c == '\t' || c == '\n' || c == '\r'

def unbroken (text : List Char) : List Char :=
  text.filter fun c => !isLineBreakOrTab c

/-- A path that is being put together, and whether a drive has stood as its first segment. -/
structure PartialPath where
  path : List Char
  onDrive : Bool
  deriving DecidableEq

/-- A drive in front of a tab or a line end and more text: its letter and that text. -/
def brokenDrive? (segment : List Char) : Option (Char × List Char) :=
  match segment.dropWhile isLineBreakOrTab with
  | [] => none
  | letter :: more =>
    match more.dropWhile isLineBreakOrTab with
    | ':' :: blank :: rest =>
      let behind := unbroken rest
      if letter.isAlpha && isLineBreakOrTab blank && !behind.isEmpty then some (letter, behind)
      else none
    | _ => none

/-- Puts one segment behind the path of a file; `closed` when a slash follows it. -/
def PartialPath.add (file : PartialPath) (segment : List Char) (closed : Bool) : PartialPath :=
  let text := unbroken segment
  if file.path = ['/'] then
    match brokenDrive? segment with
    | some (letter, behind) =>
      { file with
        path := ['/', letter, ':', '/'] ++ percentEncode pathSet behind ++
          (if closed then ['/'] else []) }
    | none =>
      if isDriveLetter text then
        ⟨addSegment true file.path (text.take 1 ++ [':']) closed, true⟩
      else { file with path := addSegment true file.path (percentEncode pathSet text) closed }
  else { file with path := addSegment true file.path (percentEncode pathSet text) closed }

def PartialPath.addAll : PartialPath → List (List Char) → PartialPath
  | file, [] => file
  | file, [last] => file.add last false
  | file, segment :: rest => (file.add segment true).addAll rest

def PartialPath.text (file : PartialPath) : List Char :=
  '/' :: file.path.dropWhile (· == '/')

def PartialPath.ofText (text : List Char) : PartialPath :=
  PartialPath.addAll ⟨['/'], false⟩ (splitSegments true text)

end CodeGateway.Url
