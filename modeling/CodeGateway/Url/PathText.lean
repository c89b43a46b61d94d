import CodeGateway.Url.Percent

namespace CodeGateway.Url

def isDriveLetter : List Char → Bool
  | [c, mark] => c.isAlpha && (mark == ':' || mark == '|')
  | _ => false

def isPlainDrive : List Char → Bool
  | [c, ':'] => c.isAlpha
  | _ => false

def isSingleDot (segment : List Char) : Bool :=
  segment == ['.'] || (segment.map Char.toLower) == ['%', '2', 'e']

def isDoubleDot (segment : List Char) : Bool :=
  let dot : List Char := ['%', '2', 'e']
  let lower := segment.map Char.toLower
  lower == ['.', '.'] || lower == '.' :: dot || lower == dot ++ ['.'] || lower == dot ++ dot

def endsWithSlash (path : List Char) : Bool :=
  path.getLast? == some '/'

def splitLastSlash (path : List Char) : List Char × List Char :=
  let last := (path.reverse.takeWhile (· != '/')).reverse
  (path.take (path.length - last.length), last)

def startsWithDrive : List Char → Bool
  | ['/', c, mark] => isDriveLetter [c, mark]
  | '/' :: c :: mark :: next :: _ =>
    isDriveLetter [c, mark] && (next == '/' || next == '\\' || next == '?' || next == '#')
  | _ => false

/-- Takes off the slash at the end, unless it is the only one or stands behind a drive. -/
def dropLastSlash (path : List Char) : List Char :=
  let shorter := path.dropLast
  let (upTo, last) := splitLastSlash shorter
  if !endsWithSlash path || upTo.isEmpty || startsWithDrive ('/' :: last ++ ['/']) then path
  else shorter

/-- Takes off what stands behind the last slash, unless it is a drive in a file's path. -/
def dropLastSegment (isFile : Bool) (path : List Char) : List Char :=
  let (upTo, last) := splitLastSlash path
  if isFile && isPlainDrive last then path else upTo

def closeWithSlash (path : List Char) : List Char :=
  if endsWithSlash path then path else path ++ ['/']

/-- Puts one encoded segment behind the path; `closed` when a slash follows it. -/
def addSegment (isFile : Bool) (path segment : List Char) (closed : Bool) : List Char :=
  if isDoubleDot segment then
    let shorter := dropLastSegment isFile (dropLastSlash path)
    if closed then closeWithSlash shorter else shorter
  else if isSingleDot segment then closeWithSlash path
  else path ++ segment ++ (if closed then ['/'] else [])

def addSegments : List Char → List (List Char) → List Char
  | path, [] => path
  | path, [last] => addSegment false path (percentEncode pathSet last) false
  | path, segment :: rest =>
    addSegments (addSegment false path (percentEncode pathSet segment) true) rest

def splitSegments (isSpecial : Bool) : List Char → List (List Char)
  | [] => [[]]
  | c :: rest =>
    if c == '/' || (isSpecial && c == '\\') then [] :: splitSegments isSpecial rest
    else
      match splitSegments isSpecial rest with
      | first :: more => (c :: first) :: more
      | [] => [[c]]

def segmentPath (isSpecial : Bool) (text : List Char) : List Char :=
  addSegments ['/'] (splitSegments isSpecial text)

end CodeGateway.Url
