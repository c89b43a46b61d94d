import CodeGateway.Url.Parser

namespace CodeGateway.Url

def closeDrive (path : List UInt8) : List UInt8 :=
  match path.reverse with
  | mark :: letter :: _ :: _ =>
    if (mark == 0x3A || mark == 0x7C) &&
        ((0x41 ≤ letter && letter ≤ 0x5A) || (0x61 ≤ letter && letter ≤ 0x7A)) then
      path ++ [0x2F]
    else path
  | _ => path

def filePath? (url : Url) : Option (List UInt8) :=
  match url.authority, url.path with
  | some authority, '/' :: rest =>
    if authority.host.isEmpty || authority.host == "localhost".toList then
      some (closeDrive (percentDecode ('/' :: rest)))
    else none
  | none, '/' :: rest => some (closeDrive (percentDecode ('/' :: rest)))
  | _, _ => none

def pathSegments (path : List Char) : List (List Char) :=
  (Text.splitAt '/' path).filter fun segment => !segment.isEmpty && segment != ['.']

def rootedPath (segments : List (List Char)) : List Char :=
  if segments.isEmpty then ['/'] else segments.flatMap ('/' :: ·)

def ofFilePath? (path : List Char) : Option Url :=
  match path with
  | '/' :: _ =>
    some
      { scheme := fileScheme
        authority := some ⟨[], [], []⟩
        path := rootedPath ((pathSegments path).map (percentEncode segmentSet))
        query := none
        fragment := none }
  | _ => none

def displayPath (uri : String) : String :=
  match parse uri with
  | .ok url =>
    if url.isFile then
      match url.filePath? with
      | some path => String.ofList (Utf8.decodeLossy path)
      | none => uri
    else uri
  | .error _ => uri

end CodeGateway.Url
