import CodeGateway.Text.Blank
import CodeGateway.Text.Search
import CodeGateway.Url.FilePath

namespace CodeGateway.Path

def isAbsolute (path : List Char) : Bool :=
  path.head? == some '/'

def join (directory path : List Char) : List Char :=
  if isAbsolute path || directory.isEmpty then path
  else if directory.getLast? == some '/' then directory ++ path
  else directory ++ '/' :: path

def fileName? (path : List Char) : Option (List Char) :=
  match (Url.pathSegments path).getLast? with
  | some name => if name == ['.', '.'] then none else some name
  | none => none

/-- What stands behind the last full stop of the name, unless the name starts with it. -/
def extension? (path : List Char) : Option (List Char) :=
  match fileName? path with
  | none => none
  | some name =>
    let extension := (name.reverse.takeWhile (· != '.')).reverse
    if name.length ≤ extension.length + 1 then none else some extension

def languages : List (List String × String) :=
  [(["rs"], "rust"), (["ts", "mts", "cts"], "typescript"), (["tsx"], "typescriptreact"),
    (["js", "mjs", "cjs"], "javascript"), (["jsx"], "javascriptreact"),
    (["py", "pyi"], "python"), (["go"], "go"), (["java"], "java"), (["c", "h"], "c"),
    (["cc", "cpp", "cxx", "hpp", "hh"], "cpp"), (["cs"], "csharp"), (["rb"], "ruby"),
    (["php"], "php"), (["swift"], "swift"), (["kt", "kts"], "kotlin")]

def language (path : List Char) : String :=
  let extension := String.ofList (((extension? path).getD []).map Char.toLower)
  match languages.find? fun entry => entry.1.contains extension with
  | some entry => entry.2
  | none => "plaintext"

end CodeGateway.Path

namespace CodeGateway

/-- The URI of the document that a caller names: text with `://` in it is left as it is, and any
    other text is a path, seen from the workspace's root. -/
def documentUri? (raw : String) (root : List Char) : Option String :=
  let name := Text.trim raw
  if name.isEmpty then none
  else if Text.occursIn [':', '/', '/'] name.toList then some name
  else (Url.ofFilePath? (Path.join root name.toList)).map Url.toString

end CodeGateway
