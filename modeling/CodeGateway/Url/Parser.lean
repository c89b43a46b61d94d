import CodeGateway.Url.Basic
import CodeGateway.Url.Drive

/-!
Reading absolute URLs. Control characters and spaces around the text are dropped. Tabs and line ends
inside it do not count either, but the path of a file shows where they stood.
-/

namespace CodeGateway.Url

/-- Special schemes have hosts on the network, take a backslash for a slash and have a port of
    their own. -/
def specialSchemes : List (List Char × Nat) :=
  [("http".toList, 80), ("https".toList, 443), ("ws".toList, 80), ("wss".toList, 443),
    ("ftp".toList, 21)]

def isNetworkScheme (scheme : List Char) : Bool :=
  specialSchemes.any fun entry => entry.1 == scheme

def isOuterBlank (c : Char) : Bool :=
  c.toNat ≤ 0x20

def trimmed (input : List Char) : List Char :=
  ((input.dropWhile isOuterBlank).reverse.dropWhile isOuterBlank).reverse

def isSchemeChar (c : Char) : Bool :=
  c.isAlphanum || c == '+' || c == '-' || c == '.'

def splitScheme (input : List Char) : Option (List Char × List Char) :=
  let scheme := input.takeWhile isSchemeChar
  match scheme, input.dropWhile isSchemeChar with
  | first :: _, ':' :: rest =>
    if first.isAlpha then some (scheme.map Char.toLower, rest) else none
  | _, _ => none

def endsAuthority (isSpecial : Bool) (c : Char) : Bool :=
  c == '/' || c == '?' || c == '#' || (isSpecial && c == '\\')

/-- What stands up to the last `@`, and what stands behind it; nothing when there is none. -/
def splitLastAt (text : List Char) : Option (List Char × List Char) :=
  let host := (text.reverse.takeWhile (· != '@')).reverse
  if host.length == text.length then none
  else some (text.take (text.length - host.length - 1), host)

/-- The name and, behind the first colon, the password; a colon without a password is dropped. -/
def userinfoText (userinfo : List Char) : List Char :=
  let name := percentEncode userinfoSet (userinfo.takeWhile (· != ':'))
  let password := percentEncode userinfoSet (userinfo.dropWhile (· != ':')).tail
  let both := if password.isEmpty then name else name ++ ':' :: password
  if both.isEmpty then [] else both ++ ['@']

/-- The host up to the colon in front of the port; a colon between brackets belongs to the host. -/
def splitPort : (inBrackets : Bool) → List Char → List Char × List Char
  | _, [] => ([], [])
  | inBrackets, c :: rest =>
    if c == ':' && !inBrackets then ([], c :: rest)
    else
      let inBrackets := c == '[' || (inBrackets && c != ']')
      let (host, port) := splitPort inBrackets rest
      (c :: host, port)

/-- The port behind its colon, left out when it is the scheme's own or there is none. A backslash
    ends it; that and what follows belong to the path. -/
def readPort (scheme : List Char) (text : List Char) : Except Error (List Char × List Char) :=
  match text with
  | ':' :: rest =>
    let digits := rest.takeWhile Char.isDigit
    let behind := rest.dropWhile Char.isDigit
    if !(behind.isEmpty || behind.head? == some '\\') then .error .badPort
    else
      let port := digits.foldl (fun n c => n * 10 + (c.toNat - 0x30)) 0
      if 65535 < port then .error .badPort
      else if digits.isEmpty || specialSchemes.lookup scheme == some port then .ok ([], behind)
      else .ok (':' :: Nat.toDigits 10 port, behind)
  | _ => .ok ([], [])

/-- The authority between the slashes and the path, and what of its text belongs to the path. -/
def readAuthority (scheme text : List Char) (atEnd : Bool) :
    Except Error (Authority × List Char) := do
  let isSpecial := isNetworkScheme scheme
  let (userinfo, hostAndPort) := (splitLastAt text).getD ([], text)
  let hasAt := (splitLastAt text).isSome
  if hasAt && userinfo.isEmpty && hostAndPort.isEmpty && !atEnd then .error .emptyHost
  else
    let (hostText, port) := splitPort false hostAndPort
    if isSpecial && hostText.isEmpty then .error .emptyHost
    else
      let host ← if isSpecial then networkHost hostText else opaqueHost hostText
      if host.isEmpty && !port.isEmpty then .error .emptyHost
      else
        let (port, behind) ← readPort scheme port
        let userinfo := userinfoText userinfo
        if host.isEmpty && !userinfo.isEmpty then .error .emptyHost
        else .ok (⟨userinfo, host, port⟩, behind)

def splitTail (text : List Char) : List Char × Option (List Char) × Option (List Char) :=
  let front := text.takeWhile (· != '#')
  let fragment := match text.dropWhile (· != '#') with
    | _ :: rest => some rest
    | [] => none
  let path := front.takeWhile (· != '?')
  let query := match front.dropWhile (· != '?') with
    | _ :: rest => some rest
    | [] => none
  (path, query, fragment)

/-- Everything but the authority and the path, which are given as they stand in the URL. -/
def withTail (scheme : List Char) (authority : Option Authority) (path : List Char)
    (query fragment : Option (List Char)) : Url :=
  let set := if isNetworkScheme scheme || scheme == fileScheme then specialQuerySet else querySet
  { scheme, authority, path
    query := query.map (percentEncode set)
    fragment := fragment.map (percentEncode fragmentSet) }

/-- A path behind an authority. That of a special scheme starts with a slash in any case. -/
def pathAfterAuthority (isSpecial : Bool) (text : List Char) : List Char :=
  match text with
  | [] => if isSpecial then ['/'] else []
  | c :: rest =>
    if c == '/' || (isSpecial && c == '\\') then segmentPath isSpecial rest
    else segmentPath isSpecial text

def afterSlashes (scheme text : List Char) : Except Error Url := do
  let isSpecial := isNetworkScheme scheme
  let stop (c : Char) := !endsAuthority isSpecial c
  let rest := text.dropWhile stop
  let (authority, behind) ← readAuthority scheme (text.takeWhile stop) rest.isEmpty
  let (path, query, fragment) := splitTail (behind ++ rest)
  .ok (withTail scheme (some authority) (pathAfterAuthority isSpecial path) query fragment)

def isSlash (c : Char) : Bool :=
  c == '/' || c == '\\'

def fileHost (text : List Char) : Except Error (List Char) :=
  if text.isEmpty then .ok []
  else (networkHost text).map fun host => if host == "localhost".toList then [] else host

def afterSlash? (text : List Char) : Option (List Char) :=
  match text.dropWhile isLineBreakOrTab with
  | c :: rest => if isSlash c then some rest else none
  | [] => none

/-- The host and the path of a file. A drive is no host, and one at the start of the path takes the
    host away. Without a host the path keeps the slash behind that place. -/
def fileHostAndPath (front : List Char) : Except Error (List Char × List Char) :=
  match afterSlash? front with
  | none => .ok ([], (PartialPath.ofText front).text)
  | some behindFirst =>
    match afterSlash? behindFirst with
    | none => .ok ([], (PartialPath.ofText behindFirst).text)
    | some behindBoth =>
      let hostText := unbroken (behindBoth.takeWhile (!isSlash ·))
      let rest := behindBoth.dropWhile (!isSlash ·)
      if isDriveLetter hostText then .ok ([], (PartialPath.ofText behindBoth).text)
      else do
        let host ← fileHost hostText
        let file := PartialPath.ofText (if host.isEmpty then rest else rest.tail)
        .ok (if file.onDrive then [] else host, file.text)

def file (text : List Char) : Except Error Url := do
  let (front, query, fragment) := splitTail text
  let (host, path) ← fileHostAndPath front
  .ok (withTail fileScheme (some ⟨[], host, []⟩) path (query.map unbroken) (fragment.map unbroken))

def general (scheme text : List Char) : Except Error Url :=
  match text with
  | '/' :: '/' :: rest => afterSlashes scheme rest
  | _ =>
    let (front, query, fragment) := splitTail text
    let path := match front with
      | '/' :: rest => segmentPath false rest
      | _ => percentEncode controlSet front
    .ok (withTail scheme none path query fragment)

def parseChars (input : List Char) : Except Error Url :=
  match splitScheme (unbroken (trimmed input)) with
  | none => .error .relativeWithoutBase
  | some (scheme, rest) =>
    if scheme == fileScheme then file ((trimmed input).dropWhile (· != ':')).tail
    else if isNetworkScheme scheme then afterSlashes scheme (rest.dropWhile isSlash)
    else general scheme rest

def parse (text : String) : Except Error Url :=
  parseChars text.toList

end CodeGateway.Url
