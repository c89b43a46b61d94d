import CodeGateway.Url.Host
import CodeGateway.Url.PathText

namespace CodeGateway

structure Url.Authority where
  userinfo : List Char
  host : List Char
  /-- The colon and the number, unless the port is the scheme's own. -/
  port : List Char
  deriving DecidableEq

structure Url where
  scheme : List Char
  authority : Option Url.Authority
  path : List Char
  query : Option (List Char)
  fragment : Option (List Char)
  deriving DecidableEq

namespace Url

def fileScheme : List Char := ['f', 'i', 'l', 'e']

def isFile (url : Url) : Bool :=
  url.scheme == fileScheme

def marked (mark : Char) : Option (List Char) → List Char
  | some text => mark :: text
  | none => []

/-- What stands between the scheme and the path. A path that starts with two slashes would be read
    as an authority if nothing stood in front of it. -/
def beforePath (url : Url) : List Char :=
  match url.authority with
  | some authority => ['/', '/'] ++ authority.userinfo ++ authority.host ++ authority.port
  | none => if ['/', '/'].isPrefixOf url.path then ['/', '.'] else []

def text (url : Url) : List Char :=
  url.scheme ++ ':' :: (url.beforePath ++ url.path ++ marked '?' url.query ++
    marked '#' url.fragment)

def toString (url : Url) : String :=
  String.ofList url.text

end Url

end CodeGateway
