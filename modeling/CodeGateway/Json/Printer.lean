import CodeGateway.Decimal.Layout
import CodeGateway.Json.Basic
import CodeGateway.Text.Utf8

/-!
JSON text without blanks: members by rising key, every character above U+001F as itself except the
quote and the backslash. A double that is not finite has no JSON form and is written as null.
-/

namespace CodeGateway.Json

def hexDigit (n : Nat) : Char :=
  if n < 10 then Char.ofNat (0x30 + n) else Char.ofNat (0x57 + n)

/-- A character inside a JSON string. Control characters have a letter or four hexadecimal
    digits. -/
def escapeChar (c : Char) : List Char :=
  if c == '"' then ['\\', '"']
  else if c == '\\' then ['\\', '\\']
  else if 0x20 ≤ c.toNat then [c]
  else if c == '\n' then ['\\', 'n']
  else if c == '\r' then ['\\', 'r']
  else if c == '\t' then ['\\', 't']
  else if c.toNat == 8 then ['\\', 'b']
  else if c.toNat == 12 then ['\\', 'f']
  else ['\\', 'u', '0', '0', hexDigit (c.toNat / 16), hexDigit (c.toNat % 16)]

def stringText (s : String) : List Char :=
  '"' :: s.toList.flatMap escapeChar ++ ['"']

def intText (i : Int) : List Char :=
  if i < 0 then '-' :: Decimal.digitText i.natAbs else Decimal.digitText i.natAbs

mutual

def text : Json → List Char
  | .null => ['n', 'u', 'l', 'l']
  | .bool true => ['t', 'r', 'u', 'e']
  | .bool false => ['f', 'a', 'l', 's', 'e']
  | .int i => intText i
  | .float x => if x.isFinite then Decimal.floatText x else ['n', 'u', 'l', 'l']
  | .string s => stringText s
  | .array items => '[' :: itemsText items
  | .object members => '\x7b' :: membersText members

def itemsText : List Json → List Char
  | [] => [']']
  | [item] => text item ++ [']']
  | item :: rest => text item ++ ',' :: itemsText rest

def membersText : List (String × Json) → List Char
  | [] => ['\x7d']
  | [(key, value)] => stringText key ++ ':' :: (text value ++ ['\x7d'])
  | (key, value) :: rest => stringText key ++ ':' :: (text value ++ ',' :: membersText rest)

end

def render (value : Json) : String :=
  String.ofList value.text

def renderBytes (value : Json) : List UInt8 :=
  Utf8.encode value.text

end CodeGateway.Json
