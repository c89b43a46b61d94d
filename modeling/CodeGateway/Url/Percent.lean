import CodeGateway.Text.Utf8

/-!
Percent-encoding: bytes outside a set of plain characters are written as `%` and two hexadecimal
digits. The sets grow from one another, each naming the characters it encodes beyond the last.
Control characters and everything outside ASCII are encoded in all of them.
-/

namespace CodeGateway.Url

abbrev EncodeSet := List Char

def controlSet : EncodeSet := []

def fragmentSet : EncodeSet := [' ', '"', '<', '>', '\x60']

def pathSet : EncodeSet := fragmentSet ++ ['#', '?', '\x7b', '\x7d']

def userinfoSet : EncodeSet := pathSet ++ ['/', ':', ';', '=', '@', '[', '\\', ']', '^', '|']

def segmentSet : EncodeSet := pathSet ++ ['/', '%', '\\']

def querySet : EncodeSet := [' ', '"', '#', '<', '>']

def specialQuerySet : EncodeSet := querySet ++ ['\'']

def isEncoded (set : EncodeSet) (c : Char) : Bool :=
  c.toNat < 0x20 || 0x7F ≤ c.toNat || set.contains c

def upperHexDigit (n : Nat) : Char :=
  if n < 10 then Char.ofNat (0x30 + n) else Char.ofNat (0x37 + n)

def percentByte (byte : UInt8) : List Char :=
  ['%', upperHexDigit (byte.toNat / 16), upperHexDigit (byte.toNat % 16)]

def encodeChar (set : EncodeSet) (c : Char) : List Char :=
  if isEncoded set c then (Utf8.encodeChar c).flatMap percentByte else [c]

def percentEncode (set : EncodeSet) (text : List Char) : List Char :=
  text.flatMap (encodeChar set)

def hexValue? (c : Char) : Option Nat :=
  if '0' ≤ c ∧ c ≤ '9' then some (c.toNat - 0x30)
  else if 'a' ≤ c ∧ c ≤ 'f' then some (c.toNat - 0x57)
  else if 'A' ≤ c ∧ c ≤ 'F' then some (c.toNat - 0x37)
  else none

/-- The bytes of a text in which `%` and two hexadecimal digits stand for one byte. Any other `%`
    is itself. -/
def percentDecode : List Char → List UInt8
  | '%' :: high :: low :: rest =>
    match hexValue? high, hexValue? low with
    | some h, some l => UInt8.ofNat (h * 16 + l) :: percentDecode rest
    | _, _ => 0x25 :: percentDecode (high :: low :: rest)
  | c :: rest => Utf8.encodeChar c ++ percentDecode rest
  | [] => []

end CodeGateway.Url
