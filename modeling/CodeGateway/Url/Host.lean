import CodeGateway.Domain.Name
import CodeGateway.Url.Error
import CodeGateway.Url.Percent

namespace CodeGateway.Url

open Text (joinWith)

def digitsValue (base : Nat) (digits : List Nat) : Nat :=
  digits.foldl (fun total d => total * base + d) 0

/-- The number of a part in decimal, in octal behind `0` or in hexadecimal behind `0x`. -/
def addressNumber (part : List Char) : Option Nat :=
  let (base, digits) := match part with
    | '0' :: 'x' :: rest => (16, rest)
    | '0' :: 'X' :: rest => (16, rest)
    | '0' :: c :: rest => (8, c :: rest)
    | _ => (10, part)
  if part.isEmpty then none
  else
    match digits.mapM hexValue? with
    | some values => if values.all (· < base) then some (digitsValue base values) else none
    | none => none

def nameParts (name : List Char) : List (List Char) :=
  let parts := Text.splitAt '.' name
  if 1 < parts.length ∧ parts.getLast? = some [] then parts.dropLast else parts

def endsInNumber (name : List Char) : Bool :=
  match (nameParts name).getLast? with
  | some last =>
    !last.isEmpty && (last.all (fun c => '0' ≤ c && c ≤ '9') || (addressNumber last).isSome)
  | none => false

def ipv4Value (numbers : List Nat) : Option Nat :=
  match numbers.reverse with
  | [] => none
  | last :: before =>
    let count := before.length
    if 3 < count || Nat.pow 256 (4 - count) ≤ last || before.any (255 < ·) then none
    else some (digitsValue 256 before.reverse * Nat.pow 256 (4 - count) + last)

def ipv4Text (value : Nat) : List Char :=
  joinWith '.' ([value / 16777216 % 256, value / 65536 % 256, value / 256 % 256, value % 256].map
    (Nat.toDigits 10 ·))

def ipv4Host (name : List Char) : Except Error (List Char) :=
  match ((nameParts name).mapM addressNumber).bind ipv4Value with
  | some value => .ok (ipv4Text value)
  | none => .error .badIpv4

def ipv6Piece (part : List Char) : Option Nat :=
  if part.isEmpty || 4 < part.length then none
  else (part.mapM hexValue?).map (digitsValue 16)

def ipv6Tail (part : List Char) : Option (List Nat) :=
  let number (text : List Char) : Option Nat :=
    if text.isEmpty || 3 < text.length || (1 < text.length && text.head? == some '0') ||
        !text.all (fun c => '0' ≤ c && c ≤ '9') then none
    else
      let value := digitsValue 10 (text.map fun c => c.toNat - 0x30)
      if value ≤ 255 then some value else none
  match (Text.splitAt '.' part).mapM number with
  | some [a, b, c, d] => some [a * 256 + b, c * 256 + d]
  | _ => none

def ipv6Pieces (text : List Char) : Option (List Nat) :=
  if text.isEmpty then some []
  else
    let parts := Text.splitAt ':' text
    match parts.getLast? with
    | none => none
    | some last =>
      if last.contains '.' then
        match parts.dropLast.mapM ipv6Piece, ipv6Tail last with
        | some pieces, some tail => some (pieces ++ tail)
        | _, _ => none
      else parts.mapM ipv6Piece

def splitDoubleColon : List Char → Option (List Char × List Char)
  | ':' :: ':' :: rest => some ([], rest)
  | c :: rest => (splitDoubleColon rest).map fun parts => (c :: parts.1, parts.2)
  | [] => none

/-- The eight pieces of an address. A pair of colons stands for one zero piece or more. -/
def ipv6Value (text : List Char) : Option (List Nat) :=
  match splitDoubleColon text with
  | none =>
    match ipv6Pieces text with
    | some pieces => if pieces.length == 8 then some pieces else none
    | none => none
  | some (before, after) =>
    if before.contains '.' then none
    else
      match ipv6Pieces before, ipv6Pieces after with
      | some first, some second =>
        let count := first.length + second.length
        if count < 8 then some (first ++ List.replicate (8 - count) 0 ++ second) else none
      | _, _ => none

/-- The first longest run of at least two zero pieces: where it starts and how long it is. -/
def zeroRun (pieces : List Nat) : Option (Nat × Nat) :=
  let runs := (List.range 8).map fun start =>
    (start, ((pieces.drop start).takeWhile (· == 0)).length)
  let best := runs.foldl (fun best run => if best.2 < run.2 then run else best) (0, 1)
  if best.2 < 2 then none else some best

def piecesText (pieces : List Nat) : List Char :=
  joinWith ':' (pieces.map (Nat.toDigits 16 ·))

def ipv6Text (pieces : List Nat) : List Char :=
  match zeroRun pieces with
  | none => piecesText pieces
  | some (start, size) =>
    piecesText (pieces.take start) ++ [':', ':'] ++ piecesText (pieces.drop (start + size))

def ipv6Host (text : List Char) : Except Error (List Char) :=
  if text.getLast? != some ']' then .error .badIpv6
  else
    match ipv6Value text.dropLast with
    | some pieces => .ok ('[' :: ipv6Text pieces ++ [']'])
    | none => .error .badIpv6

def networkHost (text : List Char) : Except Error (List Char) :=
  match text with
  | '[' :: rest => ipv6Host rest
  | _ =>
    match Domain.asciiName? (percentDecode text) with
    | none => .error .badInternationalName
    | some name =>
      if name.isEmpty then .error .emptyHost
      else if endsInNumber name then ipv4Host name
      else .ok name

def opaqueHost (text : List Char) : Except Error (List Char) :=
  match text with
  | '[' :: rest => ipv6Host rest
  | _ =>
    if text.any fun c => c.toNat == 0 || ['\t', '\n', '\r', ' ', '#', '/', ':', '<', '>', '?', '@',
        '[', '\\', ']', '^', '|'].contains c then .error .badHostCharacter
    else .ok (percentEncode controlSet text)

end CodeGateway.Url
