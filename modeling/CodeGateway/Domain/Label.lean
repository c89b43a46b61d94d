import CodeGateway.Domain.Mapping
import CodeGateway.Domain.Punycode
import CodeGateway.Text.Composition
import CodeGateway.Text.Direction
import CodeGateway.Text.Joining
import CodeGateway.Text.Mark

namespace CodeGateway.Domain

open Text

def isForbidden (c : Char) : Bool :=
  c.toNat ≤ 0x20 || c.toNat == 0x7F ||
    ['%', '#', '/', ':', '<', '>', '?', '@', '[', '\\', ']', '^', '|'].contains c

def isAscii (label : List Char) : Bool :=
  label.all (·.toNat < 0x80)

/-- What some characters of a name are read as, in composed form; nothing when one of them does not
    stand in names. -/
def readChars? (text : List Char) : Option (List Char) :=
  (text.mapM read?).map fun parts => composed parts.flatten

def nonJoiner : Char := Char.ofNat 0x200C
def joiner : Char := Char.ofNat 0x200D

def viramaClass : Nat := 9

/-- Whether a letter that joins is the first thing met, joins going through some marks. -/
def meetsJoin (joins : Char → Bool) : List Char → Bool
  | [] => false
  | c :: rest => joins c || (isJoinTransparent c && meetsJoin joins rest)

/-- Whether a joiner has an effect between the characters before it, which come last first, and
    those behind it: right behind a virama it has, and a non-joiner has where it keeps two letters
    from joining. -/
def joinerFits (before : List Char) (c : Char) (rest : List Char) : Bool :=
  match before with
  | [] => false
  | previous :: _ =>
    combiningClass previous == viramaClass ||
      (c == nonJoiner && meetsJoin joinsNext before && meetsJoin joinsPrevious rest)

/-- Whether every joiner has an effect; `before` are the characters before, last first. -/
def joinersFit : (before : List Char) → List Char → Bool
  | _, [] => true
  | before, c :: rest =>
    ((c != nonJoiner && c != joiner) || joinerFits before c rest) && joinersFit (c :: before) rest

def goesRightToLeft (label : List Char) : Bool :=
  label.any fun c => direction c == .rightToLeft || direction c == .arabicNumber

/-- Whether the label can be told from its neighbours in a name that is written in both directions:
    it starts with a letter, all of it goes the way of that letter, and it ends in a letter or
    a number with perhaps marks behind. -/
def directionFits (label : List Char) : Bool :=
  let directions := label.map direction
  let last := (directions.reverse.dropWhile (· == .mark)).headD .mark
  match directions with
  | [] => true
  | .leftToRight :: _ => !goesRightToLeft label && last != .neutral
  | .rightToLeft :: _ =>
    directions.all (· != .leftToRight) && last != .neutral &&
      !(directions.contains .europeanNumber && directions.contains .arabicNumber)
  | _ => false

structure Label where
  plain : List Char
  ascii : List Char

def punycodeMark : List Char := ['x', 'n', '-', '-']

def maxPlain : Nat := 1000

/-- How long a label may be that is taken out of Punycode, without its mark. -/
def maxPunycode : Nat := 2000

/-- Whether characters outside ASCII make a label: no mark stands in front of them, and every joiner
    has an effect. -/
def isPlainLabel (label : List Char) : Bool :=
  !label.head?.any isMark && joinersFit [] label && label.length ≤ maxPlain

def ofPunycode? (text : List Char) : Option (List Char) := do
  let plain ← if text.length ≤ maxPunycode then Punycode.decode text else none
  if isAscii plain || plain.any isForbidden || plain.contains '.' || !isPlainLabel plain ||
      readChars? plain != some plain then none
  else some plain

def label? (text : List Char) : Option Label :=
  if text.any isForbidden then none
  else if punycodeMark.isPrefixOf text then
    if isAscii text then (ofPunycode? (text.drop 4)).map (⟨·, text⟩) else none
  else if isAscii text then some ⟨text, text⟩
  else if isPlainLabel text then some ⟨text, punycodeMark ++ Punycode.encode text⟩
  else none

end CodeGateway.Domain
