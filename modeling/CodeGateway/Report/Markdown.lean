namespace CodeGateway.Markdown

def endsLine (c : Char) (next : Option Char) : Bool :=
  c == '\n' || (c == '\r' && next != some '\n')

def lines : List Char → List (List Char)
  | [] => []
  | c :: rest =>
    if endsLine c rest.head? then [c] :: lines rest
    else
      match lines rest with
      | [] => [[c]]
      | line :: more => (c :: line) :: more

def isTick (c : Char) : Bool :=
  c == '\x60'

def ticks (line : List Char) : Nat :=
  (line.takeWhile isTick).length

def isPadding (c : Char) : Bool :=
  c == ' ' || c == '\t' || c == '\r' || c == '\n'

/-- A block is opened by three backticks or more with no other backtick in their line. They may be
    indented, but in a report they never are, so this is left out. -/
def opens (line : List Char) : Bool :=
  3 ≤ ticks line && (line.dropWhile isTick).all fun c => !isTick c

/-- A block is closed by as many backticks as have opened it, or more, with at most three spaces in
    front of them and nothing but blanks behind them. -/
def closes (count : Nat) (line : List Char) : Bool :=
  let fence := line.dropWhile (· == ' ')
  (line.takeWhile (· == ' ')).length ≤ 3 && count ≤ ticks fence &&
    (fence.dropWhile isTick).all isPadding

/-- What is in a block, and what is left of the text behind the line that closes it. -/
structure Block where
  content : List Char
  behind : List Char
  deriving DecidableEq

def block? (text : List Char) : Option Block :=
  match lines text with
  | [] => none
  | first :: rest =>
    if opens first then
      let isInside := fun line => !closes (ticks first) line
      some ⟨(rest.takeWhile isInside).flatten, ((rest.dropWhile isInside).drop 1).flatten⟩
    else none

end CodeGateway.Markdown
