import CodeGateway.Toml.Basic

namespace CodeGateway.Toml

def isKeyChar (c : Char) : Bool :=
  c.isAlphanum || c == '-' || c == '_'

abbrev Reading (α : Type) := Option (α × List Char)

def digitValue (c : Char) : Nat :=
  if c.isDigit then c.toNat - 0x30
  else if 'a' ≤ c ∧ c ≤ 'f' then c.toNat - 0x57
  else if 'A' ≤ c ∧ c ≤ 'F' then c.toNat - 0x37
  else 16

/-- Digits with underscores between them: the digits, and what follows. `afterDigit` when the last
    character was a digit; an underscore must have one on either side. -/
def digitRun (radix : Nat) : (afterDigit : Bool) → List Char → Reading (List Char)
  | afterDigit, [] => if afterDigit then some ([], []) else none
  | afterDigit, c :: rest =>
    if digitValue c < radix then
      (digitRun radix true rest).map fun run => (c :: run.1, run.2)
    else if !afterDigit then none
    else if c == '_' then digitRun radix false rest
    else some ([], c :: rest)

/-- A sign and digits. Without `zeros`, a zero in front must be the only digit. -/
def signedDigits (sign zeros : Bool) (text : List Char) : Option ((Bool × List Char) × List Char) :=
  let (negative, text) := match text with
    | '-' :: rest => if sign then (true, rest) else (false, text)
    | '+' :: rest => if sign then (false, rest) else (false, text)
    | _ => (false, text)
  match digitRun 10 false text with
  | none => none
  | some (digits, rest) =>
    if !zeros && digits.head? == some '0' && 1 < digits.length then none
    else some ((negative, digits), rest)

def digitsNumber (radix : Nat) (digits : List Char) : Nat :=
  digits.foldl (fun n c => n * radix + digitValue c) 0

def wordOf (negative : Bool) (size : Nat) : Option Toml :=
  let i : Int := if negative then -size else size
  if -0x8000000000000000 ≤ i ∧ i < 0x8000000000000000 then some (.integer i) else none

/-- An integer in another radix, with its mark already read. It may carry a sign of its own only
    in decimal. -/
def radixInteger (radix : Nat) (text : List Char) : Option Toml :=
  match digitRun radix false text with
  | some (digits, []) => wordOf false (digitsNumber radix digits)
  | _ => none

def decimalInteger (text : List Char) : Option Toml :=
  match signedDigits true false text with
  | some ((negative, digits), []) => wordOf negative (digitsNumber 10 digits)
  | _ => none

def finiteFloat (negative : Bool) (digits : List Char) (power : Int) : Option Toml :=
  let number := digitsNumber 10 digits
  let scale := power + digits.length
  if number == 0 || scale < -400 then some (.float 0.0)
  else if 400 < scale && 400 < power then none
  else
    let x := Float.ofScientific number (power < 0) power.natAbs
    if x.isInf then none else some (.float (if negative then -x else x))

/-- The exponent behind its letter, which ends the word `word`. When the word ends with the letter,
    a plus sign and digits follow it. -/
def exponent (word rest : List Char) : Reading Int :=
  let read (sign : Bool) (text : List Char) : Option Int :=
    match signedDigits sign true text with
    | some ((negative, digits), []) =>
      let size : Int := digitsNumber 10 digits
      some (if negative then -size else size)
    | _ => none
  match word with
  | [] =>
    let rest := match rest with
      | '+' :: more => more
      | _ => rest
    (read false (rest.takeWhile isKeyChar)).map fun power => (power, rest.dropWhile isKeyChar)
  | _ => (read true word).map fun power => (power, rest)

/-- A double: digits before the point, the word behind the point if there is one, and what follows
    that. -/
def readFloat (before : List Char) (after : Option (List Char)) (rest : List Char) :
    Option (Toml × List Char) := do
  let ((negative, digits), suffix) ← signedDigits true false before
  let (fraction, suffix) ← match after with
    | none => some ([], suffix)
    | some after =>
      if suffix.isEmpty then (signedDigits false true after).map fun run => (run.1.2, run.2)
      else none
  match suffix with
  | [] => (finiteFloat negative (digits ++ fraction) (-fraction.length)).map fun x => (x, rest)
  | c :: word =>
    if c == 'e' || c == 'E' then do
      let (power, rest) ← exponent word rest
      let x ← finiteFloat negative (digits ++ fraction) (power - fraction.length)
      some (x, rest)
    else none

def number (word rest : List Char) : Reading Toml :=
  let whole (value : Option Toml) : Reading Toml := value.map fun value => (value, rest)
  match word with
  | '0' :: 'x' :: digits => whole (radixInteger 16 digits)
  | '0' :: 'o' :: digits => whole (radixInteger 8 digits)
  | '0' :: 'b' :: digits => whole (radixInteger 2 digits)
  | _ =>
    if word.contains 'e' || word.contains 'E' then readFloat word none rest
    else
      match rest with
      | '.' :: rest =>
        let after := rest.takeWhile isKeyChar
        if after.isEmpty then none else readFloat word (some after) (rest.dropWhile isKeyChar)
      | _ =>
        if word == "inf".toList || word == "-inf".toList || word == "nan".toList ||
            word == "-nan".toList then some (.float (0.0 / 0.0), rest)
        else whole (decimalInteger word)

def markedWord (mark : Char) (text : List Char) : Option (List Char) :=
  match text with
  | c :: rest =>
    if c == mark && rest.head?.any isKeyChar then some (rest.dropWhile isKeyChar) else none
  | [] => none

def optionalWord (mark : Char) (text : List Char) : Option (List Char) :=
  if text.head? == some mark then markedWord mark text else some text

/-- The minutes and seconds, then perhaps a fraction and an offset; the colon in front is read
    here. -/
def clock (text : List Char) : Option (List Char) := do
  let text ← markedWord ':' text
  let text ← markedWord ':' text
  let text ← optionalWord '.' text
  let text ← optionalWord '+' text
  optionalWord ':' text

/-- A date, a time or both behind the first word. A single space may part the two. -/
def readDate (word rest : List Char) : Reading Toml :=
  let rest := match rest with
    | ' ' :: c :: more => if isKeyChar c then (c :: more).dropWhile isKeyChar else rest
    | _ => rest
  let rest := if rest.head? == some ':' then clock rest else some rest
  rest.map fun rest => (.date (String.ofList word), rest)

def containsPair (first second : Char) : List Char → Bool
  | a :: b :: rest => (a == first && b == second) || containsPair first second (b :: rest)
  | _ => false

/-- Whether a word starts a date: it has a dash that belongs to no exponent, or the letter that
    parts a date from a time. -/
def looksLikeDate (word : List Char) : Bool :=
  word.contains 'T' || word.contains 't' ||
    (word.tail.contains '-' && !containsPair 'e' '-' word && !containsPair 'E' '-' word)

def numberOrDate (word rest : List Char) : Reading Toml :=
  if looksLikeDate word || rest.head? == some ':' then readDate word rest else number word rest

end CodeGateway.Toml
