import CodeGateway.Toml.Number

namespace CodeGateway.Toml

def foldLineEnds : List Char → List Char
  | '\r' :: '\n' :: rest => '\n' :: foldLineEnds rest
  | c :: rest => c :: foldLineEnds rest
  | [] => []

def isSpace (c : Char) : Bool :=
  c == ' ' || c == '\t'

def skipSpace (text : List Char) : List Char :=
  text.dropWhile isSpace

def isPlain (c : Char) : Bool :=
  c == '\t' || (0x20 ≤ c.toNat && c.toNat != 0x7F)

def lineEnd (text : List Char) : Option (List Char) :=
  match text with
  | [] => some []
  | '\n' :: rest => some rest
  | _ => none

/-- A comment may hold whatever is no control character, and the delete character. -/
def skipComment (text : List Char) : List Char :=
  text.dropWhile fun c => c == '\t' || 0x20 ≤ c.toNat

def restOfLine (text : List Char) : Option (List Char) :=
  match skipSpace text with
  | '#' :: rest => lineEnd (skipComment rest)
  | rest => lineEnd rest

def hexNumber (text : List Char) : Option Nat :=
  if text.all fun c => digitValue c < 16 then some (digitsNumber 16 text) else none

def numberedChar (size : Nat) (text : List Char) : Reading Char :=
  let digits := text.take size
  if digits.length < size then none
  else
    match hexNumber digits with
    | some n => if n.isValidChar then some (Char.ofNat n, text.drop size) else none
    | none => none

/-- What stands behind a backslash. Over several lines, one at the end of a line takes away the
    line end and the blanks behind it. -/
def escape (multi : Bool) (text : List Char) : Reading (List Char) :=
  let plain (c : Char) (rest : List Char) : Reading (List Char) := some ([c], rest)
  match text with
  | [] => none
  | c :: rest =>
    if c == '"' || c == '\\' then plain c rest
    else if c == 'b' then plain (Char.ofNat 8) rest
    else if c == 'f' then plain (Char.ofNat 12) rest
    else if c == 'n' then plain '\n' rest
    else if c == 'r' then plain '\r' rest
    else if c == 't' then plain '\t' rest
    else if c == 'u' then (numberedChar 4 rest).map fun read => ([read.1], read.2)
    else if c == 'U' then (numberedChar 8 rest).map fun read => ([read.1], read.2)
    else if multi then
      match skipSpace text with
      | '\n' :: rest => some ([], rest.dropWhile fun c => isSpace c || c == '\n')
      | [] => some ([], [])
      | _ => none
    else none

/-- The text up to the closing quote. `done` is what was read, the last first; the fuel is the
    number of characters. -/
def singleLine (quote : Char) : (fuel : Nat) → (done text : List Char) → Reading (List Char)
  | 0, _, _ => none
  | fuel + 1, done, text =>
    match text with
    | [] => none
    | c :: rest =>
      if c == quote then some (done.reverse, rest)
      else if c == '\\' && quote == '"' then
        match escape false rest with
        | some (chars, rest) => singleLine quote fuel (chars.reverse ++ done) rest
        | none => none
      else if isPlain c then singleLine quote fuel (c :: done) rest
      else none

def quoteCount (quote : Char) (text : List Char) : Nat :=
  ((text.take 5).takeWhile (· == quote)).length

/-- The text up to three closing quotes. One or two quotes more belong to the text. -/
def multiLine (quote : Char) : (fuel : Nat) → (done text : List Char) → Reading (List Char)
  | 0, _, _ => none
  | fuel + 1, done, text =>
    match text with
    | [] => none
    | c :: rest =>
      if c == quote then
        let count := quoteCount quote text
        if count < 3 then
          multiLine quote fuel (List.replicate count quote ++ done) (text.drop count)
        else some ((List.replicate (count - 3) quote ++ done).reverse, text.drop count)
      else if c == '\\' && quote == '"' then
        match escape true rest with
        | some (chars, rest) => multiLine quote fuel (chars.reverse ++ done) rest
        | none => none
      else if isPlain c || c == '\n' then multiLine quote fuel (c :: done) rest
      else none

/-- A string with its first quote already read, and whether it may run over several lines. A line
    end right behind three opening quotes is left out. -/
def quotedString (quote : Char) (text : List Char) : Option ((String × Bool) × List Char) :=
  let make (multi : Bool) (read : Reading (List Char)) : Option ((String × Bool) × List Char) :=
    read.map fun read => ((String.ofList read.1, multi), read.2)
  match text with
  | first :: second :: rest =>
    if first == quote then
      if second == quote then
        let rest := match rest with
          | '\n' :: more => more
          | _ => rest
        make true (multiLine quote (rest.length + 1) [] rest)
      else some (("", false), second :: rest)
    else make false (singleLine quote (text.length + 1) [] text)
  | [only] => if only == quote then some (("", false), []) else none
  | [] => none

def keyPart (text : List Char) : Reading String :=
  match text with
  | [] => none
  | c :: rest =>
    if c == '"' || c == '\'' then
      match quotedString c rest with
      | some ((name, false), rest) => some (name, rest)
      | _ => none
    else if isKeyChar c then
      some (String.ofList (text.takeWhile isKeyChar), text.dropWhile isKeyChar)
    else none

/-- The parts of a key with points between them. The fuel is the number of characters. -/
def key : (fuel : Nat) → List Char → Reading (List String)
  | 0, _ => none
  | fuel + 1, text =>
    match keyPart (skipSpace text) with
    | none => none
    | some (name, rest) =>
      match skipSpace rest with
      | '.' :: rest => (key fuel rest).map fun read => (name :: read.1, read.2)
      | rest => some ([name], rest)

/-- Goes over blanks, line ends and comments. The fuel is the number of characters. -/
def skipLines : (fuel : Nat) → List Char → Option (List Char)
  | 0, text => some text
  | fuel + 1, text =>
    match skipSpace text with
    | '\n' :: rest => skipLines fuel rest
    | '#' :: rest =>
      match lineEnd (skipComment rest) with
      | some rest => skipLines fuel rest
      | none => none
    | rest => some rest

def scalar (text : List Char) : Reading Toml :=
  match text with
  | [] => none
  | c :: rest =>
    if c == '"' || c == '\'' then
      (quotedString c rest).map fun read => (.string read.1.1, read.2)
    else if c == '+' then
      let word := rest.takeWhile isKeyChar
      if word.isEmpty then none else number word (rest.dropWhile isKeyChar)
    else
      let word := text.takeWhile isKeyChar
      let rest := text.dropWhile isKeyChar
      if word == "true".toList then some (.boolean true, rest)
      else if word == "false".toList then some (.boolean false, rest)
      else if c == '-' || c.isDigit || word == "inf".toList || word == "nan".toList then
        numberOrDate word rest
      else none

mutual

def value : (fuel : Nat) → List Char → Reading Toml
  | 0, _ => none
  | fuel + 1, text =>
    match text with
    | '[' :: rest => (items fuel [] rest).map fun read => (.array read.1, read.2)
    | '\x7b' :: rest =>
      match skipSpace rest with
      | '\x7d' :: rest => some (.inline [], rest)
      | rest => (inlineMembers fuel [] rest).map fun read => (.inline read.1, read.2)
    | text => scalar text

/-- The items of an array up to its closing bracket; a comma may stand behind the last. -/
def items : (fuel : Nat) → (done : List Toml) → List Char → Reading (List Toml)
  | 0, _, _ => none
  | fuel + 1, done, text =>
    match skipLines text.length text with
    | none => none
    | some (']' :: rest) => some (done.reverse, rest)
    | some text =>
      match value fuel text with
      | none => none
      | some (item, rest) =>
        match skipLines rest.length rest with
        | some (',' :: rest) => items fuel (item :: done) rest
        | some (']' :: rest) => some ((item :: done).reverse, rest)
        | _ => none

def inlineMembers : (fuel : Nat) → (done : List (String × Toml)) → List Char →
    Reading (List (String × Toml))
  | 0, _, _ => none
  | fuel + 1, done, text =>
    match key (text.length + 1) text with
    | some (name, '=' :: rest) =>
      match value fuel (skipSpace rest) with
      | none => none
      | some (member, rest) =>
        match insertDotted name member done with
        | none => none
        | some done =>
          match skipSpace rest with
          | '\x7d' :: rest => some (done, rest)
          | ',' :: rest => inlineMembers fuel done rest
          | _ => none
    | _ => none

end

/-- A header in one pair of brackets or in two, with the first bracket already read. -/
def header (text : List Char) : Reading Section :=
  let (isItem, text) := match text with
    | '[' :: rest => (true, rest)
    | _ => (false, text)
  match key (text.length + 1) text with
  | some (name, ']' :: rest) =>
    let rest :=
      if isItem then (match rest with | ']' :: rest => some rest | _ => none) else some rest
    match rest.bind restOfLine with
    | some rest => some (⟨name, isItem, []⟩, rest)
    | none => none
  | _ => none

def keyValue (text : List Char) : Reading (List String × Toml) :=
  match key (text.length + 1) text with
  | some (name, '=' :: rest) =>
    match value (rest.length + 1) (skipSpace rest) with
    | some (member, rest) => (restOfLine rest).map fun rest => ((name, member), rest)
    | none => none
  | _ => none

/-- The sections of a text. `current` is the one being read, and `done` those before it, the last
    first. The fuel is the number of characters. -/
def sections : (fuel : Nat) → (done : List Section) → (current : Section) → List Char →
    Option (List Section)
  | 0, done, current, text => if text.isEmpty then some (current :: done).reverse else none
  | fuel + 1, done, current, text =>
    match skipLines text.length text with
    | none => none
    | some [] => some (current :: done).reverse
    | some ('[' :: rest) =>
      match header rest with
      | some (next, rest) => sections fuel (current :: done) next rest
      | none => none
    | some text =>
      match keyValue text with
      | none => none
      | some ((name, member), rest) =>
        match insertDotted name member current.members with
        | some members => sections fuel done { current with members } rest
        | none => none

def parse (text : String) : Option Json :=
  let chars := foldLineEnds text.toList
  let chars := match chars with
    | c :: rest => if c.toNat == 0xFEFF then rest else chars
    | [] => []
  (sections (chars.length + 1) [] ⟨[], false, []⟩ chars).bind documentJson?

end CodeGateway.Toml
