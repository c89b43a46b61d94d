/-!
Arguments of a command line, by a grammar. Options may be written long or short, with their value
behind an equals sign, attached to the letter, or as the next argument; flags take no value; all
else goes to the positional arguments in turn, and so does everything behind `--`.

A value is read only once the next argument shows that it is complete. That settles which of two
faults is found: an unknown option is, before a bad value just in front of it.
-/

namespace CodeGateway.CommandLine

inductive Takes where
  | nothing
  | help
  | version
  | text
  | path
  | number
  | oneOf (names : List String)

structure Argument where
  name : String
  letter : Option Char
  takes : Takes

structure Grammar where
  options : List Argument
  positionals : List Argument
  commands : List String

inductive Value where
  | flag
  | text (s : String)
  | number (n : UInt32)
  deriving DecidableEq

inductive Refusal where
  | missingValue (name : String)
  | emptyValue (name : String)
  | notOneOf (name value : String)
  | notANumber (name value : String)
  | unneededValue (name : String)
  | repeated (name : String)
  | unknownArgument (argument : String)
  | unknownCommand (argument : String)
  | missingArgument (name : String)
  | missingCommand
  | nothingGiven
  | helpRequested
  | versionRequested
  deriving DecidableEq

structure Scan where
  given : List (String × Value)
  /-- The argument whose value is not read yet, and that value once it is there. -/
  pending : Option (Argument × Option String)
  isLiteral : Bool
  place : Nat

namespace Scan

def start : Scan := ⟨[], none, false, 0⟩

def isAwaiting (scan : Scan) : Bool :=
  match scan.pending with
  | some (_, none) => true
  | _ => false

end Scan

/-- A whole number of 32 bits in decimal; a sign may stand in front, but a minus only of zero. -/
def readNumber (text : String) : Option UInt32 :=
  let (negative, digits) := match text.toList with
    | '+' :: rest => (false, rest)
    | '-' :: rest => (true, rest)
    | digits => (false, digits)
  if digits.isEmpty || !digits.all Char.isDigit then none
  else
    let n := digits.foldl (fun n c => n * 10 + (c.toNat - 0x30)) 0
    if n < (if negative then 1 else 0x100000000) then some (UInt32.ofNat n) else none

def readValue (argument : Argument) (value : String) : Except Refusal Value :=
  match argument.takes with
  | .nothing | .help | .version => .error (.unneededValue argument.name)
  | .text => .ok (.text value)
  | .path => if value.isEmpty then .error (.emptyValue argument.name) else .ok (.text value)
  | .number =>
    match readNumber value with
    | some n => .ok (.number n)
    | none => .error (.notANumber argument.name value)
  | .oneOf names =>
    if names.contains value then .ok (.text value) else .error (.notOneOf argument.name value)

def Scan.give (scan : Scan) (argument : Argument) (value : String) : Except Refusal Scan :=
  if (scan.given.lookup argument.name).isSome then .error (.repeated argument.name)
  else do
    let value ← readValue argument value
    .ok { scan with given := scan.given ++ [(argument.name, value)] }

def Scan.settle (scan : Scan) : Except Refusal Scan :=
  match scan.pending with
  | none => .ok scan
  | some (argument, none) => .error (.missingValue argument.name)
  | some (argument, some value) => { scan with pending := none }.give argument value

/-- An option without a value behind it: a flag, or an option whose value comes next. -/
def Scan.option (scan : Scan) (argument : Argument) : Except Refusal Scan := do
  let scan ← scan.settle
  match argument.takes with
  | .help => .error .helpRequested
  | .version => .error .versionRequested
  | .nothing =>
    if (scan.given.lookup argument.name).isSome then .error (.repeated argument.name)
    else .ok { scan with given := scan.given ++ [(argument.name, .flag)] }
  | _ => .ok { scan with pending := some (argument, none) }

def Scan.attached (scan : Scan) (argument : Argument) (value : String) : Except Refusal Scan :=
  match argument.takes with
  | .nothing | .help | .version => .error (.unneededValue argument.name)
  | _ => do
    let scan ← scan.settle
    scan.give argument value

/-- The text in front of the first equals sign, and the text behind it if there is one. -/
def splitEquals (text : List Char) : String × Option String :=
  match text.dropWhile (· != '=') with
  | _ :: value => (String.ofList (text.takeWhile (· != '=')), some (String.ofList value))
  | [] => (String.ofList text, none)

def Scan.long (grammar : Grammar) (scan : Scan) (text : List Char) : Except Refusal Scan :=
  let (name, value) := splitEquals text
  match grammar.options.find? fun option => option.name == name, value with
  | none, _ => .error (.unknownArgument name)
  | some option, some value => scan.attached option value
  | some option, none => scan.option option

def takesValue : Takes → Bool
  | .nothing | .help | .version => false
  | _ => true

/-- Short options behind one dash: flags, and at the end an option that takes what is left. -/
def Scan.short (grammar : Grammar) (scan : Scan) : List Char → Except Refusal Scan
  | [] => .ok scan
  | letter :: rest =>
    match grammar.options.find? fun option => option.letter == some letter with
    | none => .error (.unknownArgument (String.ofList ['-', letter]))
    | some option =>
      if takesValue option.takes then
        match rest with
        | [] => scan.option option
        | '=' :: value => scan.attached option (String.ofList value)
        | value => scan.attached option (String.ofList value)
      else do
        let scan ← scan.option option
        scan.short grammar rest

def Scan.positional (grammar : Grammar) (scan : Scan) (text : String) : Except Refusal Scan :=
  match grammar.positionals[scan.place]? with
  | some argument => do
    let scan ← scan.settle
    .ok { scan with pending := some (argument, some text), place := scan.place + 1 }
  | none =>
    if grammar.commands.isEmpty || (scan.isLiteral && grammar.commands.contains text) then
      .error (.unknownArgument text)
    else .error (.unknownCommand text)

def Scan.next (grammar : Grammar) (scan : Scan) (text : String) : Except Refusal Scan :=
  if scan.isLiteral then scan.positional grammar text
  else
    match text.toList with
    | ['-', '-'] => .ok { scan with isLiteral := true }
    | '-' :: '-' :: name => scan.long grammar name
    | '-' :: letter :: rest => scan.short grammar (letter :: rest)
    | _ =>
      match scan.pending with
      | some (argument, none) => .ok { scan with pending := some (argument, some text) }
      | _ => scan.positional grammar text

/-- Reads arguments up to a command: what was read, and the command with the arguments behind it. -/
def scanUntilCommand (grammar : Grammar) (scan : Scan) :
    List String → Except Refusal (Scan × Option (String × List String))
  | [] => .ok (scan, none)
  | text :: rest =>
    if !scan.isLiteral && !scan.isAwaiting && grammar.commands.contains text then
      .ok (scan, some (text, rest))
    else do
      let scan ← scan.next grammar text
      scanUntilCommand grammar scan rest

def readArguments (grammar : Grammar) (arguments : List String) :
    Except Refusal (List (String × Value)) := do
  let (scan, _) ← scanUntilCommand { grammar with commands := [] } .start arguments
  let scan ← scan.settle
  match grammar.positionals[scan.place]? with
  | some argument => .error (.missingArgument argument.name)
  | none => .ok scan.given

end CodeGateway.CommandLine
