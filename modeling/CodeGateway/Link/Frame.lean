import CodeGateway.Json.Printer
import CodeGateway.Json.Reader
import CodeGateway.Text.Blank

namespace CodeGateway.Frame

inductive Fault where
  | notText (invalid : Utf8.Invalid)
  | badLength (value : String)
  | noLength
  | endInHeader
  | endInBody
  | badBody (error : Json.TextError)

namespace Fault

def message : Fault → String
  | notText invalid => invalid.message
  | badLength value => s!"invalid Content-Length: {value}"
  | noLength => "message without Content-Length"
  | endInHeader => "stream closed inside message header"
  | endInBody => "early eof"
  | badBody error => error.message

def isEnd : Fault → Bool
  | endInHeader | endInBody => true
  | _ => false

end Fault

def lengthName : List Char := "content-length".toList

/-- The length of the longest run of bytes that memory has room for. -/
def maxBody : Nat := 0x7FFFFFFFFFFFFFFF

def header (length : Nat) : List Char :=
  "Content-Length: ".toList ++ Nat.toDigits 10 length ++ ['\r', '\n', '\r', '\n']

def encode (message : Json) : List UInt8 :=
  let body := message.renderBytes
  Utf8.encode (header body.length) ++ body

def splitLine : List UInt8 → Option (List UInt8 × List UInt8)
  | [] => none
  | byte :: rest =>
    if byte == 0x0A then some ([byte], rest)
    else (splitLine rest).map fun parts => (byte :: parts.1, parts.2)

def isLineEnd (c : Char) : Bool :=
  c == '\r' || c == '\n'

def trimLineEnd (line : List Char) : List Char :=
  (line.reverse.dropWhile isLineEnd).reverse

def readDigits (digits : List Char) : Option Nat :=
  if digits.isEmpty || !digits.all Char.isDigit then none
  else
    let number := digits.foldl (fun n c => n * 10 + (c.toNat - 0x30)) 0
    if number < 0x10000000000000000 then some number else none

def readLength : List Char → Option Nat
  | '+' :: digits => readDigits digits
  | digits => readDigits digits

def splitColon (line : List Char) : Option (List Char × List Char) :=
  match line.dropWhile (· != ':') with
  | _ :: value => some (line.takeWhile (· != ':'), value)
  | [] => none

inductive Line where
  | blank
  | other
  | length (value : Nat)
  | badLength (value : String)

def readLine (line : List Char) : Line :=
  let line := trimLineEnd line
  if line.isEmpty then .blank
  else
    match splitColon line with
    | none => .other
    | some (name, value) =>
      if (Text.trimChars name).map Char.toLower == lengthName then
        match readLength (Text.trimChars value) with
        | some length => .length length
        | none => .badLength (String.ofList (Text.trimChars value))
      else .other

inductive Reading where
  | message (value : Json) (rest : List UInt8)
  | fault (fault : Fault) (rest : List UInt8)
  | done
  /-- The beginning of a frame, perhaps an empty one; more has to come. -/
  | more
  /-- A header with whose body the reader breaks off: there is no room for that many bytes. -/
  | noRoom

inductive HeaderReading where
  | body (length : Nat) (rest : List UInt8)
  | fault (fault : Fault) (rest : List UInt8)
  | done
  | more

/-- The next line. The last one needs no line end when nothing more will come. -/
def nextLine (ended : Bool) (input : List UInt8) : Option (List UInt8 × List UInt8) :=
  match splitLine input with
  | some parts => some parts
  | none => if ended && !input.isEmpty then some (input, []) else none

/-- Reads the lines of a header. `started` when a line of it was read, and `length` is what the last
    length line said. The fuel is the number of bytes. -/
def readHeader (ended : Bool) :
    (fuel : Nat) → (started : Bool) → (length : Option Nat) → List UInt8 → HeaderReading
  | 0, _, _, _ => .more
  | fuel + 1, started, length, input =>
    match nextLine ended input with
    | none => if !ended then .more else if started then .fault .endInHeader [] else .done
    | some (bytes, rest) =>
      match Utf8.decode bytes with
      | .error invalid => .fault (.notText invalid) rest
      | .ok line =>
        match readLine line with
        | .blank =>
          if !started then readHeader ended fuel false length rest
          else
            match length with
            | some length => .body length rest
            | none => .fault .noLength rest
        | .other => readHeader ended fuel true length rest
        | .length value => readHeader ended fuel true (some value) rest
        | .badLength value => .fault (.badLength value) rest

/-- Reads one frame. `ended` when nothing will come after these bytes. Room is made for the body
    before any byte of it is looked at. -/
def read (ended : Bool) (input : List UInt8) : Reading :=
  match readHeader ended (input.length + 1) false none input with
  | .done => .done
  | .more => .more
  | .fault fault rest => .fault fault rest
  | .body length rest =>
    let body := rest.take length
    if maxBody < length then .noRoom
    else if body.length < length then (if ended then .fault .endInBody [] else .more)
    else
      match Json.parse body with
      | .ok value => .message value (rest.drop length)
      | .error error => .fault (.badBody error) (rest.drop length)

def lacking (input : List UInt8) : Nat :=
  match readHeader false (input.length + 1) false none input with
  | .body length rest => max 1 (length - rest.length)
  | _ => 1

inductive Stop where
  | fault (fault : Fault)
  | done
  | more
  | noRoom

/-- All frames up to the first fault or the end: the messages, why reading stopped, and the bytes
    not read. The fuel is the number of bytes. -/
def readAllFrom (ended : Bool) :
    (fuel : Nat) → (done : List Json) → List UInt8 → List Json × Stop × List UInt8
  | 0, done, input => (done.reverse, .more, input)
  | fuel + 1, done, input =>
    match read ended input with
    | .message value rest => readAllFrom ended fuel (value :: done) rest
    | .fault fault rest => (done.reverse, .fault fault, rest)
    | .done => (done.reverse, .done, [])
    | .more => (done.reverse, .more, input)
    | .noRoom => (done.reverse, .noRoom, [])

def readAll (ended : Bool) (input : List UInt8) : List Json × Stop × List UInt8 :=
  readAllFrom ended (input.length + 1) [] input

end CodeGateway.Frame
