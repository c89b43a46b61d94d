import CodeGateway.Decode.Error

namespace CodeGateway.Json

inductive Cause where
  | endInValue
  | endInString
  | endInList
  | endInObject
  | expectedColon
  | expectedListEnd
  | expectedObjectEnd
  | expectedWord
  | expectedValue
  | invalidEscape
  | invalidNumber
  | numberOutOfRange
  | invalidText
  | controlCharacter
  | keyNotString
  | loneSurrogate
  | trailingComma
  | trailingBytes
  | endOfHexEscape
  | tooDeep
  | content (error : Decode.Error)

def Cause.message : Cause → String
  | .endInValue => "EOF while parsing a value"
  | .endInString => "EOF while parsing a string"
  | .endInList => "EOF while parsing a list"
  | .endInObject => "EOF while parsing an object"
  | .expectedColon => "expected `:`"
  | .expectedListEnd => "expected `,` or `]`"
  | .expectedObjectEnd => "expected `,` or `\x7d`"
  | .expectedWord => "expected ident"
  | .expectedValue => "expected value"
  | .invalidEscape => "invalid escape"
  | .invalidNumber => "invalid number"
  | .numberOutOfRange => "number out of range"
  | .invalidText => "invalid unicode code point"
  | .controlCharacter => "control character (\\u0000-\\u001F) found while parsing a string"
  | .keyNotString => "key must be a string"
  | .loneSurrogate => "lone leading surrogate in hex escape"
  | .trailingComma => "trailing comma"
  | .trailingBytes => "trailing characters"
  | .endOfHexEscape => "unexpected end of hex escape"
  | .tooDeep => "recursion limit exceeded"
  | .content error => error.message

/-- A cause, and how many bytes are left behind the place where it shows. -/
structure Fault where
  cause : Cause
  left : Nat

/-- A cause at a line, counted from one, and a column: the bytes of that line up to the fault. -/
structure TextError where
  cause : Cause
  line : Nat
  column : Nat

def TextError.message (error : TextError) : String :=
  s!"{error.cause.message} at line {error.line} column {error.column}"

def position (bytes : List UInt8) : Nat × Nat :=
  bytes.foldl (fun place byte => if byte == 10 then (place.1 + 1, 0) else (place.1, place.2 + 1))
    (1, 0)

def Fault.locate (fault : Fault) (bytes : List UInt8) : TextError :=
  let place := position (bytes.take (bytes.length - fault.left))
  ⟨fault.cause, place.1, place.2⟩

abbrev Reading (α : Type) := Except Fault (α × List UInt8)

def faultAt {α : Type} (cause : Cause) (rest : List UInt8) : Except Fault α :=
  .error ⟨cause, rest.length⟩

def faultAfter {α : Type} (cause : Cause) (rest : List UInt8) : Except Fault α :=
  .error ⟨cause, rest.length - 1⟩

end CodeGateway.Json
