import CodeGateway.Decode.Record

namespace CodeGateway

structure Position where
  line : UInt32
  character : UInt32
  deriving DecidableEq

structure Range where
  start : Position
  stop : Position
  deriving DecidableEq

structure Location where
  uri : String
  range : Range
  deriving DecidableEq

def Position.origin : Position := ⟨0, 0⟩

def Range.empty : Range := ⟨.origin, .origin⟩

def Location.nowhere : Location := ⟨"", .empty⟩

def Location.displayLine (location : Location) : Nat :=
  (location.range.start.line + 1).toNat

/-- Whether one of the numbers has none behind it in 32 bits, so that counting from one goes
    over. -/
def Position.overflows (position : Position) : Bool :=
  position.line + 1 == 0 || position.character + 1 == 0

open Decode

def Position.decode : Json → Except Error Position :=
  Record.decode "Position"
    ((Record.of Position.mk).take (required "line" uint32) |>.take (required "character" uint32))

def Range.decode : Json → Except Error Range :=
  Record.decode "Range"
    ((Record.of Range.mk).take (required "start" Position.decode)
      |>.take (required "end" Position.decode))

def Location.decode : Json → Except Error Location :=
  Record.decode "SourceLocation"
    ((Record.of Location.mk).take (required "uri" string)
      |>.take (defaulted "range" Range.decode .empty))

end CodeGateway

namespace CodeGateway.Json

def ofUInt32 (n : UInt32) : Json := .int n.toNat

def ofUInt64 (n : UInt64) : Json := .int n.toNat

def ofList {α : Type} (encode : α → Json) (items : List α) : Json :=
  .array (items.map encode)

def memberIf {α : Type} (key : String) (encode : α → Json) : Option α → List (String × Json)
  | some a => [(key, encode a)]
  | none => []

end CodeGateway.Json

namespace CodeGateway

def Position.encode (position : Position) : Json :=
  .object [("character", .ofUInt32 position.character), ("line", .ofUInt32 position.line)]

def Range.encode (range : Range) : Json :=
  .object [("end", range.stop.encode), ("start", range.start.encode)]

def Location.encode (location : Location) : Json :=
  .object [("range", location.range.encode), ("uri", .string location.uri)]

end CodeGateway
