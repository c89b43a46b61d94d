import CodeGateway.Query.Options
import CodeGateway.Text.Blank

namespace CodeGateway

open Decode

structure DependencyGraphRequest where
  uri : String
  depth : UInt32
  includeExternal : Bool
  direction : DependencyDirection
  deriving DecidableEq

structure CallGraphRequest where
  uri : String
  position : Position
  depth : UInt32
  direction : CallDirection
  includeExternal : Bool
  deriving DecidableEq

structure ImpactRequest where
  uri : String
  position : Position
  change : ChangeType
  deriving DecidableEq

structure AiContextRequest where
  uri : String
  position : Position
  intent : Intent
  maxTokens : UInt32
  deriving DecidableEq

structure SymbolRequest where
  uri : String
  position : Position
  deriving DecidableEq

structure ParserMetricsRequest where
  language : Option String
  deriving DecidableEq

def DependencyGraphRequest.encode (request : DependencyGraphRequest) : Json :=
  .object [("depth", .ofUInt32 request.depth), ("direction", .string request.direction.name),
    ("includeExternal", .bool request.includeExternal), ("uri", .string request.uri)]

def CallGraphRequest.encode (request : CallGraphRequest) : Json :=
  .object [("depth", .ofUInt32 request.depth), ("direction", .string request.direction.name),
    ("includeExternal", .bool request.includeExternal), ("position", request.position.encode),
    ("uri", .string request.uri)]

def ImpactRequest.encode (request : ImpactRequest) : Json :=
  .object [("analysisType", .string request.change.name), ("position", request.position.encode),
    ("uri", .string request.uri)]

def AiContextRequest.encode (request : AiContextRequest) : Json :=
  .object [("contextType", .string request.intent.name),
    ("maxTokens", .ofUInt32 request.maxTokens), ("position", request.position.encode),
    ("uri", .string request.uri)]

def SymbolRequest.encode (request : SymbolRequest) : Json :=
  .object [("position", request.position.encode), ("uri", .string request.uri)]

def ParserMetricsRequest.encode (request : ParserMetricsRequest) : Json :=
  .object (Json.memberIf "language" .string request.language)

structure DependencyGraphInput where
  uri : String
  depth : Option UInt32
  includeExternal : Option Bool
  direction : Option DependencyDirection

structure CallGraphInput where
  uri : String
  line : UInt32
  character : Option UInt32
  depth : Option UInt32
  direction : Option CallDirection
  includeExternal : Option Bool

structure ImpactInput where
  uri : String
  line : UInt32
  character : Option UInt32
  changeType : Option ChangeType

structure AiContextInput where
  uri : String
  line : UInt32
  character : Option UInt32
  intent : Option Intent
  maxTokens : Option UInt32

structure RelatedTestsInput where
  uri : String
  line : Option UInt32

structure SymbolInfoInput where
  uri : String
  line : UInt32
  character : Option UInt32

structure ParserMetricsInput where
  language : Option String

def DependencyGraphInput.decode : Json → Except Error DependencyGraphInput :=
  Record.decode "DependencyGraphInput"
    ((Record.of DependencyGraphInput.mk).take (required "uri" string)
      |>.take (optional "depth" uint32)
      |>.take (optional "includeExternal" bool)
      |>.take (optional "direction" DependencyDirection.choice.decode))

def CallGraphInput.decode : Json → Except Error CallGraphInput :=
  Record.decode "CallGraphInput"
    ((Record.of CallGraphInput.mk).take (required "uri" string)
      |>.take (required "line" uint32)
      |>.take (optional "character" uint32)
      |>.take (optional "depth" uint32)
      |>.take (optional "direction" CallDirection.choice.decode)
      |>.take (optional "includeExternal" bool))

def ImpactInput.decode : Json → Except Error ImpactInput :=
  Record.decode "ImpactInput"
    ((Record.of ImpactInput.mk).take (required "uri" string)
      |>.take (required "line" uint32)
      |>.take (optional "character" uint32)
      |>.take (optional "changeType" ChangeType.choice.decode))

def AiContextInput.decode : Json → Except Error AiContextInput :=
  Record.decode "AiContextInput"
    ((Record.of AiContextInput.mk).take (required "uri" string)
      |>.take (required "line" uint32)
      |>.take (optional "character" uint32)
      |>.take (optional "intent" Intent.choice.decode)
      |>.take (optional "maxTokens" uint32))

def RelatedTestsInput.decode : Json → Except Error RelatedTestsInput :=
  Record.decode "RelatedTestsInput"
    ((Record.of RelatedTestsInput.mk).take (required "uri" string)
      |>.take (optional "line" uint32))

def SymbolInfoInput.decode : Json → Except Error SymbolInfoInput :=
  Record.decode "SymbolInfoInput"
    ((Record.of SymbolInfoInput.mk).take (required "uri" string)
      |>.take (required "line" uint32)
      |>.take (optional "character" uint32))

def ParserMetricsInput.decode : Json → Except Error ParserMetricsInput :=
  Record.decode "ParserMetricsInput"
    ((Record.of ParserMetricsInput.mk).take (optional "language" string))

def DependencyGraphInput.resolve (input : DependencyGraphInput) (defaults : QueryDefaults) :
    DependencyGraphRequest :=
  ⟨input.uri, input.depth.getD defaults.depth,
    input.includeExternal.getD defaults.includeExternal,
    input.direction.getD defaults.dependencyDirection⟩

def CallGraphInput.resolve (input : CallGraphInput) (defaults : QueryDefaults) :
    CallGraphRequest :=
  ⟨input.uri, ⟨input.line, input.character.getD defaults.character⟩,
    input.depth.getD defaults.depth, input.direction.getD defaults.callDirection,
    input.includeExternal.getD defaults.includeExternal⟩

def ImpactInput.resolve (input : ImpactInput) (defaults : QueryDefaults) : ImpactRequest :=
  ⟨input.uri, ⟨input.line, input.character.getD defaults.character⟩,
    input.changeType.getD defaults.changeType⟩

def AiContextInput.resolve (input : AiContextInput) (defaults : QueryDefaults) :
    AiContextRequest :=
  ⟨input.uri, ⟨input.line, input.character.getD defaults.character⟩,
    input.intent.getD defaults.intent, input.maxTokens.getD defaults.maxTokens⟩

/-- Related tests are asked for as context with the intent to test, whatever the default intent. -/
def RelatedTestsInput.resolve (input : RelatedTestsInput) (defaults : QueryDefaults) :
    AiContextRequest :=
  ⟨input.uri, ⟨input.line.getD defaults.testsLine, defaults.character⟩, .test,
    defaults.maxTokens⟩

def ParserMetricsInput.resolve (input : ParserMetricsInput) : ParserMetricsRequest :=
  ⟨input.language.filter fun language => !Text.isBlankText language⟩

def SymbolInfoInput.resolve (input : SymbolInfoInput) (defaults : QueryDefaults) :
    SymbolRequest :=
  ⟨input.uri, ⟨input.line, input.character.getD defaults.character⟩⟩

end CodeGateway
