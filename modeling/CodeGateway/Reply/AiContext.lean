import CodeGateway.Reply.Location
import CodeGateway.Text.LowerCase
import CodeGateway.Text.Search

namespace CodeGateway

open Decode

inductive ContextKind where
  | function
  | classLike
  | module
  | other
  deriving DecidableEq

namespace ContextKind

def name : ContextKind → String
  | function => "function"
  | classLike => "class"
  | module => "module"
  | other => "other"

def choice : Choice ContextKind :=
  ⟨[function, classLike, module].map (fun kind => (kind.name, kind)), some other⟩

def label : ContextKind → String
  | other => "symbol"
  | kind => kind.name

end ContextKind

/-- How a related symbol connects to the primary one. A label that nobody knows is kept as it was
    sent. -/
inductive Relationship where
  | calls
  | calledBy
  | uses
  | usedBy
  | inherits
  | implements
  | tests
  | similar
  | other (label : String)
  deriving DecidableEq

namespace Relationship

def label : Relationship → String
  | calls => "calls"
  | calledBy => "called_by"
  | uses => "uses"
  | usedBy => "used_by"
  | inherits => "inherits"
  | implements => "implements"
  | tests => "tests"
  | similar => "similar"
  | other label => label

def ofLabel (label : String) : Relationship :=
  match label with
  | "calls" => calls
  | "called_by" => calledBy
  | "uses" => uses
  | "used_by" => usedBy
  | "inherits" => inherits
  | "implements" => implements
  | "tests" => tests
  | "similar" => similar
  | label => other label

@[simp] theorem label_ofLabel (label : String) : (ofLabel label).label = label := by
  unfold ofLabel
  split <;> rfl

def isKnown : Relationship → Bool
  | other _ => false
  | _ => true

def decode (json : Json) : Except Error Relationship :=
  (string json).map ofLabel

end Relationship

structure PrimaryContext where
  kind : ContextKind
  name : String
  code : String
  language : String
  location : Location

structure RelatedSymbol where
  name : String
  relationship : Relationship
  code : String
  location : Location
  relevanceScore : Float

structure DependencyInfo where
  name : String
  kind : String
  code : Option String

structure UsageExample where
  code : String
  location : Location
  description : Option String

structure ArchitectureInfo where
  module : String
  layer : Option String
  neighbors : List String

structure ContextMetadata where
  totalTokens : UInt64
  queryTime : UInt64

structure AiContext where
  primary : PrimaryContext
  related : List RelatedSymbol
  dependencies : List DependencyInfo
  examples : Option (List UsageExample)
  architecture : Option ArchitectureInfo
  metadata : Option ContextMetadata

def RelatedSymbol.relevance (symbol : RelatedSymbol) : Float :=
  if symbol.relevanceScore.isNaN then 0.0
  else if symbol.relevanceScore < 0.0 then 0.0
  else if symbol.relevanceScore > 1.0 then 1.0
  else symbol.relevanceScore

def mentionsTest (text : String) : Bool :=
  Text.occursIn ['t', 'e', 's', 't'] (Text.lowerCase text.toList)

def RelatedSymbol.looksLikeTest (symbol : RelatedSymbol) : Bool :=
  mentionsTest symbol.relationship.label || mentionsTest symbol.name

def PrimaryContext.decode : Json → Except Error PrimaryContext :=
  Record.decode "PrimaryContext"
    ((Record.of PrimaryContext.mk).take (defaulted "type" ContextKind.choice.decode .function)
      |>.take (required "name" string)
      |>.take (defaulted "code" string "")
      |>.take (defaulted "language" string "")
      |>.take (defaulted "location" Location.decode .nowhere))

def RelatedSymbol.decode : Json → Except Error RelatedSymbol :=
  Record.decode "RelatedSymbol"
    ((Record.of RelatedSymbol.mk).take (required "name" string)
      |>.take (required "relationship" Relationship.decode)
      |>.take (defaulted "code" string "")
      |>.take (defaulted "location" Location.decode .nowhere)
      |>.take (defaulted "relevanceScore" float 0.0))

def DependencyInfo.decode : Json → Except Error DependencyInfo :=
  Record.decode "DependencyInfo"
    ((Record.of DependencyInfo.mk).take (required "name" string)
      |>.take (defaulted "type" string "")
      |>.take (omissible "code" string))

def UsageExample.decode : Json → Except Error UsageExample :=
  Record.decode "UsageExample"
    ((Record.of UsageExample.mk).take (required "code" string)
      |>.take (defaulted "location" Location.decode .nowhere)
      |>.take (omissible "description" string))

def ArchitectureInfo.decode : Json → Except Error ArchitectureInfo :=
  Record.decode "ArchitectureInfo"
    ((Record.of ArchitectureInfo.mk).take (required "module" string)
      |>.take (omissible "layer" string)
      |>.take (defaulted "neighbors" (list string) []))

def ContextMetadata.decode : Json → Except Error ContextMetadata :=
  Record.decode "ContextMetadata"
    ((Record.of ContextMetadata.mk).take (defaulted "totalTokens" uint64 0)
      |>.take (defaulted "queryTime" uint64 0))

def AiContext.decode : Json → Except Error AiContext :=
  Record.decode "AiContextResponse"
    ((Record.of AiContext.mk).take (required "primaryContext" PrimaryContext.decode)
      |>.take (defaulted "relatedSymbols" (list RelatedSymbol.decode) [])
      |>.take (defaulted "dependencies" (list DependencyInfo.decode) [])
      |>.take (omissible "usageExamples" (list UsageExample.decode))
      |>.take (omissible "architecture" ArchitectureInfo.decode)
      |>.take (omissible "metadata" ContextMetadata.decode))

def PrimaryContext.encode (primary : PrimaryContext) : Json :=
  .object [("code", .string primary.code), ("language", .string primary.language),
    ("location", primary.location.encode), ("name", .string primary.name),
    ("type", .string primary.kind.name)]

def RelatedSymbol.encode (symbol : RelatedSymbol) : Json :=
  .object [("code", .string symbol.code), ("location", symbol.location.encode),
    ("name", .string symbol.name), ("relationship", .string symbol.relationship.label),
    ("relevanceScore", .float symbol.relevanceScore)]

def DependencyInfo.encode (dependency : DependencyInfo) : Json :=
  .object (Json.memberIf "code" .string dependency.code ++
    [("name", .string dependency.name), ("type", .string dependency.kind)])

def UsageExample.encode (usage : UsageExample) : Json :=
  .object ([("code", .string usage.code)] ++
    Json.memberIf "description" .string usage.description ++
    [("location", usage.location.encode)])

def ArchitectureInfo.encode (architecture : ArchitectureInfo) : Json :=
  .object (Json.memberIf "layer" .string architecture.layer ++
    [("module", .string architecture.module),
      ("neighbors", .ofList .string architecture.neighbors)])

def ContextMetadata.encode (metadata : ContextMetadata) : Json :=
  .object [("queryTime", .ofUInt64 metadata.queryTime),
    ("totalTokens", .ofUInt64 metadata.totalTokens)]

def AiContext.encode (context : AiContext) : Json :=
  .object (Json.memberIf "architecture" ArchitectureInfo.encode context.architecture ++
    [("dependencies", .ofList DependencyInfo.encode context.dependencies)] ++
    Json.memberIf "metadata" ContextMetadata.encode context.metadata ++
    [("primaryContext", context.primary.encode),
      ("relatedSymbols", .ofList RelatedSymbol.encode context.related)] ++
    Json.memberIf "usageExamples" (Json.ofList UsageExample.encode) context.examples)

end CodeGateway
