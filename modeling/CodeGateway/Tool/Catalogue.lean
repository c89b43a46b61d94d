import CodeGateway.Tool.Failure
import CodeGateway.Workspace.Path

namespace CodeGateway

open Decode

structure ToolResult where
  text : String
  isError : Bool
  deriving DecidableEq

def ToolResult.encode (result : ToolResult) : Json :=
  .object ([("content", .array [.object [("text", .string result.text),
      ("type", .string "text")]])] ++
    (if result.isError then [("isError", .bool true)] else []))

structure Catalogue where
  root : List Char
  defaults : QueryDefaults
  tools : List Tool

namespace Catalogue

def ofRoot (root : List Char) (defaults : QueryDefaults) : Catalogue :=
  ⟨root, defaults, Tool.all⟩

def dispose (catalogue : Catalogue) : Catalogue :=
  { catalogue with tools := [] }

def isDisposed (catalogue : Catalogue) : Bool :=
  catalogue.tools.isEmpty

def find? (catalogue : Catalogue) (name : String) : Option Tool :=
  catalogue.tools.find? fun tool => tool.name == name

def readArguments {α : Type} (decode : Json → Except Error α) (arguments : Json) :
    Except ArgumentFault α :=
  let arguments := match arguments with
    | .null => .object []
    | given => given
  (decode arguments).mapError .badRecord

def resolveUri (catalogue : Catalogue) (raw : String) : Except ArgumentFault String :=
  match documentUri? raw catalogue.root with
  | some uri => .ok uri
  | none => .error (.badUri raw)

def prepare (catalogue : Catalogue) (tool : Tool) (arguments : Json) :
    Except ArgumentFault Query :=
  match tool with
  | .dependencyGraph => do
    let input ← readArguments DependencyGraphInput.decode arguments
    let uri ← catalogue.resolveUri input.uri
    .ok (.dependencyGraph ({ input with uri }.resolve catalogue.defaults))
  | .callGraph => do
    let input ← readArguments CallGraphInput.decode arguments
    let uri ← catalogue.resolveUri input.uri
    .ok (.callGraph ({ input with uri }.resolve catalogue.defaults))
  | .analyzeImpact => do
    let input ← readArguments ImpactInput.decode arguments
    let uri ← catalogue.resolveUri input.uri
    .ok (.impact ({ input with uri }.resolve catalogue.defaults))
  | .aiContext => do
    let input ← readArguments AiContextInput.decode arguments
    let uri ← catalogue.resolveUri input.uri
    .ok (.aiContext ({ input with uri }.resolve catalogue.defaults))
  | .relatedTests => do
    let input ← readArguments RelatedTestsInput.decode arguments
    let uri ← catalogue.resolveUri input.uri
    .ok (.relatedTests ({ input with uri }.resolve catalogue.defaults))
  | .symbolInfo => do
    let input ← readArguments SymbolInfoInput.decode arguments
    let uri ← catalogue.resolveUri input.uri
    .ok (.symbolInfo ({ input with uri }.resolve catalogue.defaults))
  | .parserMetrics => do
    let input ← readArguments ParserMetricsInput.decode arguments
    .ok (.parserMetrics input.resolve)
  | .reindexWorkspace => .ok .reindex

/-- What becomes of a call before the engine is asked. -/
inductive Prepared where
  | answered (result : ToolResult)
  | query (query : Query)

def unknownToolText (name : String) : String :=
  s!"Unknown tool: {name}\n\nCall `tools/list` to see the available tools."

def call (catalogue : Catalogue) (name : String) (arguments : Json) : Prepared :=
  match catalogue.find? name with
  | none => .answered ⟨unknownToolText name, true⟩
  | some tool =>
    match catalogue.prepare tool arguments with
    | .ok query => .query query
    | .error fault => .answered ⟨(tool.argumentReport fault).text, true⟩

def preparingMessage? (catalogue : Catalogue) (name : String) (arguments : Json) :
    Option String :=
  match catalogue.call name arguments with
  | .query query => some query.statusLine
  | .answered _ => none

end Catalogue

namespace Query

def tool : Query → Tool
  | dependencyGraph _ => .dependencyGraph
  | callGraph _ => .callGraph
  | impact _ => .analyzeImpact
  | aiContext _ => .aiContext
  | relatedTests _ => .relatedTests
  | symbolInfo _ => .symbolInfo
  | parserMetrics _ => .parserMetrics
  | reindex => .reindexWorkspace

def result (query : Query) (outcome : Except Failure query.Reply) : ToolResult :=
  match outcome with
  | .ok reply => ⟨(query.report reply).text, false⟩
  | .error failure => ⟨(query.tool.failureReport query failure).text, true⟩

end Query

def Catalogue.callTool {m : Type → Type} [Monad m] (catalogue : Catalogue)
    (ask : (query : Query) → m (Except Failure query.Reply)) (name : String) (arguments : Json) :
    m ToolResult :=
  match catalogue.call name arguments with
  | .answered result => pure result
  | .query query => do return query.result (← ask query)

end CodeGateway
