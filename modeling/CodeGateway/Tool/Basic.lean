import CodeGateway.Json.Basic
import CodeGateway.Query.Options

namespace CodeGateway

inductive Tool where
  | dependencyGraph
  | callGraph
  | analyzeImpact
  | aiContext
  | relatedTests
  | symbolInfo
  | parserMetrics
  | reindexWorkspace
  deriving DecidableEq

inductive ArgumentKind where
  | text
  | integer
  | boolean
  | oneOf (names : List String)

structure Argument where
  name : String
  kind : ArgumentKind
  description : String
  isRequired : Bool

namespace ArgumentKind

def encode : ArgumentKind → List (String × Json)
  | text => [("type", .string "string")]
  | integer => [("type", .string "integer")]
  | boolean => [("type", .string "boolean")]
  | oneOf names => [("enum", .array (names.map .string)), ("type", .string "string")]

end ArgumentKind

def Argument.encode (argument : Argument) : Json :=
  .object (("description", .string argument.description) :: argument.kind.encode)

def schemaOf (arguments : List Argument) : Json :=
  let required :=
    (arguments.filter Argument.isRequired).map fun argument => Json.string argument.name
  .object ([("properties", .ofMembers (arguments.map fun argument =>
      (argument.name, argument.encode)))] ++
    (if required.isEmpty then [] else [("required", .array required)]) ++
    [("type", .string "object")])

namespace Tool

def all : List Tool :=
  [dependencyGraph, callGraph, analyzeImpact, aiContext, relatedTests, symbolInfo, parserMetrics,
    reindexWorkspace]

def name : Tool → String
  | dependencyGraph => "codegraph_get_dependency_graph"
  | callGraph => "codegraph_get_call_graph"
  | analyzeImpact => "codegraph_analyze_impact"
  | aiContext => "codegraph_get_ai_context"
  | relatedTests => "codegraph_find_related_tests"
  | symbolInfo => "codegraph_get_symbol_info"
  | parserMetrics => "codegraph_get_parser_metrics"
  | reindexWorkspace => "codegraph_reindex_workspace"

def title : Tool → String
  | dependencyGraph => "Dependency Graph"
  | callGraph => "Call Graph"
  | analyzeImpact => "Impact Analysis"
  | aiContext => "AI Context"
  | relatedTests => "Related Tests"
  | symbolInfo => "Symbol Information"
  | parserMetrics => "Parser Metrics"
  | reindexWorkspace => "Reindex Workspace"

def description : Tool → String
  | dependencyGraph =>
    "Get the import/dependency graph around a file: which modules it imports " ++
      "and which modules import it."
  | callGraph =>
    "Get the call graph of the function at a position: who calls it and what " ++
      "it calls."
  | analyzeImpact =>
    "Analyze what would break if the symbol at a position were modified, " ++
      "deleted or renamed. Reports direct and indirect impact and affected tests."
  | aiContext =>
    "Get the source of the symbol at a position together with related symbols, " ++
      "dependencies and architecture notes, sized to a token budget."
  | relatedTests => "Find tests related to the code at a position."
  | symbolInfo =>
    "Get documentation, definition and references for the symbol at a position."
  | parserMetrics =>
    "Get parsing statistics per language: files parsed, failures, entities " ++
      "and relationships extracted."
  | reindexWorkspace =>
    "Clear the language server's code graph. Files are parsed again the next " ++
      "time a tool asks about them. Use when results look stale."

def uriArgument : Argument :=
  ⟨"uri", .text, "File URI or path (relative paths resolve against the workspace root)", true⟩

def lineArgument : Argument :=
  ⟨"line", .integer, "0-indexed line number", true⟩

def characterArgument : Argument :=
  ⟨"character", .integer, "0-indexed character offset (default: 0)", false⟩

def arguments : Tool → List Argument
  | dependencyGraph =>
    [uriArgument,
      ⟨"depth", .integer, "How many levels of dependencies to follow (default: 3)", false⟩,
      ⟨"includeExternal", .boolean, "Include external packages (default: false)", false⟩,
      ⟨"direction", .oneOf ["imports", "importedBy", "both"],
        "Which edges to follow (default: both)", false⟩]
  | callGraph =>
    [uriArgument, lineArgument, characterArgument,
      ⟨"depth", .integer, "How many call levels to follow (default: 3)", false⟩,
      ⟨"direction", .oneOf ["callers", "callees", "both"],
        "Which side of the call graph to return (default: both)", false⟩]
  | analyzeImpact =>
    [uriArgument, lineArgument, characterArgument,
      ⟨"changeType", .oneOf ["modify", "delete", "rename"],
        "The change to evaluate (default: modify)", false⟩]
  | aiContext =>
    [uriArgument, lineArgument, characterArgument,
      ⟨"intent", .oneOf ["explain", "modify", "debug", "test"],
        "What the context will be used for (default: explain)", false⟩,
      ⟨"maxTokens", .integer, "Token budget for the returned context (default: 4000)", false⟩]
  | relatedTests =>
    [uriArgument,
      ⟨"line", .integer, "0-indexed line of the code to find tests for (default: 0)", false⟩]
  | symbolInfo => [uriArgument, lineArgument, characterArgument]
  | parserMetrics =>
    [⟨"language", .text, "Optional: only report this language (e.g., 'rust')", false⟩]
  | reindexWorkspace => []

def definition (tool : Tool) : Json :=
  .object [("description", .string tool.description), ("inputSchema", schemaOf tool.arguments),
    ("name", .string tool.name)]

end Tool

end CodeGateway
