import CodeGateway.Query.Basic
import CodeGateway.Query.Failure
import CodeGateway.Text.Search
import CodeGateway.Tool.Basic

namespace CodeGateway

inductive ArgumentFault where
  | badRecord (error : Decode.Error)
  | badUri (raw : String)

def ArgumentFault.message : ArgumentFault → String
  | badRecord error => error.message
  | badUri raw => s!"`uri` must be a file URI or a path, got {Text.quoted raw}"

inductive FailureClass where
  | noSymbol
  | generic
  deriving DecidableEq

def noSymbolKind : String := "symbol_not_found"

def noSymbolText : String := "No symbol at position"

/-- The kind tells that there is no symbol, or else the text of the failure does. -/
def Failure.classify (failure : Failure) : FailureClass :=
  if failure.kind? == some noSymbolKind ||
      Text.occursIn noSymbolText.toList failure.message.toList then .noSymbol
  else .generic

namespace Tool

def subject : Tool → String
  | dependencyGraph => "module"
  | callGraph => "function"
  | analyzeImpact => "symbol to analyze"
  | parserMetrics => "parser data"
  | reindexWorkspace => "workspace"
  | aiContext | relatedTests | symbolInfo => "symbol"

def remedies : Tool → List String
  | dependencyGraph =>
    ["Check that the path exists inside the workspace and the file is saved to disk",
      "Run `codegraph_get_parser_metrics` to confirm the file's language is parsed"]
  | callGraph =>
    ["Place the position on a function name or a call expression and retry",
      "Use `codegraph_get_symbol_info` to see what the server finds at this position"]
  | analyzeImpact =>
    ["Place the position on the declaration of the symbol you plan to change",
      "Use `codegraph_get_symbol_info` to confirm the symbol is indexed"]
  | aiContext =>
    ["Move the position onto a function, class or module name",
      "Save the file to disk and run `codegraph_reindex_workspace`, then retry"]
  | relatedTests =>
    ["Pass a `line` that points at the function or class you want tests for",
      "Save the file to disk and run `codegraph_reindex_workspace`, then retry"]
  | symbolInfo =>
    ["Place the position on an identifier; line and character are 0-indexed",
      "Save the file to disk and run `codegraph_reindex_workspace`, then retry"]
  | parserMetrics =>
    ["Check the `language` name, or omit it to get every language",
      "Run `codegraph_reindex_workspace`, query a file, and ask again"]
  | reindexWorkspace =>
    ["Check that the CodeGraph language server is running",
      "Retry the reindex"]

def argumentReport (tool : Tool) (fault : ArgumentFault) : Report :=
  [s!"# {tool.title}: invalid arguments", "", fault.message, "",
    s!"See the `{tool.name}` input schema in `tools/list` for the expected arguments."]

def numbered : (first : Nat) → List String → Report
  | _, [] => []
  | n, line :: rest => s!"{n}. {line}" :: numbered (n + 1) rest

def noSymbolCauses (tool : Tool) (uri : Option String) (position : Option Position) :
    String × List String :=
  match uri, position with
  | some uri, some position =>
    let path := Url.displayPath uri
    (s!"The language server found no {tool.subject} at line {position.line.toNat}, character " ++
        s!"{position.character.toNat} (0-indexed) of `{path}`.",
      ["The position is on whitespace, punctuation or inside a comment",
        s!"`{path}` has not been indexed by the language server yet",
        s!"Line {position.line.toNat} or character {position.character.toNat} is outside the file"])
  | some uri, none =>
    let path := Url.displayPath uri
    (s!"The language server found no {tool.subject} for `{path}`.",
      [s!"`{path}` has not been indexed by the language server yet",
        "The path does not point at a file inside the workspace"])
  | none, _ =>
    (s!"The language server has no {tool.subject} to report.",
      ["The workspace has not been indexed yet",
        "The `language` filter names no registered parser"])

def noSymbolReport (tool : Tool) (query : Query) : Report :=
  let (finding, causes) := tool.noSymbolCauses query.uri? query.position?
  [s!"# {tool.title}: no {tool.subject} found", "", finding, "", "Likely causes:"] ++
    numbered 1
      (causes ++ ["The file's language is not supported by the language server"]) ++
    ["", "Try:"] ++ tool.remedies.map ("- " ++ ·)

def genericReport (tool : Tool) (failure : Failure) : Report :=
  [s!"# {tool.title} failed", "",
    "The language server returned an error:", "",
    s!"> {failure.message}", "",
    "No partial result is available. Check that the CodeGraph language server is " ++
      "running (its log goes to stderr) and retry."]

def failureReport (tool : Tool) (query : Query) (failure : Failure) : Report :=
  match failure.classify with
  | .noSymbol => tool.noSymbolReport query
  | .generic => tool.genericReport failure

end Tool

end CodeGateway
