import CodeGateway.Reply.AiContext
import CodeGateway.Report.Basic
import CodeGateway.Text.Blank

namespace CodeGateway.AiContext

/-- How many related symbols a context report shows. The engine puts the most relevant first. -/
def maxRelated : Nat := 5

def codeBlock (language code : String) : Report :=
  fenced language (Text.trimEnd code)

def headSection (context : AiContext) : Report :=
  [s!"# AI Context: `{context.primary.name}` ({context.primary.kind.label})", ""] ++
    Report.whenSome
      (fun metadata =>
        [s!"_~{metadata.totalTokens.toNat} tokens · {metadata.queryTime.toNat} ms_", ""])
      context.metadata ++
    [s!"**Location:** {context.primary.location.label}", ""] ++
    (if Text.isBlankText context.primary.code then
      [s!"_Source not available for `{context.primary.name}`._"]
    else codeBlock context.primary.language context.primary.code)

def relatedLines (language : String) (symbol : RelatedSymbol) : Report :=
  [s!"### `{symbol.name}` ({symbol.relationship.label}, {percent symbol.relevance} relevant)", "",
    symbol.location.label] ++
    (if Text.isBlankText symbol.code then [] else codeBlock language symbol.code) ++
    [""]

def relatedHeader (total : Nat) : String :=
  if maxRelated < total then s!"## Related Symbols (showing {maxRelated} of {total})"
  else s!"## Related Symbols ({total})"

def relatedSection (context : AiContext) : Report :=
  ["", relatedHeader context.related.length, ""] ++
    (if context.related.isEmpty then
      [s!"_No related symbols found. `{context.primary.name}` has no indexed callers, callees " ++
        "or type relationships, or the token budget was used up by the primary code._"]
    else []) ++
    (context.related.take maxRelated).flatMap (relatedLines context.primary.language)

def dependencyLine (dependency : DependencyInfo) : String :=
  if dependency.kind.isEmpty then s!"- `{dependency.name}`"
  else s!"- `{dependency.name}` ({dependency.kind})"

def dependencySection (context : AiContext) : Report :=
  if context.dependencies.isEmpty then []
  else
    ["", s!"## Dependencies ({context.dependencies.length})", ""] ++
      context.dependencies.map dependencyLine

def exampleLines (language : String) (usage : UsageExample) : Report :=
  [s!"**{usage.location.label}**"] ++
    Report.whenSome (fun description => [description]) usage.description ++
    codeBlock language usage.code

def exampleSection (context : AiContext) : Report :=
  match context.examples with
  | none | some [] => []
  | some (first :: rest) =>
    ["", s!"## Usage Examples ({(first :: rest).length})", ""] ++
      (first :: rest).flatMap (exampleLines context.primary.language)

def architectureLines (architecture : ArchitectureInfo) : Report :=
  ["", "## Architecture", "", s!"**Module:** {architecture.module}"] ++
    Report.whenSome (fun layer => [s!"**Layer:** {layer}"]) architecture.layer ++
    (if architecture.neighbors.isEmpty then ["**Neighbors:** _none_"]
    else ["**Neighbors:** " ++ ", ".intercalate architecture.neighbors])

def report (context : AiContext) : Report :=
  context.headSection ++ context.relatedSection ++ context.dependencySection ++
    context.exampleSection ++ Report.whenSome architectureLines context.architecture

def tests (context : AiContext) : List RelatedSymbol :=
  context.related.filter RelatedSymbol.looksLikeTest

def testLine (test : RelatedSymbol) : String :=
  s!"- `{test.name}` ({test.relationship.label}, {percent test.relevance}) — {test.location.label}"

def noTestsReport (name : String) : Report :=
  [s!"No related tests found for `{name}`.", "",
    "Possible reasons:",
    "1. No tests exercise this code yet",
    "2. The test files have not been indexed by the language server",
    "3. The tests exist but do not follow a naming convention the engine " ++
      "recognises (`test_*`, `*_test`, `*.spec.*`)"]

def testsReport (context : AiContext) : Report :=
  [s!"# Related Tests: `{context.primary.name}`", ""] ++
    if context.tests.isEmpty then noTestsReport context.primary.name
    else
      ["Found " ++ plural context.tests.length "related test" "related tests" ++ ":", ""] ++
        context.tests.map testLine

end CodeGateway.AiContext
