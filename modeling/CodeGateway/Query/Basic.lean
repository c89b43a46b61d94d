import CodeGateway.Query.Request
import CodeGateway.Report.AiContext
import CodeGateway.Report.CallGraph
import CodeGateway.Report.DependencyGraph
import CodeGateway.Report.Impact
import CodeGateway.Report.ParserMetrics
import CodeGateway.Report.SymbolInfo

namespace CodeGateway

open Decode

inductive Query where
  | dependencyGraph (request : DependencyGraphRequest)
  | callGraph (request : CallGraphRequest)
  | impact (request : ImpactRequest)
  | aiContext (request : AiContextRequest)
  | relatedTests (request : AiContextRequest)
  | symbolInfo (request : SymbolRequest)
  | parserMetrics (request : ParserMetricsRequest)
  | reindex
  deriving DecidableEq

namespace Query

abbrev Reply : Query → Type
  | dependencyGraph _ => DependencyGraph
  | callGraph _ => CallGraph
  | impact _ => Impact
  | aiContext _ => AiContext
  | relatedTests _ => AiContext
  | symbolInfo _ => SymbolInfo
  | parserMetrics _ => ParserMetrics
  | reindex => Unit

def wire : Query → Json
  | dependencyGraph request => request.encode
  | callGraph request => request.encode
  | impact request => request.encode
  | aiContext request => request.encode
  | relatedTests request => request.encode
  | symbolInfo request => request.encode
  | parserMetrics request => request.encode
  | reindex => .null

def decode : (query : Query) → Json → Except Error query.Reply
  | dependencyGraph _ => DependencyGraph.decode
  | callGraph _ => CallGraph.decode
  | impact _ => Impact.decode
  | aiContext _ => AiContext.decode
  | relatedTests _ => AiContext.decode
  | symbolInfo _ => SymbolInfo.decode
  | parserMetrics _ => ParserMetrics.decode
  | reindex => unit

def encode : (query : Query) → query.Reply → Json
  | dependencyGraph _ => DependencyGraph.encode
  | callGraph _ => CallGraph.encode
  | impact _ => Impact.encode
  | aiContext _ => AiContext.encode
  | relatedTests _ => AiContext.encode
  | symbolInfo _ => SymbolInfo.encode
  | parserMetrics _ => ParserMetrics.encode
  | reindex => fun _ => .null

def report : (query : Query) → query.Reply → Report
  | dependencyGraph request => fun graph => graph.report request.uri
  | callGraph _ => CallGraph.report
  | impact request => fun impact => impact.report request.change.name
  | aiContext _ => AiContext.report
  | relatedTests _ => AiContext.testsReport
  | symbolInfo _ => SymbolInfo.report
  | parserMetrics _ => ParserMetrics.report
  | reindex => fun _ => reindexReport

def uri? : Query → Option String
  | dependencyGraph request => some request.uri
  | callGraph request => some request.uri
  | impact request => some request.uri
  | aiContext request => some request.uri
  | relatedTests request => some request.uri
  | symbolInfo request => some request.uri
  | parserMetrics _ => none
  | reindex => none

def position? : Query → Option Position
  | dependencyGraph _ => none
  | callGraph request => some request.position
  | impact request => some request.position
  | aiContext request => some request.position
  | relatedTests request => some request.position
  | symbolInfo request => some request.position
  | parserMetrics _ => none
  | reindex => none

def placeText (uri : String) (position : Position) : String :=
  s!"`{Url.displayPath uri}:{(position.line + 1).toNat}`"

def statusLine : Query → String
  | dependencyGraph request =>
    s!"Building dependency graph for `{Url.displayPath request.uri}` " ++
      s!"(depth {request.depth.toNat})..."
  | callGraph request => s!"Tracing calls around {placeText request.uri request.position}..."
  | impact request =>
    s!"Analyzing the impact of a {request.change.name} at " ++
      s!"{placeText request.uri request.position}..."
  | aiContext request =>
    s!"Gathering {request.intent.name} context for {placeText request.uri request.position} " ++
      s!"({request.maxTokens.toNat} tokens max)..."
  | relatedTests request =>
    s!"Looking for tests related to {placeText request.uri request.position}..."
  | symbolInfo request => s!"Looking up the symbol at {placeText request.uri request.position}..."
  | parserMetrics ⟨some language⟩ => s!"Collecting {language} parser metrics..."
  | parserMetrics ⟨none⟩ => "Collecting parser metrics..."
  | reindex => "Reindexing the workspace..."

end Query

end CodeGateway
