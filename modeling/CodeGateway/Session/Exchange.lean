import CodeGateway.Link.Basic
import CodeGateway.Query.Basic
import CodeGateway.Workspace.Identity

namespace CodeGateway

abbrev RequestText := String × Json

def executeCommand (command : String) (arguments : List Json) : RequestText :=
  ("workspace/executeCommand",
    .object [("arguments", .array arguments), ("command", .string command)])

namespace Query

def command : Query → String
  | dependencyGraph _ => "codegraph.getDependencyGraph"
  | callGraph _ => "codegraph.getCallGraph"
  | impact _ => "codegraph.analyzeImpact"
  | aiContext _ => "codegraph.getAIContext"
  | relatedTests _ => "codegraph.getAIContext"
  | symbolInfo _ => ""
  | parserMetrics _ => "codegraph.getParserMetrics"
  | reindex => "codegraph.reindexWorkspace"

def positionParams (url : Url) (position : Position) (more : List (String × Json)) : Json :=
  .object (more ++ [("position", position.encode),
    ("textDocument", .object [("uri", .string url.toString)])])

def symbolRequests (url : Url) (position : Position) : List RequestText :=
  [("textDocument/hover", positionParams url position []),
    ("textDocument/definition", positionParams url position []),
    ("textDocument/references", positionParams url position
      [("context", .object [("includeDeclaration", .bool false)])])]

def badUri (uri : String) (error : Url.Error) : Failure :=
  .remote (-32602) s!"Invalid URI {uri}: {error.message}" none

def requests : Query → Except Failure (List RequestText)
  | symbolInfo request =>
    match Url.parse request.uri with
    | .ok url => .ok (symbolRequests url request.position)
    | .error error => .error (badUri request.uri error)
  | reindex => .ok [executeCommand reindex.command []]
  | query => .ok [executeCommand query.command [query.wire]]

def commandReply {α : Type} (command : String) (decode : Json → Except Decode.Error α)
    (outcome : Outcome) : Except Failure α :=
  match outcome with
  | .error failure => .error failure
  | .ok .null => .error (.noResult command)
  | .ok json => (decode json).mapError .badReply

def protocolReply {α : Type} (decode : Json → Except Decode.Error α) (outcome : Outcome) :
    Except Failure (Option α) :=
  match outcome with
  | .error failure => .error failure
  | .ok json => (Decode.option decode json).mapError .badReply

/-- What is known of a symbol from the three replies. The first that failed, in this order, fails
    the query. -/
def symbolReply (hover definition references : Outcome) : Except Failure SymbolInfo := do
  let hover ← protocolReply Hover.decode hover
  let definition ← protocolReply Definition.decode definition
  let references ← protocolReply (Decode.list Location.decodeWithUrl) references
  .ok (.assemble hover definition references)

def first (outcomes : List Outcome) : Outcome :=
  outcomes.headD (.error (.closed "reply dropped"))

def conclude : (query : Query) → List Outcome → Except Failure query.Reply
  | query@(dependencyGraph _), outcomes =>
    commandReply query.command DependencyGraph.decode (first outcomes)
  | query@(callGraph _), outcomes => commandReply query.command CallGraph.decode (first outcomes)
  | query@(impact _), outcomes => commandReply query.command Impact.decode (first outcomes)
  | query@(aiContext _), outcomes => commandReply query.command AiContext.decode (first outcomes)
  | query@(relatedTests _), outcomes =>
    commandReply query.command AiContext.decode (first outcomes)
  | query@(parserMetrics _), outcomes =>
    commandReply query.command ParserMetrics.decode (first outcomes)
  | reindex, outcomes => (first outcomes).map fun _ => ()
  | symbolInfo _, outcomes =>
    symbolReply (first outcomes) (first (outcomes.drop 1)) (first (outcomes.drop 2))

end Query

def handshakeParams (processId : Nat) (root : List Char) : Json :=
  let name := match Path.fileName? root with
    | some name => String.ofList name
    | none => "workspace"
  let (rootUri, folders) := match Url.ofFilePath? root with
    | some url =>
      (Json.string url.toString,
        [("workspaceFolders", Json.array
          [.object [("name", .string name), ("uri", .string url.toString)]])])
    | none => (Json.null, [])
  .object ([("capabilities", .object []),
    ("clientInfo", .object [("name", .string programName), ("version", .string programVersion)]),
    ("processId", .int processId), ("rootUri", rootUri)] ++ folders)

end CodeGateway
