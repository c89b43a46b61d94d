import CodeGateway.Reply.DependencyGraph
import CodeGateway.Report.Basic

namespace CodeGateway.DependencyGraph

def labelOf (graph : DependencyGraph) (id : String) : String :=
  match graph.node? id with
  | some node => node.label
  | none => id

def dependencies (graph : DependencyGraph) : List DependencyEdge :=
  graph.edges.filter fun edge => edge.kind.isDependency

def edgeLine (graph : DependencyGraph) (edge : DependencyEdge) : String :=
  s!"- `{graph.labelOf edge.source}` → `{graph.labelOf edge.target}` ({edge.kind.name})"

def nodeLine (node : DependencyNode) : String :=
  let language := if node.language.isEmpty then "" else s!", {node.language}"
  let place := if node.uri.isEmpty then "" else s!" — `{Url.displayPath node.uri}`"
  s!"- **{node.label}** ({node.kind.name}{language}){place}"

def emptyReport : Report :=
  ["",
    "No dependencies found. The file does not import anything the engine " ++
      "could resolve, and nothing in the indexed workspace imports it. If you " ++
      "expected results, make sure the file has been opened or saved so the " ++
      "language server has indexed it, or raise `depth` / set `includeExternal`."]

def dependencySection (graph : DependencyGraph) : Report :=
  [s!"## Dependencies ({graph.dependencies.length})", ""] ++
    (if graph.dependencies.isEmpty then
      ["_No import, require or use relationships in this graph._"] else []) ++
    graph.dependencies.map graph.edgeLine

def nodeSection (graph : DependencyGraph) : Report :=
  ["", s!"## Files/Modules ({graph.nodes.length})", ""] ++
    (if graph.nodes.isEmpty then ["_The engine returned edges but no node details._"] else []) ++
    graph.nodes.map nodeLine

def report (graph : DependencyGraph) (uri : String) : Report :=
  ["# Dependency Graph", "", s!"**File:** `{Url.displayPath uri}`"] ++
    if graph.nodes.isEmpty && graph.edges.isEmpty then emptyReport
    else
      [s!"**Nodes:** {graph.nodes.length} | **Edges:** {graph.edges.length}", ""] ++
        graph.dependencySection ++ graph.nodeSection

end CodeGateway.DependencyGraph
