import CodeGateway.Reply.CallGraph
import CodeGateway.Report.Basic

namespace CodeGateway.CallGraph

def callers (graph : CallGraph) (root : FunctionNode) : List CallEdge :=
  graph.edges.filter fun edge => edge.callee == root.id

def callees (graph : CallGraph) (root : FunctionNode) : List CallEdge :=
  graph.edges.filter fun edge => edge.caller == root.id

def functionLine (graph : CallGraph) (id : String) : String :=
  match graph.node? id with
  | some node => s!"- `{node.name}` — {rangeLabel node.uri node.range}"
  | none => s!"- `{id}`"

def edgeLine (graph : CallGraph) (other : String) (edge : CallEdge) : String :=
  let sites := edge.callSites.length
  graph.functionLine other ++
    (if 1 < sites then s!" ({sites} call sites)" else "") ++
    (if edge.isRecursive then " 🔁 recursive" else "")

def metricsLine (metrics : FunctionMetrics) : String :=
  s!"**Metrics:** complexity {metrics.complexity.toNat} · " ++
    plural metrics.linesOfCode.toNat "line" "lines" ++ " · " ++
    plural metrics.callCount.toNat "call" "calls"

def rootSection (root : FunctionNode) : Report :=
  [s!"# Call Graph: `{root.name}`", ""] ++
    (if root.signature.isEmpty then [] else [s!"**Signature:** `{root.signature}`"]) ++
    [s!"**Location:** {rangeLabel root.uri root.range}"] ++
    (if root.language.isEmpty then [] else [s!"**Language:** {root.language}"]) ++
    Report.whenSome (fun metrics => [metricsLine metrics]) root.metrics

def callerSection (graph : CallGraph) (root : FunctionNode) : Report :=
  let callers := graph.callers root
  ["", s!"## Callers ({callers.length})", ""] ++
    (if callers.isEmpty then [s!"_Nothing in the indexed code calls `{root.name}`._"] else []) ++
    callers.map fun edge => graph.edgeLine edge.caller edge

def calleeSection (graph : CallGraph) (root : FunctionNode) : Report :=
  let callees := graph.callees root
  ["", s!"## Callees ({callees.length})", ""] ++
    (if callees.isEmpty then [s!"_`{root.name}` does not call any indexed function._"] else []) ++
    callees.map fun edge => graph.edgeLine edge.callee edge

def noFunctionReport : Report :=
  ["# Call Graph", "",
    "No function found at this position.", "",
    "This usually means one of:",
    "1. The cursor is not on a function definition or call",
    "2. The file has not been indexed by the language server yet",
    "3. The position is inside a comment, string or other non-code text", "",
    "Try:",
    "- Place the position on a function name and call again",
    "- Open or save the file so it gets indexed, then retry"]

def report (graph : CallGraph) : Report :=
  match graph.root with
  | some root => rootSection root ++ graph.callerSection root ++ graph.calleeSection root
  | none => noFunctionReport

end CodeGateway.CallGraph
