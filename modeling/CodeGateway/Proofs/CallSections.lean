import CodeGateway.Proofs.ImpactOrder
import CodeGateway.Proofs.ListedEntries
import CodeGateway.Report.CallGraph

namespace CodeGateway.CallGraph

open Impact (sectionLines)

/-- The entry of an edge, with the function at its other end: how many places call, if more than
    one does, and whether the calls are recursive. -/
def entryText (found : Option FunctionNode) (id : String) (edge : CallEdge) : String :=
  (match found with
    | some node => s!"- `{node.name}` — {rangeLabel node.uri node.range}"
    | none => s!"- `{id}`") ++
    (if 1 < edge.callSites.length then s!" ({edge.callSites.length} call sites)" else "") ++
    (if edge.isRecursive then " 🔁 recursive" else "")

/-- The line is the entry of the edge whose other end has this id: it names the first of the nodes
    that has the id, or the id itself if none has. -/
def IsEntry (nodes : List FunctionNode) (id : String) (edge : CallEdge) (line : String) : Prop :=
  ∃ found, First FunctionNode.id nodes id found ∧ line = entryText found id edge

theorem isEntry_edgeLine (graph : CallGraph) (id : String) (edge : CallEdge) :
    IsEntry graph.nodes id edge (graph.edgeLine id edge) := by
  refine ⟨graph.node? id, first_find? FunctionNode.id graph.nodes id, ?_⟩
  unfold edgeLine functionLine entryText
  rfl

theorem lists_callers (graph : CallGraph) (root : FunctionNode) :
    Report.Lists (fun edge => edge.callee = root.id)
      (fun edge => IsEntry graph.nodes edge.caller edge) graph.edges
      ((graph.callers root).map fun edge => graph.edgeLine edge.caller edge) := by
  apply Report.lists_filter
  · intro edge
    rw [beq_iff_eq]
  · intro edge
    exact graph.isEntry_edgeLine edge.caller edge

theorem lists_callees (graph : CallGraph) (root : FunctionNode) :
    Report.Lists (fun edge => edge.caller = root.id)
      (fun edge => IsEntry graph.nodes edge.callee edge) graph.edges
      ((graph.callees root).map fun edge => graph.edgeLine edge.callee edge) := by
  apply Report.lists_filter
  · intro edge
    rw [beq_iff_eq]
  · intro edge
    exact graph.isEntry_edgeLine edge.callee edge

theorem callerSection_eq (graph : CallGraph) (root : FunctionNode) :
    graph.callerSection root = "" :: sectionLines "Callers" (graph.callers root).length
      s!"_Nothing in the indexed code calls `{root.name}`._"
      ((graph.callers root).map fun edge => graph.edgeLine edge.caller edge) := by
  unfold callerSection sectionLines
  cases graph.callers root <;> simp <;> rfl

theorem calleeSection_eq (graph : CallGraph) (root : FunctionNode) :
    graph.calleeSection root = "" :: sectionLines "Callees" (graph.callees root).length
      s!"_`{root.name}` does not call any indexed function._"
      ((graph.callees root).map fun edge => graph.edgeLine edge.callee edge) := by
  unfold calleeSection sectionLines
  cases graph.callees root <;> simp <;> rfl

/-- The id stands at one end or the other of an edge that touches the root. -/
def isEnd (graph : CallGraph) (root : FunctionNode) (id : String) : Bool :=
  graph.edges.any fun edge =>
    (edge.callee == root.id || edge.caller == root.id) && (edge.caller == id || edge.callee == id)

theorem isEnd_of_mem_callers {graph : CallGraph} {root : FunctionNode} {edge : CallEdge}
    (among : edge ∈ graph.callers root) : graph.isEnd root edge.caller = true := by
  obtain ⟨inGraph, touches⟩ := List.mem_filter.mp among
  exact List.any_eq_true.mpr ⟨edge, inGraph, by simp [touches]⟩

theorem isEnd_of_mem_callees {graph : CallGraph} {root : FunctionNode} {edge : CallEdge}
    (among : edge ∈ graph.callees root) : graph.isEnd root edge.callee = true := by
  obtain ⟨inGraph, touches⟩ := List.mem_filter.mp among
  exact List.any_eq_true.mpr ⟨edge, inGraph, by simp [touches]⟩

theorem report_of_root {graph : CallGraph} {root : FunctionNode} (given : graph.root = some root) :
    graph.report = rootSection root ++ graph.callerSection root ++ graph.calleeSection root := by
  rw [report, given]

theorem report_congr {graph : CallGraph} {root : FunctionNode} (given : graph.root = some root)
    {nodes : List FunctionNode}
    (alike : ∀ id, graph.isEnd root id = true →
      (nodes.find? fun node => node.id == id) = graph.nodes.find? fun node => node.id == id) :
    { graph with nodes := nodes }.report = graph.report := by
  have line {id : String} (isEnd : graph.isEnd root id = true) (edge : CallEdge) :
      { graph with nodes := nodes }.edgeLine id edge = graph.edgeLine id edge := by
    unfold edgeLine functionLine node?
    rw [alike id isEnd]
  have callers : { graph with nodes := nodes }.callerSection root = graph.callerSection root := by
    rw [callerSection_eq, callerSection_eq]
    congr 2
    apply List.map_congr_left
    intro edge among
    exact line (isEnd_of_mem_callers among) edge
  have callees : { graph with nodes := nodes }.calleeSection root = graph.calleeSection root := by
    rw [calleeSection_eq, calleeSection_eq]
    congr 2
    apply List.map_congr_left
    intro edge among
    exact line (isEnd_of_mem_callees among) edge
  rw [report_of_root given, ← callers, ← callees]
  exact report_of_root given

/-- The report on the graph around a function lists one caller for each edge to the function and one
    callee for each edge from it, in the order of the edges, and counts them in the headers. So an
    edge from the function to itself is listed on both sides, and one between others on neither. The
    order of the nodes does not matter, as long as no two have the same id, and nodes that are at no
    end of such an edge do not matter at all. -/
theorem call_sections {graph : CallGraph} {root : FunctionNode} (given : graph.root = some root) :
    ∃ callers callees,
      Report.Lists (fun edge => edge.callee = root.id)
        (fun edge => IsEntry graph.nodes edge.caller edge) graph.edges callers ∧
      Report.Lists (fun edge => edge.caller = root.id)
        (fun edge => IsEntry graph.nodes edge.callee edge) graph.edges callees ∧
      graph.report = rootSection root ++
        "" :: sectionLines "Callers" callers.length
          s!"_Nothing in the indexed code calls `{root.name}`._" callers ++
        "" :: sectionLines "Callees" callees.length
          s!"_`{root.name}` does not call any indexed function._" callees ∧
      (∀ nodes, nodes.Perm graph.nodes → (graph.nodes.map FunctionNode.id).Nodup →
        { graph with nodes := nodes }.report = graph.report) ∧
      ∀ nodes, nodes.filter (fun node => graph.isEnd root node.id) =
          graph.nodes.filter (fun node => graph.isEnd root node.id) →
        { graph with nodes := nodes }.report = graph.report := by
  refine ⟨_, _, graph.lists_callers root, graph.lists_callees root, ?_, ?_, ?_⟩
  · rw [report_of_root given, callerSection_eq, calleeSection_eq, List.length_map, List.length_map]
  · intro nodes perm distinct
    apply report_congr given
    intro id _
    exact find?_id_of_perm perm distinct id
  · intro nodes same
    apply report_congr given
    intro id isEnd
    exact find?_id_of_filter same isEnd

def walkNode : FunctionNode :=
  ⟨"r", "walk", "", "untitled:walk", .empty, "", none⟩

def stepNode : FunctionNode :=
  ⟨"a", "step", "", "untitled:step", .empty, "", none⟩

def asideNode : FunctionNode :=
  ⟨"z", "aside", "", "untitled:aside", .empty, "", none⟩

/-- A function that calls itself from two places, is called twice from one other and once from one
    that nobody knows, and a call between others. -/
def walkGraph : CallGraph where
  root := some walkNode
  nodes := [walkNode, stepNode, asideNode]
  edges := [⟨"r", "r", [.nowhere, .nowhere], true⟩, ⟨"ghost", "r", [.nowhere], false⟩,
    ⟨"a", "r", [], false⟩, ⟨"a", "r", [], false⟩, ⟨"r", "a", [], false⟩, ⟨"a", "z", [], false⟩]

theorem call_sections_walk :
    walkGraph.root = some walkNode ∧
      walkGraph.report =
        ["# Call Graph: `walk`", "",
          "**Location:** untitled:walk:1",
          "", "## Callers (4)", "",
          "- `walk` — untitled:walk:1 (2 call sites) 🔁 recursive",
          "- `ghost`",
          "- `step` — untitled:step:1",
          "- `step` — untitled:step:1",
          "", "## Callees (2)", "",
          "- `walk` — untitled:walk:1 (2 call sites) 🔁 recursive",
          "- `step` — untitled:step:1"] ∧
      { walkGraph with nodes := [asideNode, stepNode, walkNode] }.report = walkGraph.report ∧
      { walkGraph with nodes := [walkNode, stepNode] }.report = walkGraph.report := by
  have given : walkGraph.root = some walkNode := rfl
  obtain ⟨-, -, -, -, -, reordered, edited⟩ := call_sections given
  have perm : [asideNode, stepNode, walkNode].Perm walkGraph.nodes :=
    List.reverse_perm walkGraph.nodes
  refine ⟨given, ?_, reordered _ perm ?_, edited _ rfl⟩
  · decide +kernel
  · decide

end CodeGateway.CallGraph
