import CodeGateway.Proofs.ImpactOrder
import CodeGateway.Proofs.ListedEntries
import CodeGateway.Proofs.Reencoding
import CodeGateway.Report.DependencyGraph

namespace CodeGateway

open Decode Json
open Impact (sectionLines)

def Json.kindName? : Json → Option String
  | .string name => some name
  | .object [(name, .null)] => some name
  | _ => none

def Json.SendsList (given : Option Json) (items : List Json) : Prop :=
  given = some (.array items) ∨ given = none ∧ items = []

theorem Decode.kindName?_of_decode {α : Type} {choice : Choice α} {json : Json} {a : α}
    (decoded : choice.decode json = .ok a) :
    ∃ name, json.kindName? = some name ∧ choice.ofName name = .ok a := by
  unfold Choice.decode at decoded
  split at decoded
  · exact ⟨_, rfl, decoded⟩
  · rename_i name value
    split at decoded
    · rename_i read isUnit
      cases value with
      | null => exact ⟨name, rfl, read.trans decoded⟩
      | _ => cases isUnit
    · cases decoded
    · cases decoded
  · cases decoded
  · cases decoded

theorem Decode.given_of_gives_string {name text : String} {given : Option Json}
    (gives : (required name string).Gives given text) : given = some (.string text) := by
  cases given with
  | none => cases gives
  | some json =>
    cases json with
    | string s =>
      obtain rfl : s = text := Except.ok.inj gives
      rfl
    | _ => cases gives

theorem Decode.exists_sendsList {α : Type} {name : String} {item : Json → Except Error α}
    {given : Option Json} {read : List α}
    (gives : (defaulted name (list item) []).Gives given read) :
    ∃ jsons, SendsList given jsons ∧ items item jsons = .ok read := by
  cases given with
  | none =>
    obtain rfl : [] = read := Option.some.inj gives
    exact ⟨[], .inr ⟨rfl, rfl⟩, rfl⟩
  | some json =>
    cases json with
    | array jsons => exact ⟨jsons, .inl rfl, gives⟩
    | _ => cases gives

theorem Json.SendsList.unique {given : Option Json} {items others : List Json}
    (sends : SendsList given items) (sends' : SendsList given others) : items = others := by
  rcases sends with rfl | ⟨rfl, rfl⟩ <;> rcases sends' with same | ⟨same, rfl⟩
  · simpa using same
  · cases same
  · cases same
  · rfl

theorem Decode.Member.Gives.unique {α : Type} {member : Member α} {given : Option Json}
    {first second : α} (gives : member.Gives given first) (gives' : member.Gives given second) :
    first = second := by
  cases given with
  | none => exact Option.some.inj (gives.symm.trans gives')
  | some json => exact Except.ok.inj (gives.symm.trans gives')

namespace DependencyEdge

def typeName? (json : Json) : Option String :=
  (json.part? memberNames "type").bind kindName?

def isDependency (json : Json) : Bool :=
  [some "import", some "require", some "use"].contains (typeName? json)

theorem ofName_isDependency {name : String} {kind : DependencyEdgeKind}
    (read : DependencyEdgeKind.choice.ofName name = .ok kind) :
    [some "import", some "require", some "use"].contains (some name) = kind.isDependency ∧
      (kind.isDependency = true → kind.name = name) := by
  by_cases isImport : name = "import"
  · subst isImport
    obtain rfl : .importEdge = kind := Except.ok.inj read
    exact ⟨rfl, fun _ => rfl⟩
  by_cases isRequire : name = "require"
  · subst isRequire
    obtain rfl : .requireEdge = kind := Except.ok.inj read
    exact ⟨rfl, fun _ => rfl⟩
  by_cases isUse : name = "use"
  · subst isUse
    obtain rfl : .useEdge = kind := Except.ok.inj read
    exact ⟨rfl, fun _ => rfl⟩
  have unknown : DependencyEdgeKind.choice.known.lookup name = none := by
    simp [DependencyEdgeKind.choice, DependencyEdgeKind.name, List.lookup_eq_none_iff, isImport,
      isRequire, isUse]
  rw [ofName_of_unknown rfl unknown] at read
  obtain rfl : .other = kind := Except.ok.inj read
  refine ⟨?_, fun isDependency => by cases isDependency⟩
  simp [isImport, isRequire, isUse, DependencyEdgeKind.isDependency]

theorem typeName?_of_decode {json : Json} {edge : DependencyEdge}
    (decoded : decode json = .ok edge) :
    isDependency json = edge.kind.isDependency ∧
      (edge.kind.isDependency = true → typeName? json = some edge.kind.name) := by
  have gives : (required "type" DependencyEdgeKind.choice.decode).Gives
      (json.part? memberNames "type") edge.kind :=
    Record.Makes.gives (.take (.take (.take (.of (by intros; assumption))))) rfl (by decide) decoded
  unfold isDependency typeName?
  cases sent : json.part? memberNames "type" with
  | none =>
    rw [sent] at gives
    cases gives
  | some value =>
    rw [sent] at gives
    obtain ⟨name, isName, read⟩ := kindName?_of_decode gives
    obtain ⟨same, named⟩ := ofName_isDependency read
    rw [Option.bind_some, isName]
    exact ⟨same, fun isDependency => by rw [named isDependency]⟩

end DependencyEdge

namespace DependencyGraph

/-- What an end of an edge is called: as the node that was found for it, or else by its id. -/
def endLabel (found : Option DependencyNode) (id : String) : String :=
  (found.map DependencyNode.label).getD id

/-- The entries for an edge as it is sent. Each of its ends is called as the first of the nodes that
    has its id, and the type is the one that is sent. -/
inductive IsEntry (nodes : List DependencyNode) (json : Json) : String → Prop
  | entry {source target type : String} {first second : Option DependencyNode}
      (isSource : json.part? DependencyEdge.memberNames "from" = some (.string source))
      (isTarget : json.part? DependencyEdge.memberNames "to" = some (.string target))
      (isType : DependencyEdge.typeName? json = some type)
      (foundSource : First DependencyNode.id nodes source first)
      (foundTarget : First DependencyNode.id nodes target second) :
    IsEntry nodes json s!"- `{endLabel first source}` → `{endLabel second target}` ({type})"

theorem labelOf_eq (graph : DependencyGraph) (id : String) :
    graph.labelOf id = endLabel (graph.nodes.find? fun node => node.id == id) id := by
  unfold labelOf endLabel node?
  cases graph.nodes.find? fun node => node.id == id <;> rfl

theorem isEntry_edgeLine (graph : DependencyGraph) {json : Json} {edge : DependencyEdge}
    (decoded : DependencyEdge.decode json = .ok edge)
    (isDependency : edge.kind.isDependency = true) :
    IsEntry graph.nodes json (graph.edgeLine edge) := by
  have isSource : (required "from" string).Gives
      (json.part? DependencyEdge.memberNames "from") edge.source :=
    Record.Makes.gives (.take (.take (.take (.of (by intros; assumption))))) rfl (by decide) decoded
  have isTarget : (required "to" string).Gives
      (json.part? DependencyEdge.memberNames "to") edge.target :=
    Record.Makes.gives (.take (.take (.take (.of (by intros; assumption))))) rfl (by decide) decoded
  have isType := (DependencyEdge.typeName?_of_decode decoded).2 isDependency
  unfold edgeLine
  rw [labelOf_eq, labelOf_eq]
  apply IsEntry.entry
  · exact given_of_gives_string isSource
  · exact given_of_gives_string isTarget
  · exact isType
  · exact first_find? DependencyNode.id graph.nodes edge.source
  · exact first_find? DependencyNode.id graph.nodes edge.target

theorem lists_dependencies (graph : DependencyGraph) {edges : List Json}
    (read : items DependencyEdge.decode edges = .ok graph.edges) :
    Report.Lists (fun json => DependencyEdge.isDependency json = true) (IsEntry graph.nodes) edges
      (graph.dependencies.map graph.edgeLine) := by
  apply Report.lists_of_forall₂ (items_eq_ok_iff.mp read)
  · intro json edge decoded
    rw [(DependencyEdge.typeName?_of_decode decoded).1]
  · intro json edge decoded isDependency
    exact graph.isEntry_edgeLine decoded isDependency

def reportWith (uri : String) (edges : Nat) (dependencies nodes : Report) : Report :=
  ["# Dependency Graph", "", s!"**File:** `{Url.displayPath uri}`",
    s!"**Nodes:** {nodes.length} | **Edges:** {edges}", ""] ++
    sectionLines "Dependencies" dependencies.length
      "_No import, require or use relationships in this graph._" dependencies ++
    "" :: sectionLines "Files/Modules" nodes.length
      "_The engine returned edges but no node details._" nodes

theorem dependencySection_eq (graph : DependencyGraph) :
    graph.dependencySection = sectionLines "Dependencies" graph.dependencies.length
      "_No import, require or use relationships in this graph._"
      (graph.dependencies.map graph.edgeLine) := by
  unfold dependencySection sectionLines
  cases graph.dependencies <;> simp <;> rfl

theorem nodeSection_eq (graph : DependencyGraph) :
    graph.nodeSection = "" :: sectionLines "Files/Modules" graph.nodes.length
      "_The engine returned edges but no node details._" (graph.nodes.map nodeLine) := by
  unfold nodeSection sectionLines
  cases graph.nodes <;> simp <;> rfl

def HasContent (graph : DependencyGraph) : Prop :=
  graph.nodes ≠ [] ∨ graph.edges ≠ []

theorem report_of_content {graph : DependencyGraph} (content : graph.HasContent) (uri : String) :
    graph.report uri = reportWith uri graph.edges.length
      (graph.dependencies.map graph.edgeLine) (graph.nodes.map nodeLine) := by
  have shown : (graph.nodes.isEmpty && graph.edges.isEmpty) = false := by
    rcases content with nodes | edges
    · rw [List.isEmpty_eq_false_iff.mpr nodes, Bool.false_and]
    · rw [List.isEmpty_eq_false_iff.mpr edges, Bool.and_false]
  unfold report reportWith
  rw [shown, dependencySection_eq, nodeSection_eq, List.length_map, List.length_map]
  simp

def memberNames : List String := ["nodes", "edges"]

theorem given {json : Json} {graph : DependencyGraph} (decoded : decode json = .ok graph) :
    (defaulted "nodes" (list DependencyNode.decode) []).Gives (json.part? memberNames "nodes")
      graph.nodes ∧
    (defaulted "edges" (list DependencyEdge.decode) []).Gives (json.part? memberNames "edges")
      graph.edges :=
  ⟨Record.Makes.gives (.take (.take (.of (by intros; assumption)))) rfl (by decide) decoded,
    Record.Makes.gives (.take (.take (.of (by intros; assumption)))) rfl (by decide) decoded⟩

theorem dependencies_congr {graph graph' : DependencyGraph} {edges others : List Json}
    (read : items DependencyEdge.decode edges = .ok graph.edges)
    (read' : items DependencyEdge.decode others = .ok graph'.edges)
    (same : others.filter DependencyEdge.isDependency = edges.filter DependencyEdge.isDependency) :
    graph'.dependencies = graph.dependencies := by
  have kept : ∀ ⦃json : Json⦄ ⦃edge⦄, DependencyEdge.decode json = .ok edge →
      (DependencyEdge.isDependency json = true ↔ edge.kind.isDependency = true) := by
    intro json edge decoded
    rw [(DependencyEdge.typeName?_of_decode decoded).1]
  -- What is sent and what it is read as are filtered in step.
  have among := List.rel_filter kept (items_eq_ok_iff.mp read)
  have among' := List.rel_filter kept (items_eq_ok_iff.mp read')
  rw [same] at among'
  apply List.right_unique_forall₂' _ among' among
  intro json first second isFirst isSecond
  exact Except.ok.inj (isFirst.symm.trans isSecond)

def IsNodeLine (json : Json) (line : String) : Prop :=
  ∃ node, DependencyNode.decode json = .ok node ∧ line = nodeLine node

theorem isNodeLines {nodes : List Json} {read : List DependencyNode}
    (isRead : items DependencyNode.decode nodes = .ok read) :
    List.Forall₂ IsNodeLine nodes (read.map nodeLine) := by
  rw [List.forall₂_map_right_iff]
  exact (items_eq_ok_iff.mp isRead).imp fun _ node decoded => ⟨node, decoded, rfl⟩

/-- The report on a reply that has a node or an edge lists the edges of the types `import`,
    `require` and `use`, as they are sent, and every node, each once and in order. All other edges
    can come and go: only the number of edges tells. -/
theorem dependency_sections {json : Json} {graph : DependencyGraph}
    (decoded : decode json = .ok graph) (content : graph.HasContent) (uri : String) :
    ∃ nodes edges dependencies lines,
      SendsList (json.part? memberNames "nodes") nodes ∧
      SendsList (json.part? memberNames "edges") edges ∧
      Report.Lists (fun edge => DependencyEdge.isDependency edge = true) (IsEntry graph.nodes) edges
        dependencies ∧
      List.Forall₂ IsNodeLine nodes lines ∧
      graph.report uri = reportWith uri edges.length dependencies lines ∧
      ∀ other graph' others, decode other = .ok graph' → graph'.HasContent →
        other.part? memberNames "nodes" = json.part? memberNames "nodes" →
        SendsList (other.part? memberNames "edges") others →
        others.filter DependencyEdge.isDependency = edges.filter DependencyEdge.isDependency →
        graph'.report uri = reportWith uri others.length dependencies lines := by
  obtain ⟨givenNodes, givenEdges⟩ := given decoded
  obtain ⟨nodes, sendsNodes, readNodes⟩ := exists_sendsList givenNodes
  obtain ⟨edges, sendsEdges, readEdges⟩ := exists_sendsList givenEdges
  refine ⟨nodes, edges, _, _, sendsNodes, sendsEdges, graph.lists_dependencies readEdges,
    isNodeLines readNodes, ?_, ?_⟩
  · rw [report_of_content content, (items_eq_ok_iff.mp readEdges).length_eq]
  · intro other graph' others decoded' content' sameNodes sends same
    obtain ⟨givenNodes', givenEdges'⟩ := given decoded'
    obtain ⟨jsons, sends', readEdges'⟩ := exists_sendsList givenEdges'
    obtain rfl := sends'.unique sends
    have nodesEq : graph'.nodes = graph.nodes := by
      rw [sameNodes] at givenNodes'
      exact givenNodes'.unique givenNodes
    have lineEq (edge : DependencyEdge) : graph'.edgeLine edge = graph.edgeLine edge := by
      unfold edgeLine labelOf node?
      rw [nodesEq]
    rw [report_of_content content', (items_eq_ok_iff.mp readEdges').length_eq,
      dependencies_congr readEdges readEdges' same, nodesEq, List.map_congr_left]
    intro edge _
    exact lineEq edge

def shopNodes : List Json :=
  [.object [("id", .string "1"), ("label", .string "cart")],
    .object [("id", .string "1"), ("label", .string "again"), ("type", .string "package")]]

def importEdge : Json :=
  .object [("from", .string "1"), ("to", .string "tax"), ("type", .string "import")]

def useEdge : Json :=
  .object [("from", .string "tax"), ("to", .string "1"), ("type", .object [("use", .null)])]

def exportEdge : Json :=
  .object [("from", .string "1"), ("to", .string "1"), ("type", .string "reexport")]

/-- Two nodes of one id, and edges between it and an id that no node has. -/
def shopReply (edges : List Json) : Json :=
  .object [("nodes", .array shopNodes), ("edges", .array edges)]

def shopGraph (edges : List DependencyEdge) : DependencyGraph :=
  ⟨[⟨"1", "cart", .file, "", ""⟩, ⟨"1", "again", .package, "", ""⟩], edges⟩

theorem dependency_sections_shop : ∃ graph graph',
    decode (shopReply [importEdge, exportEdge, useEdge]) = .ok graph ∧ graph.HasContent ∧
    decode (shopReply [importEdge, useEdge]) = .ok graph' ∧ graph'.HasContent ∧
    graph.report "untitled:shop" =
      ["# Dependency Graph", "", "**File:** `untitled:shop`", "**Nodes:** 2 | **Edges:** 3", "",
        "## Dependencies (2)", "", "- `cart` → `tax` (import)", "- `tax` → `cart` (use)",
        "", "## Files/Modules (2)", "", "- **cart** (file)", "- **again** (package)"] ∧
    ∃ dependencies lines,
      graph.report "untitled:shop" = reportWith "untitled:shop" 3 dependencies lines ∧
      graph'.report "untitled:shop" = reportWith "untitled:shop" 2 dependencies lines := by
  have decoded : decode (shopReply [importEdge, exportEdge, useEdge]) =
      .ok (shopGraph [⟨"1", "tax", .importEdge⟩, ⟨"1", "1", .other⟩, ⟨"tax", "1", .useEdge⟩]) := rfl
  have decoded' : decode (shopReply [importEdge, useEdge]) =
      .ok (shopGraph [⟨"1", "tax", .importEdge⟩, ⟨"tax", "1", .useEdge⟩]) := rfl
  have content (edges : List DependencyEdge) : (shopGraph edges).HasContent :=
    .inl (List.cons_ne_nil _ _)
  obtain ⟨nodes, edges, dependencies, lines, -, sends, -, -, shown, others⟩ :=
    dependency_sections decoded (content _) "untitled:shop"
  obtain rfl := sends.unique (.inl rfl)
  refine ⟨_, _, decoded, content _, decoded', content _, ?_, dependencies, lines, shown, ?_⟩
  · decide +kernel
  · exact others _ _ [importEdge, useEdge] decoded' (content _) rfl (.inl rfl) rfl

end DependencyGraph

end CodeGateway
