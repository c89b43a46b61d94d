import CodeGateway.Reply.Location

namespace CodeGateway

open Decode

inductive DependencyNodeKind where
  | module
  | package
  | file
  | other
  deriving DecidableEq

namespace DependencyNodeKind

def name : DependencyNodeKind → String
  | module => "module"
  | package => "package"
  | file => "file"
  | other => "other"

def choice : Choice DependencyNodeKind :=
  ⟨[module, package, file].map (fun kind => (kind.name, kind)), some other⟩

end DependencyNodeKind

inductive DependencyEdgeKind where
  | importEdge
  | requireEdge
  | useEdge
  | other
  deriving DecidableEq

namespace DependencyEdgeKind

def name : DependencyEdgeKind → String
  | importEdge => "import"
  | requireEdge => "require"
  | useEdge => "use"
  | other => "other"

def choice : Choice DependencyEdgeKind :=
  ⟨[importEdge, requireEdge, useEdge].map (fun kind => (kind.name, kind)), some other⟩

def isDependency : DependencyEdgeKind → Bool
  | other => false
  | _ => true

end DependencyEdgeKind

structure DependencyNode where
  id : String
  label : String
  kind : DependencyNodeKind
  language : String
  uri : String

structure DependencyEdge where
  source : String
  target : String
  kind : DependencyEdgeKind

structure DependencyGraph where
  nodes : List DependencyNode
  edges : List DependencyEdge

def DependencyNode.decode : Json → Except Error DependencyNode :=
  Record.decode "DependencyNode"
    ((Record.of DependencyNode.mk).take (required "id" string)
      |>.take (required "label" string)
      |>.take (defaulted "type" DependencyNodeKind.choice.decode .file)
      |>.take (defaulted "language" string "")
      |>.take (defaulted "uri" string ""))

def DependencyEdge.decode : Json → Except Error DependencyEdge :=
  Record.decode "DependencyEdge"
    ((Record.of DependencyEdge.mk).take (required "from" string)
      |>.take (required "to" string)
      |>.take (required "type" DependencyEdgeKind.choice.decode))

def DependencyGraph.decode : Json → Except Error DependencyGraph :=
  Record.decode "DependencyGraphResponse"
    ((Record.of DependencyGraph.mk).take (defaulted "nodes" (list DependencyNode.decode) [])
      |>.take (defaulted "edges" (list DependencyEdge.decode) []))

def DependencyNode.encode (node : DependencyNode) : Json :=
  .object [("id", .string node.id), ("label", .string node.label),
    ("language", .string node.language), ("type", .string node.kind.name),
    ("uri", .string node.uri)]

def DependencyEdge.encode (edge : DependencyEdge) : Json :=
  .object [("from", .string edge.source), ("to", .string edge.target),
    ("type", .string edge.kind.name)]

def DependencyGraph.encode (graph : DependencyGraph) : Json :=
  .object [("edges", .ofList DependencyEdge.encode graph.edges),
    ("nodes", .ofList DependencyNode.encode graph.nodes)]

def DependencyGraph.node? (graph : DependencyGraph) (id : String) : Option DependencyNode :=
  graph.nodes.find? fun node => node.id == id

end CodeGateway
