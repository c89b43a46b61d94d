import CodeGateway.Reply.Location

namespace CodeGateway

open Decode

structure FunctionMetrics where
  complexity : UInt32
  linesOfCode : UInt32
  callCount : UInt32

structure FunctionNode where
  id : String
  name : String
  signature : String
  uri : String
  range : Range
  language : String
  metrics : Option FunctionMetrics

/-- Calls from one function to another. One place may stand among the call sites more than
    once. -/
structure CallEdge where
  caller : String
  callee : String
  callSites : List Location
  isRecursive : Bool

structure CallGraph where
  root : Option FunctionNode
  nodes : List FunctionNode
  edges : List CallEdge

def FunctionMetrics.decode : Json → Except Error FunctionMetrics :=
  Record.decode "FunctionMetrics"
    ((Record.of FunctionMetrics.mk).take (defaulted "complexity" uint32 0)
      |>.take (defaulted "linesOfCode" uint32 0)
      |>.take (defaulted "callCount" uint32 0))

def FunctionNode.decode : Json → Except Error FunctionNode :=
  Record.decode "FunctionNode"
    ((Record.of FunctionNode.mk).take (required "id" string)
      |>.take (required "name" string)
      |>.take (defaulted "signature" string "")
      |>.take (defaulted "uri" string "")
      |>.take (defaulted "range" Range.decode .empty)
      |>.take (defaulted "language" string "")
      |>.take (omissible "metrics" FunctionMetrics.decode))

def CallEdge.decode : Json → Except Error CallEdge :=
  Record.decode "CallEdge"
    ((Record.of CallEdge.mk).take (required "from" string)
      |>.take (required "to" string)
      |>.take (defaulted "callSites" (list Location.decode) [])
      |>.take (defaulted "isRecursive" bool false))

def CallGraph.decode : Json → Except Error CallGraph :=
  Record.decode "CallGraphResponse"
    ((Record.of CallGraph.mk).take (omissible "root" FunctionNode.decode)
      |>.take (defaulted "nodes" (list FunctionNode.decode) [])
      |>.take (defaulted "edges" (list CallEdge.decode) []))

def FunctionMetrics.encode (metrics : FunctionMetrics) : Json :=
  .object [("callCount", .ofUInt32 metrics.callCount),
    ("complexity", .ofUInt32 metrics.complexity),
    ("linesOfCode", .ofUInt32 metrics.linesOfCode)]

def FunctionNode.encode (node : FunctionNode) : Json :=
  .object ([("id", .string node.id), ("language", .string node.language)] ++
    Json.memberIf "metrics" FunctionMetrics.encode node.metrics ++
    [("name", .string node.name), ("range", node.range.encode),
      ("signature", .string node.signature), ("uri", .string node.uri)])

def CallEdge.encode (edge : CallEdge) : Json :=
  .object [("callSites", .ofList Location.encode edge.callSites), ("from", .string edge.caller),
    ("isRecursive", .bool edge.isRecursive), ("to", .string edge.callee)]

def CallGraph.encode (graph : CallGraph) : Json :=
  .object [("edges", .ofList CallEdge.encode graph.edges),
    ("nodes", .ofList FunctionNode.encode graph.nodes),
    ("root", match graph.root with
      | some root => root.encode
      | none => .null)]

def CallGraph.node? (graph : CallGraph) (id : String) : Option FunctionNode :=
  graph.nodes.find? fun node => node.id == id

end CodeGateway
