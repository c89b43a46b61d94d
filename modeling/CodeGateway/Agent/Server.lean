import CodeGateway.Agent.Request
import CodeGateway.Agent.Response
import CodeGateway.Text.Blank
import CodeGateway.Tool.Catalogue
import CodeGateway.Workspace.Identity

namespace CodeGateway.Agent

open Decode

structure RunningCall where
  ticket : Nat
  id : Json
  cancelled : Bool

def RunningCall.responses (call : RunningCall) (result : ToolResult) : List Response :=
  if call.cancelled then [] else [⟨some call.id, .result result.encode⟩]

structure Server where
  catalogue : Catalogue
  running : List RunningCall
  /-- Which running call an agent means by an identifier, under the identifier's text. Of two calls
      with one identifier it means the later one, and neither once one of them has ended. -/
  named : List (List Char × Nat)
  nextTicket : Nat

inductive Order where
  | start (ticket : Nat) (prepared : Catalogue.Prepared)
  | cancel (ticket : Nat)

structure Reaction where
  responses : List Response
  orders : List Order

namespace Reaction

def none : Reaction := ⟨[], []⟩

def respond (id : Option Json) (answer : Answer) : Reaction := ⟨[⟨id, answer⟩], []⟩

def append (first second : Reaction) : Reaction :=
  ⟨first.responses ++ second.responses, first.orders ++ second.orders⟩

end Reaction

def protocolRevision : String := "2024-11-05"

def handshakeResult : Json :=
  .object [("capabilities", .object [("tools", .object [])]),
    ("protocolVersion", .string protocolRevision),
    ("serverInfo", .object [("name", .string programName), ("version", .string programVersion)])]

def anyJson (json : Json) : Except Error Json := .ok json

structure ToolCall where
  name : String
  arguments : Json

def ToolCall.decode : Json → Except Error ToolCall :=
  Record.decode "ToolsCallParams"
    ((Record.of ToolCall.mk).take (required "name" string)
      |>.take (defaulted "arguments" anyJson .null))

structure Cancellation where
  id : Json
  reason : Option String

def Cancellation.decode : Json → Except Error Cancellation :=
  Record.decode "Cancellation"
    ((Record.of Cancellation.mk).take (required "requestId" anyJson)
      |>.take (omissible "reason" string))

namespace Server

def start (catalogue : Catalogue) : Server := ⟨catalogue, [], [], 0⟩

def forget (server : Server) (id : Json) : Server :=
  { server with named := server.named.filter fun entry => entry.1 != id.text }

def launch (server : Server) (id : Json) (prepared : Catalogue.Prepared) : Server × Reaction :=
  let ticket := server.nextTicket
  let server := server.forget id
  ({ server with
      running := server.running ++ [⟨ticket, id, false⟩]
      named := (id.text, ticket) :: server.named
      nextTicket := ticket + 1 },
    ⟨[], [.start ticket prepared]⟩)

def handleCall (server : Server) (id params : Json) : Server × Reaction :=
  match ToolCall.decode params with
  | .error error =>
    (server, .respond (some id) (.error invalidParamsCode s!"Invalid params: {error.message}"))
  | .ok call => server.launch id (server.catalogue.call call.name call.arguments)

def handleCancellation (server : Server) (params : Json) : Server × Reaction :=
  match Cancellation.decode params with
  | .error _ => (server, .none)
  | .ok cancellation =>
    match server.named.lookup cancellation.id.text with
    | none => (server, .none)
    | some ticket =>
      ({ server with running := server.running.map fun call =>
          if call.ticket == ticket then { call with cancelled := true } else call },
        ⟨[], [.cancel ticket]⟩)

def answer? (server : Server) (request : Request) : Option Answer :=
  if request.method == "initialize" then some (.result handshakeResult)
  else if request.method == "notifications/initialized" then none
  else if request.method == "tools/list" then
    some (.result (.object [("tools", .array (server.catalogue.tools.map Tool.definition))]))
  else if request.method == "ping" then some (.result (.object []))
  else if request.id.isNone then none
  else some (.error unknownMethodCode s!"Method not found: {request.method}")

def handle (server : Server) (request : Request) : Server × Reaction :=
  if request.method == "tools/call" then
    match request.id with
    | some id => server.handleCall id request.params
    | none => (server, .none)
  else if request.method == "notifications/cancelled" then
    server.handleCancellation request.params
  else
    match server.answer? request with
    | some answer => (server, .respond request.id answer)
    | none => (server, .none)

def handleLine (server : Server) (line : List Char) : Server × Reaction :=
  let text := Text.trimChars line
  if text.isEmpty then (server, .none)
  else
    match Request.parse (Utf8.encode text) with
    | .error error =>
      (server, .respond none (.error parseErrorCode s!"Parse error: {error.message}"))
    | .ok request => server.handle request

def handleLines (server : Server) : List (List Char) → Server × Reaction
  | [] => (server, .none)
  | line :: rest =>
    let (server, reaction) := server.handleLine line
    let (server, more) := server.handleLines rest
    (server, reaction.append more)

def isCancelled (server : Server) (ticket : Nat) : Bool :=
  server.running.any fun call => call.ticket == ticket && call.cancelled

def retire (server : Server) (ticket : Nat) : Server × Option RunningCall :=
  match server.running.find? fun call => call.ticket == ticket with
  | none => (server, none)
  | some call =>
    ({ server.forget call.id with
        running := server.running.filter fun other => other.ticket != ticket },
      some call)

/-- Takes in the result of a call: the response to it, unless there is no such call or it was taken
    back. -/
def finish (server : Server) (ticket : Nat) (result : ToolResult) : Server × List Response :=
  let (server, call) := server.retire ticket
  (server, call.toList.flatMap fun call => call.responses result)

def dropCalls (server : Server) : Server :=
  { server with running := [], named := [] }

def isIdle (server : Server) : Bool :=
  server.running.isEmpty

end Server

end CodeGateway.Agent
