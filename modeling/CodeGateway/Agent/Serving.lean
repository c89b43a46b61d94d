import CodeGateway.Agent.Server

namespace CodeGateway.Agent

structure Serving where
  server : Server
  /-- Calls that are off the list and not answered yet, with their results. -/
  retired : List (RunningCall × ToolResult)
  queued : List Response
  written : List Response

namespace Serving

inductive Event where
  | line (text : List Char)
  /-- A call has its result and is taken off the list. -/
  | retire (ticket : Nat) (result : ToolResult)
  | respond (ticket : Nat)
  | write

def start (catalogue : Catalogue) : Serving := ⟨.start catalogue, [], [], []⟩

def takeLine (serving : Serving) (line : List Char) : Serving :=
  let (server, reaction) := serving.server.handleLine line
  { serving with server, queued := serving.queued ++ reaction.responses }

def retire (serving : Serving) (ticket : Nat) (result : ToolResult) : Serving :=
  let (server, call) := serving.server.retire ticket
  { serving with server, retired := serving.retired ++ call.toList.map (·, result) }

def respond (serving : Serving) (ticket : Nat) : Serving :=
  match serving.retired.find? fun entry => entry.1.ticket == ticket with
  | none => serving
  | some (call, result) =>
    { serving with
      retired := serving.retired.eraseP fun entry => entry.1.ticket == ticket
      queued := serving.queued ++ call.responses result }

def write (serving : Serving) : Serving :=
  match serving.queued with
  | [] => serving
  | response :: rest => { serving with queued := rest, written := serving.written ++ [response] }

def step (serving : Serving) : Event → Serving
  | .line text => serving.takeLine text
  | .retire ticket result => serving.retire ticket result
  | .respond ticket => serving.respond ticket
  | .write => serving.write

def runFrom (serving : Serving) (events : List Event) : Serving :=
  events.foldl step serving

def run (catalogue : Catalogue) (events : List Event) : Serving :=
  (start catalogue).runFrom events

def bytes (serving : Serving) : List UInt8 :=
  serving.written.flatMap Response.line

def isDone (serving : Serving) : Bool :=
  serving.server.isIdle && serving.retired.isEmpty && serving.queued.isEmpty

end Serving

end CodeGateway.Agent
