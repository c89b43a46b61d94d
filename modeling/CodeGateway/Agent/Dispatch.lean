import CodeGateway.Agent.Serving

namespace CodeGateway

def Engine : Type := (query : Query) → Except Failure query.Reply

def Catalogue.Prepared.result (engine : Engine) : Prepared → ToolResult
  | .answered result => result
  | .query asked => asked.result (engine asked)

namespace Agent

structure Dispatch where
  serving : Serving
  pending : List (Nat × Catalogue.Prepared)

namespace Dispatch

inductive Event where
  | line (text : List Char)
  | conclude (ticket : Nat)
  | respond (ticket : Nat)
  | write

def start (catalogue : Catalogue) : Dispatch := ⟨.start catalogue, []⟩

def started (orders : List Order) : List (Nat × Catalogue.Prepared) :=
  orders.filterMap fun
    | .start ticket prepared => some (ticket, prepared)
    | .cancel _ => none

def events (engine : Nat → Engine) (dispatch : Dispatch) : Event → List Serving.Event
  | .line text => [.line text]
  | .conclude ticket =>
    (dispatch.pending.lookup ticket).toList.map fun prepared =>
      .retire ticket (prepared.result (engine ticket))
  | .respond ticket => [.respond ticket]
  | .write => [.write]

def step (engine : Nat → Engine) (dispatch : Dispatch) (event : Event) : Dispatch where
  serving := dispatch.serving.runFrom (dispatch.events engine event)
  pending :=
    match event with
    | .line text =>
      dispatch.pending ++ started (dispatch.serving.server.handleLine text).2.orders
    | .conclude ticket => dispatch.pending.filter fun entry => entry.1 != ticket
    | _ => dispatch.pending

def runFrom (engine : Nat → Engine) (dispatch : Dispatch) (events : List Event) : Dispatch :=
  events.foldl (step engine) dispatch

def run (catalogue : Catalogue) (engine : Nat → Engine) (events : List Event) : Dispatch :=
  (start catalogue).runFrom engine events

def trace (engine : Nat → Engine) : Dispatch → List Event → List Serving.Event
  | _, [] => []
  | dispatch, event :: rest =>
    dispatch.events engine event ++ trace engine (dispatch.step engine event) rest

end Dispatch

end Agent

end CodeGateway
