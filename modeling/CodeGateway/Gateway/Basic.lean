import CodeGateway.Agent.Lines
import CodeGateway.Agent.Server
import CodeGateway.Session.Basic

namespace CodeGateway

inductive ServingEnd where
  | finished
  | unreadable (invalid : Utf8.Invalid)

structure Gateway where
  server : Agent.Server
  session : Session
  unread : List UInt8
  inputEnded : Bool
  served : Option ServingEnd

namespace Gateway

def start (catalogue : Catalogue) : Gateway :=
  ⟨.start catalogue, .start, [], false, none⟩

structure Effects where
  responses : List Agent.Response
  sent : List Json

namespace Effects

def none : Effects := ⟨[], []⟩

def append (first second : Effects) : Effects :=
  ⟨first.responses ++ second.responses, first.sent ++ second.sent⟩

end Effects

def conclude (server : Agent.Server) : List Finished → Agent.Server × List Agent.Response
  | [] => (server, [])
  | ⟨ticket, .query query, outcome⟩ :: rest =>
    let (server, responses) := server.finish ticket (query.result outcome)
    let (server, more) := conclude server rest
    (server, responses ++ more)
  | _ :: rest => conclude server rest

def absorb (gateway : Gateway) (operation : Session × Session.Effects) : Gateway × Effects :=
  let (server, responses) := conclude gateway.server operation.2.finished
  ({ gateway with server, session := operation.1 }, ⟨responses, operation.2.sent⟩)

def carryOut (gateway : Gateway) (disk : Disk) : Agent.Order → Gateway × Effects
  | .start ticket (.answered result) =>
    let (server, responses) := gateway.server.finish ticket result
    ({ gateway with server }, ⟨responses, []⟩)
  | .start ticket (.query query) =>
    gateway.absorb (gateway.session.ask disk ticket query (gateway.server.isCancelled ticket))
  | .cancel ticket => gateway.absorb (gateway.session.cancel ticket)

def carryOutAll (gateway : Gateway) (disk : Disk) : List Agent.Order → Gateway × Effects
  | [] => (gateway, .none)
  | order :: rest =>
    let (gateway, effects) := gateway.carryOut disk order
    let (gateway, more) := gateway.carryOutAll disk rest
    (gateway, effects.append more)

def fileOf? : Agent.Order → Option Url
  | .start _ (.query query) =>
    (query.uri?.bind fun uri => (Url.parse uri).toOption).filter Url.isFile
  | _ => none

/-- Parts orders into those that are carried out at once and those that wait for a file. Documents
    are read one at a time, so that behind the first that is `reading` every order about a file
    waits. -/
def partOrders (link : Link) : (reading : Bool) → List Agent.Order →
    List Agent.Order × List Agent.Order
  | _, [] => ([], [])
  | reading, order :: rest =>
    let waits := (fileOf? order).any fun url => reading || link.mustRead url
    let (atOnce, later) := partOrders link (reading || waits) rest
    if waits then (atOnce, order :: later) else (order :: atOnce, later)

/-- Carries out the orders of some lines, those that wait for a file behind the others. -/
def carryOutOrders (gateway : Gateway) (disk : Disk) (orders : List Agent.Order) :
    Gateway × Effects :=
  let (atOnce, later) := partOrders gateway.session.link false orders
  gateway.carryOutAll disk (atOnce ++ later)

def settle (gateway : Gateway) : Gateway :=
  if gateway.served.isNone && gateway.inputEnded && gateway.server.isIdle then
    { gateway with served := some .finished, server :=
      { gateway.server with catalogue := gateway.server.catalogue.dispose } }
  else gateway

/-- Ends serving at a line that cannot be read. Calls under way are dropped without a word to
    anyone. -/
def breakOff (gateway : Gateway) (invalid : Utf8.Invalid) : Gateway :=
  { gateway with
    served := some (.unreadable invalid), unread := []
    server := gateway.server.dropCalls
    session := gateway.session.dropCalls }

/-- Takes in bytes from the agent. `ended` when no more will come. A line that cannot be read ends
    serving before anything is done for the calls in front of it. -/
def receive (gateway : Gateway) (disk : Disk) (ended : Bool) (bytes : List UInt8) :
    Gateway × Effects :=
  if gateway.inputEnded || gateway.served.isSome then (gateway, .none)
  else
    let (lines, unread) := Agent.lines ended (gateway.unread ++ bytes)
    let (texts, invalid) := Agent.decodeLines lines
    let (server, reaction) := gateway.server.handleLines texts
    let gateway := { gateway with server, unread, inputEnded := ended }
    match invalid with
    | some invalid => (gateway.breakOff invalid, ⟨reaction.responses, []⟩)
    | none =>
      let (gateway, effects) := gateway.carryOutOrders disk reaction.orders
      (gateway.settle, Effects.append ⟨reaction.responses, []⟩ effects)

def receiveFromServer (gateway : Gateway) (ended : Bool) (bytes : List UInt8) :
    Gateway × Effects :=
  let (gateway, effects) := gateway.absorb (gateway.session.receive ended bytes)
  (gateway.settle, effects)

end Gateway

end CodeGateway
