import CodeGateway.Session.Exchange

namespace CodeGateway

inductive Goal where
  | value
  | handshake
  | farewell
  | query (asked : Query)

namespace Goal

abbrev Result : Goal → Type
  | value => Json
  | handshake => Unit
  | farewell => Unit
  | query asked => asked.Reply

def conclude : (goal : Goal) → List Outcome → Except Failure goal.Result
  | value, outcomes => Query.first outcomes
  | handshake, outcomes => (Query.first outcomes).map fun _ => ()
  | farewell, _ => .ok ()
  | query asked, outcomes => asked.conclude outcomes

/-- What a call still does when it ends: the server is told that the handshake is over, or to exit,
    and after a reindex it has none of the documents any more. -/
def wrapUp (link : Link) : (goal : Goal) → Except Failure goal.Result → Link × List Json
  | handshake, .ok _ => (link, [Message.notification "initialized" (.object [])])
  | farewell, _ => (link, [Message.notification "exit" .null])
  | query .reindex, .ok _ => link.closeDocuments
  | _, _ => (link, [])

end Goal

structure Part where
  id : Nat
  outcome : Option Outcome

namespace Part

def isWaiting (part : Part) : Bool :=
  part.outcome.isNone

def deliver (id : Nat) (outcome : Outcome) (part : Part) : Part :=
  if part.id = id ∧ part.isWaiting then { part with outcome := some outcome } else part

end Part

structure Call where
  ticket : Nat
  goal : Goal
  parts : List Part

namespace Call

def deliver (id : Nat) (outcome : Outcome) (call : Call) : Call :=
  { call with parts := call.parts.map (Part.deliver id outcome) }

def made (call : Call) (id : Nat) : Bool :=
  call.parts.any fun part => part.id == id

def waiting (call : Call) : List Nat :=
  (call.parts.filter Part.isWaiting).map Part.id

def outcomes? (call : Call) : Option (List Outcome) :=
  call.parts.mapM Part.outcome

end Call

structure Finished where
  ticket : Nat
  goal : Goal
  result : Except Failure goal.Result

structure Session where
  link : Link
  calls : List Call

namespace Session

def start : Session := ⟨.start, []⟩

structure Effects where
  sent : List Json
  finished : List Finished

namespace Effects

def none : Effects := ⟨[], []⟩

def append (first second : Effects) : Effects :=
  ⟨first.sent ++ second.sent, first.finished ++ second.finished⟩

end Effects

def settleCall (session : Session) (id : Nat) : Session × Effects :=
  match session.calls.find? (Call.made · id) with
  | none => (session, .none)
  | some call =>
    match call.outcomes? with
    | none => (session, .none)
    | some outcomes =>
      let result := call.goal.conclude outcomes
      let (link, sent) := call.goal.wrapUp session.link result
      (⟨link, session.calls.filter fun other => !other.made id⟩,
        ⟨sent, [⟨call.ticket, call.goal, result⟩]⟩)

def settle (session : Session) : List Nat → Session × Effects
  | [] => (session, .none)
  | id :: rest =>
    let (session, effects) := session.settleCall id
    let (session, more) := session.settle rest
    (session, effects.append more)

/-- Hands the ends of requests to the calls that made them. Every request is ended before the first
    call is. -/
def deliver (session : Session) (ended : List (Nat × Outcome)) : Session × Effects :=
  let calls :=
    ended.foldl (fun calls entry => calls.map (Call.deliver entry.1 entry.2)) session.calls
  { session with calls }.settle (ended.map Prod.fst)

def carryOut (session : Session) (operation : Link × CodeGateway.Effects) : Session × Effects :=
  let (after, effects) := { session with link := operation.1 }.deliver operation.2.ended
  (after, { effects with sent := operation.2.sent ++ effects.sent })

/-- Starts requests one after the other. When their call is already taken back, each of them is
    taken back as soon as it is sent. -/
def startRequests (takenBack : Bool) (link : Link) :
    List RequestText → Link × List Json × List Part
  | [] => (link, [], [])
  | (method, params) :: rest =>
    let id := link.nextId
    let (link, sent, started) := link.request method params
    let (link, effects) := if takenBack then link.cancel id else (link, .none)
    let outcome := match started with
      | .ok _ => effects.ended.lookup id
      | .error failure => some (.error failure)
    let (link, more, parts) := startRequests takenBack link rest
    (link, sent ++ effects.sent ++ more, ⟨id, outcome⟩ :: parts)

def begin (session : Session) (ticket : Nat) (goal : Goal) (requests : List RequestText)
    (takenBack : Bool) : Session × Effects :=
  let (link, sent, parts) := startRequests takenBack session.link requests
  let calls := session.calls ++ [⟨ticket, goal, parts⟩]
  let (after, effects) := settle ⟨link, calls⟩ (parts.map Part.id)
  (after, { effects with sent := sent ++ effects.sent })

def request (session : Session) (ticket : Nat) (method : String) (params : Json) :
    Session × Effects :=
  session.begin ticket .value [(method, params)] false

def handshake (session : Session) (ticket processId : Nat) (root : List Char) :
    Session × Effects :=
  session.begin ticket .handshake [("initialize", handshakeParams processId root)] false

def farewell (session : Session) (ticket : Nat) : Session × Effects :=
  session.begin ticket .farewell [("shutdown", .null)] false

def openDocument (session : Session) (disk : Disk) (uri : Option String) :
    Session × List Json :=
  match uri.map Url.parse with
  | some (.ok url) =>
    let (link, sent) := session.link.openDocument disk url
    ({ session with link }, sent)
  | _ => (session, [])

/-- Puts a query, which may be taken back already. The document that it is about is sent first. -/
def ask (session : Session) (disk : Disk) (ticket : Nat) (query : Query) (takenBack : Bool) :
    Session × Effects :=
  match query.requests with
  | .error failure => (session, ⟨[], [⟨ticket, .query query, .error failure⟩]⟩)
  | .ok requests =>
    let (session, sent) := session.openDocument disk query.uri?
    let (session, effects) := session.begin ticket (.query query) requests takenBack
    (session, { effects with sent := sent ++ effects.sent })

def waitingOf (session : Session) (ticket : Nat) : List Nat :=
  (session.calls.filter fun call => call.ticket == ticket).flatMap Call.waiting

def cancel (session : Session) (ticket : Nat) : Session × Effects :=
  session.carryOut (session.link.cancelAll (session.waitingOf ticket))

/-- Drops every call without a word to the server. Replies to their requests come to nothing. -/
def dropCalls (session : Session) : Session :=
  { session with calls := [] }

def receive (session : Session) (ended : Bool) (bytes : List UInt8) : Session × Effects :=
  session.carryOut (session.link.receive ended bytes)

end Session

end CodeGateway
