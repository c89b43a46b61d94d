import CodeGateway.Link.Basic

/-!
The link as many callers share it. A request is made in steps: it takes a number, is registered,
sends its message, and ends with what it was handed or because it is taken back. Between two steps
of one request come steps of the others, signals, messages from the server and the end of the
connection.
-/

namespace CodeGateway

namespace SharedLink

inductive Stage where
  | numbered
  | registered
  | sent
  | ended (outcome : Outcome)

namespace Stage

def isNumbered : Stage → Bool
  | numbered => true
  | _ => false

def isRegistered : Stage → Bool
  | registered => true
  | _ => false

def isSent : Stage → Bool
  | sent => true
  | _ => false

end Stage

structure Request where
  id : Nat
  signal : Nat
  method : String
  params : Json
  stage : Stage

inductive Move where
  | begin (signal : Nat) (method : String) (params : Json)
  | register (id : Nat)
  | send (id : Nat)
  | fire (signal : Nat)
  | collect (id : Nat)
  | withdraw (id : Nat)
  | stopWriter

inductive Event where
  | move (move : Move)
  | route (message : Json)
  | stop (reason : String)

end SharedLink

structure SharedLink where
  link : Link
  requests : List SharedLink.Request
  /-- What requests were handed, by their numbers. -/
  posted : List (Nat × Outcome)
  fired : List Nat
  /-- Whether nothing is sent any more. -/
  muted : Bool
  outgoing : List Json

namespace SharedLink

def start : SharedLink := ⟨.start, [], [], [], false, []⟩

def request? (shared : SharedLink) (id : Nat) : Option Request :=
  shared.requests.find? fun request => request.id == id

def advance (shared : SharedLink) (id : Nat) (stage : Stage) : SharedLink :=
  { shared with
    requests := shared.requests.map fun request =>
      if request.id = id then { request with stage } else request }

/-- Messages on their way to the server. They are dropped once nothing is sent any more. -/
def hand (shared : SharedLink) (messages : List Json) : SharedLink :=
  { shared with outgoing := if shared.muted then shared.outgoing else shared.outgoing ++ messages }

def absorb (shared : SharedLink) (operation : Link × Effects) : SharedLink :=
  { shared with
    link := operation.1
    posted := shared.posted ++ operation.2.ended }.hand operation.2.sent

def begin (shared : SharedLink) (signal : Nat) (method : String) (params : Json) : SharedLink :=
  let (link, id) := shared.link.takeNumber
  { shared with link, requests := shared.requests ++ [⟨id, signal, method, params, .numbered⟩] }

def register (shared : SharedLink) (request : Request) : SharedLink :=
  match shared.link.register request.id with
  | .ok link => { shared with link }.advance request.id .registered
  | .error failure => shared.advance request.id (.ended (.error failure))

def send (shared : SharedLink) (request : Request) : SharedLink :=
  if shared.muted then
    { shared with link := shared.link.forget request.id }.advance request.id
      (.ended (.error (.closed "writer stopped")))
  else
    (shared.hand [Message.request request.id request.method request.params]).advance request.id
      .sent

/-- A request that waits no longer and was handed nothing ends all the same. -/
def collect (shared : SharedLink) (request : Request) : SharedLink :=
  match shared.posted.lookup request.id with
  | some outcome => shared.advance request.id (.ended outcome)
  | none =>
    if shared.link.waiting.contains request.id then shared
    else shared.advance request.id (.ended (.error (.closed "reply dropped")))

def withdraw (shared : SharedLink) (request : Request) : SharedLink :=
  if shared.fired.contains request.signal then
    ({ shared with link := shared.link.forget request.id }.hand [Message.cancel request.id]).advance
      request.id (.ended (.error .cancelled))
  else shared

def proceed (shared : SharedLink) (id : Nat) (ready : Stage → Bool) (act : Request → SharedLink) :
    SharedLink :=
  match shared.request? id with
  | some request => if ready request.stage then act request else shared
  | none => shared

def move (shared : SharedLink) : Move → SharedLink
  | .begin signal method params => shared.begin signal method params
  | .register id => shared.proceed id Stage.isNumbered shared.register
  | .send id => shared.proceed id Stage.isRegistered shared.send
  | .fire signal => { shared with fired := signal :: shared.fired }
  | .collect id => shared.proceed id Stage.isSent shared.collect
  | .withdraw id => shared.proceed id Stage.isSent shared.withdraw
  | .stopWriter => { shared with muted := true }

def step (shared : SharedLink) : Event → SharedLink
  | .move move => shared.move move
  | .route message =>
    if shared.link.closed.isSome then shared else shared.absorb (shared.link.route message)
  | .stop reason =>
    if shared.link.closed.isSome then shared else shared.absorb (shared.link.close reason)

def runFrom (shared : SharedLink) (events : List Event) : SharedLink :=
  events.foldl step shared

def run (events : List Event) : SharedLink :=
  start.runFrom events

end SharedLink

end CodeGateway
