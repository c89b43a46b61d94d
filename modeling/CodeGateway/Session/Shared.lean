import CodeGateway.Link.Shared
import CodeGateway.Session.Exchange

/-!
A session as many callers share it, over a connection that stays open. A call sends its document
unless the server has it, makes its requests one after the other, and ends once all of them have
ended; a reindex that succeeded takes every document back first. Whoever sends a document or takes
them back has the documents to itself. Between two steps of one call come steps of the others,
signals and messages from the server.
-/

namespace CodeGateway

def Query.file? (query : Query) : Option Url :=
  match query.uri?.map Url.parse with
  | some (.ok url) => if url.isFile then some url else none
  | _ => none

namespace Link

def sendDocument (link : Link) (url : Url) (path : List UInt8) (text : String) : Link × Effects :=
  ({ link with opened := link.opened ++ [url.toString] },
    .send (Message.didOpen url.toString (Path.language (Utf8.decodeLossy path)) text))

def closeDocument (link : Link) (name : String) : Link × Effects :=
  ({ link with opened := link.opened.erase name }, .send (Message.didClose name))

end Link

namespace SharedLink

def Request.outcome? (request : Request) : Option Outcome :=
  match request.stage with
  | .ended outcome => some outcome
  | _ => none

def outcome? (shared : SharedLink) (id : Nat) : Option Outcome :=
  (shared.request? id).bind Request.outcome?

end SharedLink

namespace SharedSession

inductive Stage (query : Query) where
  | queued (url : Url)
  | reading (url : Url) (path : List UInt8)
  | asking
  /-- It has its result and waits for the documents, to take them back. -/
  | forgotten (result : Except Failure query.Reply)
  | closing (result : Except Failure query.Reply)
  | ended (result : Except Failure query.Reply)

def Stage.conclude : (query : Query) → Except Failure query.Reply → Stage query
  | .reindex, .ok done => .forgotten (.ok done)
  | _, result => .ended result

structure Call where
  signal : Nat
  query : Query
  stage : Stage query
  made : List Nat
  left : List RequestText

/-- A query that cannot be asked has failed before anything is sent. -/
def Call.start (signal : Nat) (query : Query) : Call :=
  match query.requests with
  | .error failure => ⟨signal, query, .ended (.error failure), [], []⟩
  | .ok requests =>
    match query.file? with
    | some url => ⟨signal, query, .queued url, [], requests⟩
    | none => ⟨signal, query, .asking, [], requests⟩

inductive LinkStep where
  | register (id : Nat)
  | send (id : Nat)
  | collect (id : Nat)
  | withdraw (id : Nat)
  | fire (signal : Nat)
  | route (message : Json)

def LinkStep.event : LinkStep → SharedLink.Event
  | register id => .move (.register id)
  | send id => .move (.send id)
  | collect id => .move (.collect id)
  | withdraw id => .move (.withdraw id)
  | fire signal => .move (.fire signal)
  | route message => .route message

/-- Calls are named by their places in the list of all calls. -/
inductive Event where
  | call (signal : Nat) (query : Query)
  | lock (call : Nat)
  /-- Reads the document of a call, from a disk as it is then. -/
  | read (call : Nat) (disk : Disk)
  | ask (call : Nat)
  | conclude (call : Nat)
  | close (call : Nat) (name : String)
  | release (call : Nat)
  | link (step : LinkStep)

end SharedSession

structure SharedSession where
  shared : SharedLink
  calls : List SharedSession.Call
  holder : Option Nat

namespace SharedSession

def start : SharedSession := ⟨.start, [], none⟩

def update (session : SharedSession) (n : Nat) (call : Call) : SharedSession :=
  { session with calls := session.calls.set n call }

/-- A document that the server has, or that is no file here, need not be read. -/
def lock (session : SharedSession) (n : Nat) (call : Call) : SharedSession :=
  match session.holder, call.stage with
  | none, .queued url =>
    if session.shared.link.opened.contains url.toString then
      session.update n { call with stage := .asking }
    else
      match url.filePath? with
      | none => session.update n { call with stage := .asking }
      | some path =>
        { session.update n { call with stage := .reading url path } with holder := some n }
  | none, .forgotten result =>
    { session.update n { call with stage := .closing result } with holder := some n }
  | _, _ => session

/-- A call whose document has been read but cannot be sent fails. -/
def read (session : SharedSession) (disk : Disk) (n : Nat) (call : Call) : SharedSession :=
  match call.stage with
  | .reading url path =>
    let after := { session.update n { call with stage := .asking } with holder := none }
    match disk path with
    | none => after
    | some text =>
      if session.shared.muted then
        { session.update n { call with stage := .ended (.error (.closed "writer stopped")) } with
          holder := none }
      else
        { after with
          shared := session.shared.absorb (session.shared.link.sendDocument url path text) }
  | _ => session

def ask (session : SharedSession) (n : Nat) (call : Call) : SharedSession :=
  match call.stage, call.left with
  | .asking, (method, params) :: left =>
    { session.update n { call with made := call.made ++ [session.shared.link.nextId], left } with
      shared := session.shared.begin call.signal method params }
  | _, _ => session

def conclude (session : SharedSession) (n : Nat) (call : Call) : SharedSession :=
  match call.stage, call.left, call.made.mapM session.shared.outcome? with
  | .asking, [], some outcomes =>
    session.update n { call with stage := .conclude call.query (call.query.conclude outcomes) }
  | _, _, _ => session

/-- A call that cannot tell the server of a document fails. All documents are forgotten then. -/
def close (session : SharedSession) (n : Nat) (name : String) (call : Call) : SharedSession :=
  match call.stage with
  | .closing _ =>
    if session.shared.link.opened.contains name then
      if session.shared.muted then
        { session.update n { call with stage := .ended (.error (.closed "writer stopped")) } with
          shared := { session.shared with link := session.shared.link.closeDocuments.1 }
          holder := none }
      else
        { session with shared := session.shared.absorb (session.shared.link.closeDocument name) }
    else session
  | _ => session

def release (session : SharedSession) (n : Nat) (call : Call) : SharedSession :=
  match call.stage with
  | .closing result =>
    if session.shared.link.opened.isEmpty then
      { session.update n { call with stage := .ended result } with holder := none }
    else session
  | _ => session

def proceed (session : SharedSession) (n : Nat) (act : Call → SharedSession) : SharedSession :=
  match session.calls[n]? with
  | some call => act call
  | none => session

def step (session : SharedSession) : Event → SharedSession
  | .call signal query => { session with calls := session.calls ++ [.start signal query] }
  | .lock n => session.proceed n (session.lock n)
  | .read n disk => session.proceed n (session.read disk n)
  | .ask n => session.proceed n (session.ask n)
  | .conclude n => session.proceed n (session.conclude n)
  | .close n name => session.proceed n (session.close n name)
  | .release n => session.proceed n (session.release n)
  | .link step => { session with shared := session.shared.step step.event }

def runFrom (session : SharedSession) (events : List Event) : SharedSession :=
  events.foldl step session

def run (events : List Event) : SharedSession :=
  start.runFrom events

end SharedSession

end CodeGateway
