import CodeGateway.Link.Frame
import CodeGateway.Query.Failure
import CodeGateway.Workspace.Path

namespace CodeGateway

abbrev Outcome := Except Failure Json

structure Link where
  nextId : Nat
  waiting : List Nat
  closed : Option String
  /-- The URLs of the documents that the server has been sent and not taken back. -/
  opened : List String
  unread : List UInt8

/-- The text of the file at a path, if it is there and is text. -/
abbrev Disk := List UInt8 → Option String

structure Effects where
  sent : List Json
  ended : List (Nat × Outcome)

namespace Effects

def none : Effects := ⟨[], []⟩

def send (message : Json) : Effects := ⟨[message], []⟩

def append (first second : Effects) : Effects :=
  ⟨first.sent ++ second.sent, first.ended ++ second.ended⟩

end Effects

namespace Message

def request (id : Nat) (method : String) (params : Json) : Json :=
  .object [("id", .int id), ("jsonrpc", .string "2.0"), ("method", .string method),
    ("params", params)]

def notification (method : String) (params : Json) : Json :=
  .object [("jsonrpc", .string "2.0"), ("method", .string method), ("params", params)]

def answer (id : Json) : Json :=
  .object [("id", id), ("jsonrpc", .string "2.0"), ("result", .null)]

def cancel (id : Nat) : Json :=
  notification "$/cancelRequest" (.object [("id", .int id)])

def didOpen (url language text : String) : Json :=
  notification "textDocument/didOpen" (.object [("textDocument", .object
    [("languageId", .string language), ("text", .string text), ("uri", .string url),
      ("version", .int 1)])])

def didClose (url : String) : Json :=
  notification "textDocument/didClose" (.object [("textDocument", .object
    [("uri", .string url)])])

/-- The error of a reply. What is missing in it has a default, and data that is null is none. -/
def remoteFailure (error : Json) : Failure :=
  let data := match error.member? "data" with
    | some .null => none
    | data => data
  .remote (((error.member? "code").bind Json.word?).getD (-32603))
    (((error.member? "message").bind Json.string?).getD "Unknown error") data

def outcome (message : Json) : Outcome :=
  match message.member? "error" with
  | some error => .error (remoteFailure error)
  | none => .ok ((message.member? "result").getD .null)

inductive Kind where
  | reply (id : Int)
  | request (id : Json)
  | other

/-- A message with a method is a request when it has an identifier of any kind. One without is a
    reply when its identifier is a whole number. -/
def kind (message : Json) : Kind :=
  match (message.member? "method").bind Json.string?, message.member? "id" with
  | some _, some id => .request id
  | none, some id =>
    match id.word? with
    | some id => .reply id
    | none => .other
  | _, none => .other

end Message

namespace Link

def start : Link := ⟨1, [], none, [], []⟩

def takeNumber (link : Link) : Link × Nat :=
  ({ link with nextId := link.nextId + 1 }, link.nextId)

/-- Has the request with this number wait for an answer, unless the connection has ended. -/
def register (link : Link) (id : Nat) : Except Failure Link :=
  match link.closed with
  | some reason => .error (.closed reason)
  | none => .ok { link with waiting := link.waiting ++ [id] }

def forget (link : Link) (id : Nat) : Link :=
  { link with waiting := link.waiting.erase id }

/-- Starts a request. It takes a number in any case; when the connection has ended it fails at once
    and nothing is sent. -/
def request (link : Link) (method : String) (params : Json) :
    Link × List Json × Except Failure Nat :=
  let (link, id) := link.takeNumber
  match link.register id with
  | .error failure => (link, [], .error failure)
  | .ok link => (link, [Message.request id method params], .ok id)

def cancel (link : Link) (id : Nat) : Link × Effects :=
  if link.waiting.contains id then
    (link.forget id, ⟨[Message.cancel id], [(id, .error .cancelled)]⟩)
  else (link, .none)

def cancelAll (link : Link) : List Nat → Link × Effects
  | [] => (link, .none)
  | id :: rest =>
    let (link, effects) := link.cancel id
    let (link, more) := link.cancelAll rest
    (link, effects.append more)

def route (link : Link) (message : Json) : Link × Effects :=
  match Message.kind message with
  | .request id => (link, .send (Message.answer id))
  | .reply id =>
    match link.waiting.find? fun (waiting : Nat) => (waiting : Int) == id with
    | some waiting => (link.forget waiting, ⟨[], [(waiting, Message.outcome message)]⟩)
    | none => (link, .none)
  | .other => (link, .none)

def routeAll (link : Link) : List Json → Link × Effects
  | [] => (link, .none)
  | message :: rest =>
    let (link, effects) := link.route message
    let (link, more) := link.routeAll rest
    (link, effects.append more)

def close (link : Link) (reason : String) : Link × Effects :=
  ({ link with waiting := [], closed := some reason, unread := [] },
    ⟨[], link.waiting.map fun id => (id, .error (.closed reason))⟩)

/-- Why the connection ends when reading frames has stopped, unless more may come. -/
def closeReason? : Frame.Stop → Option String
  | .more => none
  | .done => some "language server closed its output"
  | .fault fault => some s!"read error: {fault.message}"
  | .noRoom => some "language server reader stopped"

/-- Reads bytes from the server: the messages in them, and why the connection ends with them if
    it does. `ended` when no more will come. A connection that has ended reads nothing. -/
def read (link : Link) (ended : Bool) (bytes : List UInt8) :
    Link × List Json × Option String :=
  match link.closed with
  | some _ => (link, [], none)
  | none =>
    let (messages, stop, rest) := Frame.readAll ended (link.unread ++ bytes)
    ({ link with unread := rest }, messages, closeReason? stop)

def receive (link : Link) (ended : Bool) (bytes : List UInt8) : Link × Effects :=
  let (link, messages, reason) := link.read ended bytes
  let (link, effects) := link.routeAll messages
  match reason with
  | none => (link, effects)
  | some reason =>
    let (link, more) := link.close reason
    (link, effects.append more)

def mustRead (link : Link) (url : Url) : Bool :=
  url.isFile && !link.opened.contains url.toString && url.filePath?.isSome

/-- Sends a document, unless the server has it, it is no file here, or it cannot be read as text. -/
def openDocument (link : Link) (disk : Disk) (url : Url) : Link × List Json :=
  if !url.isFile || link.opened.contains url.toString then (link, [])
  else
    match url.filePath? with
    | none => (link, [])
    | some path =>
      match disk path with
      | none => (link, [])
      | some text =>
        ({ link with opened := link.opened ++ [url.toString] },
          [Message.didOpen url.toString (Path.language (Utf8.decodeLossy path)) text])

/-- Takes every document back, so that it is sent again before the next request about it. -/
def closeDocuments (link : Link) : Link × List Json :=
  ({ link with opened := [] }, link.opened.map Message.didClose)

def inFlight (link : Link) : Nat :=
  link.waiting.length

end Link

end CodeGateway
