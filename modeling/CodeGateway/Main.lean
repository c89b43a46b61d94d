import CodeGateway.CommandLine.Usage
import CodeGateway.Launch.Basic
import CodeGateway.Settings.Basic
import CodeGateway.Tool.Catalogue

namespace CodeGateway.Program

structure Wire where
  input : IO.FS.Stream
  output : IO.FS.Stream

def Wire.send (wire : Wire) (messages : List Json) : IO Unit := do
  for message in messages do
    wire.output.write ⟨(Frame.encode message).toArray⟩
  wire.output.flush

partial def await (wire : Wire) (ticket : Nat) (step : Session × Session.Effects) :
    IO (Session × Option Finished) := do
  let (session, effects) := step
  wire.send effects.sent
  match effects.finished.find? fun finished => finished.ticket == ticket with
  | some finished => return (session, some finished)
  | none =>
    if session.link.closed.isSome then return (session, none)
    else
      let bytes ← wire.input.read (Frame.lacking session.link.unread).toUSize
      await wire ticket (session.receive bytes.isEmpty bytes.data.toList)

def processId : IO Nat := do
  try
    let status ← IO.FS.readFile "/proc/self/stat"
    return ((status.splitOn " ").headD "").toNat?.getD 0
  catch _ => return 0

def fileState (path : String) : IO Settings.FileState := do
  try
    let content ← IO.FS.readBinFile path
    return .bytes content.data.toList
  catch
    | .noFileOrDirectory .. => return .missing
    | error => return .unreadable (toString error)

def diskFor (query : Query) : IO Disk := do
  match query.uri?.map Url.parse with
  | some (.ok url) =>
    match url.filePath? with
    | none => return fun _ => none
    | some path =>
      try
        let content ← IO.FS.readBinFile (String.ofList (Utf8.decodeLossy path))
        let text := (Utf8.text content.data.toList).toOption
        return fun wanted => if wanted == path then text else none
      catch _ => return fun _ => none
  | _ => return fun _ => none

def reply? (query : Query) : Finished → Option (Except Failure query.Reply)
  | ⟨_, .query asked, outcome⟩ => if same : asked = query then some (same ▸ outcome) else none
  | _ => none

def ask (wire : Wire) (query : Query) : StateT Session IO (Except Failure query.Reply) := do
  let disk ← diskFor query
  let (session, finished) ← await wire 1 ((← get).ask disk 1 query false)
  set session
  return (finished.bind (reply? query)).getD
    (.error (.closed "language server closed its output"))

def run (invocation : CommandLine.Invocation) : IO UInt32 := do
  let root ← IO.FS.realPath invocation.root
  let root := root.toString.toList
  let path := invocation.config.getD (String.ofList (Settings.path root))
  let file ← fileState path
  if let .error fault := Settings.tryLoad file then
    IO.eprintln s!"{path} is not used: {fault.message}"
  let settings := Settings.load file (← IO.getEnv "CODEGRAPH_LSP")
  let wire : Wire := ⟨← IO.getStdin, ← IO.getStdout⟩
  let (session, opened) ← await wire 0 (Session.start.handshake 0 (← processId) root)
  match Session.handshakeEnd? 0 opened.toList with
  | some (.ok ()) =>
    let catalogue := Catalogue.ofRoot root settings.defaults
    let command := invocation.command
    let (result, session) ←
      (catalogue.callTool (ask wire) command.tool.name command.arguments).run session
    let _ ← await wire 2 (session.farewell 2)
    IO.eprintln (Text.trimEnd result.text)
    return if result.isError then 1 else 0
  | some (.error fault) =>
    IO.eprintln fault.message
    return 1
  | none => return 1

end CodeGateway.Program

def main (arguments : List String) : IO UInt32 := do
  match CodeGateway.CommandLine.parse arguments with
  | .ok invocation => CodeGateway.Program.run invocation
  | .error refusal =>
    for line in refusal.lines do
      IO.eprintln line
    return if refusal.isAnswer then 0 else 2
