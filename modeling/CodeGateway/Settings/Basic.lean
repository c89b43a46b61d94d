import CodeGateway.Query.Options
import CodeGateway.Text.Blank
import CodeGateway.Text.Utf8
import CodeGateway.Toml.Reader
import CodeGateway.Workspace.Path

namespace CodeGateway

open Decode

structure ServerSettings where
  command : String
  arguments : List String
  deriving DecidableEq

structure Settings where
  server : ServerSettings
  defaults : QueryDefaults
  logFilter : String
  deriving DecidableEq

namespace Settings

def builtIn : Settings :=
  ⟨⟨"codegraph-lsp", []⟩, .builtIn, "info"⟩

def fileName : List Char := ".codegraph/bridge.toml".toList

def path (root : List Char) : List Char :=
  Path.join root fileName

def repeats (names : List String) : Json → Bool
  | .object members => names.any fun name => 1 < (members.map Prod.fst).count name
  | _ => false

def onceEach {α : Type} (names : List String) (decode : Json → Except Error α) (json : Json) :
    Except Error α :=
  match names.find? fun name => repeats [name] json with
  | some name => .error (.duplicateMember name)
  | none => decode json

def decodeServer : Json → Except Error ServerSettings :=
  onceEach ["command", "args"]
    (Record.decode "ServerSettings"
      ((Record.of ServerSettings.mk).take (defaulted "command" string builtIn.server.command)
        |>.take (defaulted "args" (list string) builtIn.server.arguments)))

def decodeDefaults : Json → Except Error QueryDefaults :=
  onceEach ["depth", "include_external", "dependency_direction", "call_direction", "character",
      "intent", "max_tokens", "change_type", "tests_line"] QueryDefaults.decode

def decodeLog : Json → Except Error String :=
  onceEach ["filter"]
    (Record.decode "LogSettings"
      ((Record.of id).take (defaulted "filter" string builtIn.logFilter)))

def decode : Json → Except Error Settings :=
  onceEach ["server", "defaults", "log"]
    (Record.decode "Settings"
      ((Record.of Settings.mk).take (defaulted "server" decodeServer builtIn.server)
        |>.take (defaulted "defaults" decodeDefaults builtIn.defaults)
        |>.take (defaulted "log" decodeLog builtIn.logFilter)))

def parse (text : String) : Option Settings :=
  (Toml.parse text).bind fun table => (decode table).toOption

inductive FileState where
  | missing
  | unreadable (reason : String)
  | bytes (content : List UInt8)

inductive LoadError where
  | unreadable (reason : String)
  | malformed
  deriving DecidableEq

def LoadError.message : LoadError → String
  | unreadable reason => s!"IO error: {reason}"
  | malformed => "Invalid config"

def tryLoad : FileState → Except LoadError (Option Settings)
  | .missing => .ok none
  | .unreadable reason => .error (.unreadable reason)
  | .bytes content =>
    match Utf8.text content with
    | .error _ => .error (.unreadable "stream did not contain valid UTF-8")
    | .ok text =>
      match parse text with
      | some settings => .ok (some settings)
      | none => .error .malformed

def override (settings : Settings) (command : Option String) : Settings :=
  match command.filter fun command => !Text.isBlankText command with
  | some command => { settings with server := { settings.server with command } }
  | none => settings

/-- The settings to use: those in the file, or the built-in ones when there are none in it or it is
    faulty, with the command from outside. -/
def ofLoaded (loaded : Except LoadError (Option Settings)) (command : Option String) : Settings :=
  let settings := match loaded with
    | .ok (some settings) => settings
    | _ => builtIn
  settings.override command

def load (file : FileState) (command : Option String) : Settings :=
  ofLoaded (tryLoad file) command

def encode (settings : Settings) : Json :=
  .object [("defaults", settings.defaults.encode),
    ("log", .object [("filter", .string settings.logFilter)]),
    ("server", .object [("args", .ofList .string settings.server.arguments),
      ("command", .string settings.server.command)])]

end Settings

end CodeGateway
