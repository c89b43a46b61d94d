import CodeGateway.CommandLine.Command
import CodeGateway.Workspace.Identity

namespace CodeGateway.CommandLine

def commandSummaries : List (String × String) :=
  [("deps <URI>", "Show the import graph around a file"),
    ("calls <URI> <LINE>", "Show callers and callees of the function at a position"),
    ("impact <URI> <LINE>", "Show what a change to the symbol at a position would affect"),
    ("context <URI> <LINE>", "Gather source and related context for the symbol at a position"),
    ("tests <URI>", "Find tests related to the code at a position"),
    ("symbol <URI> <LINE>", "Show documentation, definition and references of a symbol"),
    ("metrics", "Show parser statistics per language"),
    ("reindex", "Clear the server's code graph so files are parsed again")]

def usage : List String :=
  ["Code intelligence for AI agents, backed by the CodeGraph language server", "",
    s!"Usage: {programName} [OPTIONS] <COMMAND>", "", "Commands:"] ++
    commandSummaries.map (fun summary => s!"  {summary.1}: {summary.2}") ++
    ["", "Options:", "  -r, --root <ROOT>: Workspace root, by default the current directory",
      "  -c, --config <CONFIG>: Settings file, by default the one below the root"]

namespace Refusal

def message : Refusal → String
  | missingValue name => s!"a value is required for `{name}` but none was given"
  | emptyValue name => s!"an empty value was given for `{name}`"
  | notOneOf name value => s!"`{value}` is no possible value for `{name}`"
  | notANumber name value => s!"invalid value `{value}` for `{name}`"
  | unneededValue name => s!"`{name}` takes no value"
  | repeated name => s!"`{name}` cannot be used more than once"
  | unknownArgument argument => s!"unexpected argument `{argument}`"
  | unknownCommand argument => s!"unknown command `{argument}`"
  | missingArgument name => s!"required argument `{name}` was not given"
  | missingCommand => "a command is required"
  | nothingGiven => "nothing to do"
  | helpRequested => "help"
  | versionRequested => s!"{programName} {programVersion}"

def isAnswer : Refusal → Bool
  | helpRequested | versionRequested => true
  | _ => false

def lines : Refusal → List String
  | helpRequested | nothingGiven => usage
  | versionRequested => [message versionRequested]
  | refusal => [s!"error: {refusal.message}", "", s!"Usage: {programName} [OPTIONS] <COMMAND>"]

end Refusal

end CodeGateway.CommandLine
