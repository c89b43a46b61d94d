import CodeGateway.CommandLine.Arguments
import CodeGateway.Tool.Basic

namespace CodeGateway.CommandLine

abbrev OneOf (texts : List String) := { text : String // text ∈ texts }

def dependencyDirections : List String := ["imports", "importedBy", "both"]

def callDirections : List String := ["callers", "callees", "both"]

def changeTypes : List String := ["modify", "delete", "rename"]

def intents : List String := ["explain", "modify", "debug", "test"]

inductive Command where
  | deps (uri : String) (depth : Option UInt32) (includeExternal : Bool)
      (direction : Option (OneOf dependencyDirections))
  | calls (uri : String) (line : UInt32) (character depth : Option UInt32)
      (direction : Option (OneOf callDirections))
  | impact (uri : String) (line : UInt32) (character : Option UInt32)
      (change : Option (OneOf changeTypes))
  | context (uri : String) (line : UInt32) (character : Option UInt32)
      (intent : Option (OneOf intents)) (maxTokens : Option UInt32)
  | tests (uri : String) (line : Option UInt32)
  | symbol (uri : String) (line : UInt32) (character : Option UInt32)
  | metrics (language : Option String)
  | reindex
  deriving DecidableEq

structure Invocation where
  root : String
  config : Option String
  command : Command
  deriving DecidableEq

namespace Command

def tool : Command → Tool
  | deps .. => .dependencyGraph
  | calls .. => .callGraph
  | impact .. => .analyzeImpact
  | context .. => .aiContext
  | tests .. => .relatedTests
  | symbol .. => .symbolInfo
  | metrics _ => .parserMetrics
  | reindex => .reindexWorkspace

def arguments : Command → Json
  | deps uri depth includeExternal direction =>
    .object (Json.memberIf "depth" .ofUInt32 depth ++
      Json.memberIf "direction" (fun d => .string d.val) direction ++
      (if includeExternal then [("includeExternal", .bool true)] else []) ++
      [("uri", .string uri)])
  | calls uri line character depth direction =>
    .object (Json.memberIf "character" .ofUInt32 character ++
      Json.memberIf "depth" .ofUInt32 depth ++
      Json.memberIf "direction" (fun d => .string d.val) direction ++
      [("line", .ofUInt32 line), ("uri", .string uri)])
  | impact uri line character change =>
    .object (Json.memberIf "changeType" (fun c => .string c.val) change ++
      Json.memberIf "character" .ofUInt32 character ++
      [("line", .ofUInt32 line), ("uri", .string uri)])
  | context uri line character intent maxTokens =>
    .object (Json.memberIf "character" .ofUInt32 character ++
      Json.memberIf "intent" (fun i => .string i.val) intent ++
      [("line", .ofUInt32 line)] ++
      Json.memberIf "maxTokens" .ofUInt32 maxTokens ++ [("uri", .string uri)])
  | tests uri line =>
    .object (Json.memberIf "line" .ofUInt32 line ++ [("uri", .string uri)])
  | symbol uri line character =>
    .object (Json.memberIf "character" .ofUInt32 character ++
      [("line", .ofUInt32 line), ("uri", .string uri)])
  | metrics language => .object (Json.memberIf "language" .string language)
  | reindex => .object []

end Command

def helpOption : Argument := ⟨"help", some 'h', .help⟩

def mainGrammar : Grammar where
  options := [⟨"root", some 'r', .path⟩, ⟨"config", some 'c', .path⟩, helpOption,
    ⟨"version", some 'V', .version⟩]
  positionals := []
  commands := ["deps", "calls", "impact", "context", "tests", "symbol", "metrics", "reindex",
    "help"]

def uriPositional : Argument := ⟨"uri", none, .text⟩

def linePositional : Argument := ⟨"line", none, .number⟩

def characterOption : Argument := ⟨"character", some 'c', .number⟩

def depthOption : Argument := ⟨"depth", some 'd', .number⟩

def grammarOf : String → Grammar
  | "deps" =>
    ⟨[depthOption, ⟨"include-external", none, .nothing⟩,
      ⟨"direction", none, .oneOf dependencyDirections⟩,
      helpOption], [uriPositional], []⟩
  | "calls" =>
    ⟨[characterOption, depthOption,
      ⟨"direction", none, .oneOf callDirections⟩, helpOption],
      [uriPositional, linePositional], []⟩
  | "impact" =>
    ⟨[characterOption, ⟨"change-type", none, .oneOf changeTypes⟩,
      helpOption], [uriPositional, linePositional], []⟩
  | "context" =>
    ⟨[characterOption, ⟨"intent", some 'i', .oneOf intents⟩,
      ⟨"max-tokens", none, .number⟩, helpOption], [uriPositional, linePositional], []⟩
  | "tests" => ⟨[⟨"line", some 'l', .number⟩, helpOption], [uriPositional], []⟩
  | "symbol" => ⟨[characterOption, helpOption], [uriPositional, linePositional], []⟩
  | "metrics" => ⟨[⟨"language", some 'l', .text⟩, helpOption], [], []⟩
  | _ => ⟨[helpOption], [], []⟩

abbrev Given := List (String × Value)

def text? (given : Given) (name : String) : Option String :=
  match given.lookup name with
  | some (.text s) => some s
  | _ => none

def number? (given : Given) (name : String) : Option UInt32 :=
  match given.lookup name with
  | some (.number n) => some n
  | _ => none

def choice? (given : Given) (name : String) (texts : List String) : Option (OneOf texts) :=
  (text? given name).bind fun text =>
    if admitted : text ∈ texts then some ⟨text, admitted⟩ else none

def commandOf (name : String) (given : Given) : Command :=
  let uri := (text? given "uri").getD ""
  let line := (number? given "line").getD 0
  let character := number? given "character"
  match name with
  | "deps" =>
    .deps uri (number? given "depth") (given.lookup "include-external").isSome
      (choice? given "direction" dependencyDirections)
  | "calls" =>
    .calls uri line character (number? given "depth")
      (choice? given "direction" callDirections)
  | "impact" => .impact uri line character (choice? given "change-type" changeTypes)
  | "context" =>
    .context uri line character (choice? given "intent" intents)
      (number? given "max-tokens")
  | "tests" => .tests uri (number? given "line")
  | "symbol" => .symbol uri line character
  | "metrics" => .metrics (text? given "language")
  | _ => .reindex

def helpOn (arguments : List String) : Refusal :=
  match arguments with
  | [] => .helpRequested
  | name :: rest =>
    if !mainGrammar.commands.contains name then .unknownCommand name
    else
      match rest with
      | [] => .helpRequested
      | extra :: _ => .unknownCommand extra

def parse (arguments : List String) : Except Refusal Invocation := do
  let (scan, command) ← scanUntilCommand mainGrammar .start arguments
  match command with
  | none =>
    let scan ← scan.settle
    if scan.given.isEmpty then .error .nothingGiven else .error .missingCommand
  | some ("help", rest) => .error (helpOn rest)
  | some (name, rest) =>
    let given ← readArguments (grammarOf name) rest
    let scan ← scan.settle
    .ok
      { root := (text? scan.given "root").getD "."
        config := text? scan.given "config"
        command := commandOf name given }

end CodeGateway.CommandLine
