import CodeGateway.Decode.Record
import CodeGateway.Reply.Location

namespace CodeGateway

open Decode

inductive DependencyDirection where
  | imports
  | importedBy
  | both
  deriving DecidableEq

namespace DependencyDirection

def name : DependencyDirection → String
  | imports => "imports"
  | importedBy => "importedBy"
  | both => "both"

def all : List DependencyDirection := [imports, importedBy, both]

def choice : Choice DependencyDirection :=
  ⟨all.map fun direction => (direction.name, direction), none⟩

end DependencyDirection

inductive CallDirection where
  | callers
  | callees
  | both
  deriving DecidableEq

namespace CallDirection

def name : CallDirection → String
  | callers => "callers"
  | callees => "callees"
  | both => "both"

def all : List CallDirection := [callers, callees, both]

def choice : Choice CallDirection :=
  ⟨all.map fun direction => (direction.name, direction), none⟩

end CallDirection

inductive Intent where
  | explain
  | modify
  | debug
  | test
  deriving DecidableEq

namespace Intent

def name : Intent → String
  | explain => "explain"
  | modify => "modify"
  | debug => "debug"
  | test => "test"

def all : List Intent := [explain, modify, debug, test]

def choice : Choice Intent :=
  ⟨all.map fun intent => (intent.name, intent), none⟩

end Intent

inductive ChangeType where
  | modify
  | delete
  | rename
  deriving DecidableEq

namespace ChangeType

def name : ChangeType → String
  | modify => "modify"
  | delete => "delete"
  | rename => "rename"

def all : List ChangeType := [modify, delete, rename]

def choice : Choice ChangeType :=
  ⟨all.map fun change => (change.name, change), none⟩

end ChangeType

structure QueryDefaults where
  depth : UInt32
  includeExternal : Bool
  dependencyDirection : DependencyDirection
  callDirection : CallDirection
  character : UInt32
  intent : Intent
  maxTokens : UInt32
  changeType : ChangeType
  testsLine : UInt32
  deriving DecidableEq

namespace QueryDefaults

def builtIn : QueryDefaults :=
  ⟨3, false, .both, .both, 0, .explain, 4000, .modify, 0⟩

def decode : Json → Except Error QueryDefaults :=
  Record.decode "ToolDefaults"
    ((Record.of QueryDefaults.mk).take (defaulted "depth" uint32 builtIn.depth)
      |>.take (defaulted "include_external" bool builtIn.includeExternal)
      |>.take (defaulted "dependency_direction" DependencyDirection.choice.decode
        builtIn.dependencyDirection)
      |>.take (defaulted "call_direction" CallDirection.choice.decode builtIn.callDirection)
      |>.take (defaulted "character" uint32 builtIn.character)
      |>.take (defaulted "intent" Intent.choice.decode builtIn.intent)
      |>.take (defaulted "max_tokens" uint32 builtIn.maxTokens)
      |>.take (defaulted "change_type" ChangeType.choice.decode builtIn.changeType)
      |>.take (defaulted "tests_line" uint32 builtIn.testsLine))

def encode (defaults : QueryDefaults) : Json :=
  .object [("call_direction", .string defaults.callDirection.name),
    ("change_type", .string defaults.changeType.name),
    ("character", .ofUInt32 defaults.character),
    ("dependency_direction", .string defaults.dependencyDirection.name),
    ("depth", .ofUInt32 defaults.depth),
    ("include_external", .bool defaults.includeExternal),
    ("intent", .string defaults.intent.name),
    ("max_tokens", .ofUInt32 defaults.maxTokens),
    ("tests_line", .ofUInt32 defaults.testsLine)]

end QueryDefaults

end CodeGateway
