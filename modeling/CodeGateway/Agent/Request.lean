import CodeGateway.Decode.Record
import CodeGateway.Json.Skip

namespace CodeGateway.Agent

open Json

structure Request where
  id : Option Json
  method : String
  params : Json

namespace Request

structure Draft where
  version : Option String
  id : Option (Option Json)
  method : Option String
  params : Option Json

inductive Member where
  | version
  | id
  | method
  | params

def Member.ofName? (name : String) : Option Member :=
  if name == "jsonrpc" then some version
  else if name == "id" then some .id
  else if name == "method" then some .method
  else if name == "params" then some .params
  else none

def Draft.has (draft : Draft) : Member → Bool
  | .version => draft.version.isSome
  | .id => draft.id.isSome
  | .method => draft.method.isSome
  | .params => draft.params.isSome

def recordName : String := "JsonRpcRequest"

def memberDepth : Nat := maxDepth - 1

/-- A fault of the record as a whole shows in front of what follows, or behind the closing bracket
    if that comes next. -/
def faultInRecord {α : Type} (error : Decode.Error) (bracket : Bracket) (input : List UInt8) :
    Except Fault α :=
  match skipSpace input with
  | byte :: rest =>
    if byte == bracket.closing then faultAt (.content error) rest
    else faultAt (.content error) (byte :: rest)
  | [] => faultAt (.content error) []

/-- A value of the wrong kind: the fault shows behind it, or in front of its bracket. -/
def wrongKind {α : Type} (expected : String) (byte : UInt8) (rest : List UInt8) :
    Except Fault α :=
  if byte == 0x5B then faultAt (.content (.invalidType .sequence expected)) (byte :: rest)
  else if byte == 0x7B then faultAt (.content (.invalidType .map expected)) (byte :: rest)
  else
    match scalar byte rest with
    | .ok (json, rest) => faultAt (.content (Decode.wrongType expected json)) rest
    | .error fault => .error fault

def textValue (input : List UInt8) : Reading String :=
  match skipSpace input with
  | [] => faultAfter .endInValue []
  | byte :: rest =>
    if byte == 0x22 then stringRest rest else wrongKind "a string" byte rest

def idValue (input : List UInt8) : Reading (Option Json) :=
  (value memberDepth input).map fun read =>
    match read.1 with
    | .null => (none, read.2)
    | json => (some json, read.2)

def Draft.read (draft : Draft) (member : Member) (input : List UInt8) : Reading Draft :=
  match member with
  | .version => (textValue input).map fun read => ({ draft with version := some read.1 }, read.2)
  | .id => (idValue input).map fun read => ({ draft with id := some read.1 }, read.2)
  | .method => (textValue input).map fun read => ({ draft with method := some read.1 }, read.2)
  | .params =>
    (value memberDepth input).map fun read => ({ draft with params := some read.1 }, read.2)

def draftOfMembers : (fuel : Nat) → (first : Bool) → Draft → (input : List UInt8) →
    Except Fault (Draft × List UInt8)
  | 0, _, _, input => faultAt .endInObject input
  | fuel + 1, first, draft, input => do
    let (more, input) ← nextKey first input
    if more then
      let (name, input) ← stringRest input
      match Member.ofName? name with
      | none =>
        let (_, input) ← colon input
        let input ← skipValue input
        draftOfMembers fuel false draft input
      | some member =>
        if draft.has member then faultInRecord (.duplicateMember name) .object input
        else
          let (_, input) ← colon input
          let (draft, input) ← draft.read member input
          draftOfMembers fuel false draft input
    else .ok (draft, input)

def ofObject (input : List UInt8) : Except Fault (Request × List UInt8) := do
  let (draft, input) ← draftOfMembers (input.length + 1) true ⟨none, none, none, none⟩ input
  match draft.version, draft.method with
  | none, _ => faultAt (.content (.missingMember "jsonrpc")) input
  | some _, none => faultAt (.content (.missingMember "method")) input
  | some _, some method =>
    .ok (⟨draft.id.getD none, method, draft.params.getD .null⟩, input)

def requiredItem {α : Type} (index : Nat) (read : List UInt8 → Reading α) (input : List UInt8) :
    Except Fault (α × List UInt8) := do
  let (more, input) ← nextItem (index == 0) input
  if more then read input
  else faultAt (.content (.invalidLength index (Decode.elementsText recordName 4))) input

def endOfItems (input : List UInt8) : Except Fault (List UInt8) :=
  match skipSpace input with
  | [] => faultAfter .endInList []
  | byte :: rest =>
    if byte == 0x5D then .ok rest
    else if byte == 0x2C then
      let rest := skipSpace rest
      faultAfter (if rest.head? == some 0x5D then .trailingComma else .trailingBytes) rest
    else faultAfter .trailingBytes (byte :: rest)

/-- An array's request: the version, the identifier, the method and the parameters, which may be
    missing. -/
def ofItems (input : List UInt8) : Except Fault (Request × List UInt8) := do
  let (_, input) ← requiredItem 0 textValue input
  let (id, input) ← requiredItem 1 idValue input
  let (method, input) ← requiredItem 2 textValue input
  let (more, input) ← nextItem false input
  if more then
    let (params, input) ← value memberDepth input
    let input ← endOfItems input
    .ok (⟨id, method, params⟩, input)
  else .ok (⟨id, method, .null⟩, input)

def read (input : List UInt8) : Except Fault (Request × List UInt8) :=
  match skipSpace input with
  | [] => faultAfter .endInValue []
  | byte :: rest =>
    if byte == 0x5B then ofItems rest
    else if byte == 0x7B then ofObject rest
    else wrongKind s!"struct {recordName}" byte rest

def parse (bytes : List UInt8) : Except TextError Request :=
  ((read bytes).bind atEnd).mapError (·.locate bytes)

end Request

end CodeGateway.Agent
