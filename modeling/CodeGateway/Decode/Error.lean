import CodeGateway.Decimal.Layout
import CodeGateway.Json.Basic
import CodeGateway.Text.Quoted

namespace CodeGateway.Decode

inductive Found where
  | null
  | bool (b : Bool)
  | int (i : Int)
  | float (x : Float)
  | string (s : String)
  | sequence
  | map

def Found.ofJson : Json → Found
  | .null => .null
  | .bool b => .bool b
  | .int i => .int i
  | .float x => .float x
  | .string s => .string s
  | .array _ => .sequence
  | .object _ => .map

def Found.message : Found → String
  | .null => "null"
  | .bool b => s!"boolean `{b}`"
  | .int i => s!"integer `{i}`"
  | .float x =>
    let digits := String.ofList (Decimal.floatText x)
    s!"floating point `{digits}`"
  | .string s => s!"string {Text.quoted s}"
  | .sequence => "sequence"
  | .map => "map"

inductive Error where
  | invalidType (found : Found) (expected : String)
  | invalidValue (found : Found) (expected : String)
  | invalidLength (length : Nat) (expected : String)
  | missingMember (name : String)
  | duplicateMember (name : String)
  | unknownVariant (name : String) (known : List String)
  | noShape (name : String)
  | badUrl (reason : String)

/-- The names that would have been right: one alone, two with "or", and more as a list. -/
def oneOf (names : List String) : String :=
  match names.map (fun name => s!"`{name}`") with
  | [] => "there are no variants"
  | [name] => s!"expected {name}"
  | [name, other] => s!"expected {name} or {other}"
  | several => "expected one of " ++ ", ".intercalate several

def Error.message : Error → String
  | .invalidType found expected => s!"invalid type: {found.message}, expected {expected}"
  | .invalidValue found expected => s!"invalid value: {found.message}, expected {expected}"
  | .invalidLength length expected => s!"invalid length {length}, expected {expected}"
  | .missingMember name => s!"missing field `{name}`"
  | .duplicateMember name => s!"duplicate field `{name}`"
  | .unknownVariant name known => s!"unknown variant `{name}`, {oneOf known}"
  | .noShape name => s!"data did not match any variant of untagged enum {name}"
  | .badUrl reason => reason

def wrongType (expected : String) (json : Json) : Error :=
  .invalidType (.ofJson json) expected

end CodeGateway.Decode
