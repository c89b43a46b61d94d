import CodeGateway.Decode.Error

namespace CodeGateway.Decode

def string : Json → Except Error String
  | .string s => .ok s
  | json => .error (wrongType "a string" json)

def bool : Json → Except Error Bool
  | .bool b => .ok b
  | json => .error (wrongType "a boolean" json)

def natBelow (bound : Nat) (expected : String) : Json → Except Error Nat
  | .int i =>
    if 0 ≤ i ∧ i < bound then .ok i.toNat else .error (.invalidValue (.int i) expected)
  | json => .error (wrongType expected json)

def uint32 (json : Json) : Except Error UInt32 :=
  (natBelow 0x100000000 "u32" json).map UInt32.ofNat

def uint64 (json : Json) : Except Error UInt64 :=
  (natBelow 0x10000000000000000 "u64" json).map UInt64.ofNat

def float : Json → Except Error Float
  | .int i => .ok (Json.floatOfInt i)
  | .float x => .ok x
  | json => .error (wrongType "f64" json)

def unit : Json → Except Error Unit
  | .null => .ok ()
  | json => .error (wrongType "unit" json)

def option {α : Type} (item : Json → Except Error α) : Json → Except Error (Option α)
  | .null => .ok none
  | json => (item json).map some

def items {α : Type} (item : Json → Except Error α) : List Json → Except Error (List α)
  | [] => .ok []
  | json :: rest =>
    match item json with
    | .error error => .error error
    | .ok a => (items item rest).map (a :: ·)

def list {α : Type} (item : Json → Except Error α) : Json → Except Error (List α)
  | .array jsons => items item jsons
  | json => .error (wrongType "a sequence" json)

structure Choice (α : Type) where
  known : List (String × α)
  other : Option α

def Choice.ofName {α : Type} (choice : Choice α) (name : String) : Except Error α :=
  match choice.known.lookup name, choice.other with
  | some a, _ => .ok a
  | none, some a => .ok a
  | none, none => .error (.unknownVariant name (choice.known.map Prod.fst))

/-- A choice is its name, or an object whose one member has this name and the value null. -/
def Choice.decode {α : Type} (choice : Choice α) : Json → Except Error α
  | .string name => choice.ofName name
  | .object [(name, value)] =>
    match choice.ofName name, unit value with
    | .ok a, .ok () => .ok a
    | .ok _, .error error => .error error
    | .error error, _ => .error error
  | .object _ => .error (.invalidValue .map "map with a single key")
  | json => .error (wrongType "string or map" json)

end CodeGateway.Decode
