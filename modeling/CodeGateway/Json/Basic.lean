/-!
JSON values. A number is an integer when it was written as one and fits in 64 bits, signed or
unsigned, and a double otherwise. The members of an object are listed by rising key, each key once;
`Json.ofMembers` puts members in that form, and of two members with one key the later one stays.
-/

namespace CodeGateway

inductive Json where
  | null
  | bool (b : Bool)
  | int (i : Int)
  | float (x : Float)
  | string (s : String)
  | array (items : List Json)
  | object (members : List (String × Json))
  deriving Inhabited

namespace Json

/-- Whether an integer is written as one: it fits in 64 bits, signed or unsigned. -/
def isWord (i : Int) : Bool :=
  -0x8000000000000000 ≤ i && i < 0x10000000000000000

def floatOfInt (i : Int) : Float :=
  if i < 0 then -(UInt64.ofNat i.natAbs).toFloat else (UInt64.ofNat i.natAbs).toFloat

def insertMember (key : String) (value : Json) :
    List (String × Json) → List (String × Json)
  | [] => [(key, value)]
  | (other, old) :: rest =>
    if key < other then (key, value) :: (other, old) :: rest
    else if key = other then (key, value) :: rest
    else (other, old) :: insertMember key value rest

def ofMembers (members : List (String × Json)) : Json :=
  .object (members.foldl (fun sorted member => insertMember member.1 member.2 sorted) [])

def lookup (key : String) : List (String × Json) → Option Json
  | [] => none
  | (other, value) :: rest => if other = key then some value else lookup key rest

def member? (key : String) : Json → Option Json
  | .object members => lookup key members
  | _ => none

def string? : Json → Option String
  | .string s => some s
  | _ => none

def word? : Json → Option Int
  | .int i => if -0x8000000000000000 ≤ i ∧ i < 0x8000000000000000 then some i else none
  | _ => none

def isObject : Json → Bool
  | .object _ => true
  | _ => false

def ofText? : Option String → Json
  | some s => .string s
  | none => .null

end Json

end CodeGateway
