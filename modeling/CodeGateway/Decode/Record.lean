import CodeGateway.Decode.Basic

/-!
Records out of JSON values. A record is an object, whose members come in any order and among which
those of other names are passed over, or an array of the members' values in the record's own order.

Of an object's members those present are decoded first, by rising key, and the first that fails is
the failure; only then the first missing one is, in the record's order.
-/

namespace CodeGateway.Decode

/-- A member of a record: its name, how its value is read, what it is when an object lacks it, and
    what it is when an array is too short for it. What an array may end in front of, an object may
    lack. -/
structure Member (α : Type) where
  name : String
  decode : Json → Except Error α
  ifAbsent : Option α
  ifShort : Option α
  short : ifShort = none ∨ ifShort = ifAbsent

def required {α : Type} (name : String) (decode : Json → Except Error α) : Member α :=
  ⟨name, decode, none, none, .inl rfl⟩

/-- A member that an object may lack or have as null, and an array only as null. -/
def optional {α : Type} (name : String) (item : Json → Except Error α) : Member (Option α) :=
  ⟨name, option item, some none, none, .inl rfl⟩

/-- A member that may be missing in either form; null does not stand for the default. -/
def defaulted {α : Type} (name : String) (decode : Json → Except Error α) (value : α) :
    Member α :=
  ⟨name, decode, some value, some value, .inr rfl⟩

def omissible {α : Type} (name : String) (item : Json → Except Error α) : Member (Option α) :=
  defaulted name (option item) none

/-- What keeps an object from being a record: the failure at the least key, and the first member
    that is missing. -/
structure Failure where
  bad : Option (String × Error)
  missing : Option String

def lesserKey : Option (String × Error) → Option (String × Error) → Option (String × Error)
  | none, bad => bad
  | bad, none => bad
  | some first, some second => if second.1 < first.1 then some second else some first

def Failure.merge (first second : Failure) : Failure :=
  ⟨lesserKey first.bad second.bad, first.missing.or second.missing⟩

def Failure.error : Failure → Error
  | ⟨some (_, error), _⟩ => error
  | ⟨none, some name⟩ => .missingMember name
  | ⟨none, none⟩ => .missingMember ""

def Member.ofObject {α : Type} (member : Member α) (members : List (String × Json)) :
    Except Failure α :=
  match Json.lookup member.name members with
  | some json =>
    match member.decode json with
    | .ok a => .ok a
    | .error error => .error ⟨some (member.name, error), none⟩
  | none =>
    match member.ifAbsent with
    | some a => .ok a
    | none => .error ⟨none, some member.name⟩

inductive ArrayFailure where
  | bad (error : Error)
  | short (count : Nat)

/-- The member's value in front of the items, of which `count` were read before. -/
def Member.ofArray {α : Type} (member : Member α) (count : Nat) :
    List Json → Except ArrayFailure (α × List Json)
  | json :: rest =>
    match member.decode json with
    | .ok a => .ok (a, rest)
    | .error error => .error (.bad error)
  | [] =>
    match member.ifShort with
    | some a => .ok (a, [])
    | none => .error (.short count)

structure Record (α : Type) where
  size : Nat
  ofObject : List (String × Json) → Except Failure α
  ofArray : List Json → Except ArrayFailure (α × List Json)

def Record.of {α : Type} (a : α) : Record α :=
  ⟨0, fun _ => .ok a, fun items => .ok (a, items)⟩

def Record.take {α β : Type} (record : Record (α → β)) (member : Member α) : Record β where
  size := record.size + 1
  ofObject members :=
    match record.ofObject members, member.ofObject members with
    | .ok f, .ok a => .ok (f a)
    | .error first, .error second => .error (first.merge second)
    | .error failure, .ok _ => .error failure
    | .ok _, .error failure => .error failure
  ofArray items :=
    match record.ofArray items with
    | .error failure => .error failure
    | .ok (f, rest) =>
      match member.ofArray record.size rest with
      | .error failure => .error failure
      | .ok (a, rest) => .ok (f a, rest)

def elementsText (name : String) (size : Nat) : String :=
  let plural := if size == 1 then "" else "s"
  s!"struct {name} with {size} element{plural}"

def Record.decode {α : Type} (name : String) (record : Record α) : Json → Except Error α
  | .object members => (record.ofObject members).mapError Failure.error
  | .array jsons =>
    match record.ofArray jsons with
    | .ok (a, []) => .ok a
    | .ok (_, _ :: _) => .error (.invalidLength jsons.length "fewer elements in array")
    | .error (.bad error) => .error error
    | .error (.short count) =>
      .error (.invalidLength count (elementsText name record.size))
  | json => .error (wrongType s!"struct {name}" json)

end CodeGateway.Decode
