import CodeGateway.Json.Basic

namespace CodeGateway

inductive Toml where
  | string (s : String)
  | integer (i : Int)
  | float (x : Float)
  | boolean (b : Bool)
  | date (text : String)
  | array (items : List Toml)
  | inline (members : List (String × Toml))
  | dotted (members : List (String × Toml))

namespace Toml

/-- Puts a value under a key of several parts. Every part but the last names a table made by such
    keys, or a new one. Two values under one plain key both stay. -/
def insertDotted : (key : List String) → Toml → List (String × Toml) →
    Option (List (String × Toml))
  | [], _, _ => none
  | [name], value, members => some (members ++ [(name, value)])
  | name :: rest, value, members =>
    match members.find? fun member => member.1 == name with
    | none => (insertDotted rest value []).map fun table => members ++ [(name, dotted table)]
    | some (_, dotted old) =>
      (insertDotted rest value old).map fun table =>
        members.map fun member => if member.1 == name then (name, dotted table) else member
    | some _ => none

/-- A table in braces that holds one name and an empty table for it stands for the name alone. -/
def loneName : List (String × Json) → List (String × Json)
  | [(name, .object [])] => [(name, .null)]
  | members => members

mutual

def toJson : Toml → Json
  | string s => .string s
  | integer i => .int i
  | float x => .float x
  | boolean b => .bool b
  | date text => .object [("date", .string text)]
  | array items => .array (itemsToJson items)
  | inline members => .object (loneName (membersToJson members))
  | dotted members => .object (membersToJson members)

def itemsToJson : List Toml → List Json
  | [] => []
  | item :: rest => toJson item :: itemsToJson rest

def membersToJson : List (String × Toml) → List (String × Json)
  | [] => []
  | (name, value) :: rest => (name, toJson value) :: membersToJson rest

end

/-- Members behind a header, which in double brackets opens the next item of a list of tables. -/
structure Section where
  header : List String
  isItem : Bool
  members : List (String × Toml)

/-- Cuts sections in front of each one that opens an item with a header of this length. -/
def splitItems (length : Nat) : List Section → List (List Section)
  | [] => []
  | first :: rest =>
    match splitItems length rest with
    | [] => [[first]]
    | group :: groups =>
      match group with
      | next :: _ =>
        if next.isItem && next.header.length == length then [first] :: group :: groups
        else (first :: group) :: groups
      | [] => [first] :: groups

/-- The members of the table whose header is the first `depth` names that these sections share.
    The table may have one section of its own, and none that opens an item. The fuel is the length
    of the longest header left. -/
def assemble : (fuel depth : Nat) → List Section → Option (List (String × Json))
  | 0, _, _ => none
  | fuel + 1, depth, sections =>
    let own := sections.filter fun part => part.header.length ≤ depth
    if 1 < own.length || own.any Section.isItem then none
    else
      let table (key : String) : Option (String × Json) :=
        let group := sections.filter fun part => part.header[depth]? == some key
        match group with
        | [] => none
        | first :: _ =>
          if first.isItem && first.header.length == depth + 1 then
            let items := (splitItems (depth + 1) group).mapM fun item =>
              match item with
              | head :: rest => assemble fuel (depth + 1) ({ head with isItem := false } :: rest)
              | [] => none
            items.map fun items => (key, .array (items.map Json.object))
          else (assemble fuel (depth + 1) group).map fun members => (key, .object members)
      let keys := (sections.filterMap fun part => part.header[depth]?).eraseDups
      match keys.mapM table with
      | none => none
      | some tables => some (own.flatMap (fun part => membersToJson part.members) ++ tables)

/-- A document that is nothing but a header of three names or more. The last of them stands for
    itself under the first two, as a lone name in braces does. -/
def loneHeader? (sections : List Section) : Option Json :=
  match sections.filter fun part => !(part.header.isEmpty && part.members.isEmpty) with
  | [part] =>
    match part.header, part.members with
    | first :: second :: third :: more, [] =>
      let name := more.getLast?.getD third
      some (.object [(first, .object [(second, .object [(name, .null)])])])
    | _, _ => none
  | _ => none

def documentJson? (sections : List Section) : Option Json :=
  match loneHeader? sections with
  | some json => some json
  | none =>
    let depth := (sections.map fun part => part.header.length).foldl max 0
    (assemble (depth + 1) 0 sections).map Json.object

end Toml

end CodeGateway
