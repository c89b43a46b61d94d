import CodeGateway.Proofs.AdvertisedSchema
import CodeGateway.Proofs.EncodedMembers
import CodeGateway.Session.Exchange
import Mathlib.Data.List.Nodup

namespace CodeGateway

namespace Json

/-- One step into a value: to a member of an object, or to an item of an array. -/
inductive Step where
  | member (name : String)
  | item (index : Nat)

def modifyMember (name : String) (change : Json → Json) (members : List (String × Json)) :
    List (String × Json) :=
  members.map fun member => if member.1 = name then (member.1, change member.2) else member

/-- Puts a member into the object at the end of the path. If there is none, nothing changes. -/
def insertAt (key : String) (value : Json) : List Step → Json → Json
  | [], .object members => .object (insertMember key value members)
  | .member name :: path, .object members =>
    .object (modifyMember name (insertAt key value path) members)
  | .item index :: path, .array items => .array (items.modify index (insertAt key value path))
  | _, json => json

theorem lookup_modifyMember (key name : String) (change : Json → Json)
    (members : List (String × Json)) : lookup key (modifyMember name change members) =
      if name = key then (lookup key members).map change else lookup key members := by
  induction members with
  | nil => simp [modifyMember]
  | cons first rest ih =>
    obtain ⟨other, value⟩ := first
    unfold modifyMember at ih
    rw [modifyMember, List.map_cons, lookup_cons]
    by_cases renamed : other = name
    · subst renamed
      simp only [if_true, lookup_cons, ih]
      split <;> simp
    · simp only [renamed, if_false, lookup_cons, ih]
      by_cases here : other = key
      · subst here
        simp [Ne.symm renamed]
      · simp [here]

theorem insertAt_eq_null_iff {key : String} {value json : Json} {path : List Step} :
    insertAt key value path json = .null ↔ json = .null := by
  unfold insertAt
  split <;> simp

end Json

namespace Decode

open Json

inductive Record.HasMembers :
    {α : Type} → Record α → List (Σ β : Type, Member β) → Prop
  | of {α : Type} (a : α) : (Record.of a).HasMembers []
  | take {α β : Type} {record : Record (α → β)} {members : List (Σ γ : Type, Member γ)}
      (before : record.HasMembers members) (member : Member α) :
    (record.take member).HasMembers (members ++ [⟨α, member⟩])

theorem Member.ofArray_modify_zero {α : Type} {member : Member α} {change : Json → Json}
    (alike : ∀ json, member.decode (change json) = member.decode json) (count : Nat)
    (items : List Json) : member.ofArray count (items.modify 0 change) =
      member.ofArray count items := by
  cases items with
  | nil => rfl
  | cons json rest =>
    rw [List.modify_zero_cons]
    unfold Member.ofArray
    dsimp only
    rw [alike]

theorem Member.ofArray_modify_succ {α : Type} (member : Member α) (change : Json → Json)
    (count index : Nat) (items : List Json) :
    member.ofArray count (items.modify (index + 1) change) =
      (member.ofArray count items).map fun read => (read.1, read.2.modify index change) := by
  cases items with
  | nil =>
    rw [List.modify_nil]
    unfold Member.ofArray
    dsimp only
    cases member.ifShort <;> simp [Except.map]
  | cons json rest =>
    rw [List.modify_succ_cons]
    unfold Member.ofArray
    dsimp only
    cases member.decode json <;> rfl

theorem Record.ofArray_take {α β : Type} (record : Record (α → β)) (member : Member α)
    (items : List Json) : (record.take member).ofArray items =
      (record.ofArray items).bind fun before =>
        (member.ofArray record.size before.2).map fun last => (before.1 last.1, last.2) := by
  unfold Record.take
  dsimp only
  cases record.ofArray items with
  | error failure => rfl
  | ok before =>
    obtain ⟨f, rest⟩ := before
    dsimp only [Except.bind]
    cases member.ofArray record.size rest <;> rfl

section HasMembers

variable {α : Type} {record : Record α} {fields : List (Σ β : Type, Member β)}

theorem Record.HasMembers.ofObject_congr (has : record.HasMembers fields)
    {members others : List (String × Json)}
    (alike : ∀ field ∈ fields, field.2.ofObject members = field.2.ofObject others) :
    record.ofObject members = record.ofObject others := by
  induction has with
  | of a => rfl
  | take _ member ih =>
    rw [List.forall_mem_append, List.forall_mem_singleton] at alike
    rw [Record.ofObject_take_eq, Record.ofObject_take_eq, ih alike.1, alike.2]

theorem Record.HasMembers.ofArray_modify (has : record.HasMembers fields) {index : Nat}
    {change : Json → Json}
    (alike : ∀ field, fields[index]? = some field →
      ∀ json, field.2.decode (change json) = field.2.decode json) (items : List Json) :
    record.ofArray (items.modify index change) =
      (record.ofArray items).map fun read =>
        (read.1, if index < fields.length then read.2
          else read.2.modify (index - fields.length) change) := by
  induction has with
  | of a => simp [Record.of, Except.map]
  | @take _ _ record fields _ member ih =>
    have front : ∀ field, fields[index]? = some field →
        ∀ json, field.2.decode (change json) = field.2.decode json := by
      intro field found
      exact alike field (List.getElem?_append_left (List.getElem?_eq_some_iff.mp found).1 ▸ found)
    rw [Record.ofArray_take, Record.ofArray_take, ih front, List.length_append,
      List.length_singleton]
    cases record.ofArray items with
    | error failure => rfl
    | ok read =>
      obtain ⟨f, rest⟩ := read
      dsimp only [Except.map, Except.bind]
      -- The item belongs to a member in front, to the last one or to none.
      rcases Nat.lt_trichotomy index fields.length with early | rfl | late
      · have soon : index < fields.length + 1 := by omega
        simp only [if_pos early, if_pos soon]
        cases member.ofArray record.size rest <;> rfl
      · have own : ∀ json, member.decode (change json) = member.decode json :=
          alike ⟨_, member⟩ (by simp)
        simp only [Nat.lt_irrefl, if_false, Nat.sub_self, Nat.lt_add_one, if_true,
          Member.ofArray_modify_zero own]
        cases member.ofArray record.size rest <;> rfl
      · obtain ⟨more, rfl⟩ := Nat.exists_eq_add_of_lt late
        have later : ¬ fields.length + more + 1 < fields.length := by omega
        have latest : ¬ fields.length + more + 1 < fields.length + 1 := by omega
        have one : fields.length + more + 1 - fields.length = more + 1 := by omega
        have none : fields.length + more + 1 - (fields.length + 1) = more := by omega
        simp only [if_neg later, if_neg latest, one, none, Member.ofArray_modify_succ]
        cases member.ofArray record.size rest <;> rfl

end HasMembers

/-- What is read as the decoder reads it has a record at the end of the path, and the record has
    members of these names. A path leads into a record through one of its members, by its name in an
    object and by its place in an array, and into a list through any of its items. -/
inductive RecordAt :
    {α : Type} → (Json → Except Error α) → List Step → List String → Prop
  | here {α : Type} {record : Record α} {label : String} {fields : List (Σ β : Type, Member β)}
      (has : record.HasMembers fields) :
    RecordAt (record.decode label) [] (fields.map fun field => field.2.name)
  | member {α β : Type} {record : Record α} {label : String}
      {fields : List (Σ γ : Type, Member γ)} {index : Nat} {member : Member β} {path : List Step}
      {names : List String} (has : record.HasMembers fields)
      (distinct : (fields.map fun field => field.2.name).Nodup)
      (found : fields[index]? = some ⟨β, member⟩) (inner : RecordAt member.decode path names) :
    RecordAt (record.decode label) (.member member.name :: path) names
  | place {α β : Type} {record : Record α} {label : String}
      {fields : List (Σ γ : Type, Member γ)} {index : Nat} {member : Member β} {path : List Step}
      {names : List String} (has : record.HasMembers fields)
      (found : fields[index]? = some ⟨β, member⟩) (inner : RecordAt member.decode path names) :
    RecordAt (record.decode label) (.item index :: path) names
  | item {α : Type} {item : Json → Except Error α} {path : List Step} {names : List String}
      (inner : RecordAt item path names) (index : Nat) :
    RecordAt (list item) (.item index :: path) names
  | option {α : Type} {item : Json → Except Error α} {path : List Step} {names : List String}
      (inner : RecordAt item path names) : RecordAt (option item) path names

theorem items_modify {α : Type} {item : Json → Except Error α} {change : Json → Json}
    (alike : ∀ json, item (change json) = item json) (index : Nat) (jsons : List Json) :
    items item (jsons.modify index change) = items item jsons := by
  induction jsons generalizing index with
  | nil => rw [List.modify_nil]
  | cons json rest ih =>
    cases index with
    | zero => rw [List.modify_zero_cons, items, items, alike]
    | succ index => rw [List.modify_succ_cons, items, items, ih]

theorem option_of_ne_null {α : Type} {item : Json → Except Error α} {json : Json}
    (given : json ≠ .null) : option item json = (item json).map some := by
  cases json with
  | null => exact absurd rfl given
  | _ => rfl

section HasMembers

variable {α β : Type} {record : Record α} {label : String} {fields : List (Σ γ : Type, Member γ)}
  {index : Nat} {member : Member β}

theorem Record.HasMembers.decode_insertMember (has : record.HasMembers fields) {key : String}
    (unknown : key ∉ fields.map fun field => field.2.name) (value : Json)
    (members : List (String × Json)) :
    record.decode label (.object (insertMember key value members)) =
      record.decode label (.object members) := by
  rw [Record.decode_object, Record.decode_object, has.ofObject_congr]
  intro field among
  have other : key ≠ field.2.name := by
    rintro rfl
    exact unknown (List.mem_map_of_mem among)
  exact field.2.congr (by rw [lookup_insertMember, if_neg other])

theorem Record.HasMembers.decode_modifyMember (has : record.HasMembers fields)
    (distinct : (fields.map fun field => field.2.name).Nodup)
    (found : fields[index]? = some ⟨β, member⟩) {change : Json → Json}
    (alike : ∀ json, member.decode (change json) = member.decode json)
    (members : List (String × Json)) :
    record.decode label (.object (modifyMember member.name change members)) =
      record.decode label (.object members) := by
  rw [Record.decode_object, Record.decode_object, has.ofObject_congr]
  intro field among
  by_cases own : member.name = field.2.name
  · obtain rfl : ⟨β, member⟩ = field :=
      List.inj_on_of_nodup_map distinct (List.mem_of_getElem? found) among own
    unfold Member.ofObject
    rw [lookup_modifyMember, if_pos rfl]
    cases lookup member.name members with
    | none => rfl
    | some json =>
      dsimp only [Option.map]
      rw [alike]
  · exact field.2.congr (by rw [lookup_modifyMember, if_neg own])

theorem Record.HasMembers.decode_modify (has : record.HasMembers fields)
    (found : fields[index]? = some ⟨β, member⟩) {change : Json → Json}
    (alike : ∀ json, member.decode (change json) = member.decode json) (items : List Json) :
    record.decode label (.array (items.modify index change)) =
      record.decode label (.array items) := by
  have own : ∀ field, fields[index]? = some field →
      ∀ json, field.2.decode (change json) = field.2.decode json := by
    intro field found'
    obtain rfl := Option.some.inj (found.symm.trans found')
    exact alike
  have same : record.ofArray (items.modify index change) = record.ofArray items := by
    rw [has.ofArray_modify own]
    simp only [if_pos (List.getElem?_eq_some_iff.mp found).1]
    cases record.ofArray items <;> rfl
  simp only [Record.decode, same, List.length_modify]

end HasMembers

/-- A member of a name that a record does not have makes no difference, wherever the record is. -/
theorem RecordAt.decode_insertAt {α : Type} {decode : Json → Except Error α} {path : List Step}
    {names : List String} (stands : RecordAt decode path names) {key : String}
    (unknown : key ∉ names) (value json : Json) :
    decode (insertAt key value path json) = decode json := by
  induction stands generalizing json with
  | here has =>
    cases json with
    | object members => exact has.decode_insertMember unknown value members
    | _ => rfl
  | member has distinct found inner ih =>
    cases json with
    | object members => exact has.decode_modifyMember distinct found (ih unknown) members
    | _ => rfl
  | place has found inner ih =>
    cases json with
    | array items => exact has.decode_modify found (ih unknown) items
    | _ => rfl
  | item inner index ih =>
    cases json with
    | array items => exact items_modify (ih unknown) index items
    | _ => rfl
  | option inner ih =>
    by_cases null : json = .null
    · rw [null, insertAt_eq_null_iff.mpr rfl]
    · rw [option_of_ne_null (insertAt_eq_null_iff.not.mpr null), option_of_ne_null null,
        ih unknown]

end Decode

namespace Query

theorem commandReply_congr {α : Type} {command : String} {decode : Json → Except Decode.Error α}
    {json other : Json} (null : other = .null ↔ json = .null) (same : decode other = decode json) :
    commandReply command decode (.ok other) = commandReply command decode (.ok json) := by
  have present {json : Json} (given : json ≠ .null) :
      commandReply command decode (.ok json) = (decode json).mapError .badReply := by
    cases json with
    | null => exact absurd rfl given
    | _ => rfl
  by_cases absent : json = .null
  · rw [absent, null.mpr absent]
  · rw [present absent, present (null.not.mpr absent), same]

end Query

/-- Members of other names never matter: not to the reply that is decoded or to the error, and so
    not to the report on either. -/
theorem unknown_members (query : Query) {path : List Json.Step} {names : List String}
    (stands : Decode.RecordAt query.decode path names) {key : String} (unknown : key ∉ names)
    (value reply : Json) :
    query.decode (Json.insertAt key value path reply) = query.decode reply ∧
      query.result (Query.commandReply query.command query.decode
          (.ok (Json.insertAt key value path reply))) =
        query.result (Query.commandReply query.command query.decode (.ok reply)) := by
  have same := stands.decode_insertAt unknown value reply
  exact ⟨same, by rw [Query.commandReply_congr Json.insertAt_eq_null_iff same]⟩

def usageQuery : Query :=
  .aiContext ⟨"file:///a.rs", .origin, .explain, 4000⟩

/-- A context with one example of use, which is at this location. -/
def usageReply (location : Json) : Json :=
  .object [("primaryContext", .object [("name", .string "f")]),
    ("usageExamples", .array [.object [("code", .string "f()"), ("location", location)]])]

def usagePath : List Json.Step :=
  [.member "usageExamples", .item 0, .member "location"]

theorem recordAt_usagePath : Decode.RecordAt usageQuery.decode usagePath ["uri", "range"] := by
  have place : Decode.RecordAt Location.decode [] ["uri", "range"] :=
    .here (.take (.take (.of _) _) _)
  have usage : Decode.RecordAt UsageExample.decode [.member "location"] ["uri", "range"] :=
    .member (.take (.take (.take (.of _) _) _) _) (by decide) (rfl : _[1]? = _) place
  exact .member (.take (.take (.take (.take (.take (.take (.of _) _) _) _) _) _) _) (by decide)
    (rfl : _[3]? = _) (.option (.item usage 0))

/-- A location that says a column is read, and one without a URI is not, each as it is without the
    column. -/
theorem unknown_members_usage :
    Decode.RecordAt usageQuery.decode usagePath ["uri", "range"] ∧ "column" ∉ ["uri", "range"] ∧
      usageQuery.decode (usageReply
          (.object [("column", .int 7), ("uri", .string "file:///b.rs")])) =
        usageQuery.decode (usageReply (.object [("uri", .string "file:///b.rs")])) ∧
      usageQuery.decode (usageReply (.object [("column", .int 7)])) =
        usageQuery.decode (usageReply (.object [])) ∧
      usageQuery.decode (usageReply (.object [])) = .error (.missingMember "uri") := by
  have unknown : "column" ∉ ["uri", "range"] := by decide
  obtain ⟨read, -⟩ := unknown_members usageQuery recordAt_usagePath unknown (.int 7)
    (usageReply (.object [("uri", .string "file:///b.rs")]))
  obtain ⟨unread, -⟩ := unknown_members usageQuery recordAt_usagePath unknown (.int 7)
    (usageReply (.object []))
  exact ⟨recordAt_usagePath, unknown, read, unread, rfl⟩

end CodeGateway
