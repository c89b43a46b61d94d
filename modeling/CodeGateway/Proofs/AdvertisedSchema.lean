import CodeGateway.Proofs.DocumentUri
import CodeGateway.Proofs.EngineContact
import Mathlib.Tactic.MkIffOfInductiveProp

namespace CodeGateway

namespace Json

/-- The value is of the type that a schema states, and among the values that it lists. -/
@[mk_iff]
structure Admits (schema value : Json) : Prop where
  string : schema.member? "type" = some (.string "string") → ∃ text, value = .string text
  integer : schema.member? "type" = some (.string "integer") → ∃ i, value = .int i
  boolean : schema.member? "type" = some (.string "boolean") → ∃ b, value = .bool b
  listed : ∀ values, schema.member? "enum" = some (.array values) → value ∈ values

def property? (schema : Json) (name : String) : Option Json :=
  (schema.member? "properties").bind (member? name)

def Requires (schema : Json) (name : String) : Prop :=
  ∃ names, schema.member? "required" = some (.array names) ∧ .string name ∈ names

/-- The members make an object that fits a schema. -/
structure Fits (schema : Json) (members : List (String × Json)) : Prop where
  complete : ∀ name, schema.Requires name → ∃ value, lookup name members = some value
  typed : ∀ name property value, schema.property? name = some property →
    lookup name members = some value → property.Admits value

def without (name : String) (members : List (String × Json)) : Json :=
  .object (members.filter fun member => member.1 != name)

theorem lookup_insertMember (key other : String) (value : Json)
    (sorted : List (String × Json)) :
    lookup key (insertMember other value sorted) =
      if other = key then some value else lookup key sorted := by
  induction sorted with
  | nil => rfl
  | cons first rest ih =>
    obtain ⟨name, old⟩ := first
    unfold insertMember
    split
    · rfl
    · split
      · rename_i same
        subst same
        simp only [lookup_cons]
        split <;> rfl
      · rename_i apart
        simp only [lookup_cons, ih]
        split <;> rename_i first
        · subst first
          simp [apart]
        · rfl

theorem member_ofMembers {members : List (String × Json)}
    (distinct : (members.map Prod.fst).Nodup) (key : String) :
    (ofMembers members).member? key = lookup key members := by
  have folded (sorted : List (String × Json)) :
      lookup key (members.foldl (fun sorted member => insertMember member.1 member.2 sorted)
        sorted) = (lookup key members).or (lookup key sorted) := by
    induction members generalizing sorted with
    | nil => simp
    | cons first rest ih =>
      obtain ⟨name, value⟩ := first
      rw [List.map_cons, List.nodup_cons] at distinct
      rw [List.foldl_cons, ih distinct.2, lookup_insertMember, lookup_cons]
      split
      · rename_i same
        subst same
        have fresh : lookup name rest = none :=
          lookup_eq_none_iff.mpr fun member among same =>
            distinct.1 (List.mem_map.mpr ⟨member, among, same⟩)
        simp [fresh]
      · rfl
  simpa [ofMembers, member?] using folded []

theorem lookup_map_eq_some_iff {α : Type} {name : α → String} {encode : α → Json} {key : String}
    {value : Json} {all : List α} (distinct : (all.map name).Nodup) :
    lookup key (all.map fun a => (name a, encode a)) = some value ↔
      ∃ a ∈ all, name a = key ∧ encode a = value := by
  induction all with
  | nil => simp
  | cons first rest ih =>
    rw [List.map_cons, List.nodup_cons] at distinct
    rw [List.map_cons, lookup_cons]
    split
    · rename_i here
      subst here
      have fresh : ∀ a ∈ rest, name a ≠ name first := fun a among same =>
        distinct.1 (same ▸ List.mem_map_of_mem among)
      simp +contextual [fresh]
    · rename_i other
      simp [ih distinct.2, other]

end Json

namespace ArgumentKind

def Has : ArgumentKind → Json → Prop
  | text, value => ∃ text, value = .string text
  | integer, value => ∃ i, value = .int i
  | boolean, value => ∃ b, value = .bool b
  | oneOf names, value => ∃ name ∈ names, value = .string name

theorem admits_encode_iff (kind : ArgumentKind) (description : String) (value : Json) :
    (Json.object (("description", .string description) :: kind.encode)).Admits value ↔
      kind.Has value := by
  rw [Json.admits_iff]
  cases kind with
  | oneOf names =>
    simp only [Json.member?, Json.lookup_cons, encode, Has]
    simp only [reduceIte, String.reduceEq, Option.some.injEq, Json.string.injEq, Json.array.injEq,
      forall_const, false_imp_iff, true_and, forall_eq', List.mem_map]
    constructor
    · rintro ⟨-, name, among, rfl⟩
      exact ⟨name, among, rfl⟩
    · rintro ⟨name, among, rfl⟩
      exact ⟨⟨name, rfl⟩, name, among, rfl⟩
  | _ => simp [Json.member?, Json.lookup_cons, encode, Has]

end ArgumentKind

open Json

section Schema

variable {arguments : List Argument}

theorem property_schemaOf_iff (distinct : (arguments.map Argument.name).Nodup) {name : String}
    {property : Json} :
    (schemaOf arguments).property? name = some property ↔
      ∃ argument ∈ arguments, argument.name = name ∧ argument.encode = property := by
  have members : (arguments.map fun argument => (argument.name, argument.encode)).map Prod.fst =
      arguments.map Argument.name := by
    rw [List.map_map]
    rfl
  have found : (schemaOf arguments).property? name =
      lookup name (arguments.map fun argument => (argument.name, argument.encode)) := by
    rw [← member_ofMembers (members ▸ distinct)]
    rfl
  rw [found, lookup_map_eq_some_iff distinct]

theorem requires_schemaOf_iff {name : String} :
    (schemaOf arguments).Requires name ↔
      ∃ argument ∈ arguments, argument.isRequired = true ∧ argument.name = name := by
  have stated : (schemaOf arguments).member? "required" =
      let names := (arguments.filter Argument.isRequired).map fun argument =>
        Json.string argument.name
      if names.isEmpty then none else some (.array names) := by
    unfold schemaOf
    dsimp only
    split <;> simp [member?, lookup_cons]
  unfold Requires
  rw [stated]
  dsimp only
  split
  · rename_i none
    have free : ∀ argument ∈ arguments, argument.isRequired = false := by
      simpa using none
    simp +contextual [free]
  · simp [and_assoc]

end Schema

def Json.at? (path : List String) (json : Json) : Option Json :=
  path.foldlM (fun json name => json.member? name) json

/-- Where a request has the value of an argument: under the name of the argument, but for a few. -/
def Argument.wirePath : String → List String
  | "line" => ["position", "line"]
  | "character" => ["position", "character"]
  | "changeType" => ["analysisType"]
  | "intent" => ["contextType"]
  | name => [name]

/-- What a request has for the value of an argument: the value itself. Only a document goes by its
    URI, and a language of blanks is left out. -/
def Catalogue.Conveys (catalogue : Catalogue) (conveyed : Option Json) : String → Json → Prop
  | "uri", .string raw =>
    ∃ uri, documentUri? raw catalogue.root = some uri ∧ conveyed = some (.string uri)
  | "language", .string text =>
    conveyed = if Text.isBlankText text then none else some (.string text)
  | _, value => conveyed = some value

/-- What a schema does not say: numbers are in range, a document is named by more than blanks, and
    no other member has a name under which the tool takes one. -/
structure Tool.Usable (tool : Tool) (schema : Json) (members : List (String × Json)) : Prop where
  numbers : ∀ name i, (schema.property? name).isSome = true →
    lookup name members = some (.int i) → 0 ≤ i ∧ i ≤ 0xFFFFFFFF
  document : ∀ raw, (schema.property? "uri").isSome = true →
    lookup "uri" members = some (.string raw) → Text.isBlankText raw = false
  others : ∀ member ∈ members, schema.property? member.1 = none → member.1 ∉ tool.memberNames

namespace ArgumentKind

def Takes : ArgumentKind → Json → Prop
  | text, value => ∃ text, value = .string text
  | integer, value => ∃ n, value = .ofUInt32 n
  | boolean, value => ∃ b, value = .bool b
  | oneOf names, value => ∃ name ∈ names, value = .string name

theorem takes_of_has {kind : ArgumentKind} {value : Json} (has : kind.Has value)
    (inRange : ∀ i, value = .int i → 0 ≤ i ∧ i ≤ 0xFFFFFFFF) : kind.Takes value := by
  cases kind with
  | integer =>
    obtain ⟨i, rfl⟩ := has
    obtain ⟨low, high⟩ := inRange i rfl
    refine ⟨UInt32.ofNat i.toNat, ?_⟩
    have fits : i.toNat < UInt32.size := by
      rw [UInt32.size]
      omega
    rw [ofUInt32, UInt32.toNat_ofNat_of_lt' fits, Int.toNat_of_nonneg low]
  | _ => exact has

end ArgumentKind

namespace Tool

theorem arguments_distinct (tool : Tool) : (tool.arguments.map Argument.name).Nodup := by
  cases tool <;> decide

theorem fits_iff {tool : Tool} {members : List (String × Json)} :
    (schemaOf tool.arguments).Fits members ↔
      (∀ argument ∈ tool.arguments, argument.isRequired = true →
        ∃ value, lookup argument.name members = some value) ∧
      ∀ argument ∈ tool.arguments, ∀ value, lookup argument.name members = some value →
        argument.kind.Has value := by
  have admits (argument : Argument) (value : Json) :
      argument.encode.Admits value ↔ argument.kind.Has value :=
    argument.kind.admits_encode_iff argument.description value
  constructor
  · rintro ⟨complete, typed⟩
    refine ⟨fun argument among isRequired => ?_, fun argument among value given => ?_⟩
    · exact complete _ (requires_schemaOf_iff.mpr ⟨argument, among, isRequired, rfl⟩)
    · have stated := (property_schemaOf_iff tool.arguments_distinct).mpr ⟨_, among, rfl, rfl⟩
      exact (admits argument value).mp (typed _ _ value stated given)
  · rintro ⟨complete, typed⟩
    refine ⟨fun name needed => ?_, fun name property value stated given => ?_⟩
    · obtain ⟨argument, among, isRequired, rfl⟩ := requires_schemaOf_iff.mp needed
      exact complete argument among isRequired
    · obtain ⟨argument, among, rfl, rfl⟩ :=
        (property_schemaOf_iff tool.arguments_distinct).mp stated
      exact (admits argument value).mpr (typed argument among value given)

theorem property_isSome_iff {tool : Tool} {name : String} :
    ((schemaOf tool.arguments).property? name).isSome = true ↔
      name ∈ tool.arguments.map Argument.name := by
  rw [Option.isSome_iff_exists, List.mem_map]
  simp only [property_schemaOf_iff tool.arguments_distinct]
  constructor
  · rintro ⟨_, argument, among, named, -⟩
    exact ⟨argument, among, named⟩
  · rintro ⟨argument, among, named⟩
    exact ⟨_, argument, among, named, rfl⟩

structure ServedBy (tool : Tool) (members : List (String × Json)) : Prop where
  complete : ∀ argument ∈ tool.arguments, argument.isRequired = true →
    ∃ value, lookup argument.name members = some value
  typed : ∀ argument ∈ tool.arguments, ∀ value,
    lookup argument.name members = some value → argument.kind.Takes value
  unlisted : ∀ name ∈ tool.memberNames, name ∉ tool.arguments.map Argument.name →
    lookup name members = none

theorem servedBy_of_fits {tool : Tool} {members : List (String × Json)}
    (fits : (schemaOf tool.arguments).Fits members)
    (usable : tool.Usable (schemaOf tool.arguments) members) : tool.ServedBy members where
  complete := (fits_iff.mp fits).1
  typed argument among value given := by
    have stated := property_isSome_iff.mpr (List.mem_map_of_mem among)
    refine ArgumentKind.takes_of_has ((fits_iff.mp fits).2 argument among value given) ?_
    rintro i rfl
    exact usable.numbers argument.name i stated given
  unlisted name taken fresh := by
    rw [lookup_eq_none_iff]
    rintro ⟨other, value⟩ among rfl
    rw [← property_isSome_iff, Bool.not_eq_true, Option.isSome_eq_false_iff,
      Option.isNone_iff_eq_none] at fresh
    exact usable.others _ among fresh taken

end Tool

section Options

variable {α : Type} {reads : Json → α → Prop} {given : Option Json}

theorem exists_settled (encode : α → Json) (read : ∀ a, reads (encode a) a)
    (notNull : ∀ a, encode a ≠ .null)
    (typed : ∀ value, given = some value → ∃ a, value = encode a) (default : α) :
    ∃ a, Settled reads given default a ∧
      ∀ value, given = some value → some (encode a) = some value := by
  cases given with
  | none => exact ⟨default, rfl, by simp⟩
  | some value =>
    obtain ⟨a, rfl⟩ := typed value rfl
    exact ⟨a, (settled_some (notNull a)).mpr (read a), fun _ same => same⟩

theorem exists_settled_number
    (typed : ∀ value, given = some value → ArgumentKind.integer.Takes value) (default : UInt32) :
    ∃ n, Settled IsNumber given default n ∧
      ∀ value, given = some value → some (.ofUInt32 n) = some value :=
  exists_settled .ofUInt32 (fun n => rfl) (by simp [ofUInt32]) typed default

theorem exists_settled_flag
    (typed : ∀ value, given = some value → ArgumentKind.boolean.Takes value) (default : Bool) :
    ∃ b, Settled IsFlag given default b ∧
      ∀ value, given = some value → some (.bool b) = some value :=
  exists_settled .bool (fun b => rfl) (by simp) typed default

theorem exists_settled_choice {names : List String} (all : List α) (name : α → String)
    (same : names = all.map name)
    (typed : ∀ value, given = some value → (ArgumentKind.oneOf names).Takes value)
    (default : α) :
    ∃ a, Settled (IsChoice name) given default a ∧
      ∀ value, given = some value → some (.string (name a)) = some value := by
  refine exists_settled (fun a => .string (name a)) (fun a => Or.inl rfl) (by simp) ?_ default
  intro value isGiven
  obtain ⟨text, among, rfl⟩ := typed value isGiven
  obtain ⟨a, -, rfl⟩ := List.mem_map.mp (same ▸ among)
  exact ⟨a, rfl⟩

end Options

namespace Catalogue

variable {catalogue : Catalogue} {members : List (String × Json)}

def Carries (catalogue : Catalogue) (members : List (String × Json)) (query : Query) : Prop :=
  ∀ argument ∈ query.tool.arguments, ∀ value, lookup argument.name members = some value →
    catalogue.Conveys (query.wire.at? (Argument.wirePath argument.name)) argument.name value

def Resolves (catalogue : Catalogue) (members : List (String × Json)) : Prop :=
  ∀ raw, lookup "uri" members = some (.string raw) →
    ∃ uri, documentUri? raw catalogue.root = some uri

theorem exists_names (complete : ∃ value, lookup "uri" members = some value)
    (typed : ∀ value, lookup "uri" members = some value → ArgumentKind.text.Takes value)
    (named : catalogue.Resolves members) :
    ∃ uri, catalogue.Names members uri ∧ ∀ value, lookup "uri" members = some value →
      catalogue.Conveys (some (.string uri)) "uri" value := by
  obtain ⟨value, given⟩ := complete
  obtain ⟨raw, rfl⟩ := typed value given
  obtain ⟨uri, resolved⟩ := named raw given
  refine ⟨uri, ⟨raw, given, resolved⟩, ?_⟩
  intro value same
  obtain rfl := Option.some.inj (given.symm.trans same)
  exact ⟨uri, resolved, rfl⟩

variable (catalogue) in
theorem exists_places (complete : ∃ value, lookup "line" members = some value)
    (lines : ∀ value, lookup "line" members = some value → ArgumentKind.integer.Takes value)
    (characters : ∀ value, lookup "character" members = some value →
      ArgumentKind.integer.Takes value) :
    ∃ position, catalogue.Places members position ∧
      (∀ value, lookup "line" members = some value →
        some (.ofUInt32 position.line) = some value) ∧
      ∀ value, lookup "character" members = some value →
        some (.ofUInt32 position.character) = some value := by
  obtain ⟨value, given⟩ := complete
  obtain ⟨line, rfl⟩ := lines value given
  obtain ⟨character, settled, carried⟩ :=
    exists_settled_number characters catalogue.defaults.character
  exact ⟨⟨line, character⟩, ⟨given, settled⟩, fun _ same => given.symm.trans same, carried⟩

variable (catalogue) in
theorem exists_speaks
    (typed : ∀ value, lookup "language" members = some value → ArgumentKind.text.Takes value) :
    ∃ language, Speaks members language ∧ ∀ value, lookup "language" members = some value →
      catalogue.Conveys (language.map .string) "language" value := by
  cases given : lookup "language" members with
  | none => exact ⟨none, by simp [Speaks, given], nofun⟩
  | some value =>
    obtain ⟨text, rfl⟩ := typed value given
    refine ⟨if Text.isBlankText text then none else some text, by simp [Speaks, given], ?_⟩
    rintro _ ⟨⟩
    cases blank : Text.isBlankText text <;> simp [Conveys, blank]

/-- Members that serve a tool are accepted, and the request has their values. -/
theorem exists_accepts_of_servedBy {tool : Tool} (served : tool.ServedBy members)
    (named : Tool.uriArgument ∈ tool.arguments → catalogue.Resolves members) :
    ∃ query, catalogue.Accepts tool (.object members) query ∧
      catalogue.Carries members query := by
  have typed := served.typed
  have complete := served.complete
  have document (takes : Tool.uriArgument ∈ tool.arguments) :=
    exists_names (complete _ takes rfl) (typed _ takes) (named takes)
  have place (line : Tool.lineArgument ∈ tool.arguments)
      (character : Tool.characterArgument ∈ tool.arguments) :=
    exists_places catalogue (complete _ line rfl) (typed _ line) (typed _ character)
  cases tool <;> simp only [Tool.arguments, List.forall_mem_cons] at typed
  case reindexWorkspace =>
    exact ⟨.reindex, .inl ⟨rfl, rfl⟩, by simp [Carries, Query.tool, Tool.arguments]⟩
  case parserMetrics =>
    obtain ⟨language, speaks, carriesLanguage⟩ := exists_speaks catalogue typed.1
    refine ⟨.parserMetrics ⟨language⟩, .inr ⟨by decide, members, rfl, rfl, speaks⟩, ?_⟩
    simp only [Carries, Query.tool, Tool.arguments, List.forall_mem_cons]
    cases language <;> exact ⟨carriesLanguage, nofun⟩
  case dependencyGraph =>
    obtain ⟨-, depths, externals, directions, -⟩ := typed
    obtain ⟨uri, names, carriesUri⟩ := document (by simp [Tool.arguments])
    obtain ⟨depth, settlesDepth, carriesDepth⟩ :=
      exists_settled_number depths catalogue.defaults.depth
    obtain ⟨external, settlesExternal, carriesExternal⟩ :=
      exists_settled_flag externals catalogue.defaults.includeExternal
    obtain ⟨direction, settlesDirection, carriesDirection⟩ :=
      exists_settled_choice DependencyDirection.all DependencyDirection.name rfl directions
        catalogue.defaults.dependencyDirection
    refine ⟨.dependencyGraph ⟨uri, depth, external, direction⟩, .inr ⟨by decide, members, rfl, rfl,
      names, settlesDepth, settlesExternal, settlesDirection⟩, ?_⟩
    simp only [Carries, Query.tool, Tool.arguments, List.forall_mem_cons]
    exact ⟨carriesUri, carriesDepth, carriesExternal, carriesDirection, nofun⟩
  case callGraph =>
    obtain ⟨-, -, -, depths, directions, -⟩ := typed
    obtain ⟨uri, names, carriesUri⟩ := document (by simp [Tool.arguments])
    obtain ⟨position, places, carriesLine, carriesCharacter⟩ :=
      place (by simp [Tool.arguments]) (by simp [Tool.arguments])
    obtain ⟨depth, settlesDepth, carriesDepth⟩ :=
      exists_settled_number depths catalogue.defaults.depth
    obtain ⟨direction, settlesDirection, carriesDirection⟩ :=
      exists_settled_choice CallDirection.all CallDirection.name rfl directions
        catalogue.defaults.callDirection
    have settlesExternal : Settled IsFlag (lookup "includeExternal" members)
        catalogue.defaults.includeExternal catalogue.defaults.includeExternal := by
      rw [served.unlisted "includeExternal" (by decide) (by decide)]
      rfl
    refine ⟨.callGraph ⟨uri, position, depth, direction, catalogue.defaults.includeExternal⟩,
      .inr ⟨by decide, members, rfl, rfl, names, places, settlesDepth, settlesDirection,
        settlesExternal⟩, ?_⟩
    simp only [Carries, Query.tool, Tool.arguments, List.forall_mem_cons]
    exact ⟨carriesUri, carriesLine, carriesCharacter, carriesDepth, carriesDirection, nofun⟩
  case analyzeImpact =>
    obtain ⟨-, -, -, changes, -⟩ := typed
    obtain ⟨uri, names, carriesUri⟩ := document (by simp [Tool.arguments])
    obtain ⟨position, places, carriesLine, carriesCharacter⟩ :=
      place (by simp [Tool.arguments]) (by simp [Tool.arguments])
    obtain ⟨change, settlesChange, carriesChange⟩ :=
      exists_settled_choice ChangeType.all ChangeType.name rfl changes
        catalogue.defaults.changeType
    refine ⟨.impact ⟨uri, position, change⟩,
      .inr ⟨by decide, members, rfl, rfl, names, places, settlesChange⟩, ?_⟩
    simp only [Carries, Query.tool, Tool.arguments, List.forall_mem_cons]
    exact ⟨carriesUri, carriesLine, carriesCharacter, carriesChange, nofun⟩
  case aiContext =>
    obtain ⟨-, -, -, intents, budgets, -⟩ := typed
    obtain ⟨uri, names, carriesUri⟩ := document (by simp [Tool.arguments])
    obtain ⟨position, places, carriesLine, carriesCharacter⟩ :=
      place (by simp [Tool.arguments]) (by simp [Tool.arguments])
    obtain ⟨intent, settlesIntent, carriesIntent⟩ :=
      exists_settled_choice Intent.all Intent.name rfl intents catalogue.defaults.intent
    obtain ⟨budget, settlesBudget, carriesBudget⟩ :=
      exists_settled_number budgets catalogue.defaults.maxTokens
    refine ⟨.aiContext ⟨uri, position, intent, budget⟩,
      .inr ⟨by decide, members, rfl, rfl, names, places, settlesIntent, settlesBudget⟩, ?_⟩
    simp only [Carries, Query.tool, Tool.arguments, List.forall_mem_cons]
    exact ⟨carriesUri, carriesLine, carriesCharacter, carriesIntent, carriesBudget, nofun⟩
  case relatedTests =>
    obtain ⟨uri, names, carriesUri⟩ := document (by simp [Tool.arguments])
    obtain ⟨line, settlesLine, carriesLine⟩ :=
      exists_settled_number typed.2.1 catalogue.defaults.testsLine
    refine ⟨.relatedTests ⟨uri, ⟨line, catalogue.defaults.character⟩, .test,
      catalogue.defaults.maxTokens⟩,
      .inr ⟨by decide, members, rfl, rfl, names, settlesLine, rfl, rfl, rfl⟩, ?_⟩
    simp only [Carries, Query.tool, Tool.arguments, List.forall_mem_cons]
    exact ⟨carriesUri, carriesLine, nofun⟩
  case symbolInfo =>
    obtain ⟨uri, names, carriesUri⟩ := document (by simp [Tool.arguments])
    obtain ⟨position, places, carriesLine, carriesCharacter⟩ :=
      place (by simp [Tool.arguments]) (by simp [Tool.arguments])
    refine ⟨.symbolInfo ⟨uri, position⟩, .inr ⟨by decide, members, rfl, rfl, names, places⟩, ?_⟩
    simp only [Carries, Query.tool, Tool.arguments, List.forall_mem_cons]
    exact ⟨carriesUri, carriesLine, carriesCharacter, nofun⟩

theorem given_of_accepts {tool : Tool} {query : Query}
    (accepts : catalogue.Accepts tool (.object members) query) {argument : Argument}
    (among : argument ∈ tool.arguments) (isRequired : argument.isRequired = true) :
    ∃ value, lookup argument.name members = some value := by
  rcases accepts with ⟨rfl, -⟩ | ⟨-, _, given, rfl, settles⟩
  · cases among
  · obtain rfl := Option.some.inj given
    have needed : argument ∈ query.tool.arguments.filter Argument.isRequired :=
      List.mem_filter.mpr ⟨among, isRequired⟩
    have document {uri : String} (names : catalogue.Names members uri) :
        ∃ value, lookup Tool.uriArgument.name members = some value := by
      obtain ⟨raw, given, -⟩ := names
      exact ⟨.string raw, given⟩
    cases query with
    | reindex => cases needed
    | parserMetrics => cases needed
    | dependencyGraph =>
      obtain rfl := List.mem_singleton.mp needed
      exact document settles.1
    | relatedTests =>
      obtain rfl := List.mem_singleton.mp needed
      exact document settles.1
    | symbolInfo =>
      rcases List.mem_cons.mp needed with rfl | needed
      · exact document settles.1
      · obtain rfl := List.mem_singleton.mp needed
        exact ⟨_, settles.2.1⟩
    | _ =>
      rcases List.mem_cons.mp needed with rfl | needed
      · exact document settles.1
      · obtain rfl := List.mem_singleton.mp needed
        exact ⟨_, settles.2.1.1⟩

theorem prepare_without (catalogue : Catalogue) (members : List (String × Json)) {tool : Tool}
    {argument : Argument} (among : argument ∈ tool.arguments)
    (isRequired : argument.isRequired = true) :
    ∃ fault, catalogue.prepare tool (without argument.name members) = .error fault := by
  cases prepared : catalogue.prepare tool (without argument.name members) with
  | error fault => exact ⟨fault, rfl⟩
  | ok query =>
    obtain ⟨value, given⟩ := given_of_accepts (prepare_eq_ok_iff.mp prepared) among isRequired
    rw [lookup_filter_self] at given
    cases given

theorem call_of_prepare_error {tool : Tool} (listed : tool ∈ catalogue.tools) {arguments : Json}
    {fault : ArgumentFault} (refused : catalogue.prepare tool arguments = .error fault) :
    ∃ result, catalogue.call tool.name arguments = .answered result ∧ result.isError = true := by
  unfold call
  rw [find?_eq_some_iff.mpr ⟨listed, rfl⟩]
  dsimp only
  rw [refused]
  exact ⟨_, rfl, rfl⟩

/-- Arguments that fit the schema which a tool is listed with are accepted, as long as numbers are
    in range and a document is named by more than blanks, and the request has every value that is
    given; of blanks alone it has no language, and of a document it has the URI. Without any one of
    the required members the arguments are refused before the engine is asked. -/
theorem schema_agrees (catalogue : Catalogue)
    (absolute : Path.isAbsolute catalogue.root = true) {tool : Tool}
    (listed : tool ∈ catalogue.tools) {schema : Json}
    (advertised : tool.definition.member? "inputSchema" = some schema)
    {members : List (String × Json)} (fits : schema.Fits members)
    (usable : tool.Usable schema members) :
    (∃ query, catalogue.prepare tool (.object members) = .ok query ∧ query.tool = tool ∧
      catalogue.call tool.name (.object members) = .query query ∧
      ∀ name value, (schema.property? name).isSome = true → lookup name members = some value →
        catalogue.Conveys (query.wire.at? (Argument.wirePath name)) name value) ∧
    ∀ name, schema.Requires name →
      (∃ fault, catalogue.prepare tool (without name members) = .error fault) ∧
      ∃ result, catalogue.call tool.name (without name members) = .answered result ∧
        result.isError = true := by
  obtain rfl : schemaOf tool.arguments = schema := Option.some.inj advertised
  constructor
  · have named (takes : Tool.uriArgument ∈ tool.arguments) : catalogue.Resolves members := by
      intro raw given
      have stated := Tool.property_isSome_iff.mpr (List.mem_map_of_mem takes)
      have notBlank := usable.document raw stated given
      rw [← Option.ne_none_iff_exists', Ne, documentUri?_eq_none_iff absolute, notBlank]
      exact Bool.false_ne_true
    obtain ⟨query, accepts, carries⟩ :=
      exists_accepts_of_servedBy (Tool.servedBy_of_fits fits usable) named
    have isOf : query.tool = tool := by
      rcases accepts with ⟨rfl, rfl⟩ | ⟨-, _, -, isOf, -⟩
      · rfl
      · exact isOf
    refine ⟨query, prepare_eq_ok_iff.mpr accepts, isOf,
      call_eq_query_iff.mpr ⟨tool, listed, rfl, accepts⟩, ?_⟩
    intro name value stated given
    obtain ⟨argument, among, rfl⟩ := List.mem_map.mp (Tool.property_isSome_iff.mp stated)
    exact carries argument (isOf ▸ among) value given
  · intro name needed
    obtain ⟨argument, among, isRequired, rfl⟩ := requires_schemaOf_iff.mp needed
    obtain ⟨fault, refused⟩ := catalogue.prepare_without members among isRequired
    exact ⟨⟨fault, refused⟩, call_of_prepare_error listed refused⟩

/-- A call graph, asked for with two of three options and a member that no tool knows. -/
theorem schema_agrees_callGraph :
    ∃ query, (ofRoot "/work".toList .builtIn).prepare .callGraph (.object
        [("depth", .int 7), ("direction", .string "callers"), ("line", .int 2), ("note", .null),
          ("uri", .string "a.rs")]) = .ok query ∧
      query.wire.at? ["depth"] = some (.int 7) ∧
      query.wire.at? ["direction"] = some (.string "callers") ∧
      query.wire.at? ["position", "line"] = some (.int 2) := by
  have fits : (schemaOf Tool.callGraph.arguments).Fits
      [("depth", .int 7), ("direction", .string "callers"), ("line", .int 2), ("note", .null),
        ("uri", .string "a.rs")] := by
    rw [Tool.fits_iff]
    simp [Tool.arguments, Tool.uriArgument, Tool.lineArgument, Tool.characterArgument, lookup_cons,
      ArgumentKind.Has]
  have usable : Tool.callGraph.Usable (schemaOf Tool.callGraph.arguments)
      [("depth", .int 7), ("direction", .string "callers"), ("line", .int 2), ("note", .null),
        ("uri", .string "a.rs")] := by
    refine ⟨fun name i _ given => ?_, fun raw _ given => ?_, fun member among => ?_⟩
    · have := mem_of_lookup given
      simp at this
      omega
    · obtain rfl : "a.rs" = raw := by simpa [lookup_cons] using given
      decide
    · intro fresh taken
      have fresh := mt Tool.property_isSome_iff.mpr (by rw [fresh]; exact Bool.false_ne_true)
      simp only [List.mem_cons, List.not_mem_nil, or_false] at among
      rcases among with rfl | rfl | rfl | rfl | rfl <;> revert fresh taken <;> decide
  have agrees := schema_agrees (ofRoot "/work".toList .builtIn) (by decide)
    (show Tool.callGraph ∈ Tool.all by decide) rfl fits usable
  obtain ⟨query, prepared, -, -, conveys⟩ := agrees.1
  refine ⟨query, prepared, ?_, ?_, ?_⟩
  · exact conveys "depth" _ rfl rfl
  · exact conveys "direction" _ rfl rfl
  · exact conveys "line" _ rfl rfl

/-- A language of two blanks fits the schema of parser metrics, and the request is without it. -/
theorem blank_language_not_carried :
    ∃ schema query, Tool.parserMetrics.definition.member? "inputSchema" = some schema ∧
      schema.Fits [("language", .string "  ")] ∧
      Tool.parserMetrics.Usable schema [("language", .string "  ")] ∧
      (schema.property? "language").isSome = true ∧
      (ofRoot "/work".toList .builtIn).prepare .parserMetrics
        (.object [("language", .string "  ")]) = .ok query ∧
      query.wire.at? (Argument.wirePath "language") = none := by
  refine ⟨_, .parserMetrics ⟨none⟩, rfl, Tool.fits_iff.mpr ?_, ?_, rfl, ?_, rfl⟩
  · simp [Tool.arguments, lookup_cons, ArgumentKind.Has]
  · refine ⟨fun name i _ given => ?_, fun raw _ given => ?_, fun member among => ?_⟩
    · have := mem_of_lookup given
      simp at this
    · cases given
    · intro fresh taken
      have fresh := mt Tool.property_isSome_iff.mpr (by rw [fresh]; exact Bool.false_ne_true)
      obtain rfl := List.mem_singleton.mp among
      revert fresh
      decide
  · rfl

end Catalogue

end CodeGateway
