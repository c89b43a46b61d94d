import CodeGateway.Proofs.RecordMembers
import CodeGateway.Tool.Catalogue

namespace CodeGateway

open Decode Json

def IsNumber (json : Json) (n : UInt32) : Prop := json = .ofUInt32 n

def IsFlag (json : Json) (b : Bool) : Prop := json = .bool b

def IsText (json : Json) (s : String) : Prop := json = .string s

/-- A choice is told by its name, or by an object of this name and null. -/
def IsChoice {α : Type} (name : α → String) (json : Json) (a : α) : Prop :=
  json = .string (name a) ∨ json = .object [(name a, .null)]

namespace Decode

theorem string_eq_ok_iff {json : Json} {s : String} : string json = .ok s ↔ IsText json s := by
  cases json <;> simp [string, IsText]

theorem bool_eq_ok_iff {json : Json} {b : Bool} : bool json = .ok b ↔ IsFlag json b := by
  cases json <;> simp [bool, IsFlag]

theorem uint32_eq_ok_iff {json : Json} {n : UInt32} : uint32 json = .ok n ↔ IsNumber json n := by
  unfold uint32 natBelow IsNumber ofUInt32
  cases json with
  | int i =>
    have small := n.toNat_lt
    dsimp only
    split
    · rename_i bounds
      simp only [Except.map, Except.ok.injEq, Json.int.injEq]
      constructor
      · rintro rfl
        have fits : i.toNat < UInt32.size := by
          rw [UInt32.size]
          omega
        rw [UInt32.toNat_ofNat_of_lt' fits]
        omega
      · rintro rfl
        simp
    · rename_i outside
      simp only [Except.map, reduceCtorEq, Json.int.injEq, false_iff]
      omega
  | _ => simp [Except.map]

section Choices

variable {α : Type} {all : List α} {name : α → String}

theorem lookup_names (all : List α) (distinct : Function.Injective name) (text : String) (a : α) :
    (all.map fun a => (name a, a)).lookup text = some a ↔ a ∈ all ∧ name a = text := by
  induction all with
  | nil => simp
  | cons first all ih =>
    rw [List.map_cons, List.lookup_cons]
    by_cases here : text = name first
    · subst here
      simp only [List.mem_cons, distinct.eq_iff]
      simp +contextual [eq_comm]
    · have apart : (text == name first) = false := beq_eq_false_iff_ne.mpr here
      rw [apart]
      simp only [ih, List.mem_cons]
      constructor
      · rintro ⟨among, rfl⟩
        exact ⟨.inr among, rfl⟩
      · rintro ⟨rfl | among, rfl⟩
        · exact absurd rfl here
        · exact ⟨among, rfl⟩

theorem Choice.decode_eq_ok_iff (complete : ∀ a, a ∈ all) (distinct : Function.Injective name)
    {json : Json} {a : α} :
    Choice.decode ⟨all.map fun a => (name a, a), none⟩ json = .ok a ↔ IsChoice name json a := by
  have ofName {text : String} {a : α} :
      Choice.ofName ⟨all.map fun a => (name a, a), none⟩ text = .ok a ↔ text = name a := by
    have found := lookup_names all distinct text a
    unfold Choice.ofName
    cases known : (all.map fun a => (name a, a)).lookup text with
    | none => simp_all [eq_comm]
    | some b => simp_all [eq_comm]
  unfold IsChoice
  cases json with
  | string text => simp [Choice.decode, ofName]
  | object members =>
    match members with
    | [] => simp [Choice.decode]
    | [(text, value)] =>
      cases read : Choice.ofName ⟨all.map fun a => (name a, a), none⟩ text with
      | error error =>
        have other : text ≠ name a := fun same => by simp [ofName.mpr same] at read
        simp [Choice.decode, read, other]
      | ok b =>
        obtain rfl := ofName.mp read
        cases value <;> simp [Choice.decode, read, Decode.unit, distinct.eq_iff, eq_comm]
    | first :: second :: rest => simp [Choice.decode]
  | _ => simp [Choice.decode]

end Choices

end Decode

theorem DependencyDirection.name_injective : Function.Injective DependencyDirection.name := by
  intro first second
  cases first <;> cases second <;> decide

theorem DependencyDirection.decode_eq_ok_iff {json : Json} {direction : DependencyDirection} :
    DependencyDirection.choice.decode json = .ok direction ↔
      IsChoice DependencyDirection.name json direction :=
  Choice.decode_eq_ok_iff (by intro direction; cases direction <;> decide)
    DependencyDirection.name_injective

theorem CallDirection.name_injective : Function.Injective CallDirection.name := by
  intro first second
  cases first <;> cases second <;> decide

theorem CallDirection.decode_eq_ok_iff {json : Json} {direction : CallDirection} :
    CallDirection.choice.decode json = .ok direction ↔
      IsChoice CallDirection.name json direction :=
  Choice.decode_eq_ok_iff (by intro direction; cases direction <;> decide)
    CallDirection.name_injective

theorem Intent.name_injective : Function.Injective Intent.name := by
  intro first second
  cases first <;> cases second <;> decide

theorem Intent.decode_eq_ok_iff {json : Json} {intent : Intent} :
    Intent.choice.decode json = .ok intent ↔ IsChoice Intent.name json intent :=
  Choice.decode_eq_ok_iff (by intro intent; cases intent <;> decide) Intent.name_injective

theorem ChangeType.name_injective : Function.Injective ChangeType.name := by
  intro first second
  cases first <;> cases second <;> decide

theorem ChangeType.decode_eq_ok_iff {json : Json} {change : ChangeType} :
    ChangeType.choice.decode json = .ok change ↔ IsChoice ChangeType.name json change :=
  Choice.decode_eq_ok_iff (by intro change; cases change <;> decide) ChangeType.name_injective

/-- An option has the value that is given for it, or the default. Null gives none. -/
def Settled {α : Type} (reads : Json → α → Prop) (given : Option Json) (default value : α) : Prop :=
  match given with
  | none | some .null => value = default
  | some json => reads json value

section Settling

variable {α : Type} {name : String} {item : Json → Except Error α} {reads : Json → α → Prop}
  {members : List (String × Json)}

theorem settled_some {json : Json} (notNull : json ≠ .null) {default value : α} :
    Settled reads (some json) default value ↔ reads json value := by
  cases json with
  | null => exact absurd rfl notNull
  | _ => rfl

theorem required_eq_ok_iff_reads (exact : ∀ {json a}, item json = .ok a ↔ reads json a) {a : α} :
    (required name item).ofObject members = .ok a ↔
      ∃ json, lookup name members = some json ∧ reads json a := by
  simp only [required_eq_ok_iff, exact]

theorem settled_iff (exact : ∀ {json a}, item json = .ok a ↔ reads json a) {default value : α} :
    Settled reads (lookup name members) default value ↔
      ∃ option, (optional name item).ofObject members = .ok option ∧
        option.getD default = value := by
  simp only [optional_eq_ok_iff, exact]
  unfold Settled
  cases given : lookup name members with
  | none => simp [eq_comm]
  | some json =>
    cases json with
    | null => simp [eq_comm]
    | _ =>
      simp only [reduceCtorEq, Option.some.injEq, false_or, false_and, exists_eq_left', ne_eq,
        not_false_eq_true, true_and]
      constructor
      · intro read
        exact ⟨some value, ⟨value, read, rfl⟩, rfl⟩
      · rintro ⟨_, ⟨a, read, rfl⟩, rfl⟩
        exact read

end Settling

def Tool.memberNames : Tool → List String
  | dependencyGraph => ["uri", "depth", "includeExternal", "direction"]
  | callGraph => ["uri", "line", "character", "depth", "direction", "includeExternal"]
  | analyzeImpact => ["uri", "line", "character", "changeType"]
  | aiContext => ["uri", "line", "character", "intent", "maxTokens"]
  | relatedTests => ["uri", "line"]
  | symbolInfo => ["uri", "line", "character"]
  | parserMetrics => ["language"]
  | reindexWorkspace => []

/-- The members that arguments give to a tool: those of an object, none for null, or the items of an
    array, which has to have one for each member. -/
def Tool.membersGiven? (tool : Tool) : Json → Option (List (String × Json))
  | .null => some []
  | arguments => arguments.membersOf tool.memberNames tool.memberNames.length

namespace Catalogue

/-- The members name a document by a text that has this URI. -/
def Names (catalogue : Catalogue) (members : List (String × Json)) (uri : String) : Prop :=
  ∃ raw, lookup "uri" members = some (.string raw) ∧
    documentUri? raw catalogue.root = some uri

/-- The members name a position: its line, and its character or the default. -/
def Places (catalogue : Catalogue) (members : List (String × Json)) (position : Position) : Prop :=
  lookup "line" members = some (.ofUInt32 position.line) ∧
    Settled IsNumber (lookup "character" members) catalogue.defaults.character position.character

/-- The members name a language, or none. A language of blanks is none. -/
def Speaks (members : List (String × Json)) (language : Option String) : Prop :=
  match lookup "language" members with
  | none | some .null => language = none
  | some (.string text) => language = if Text.isBlankText text then none else some text
  | some _ => False

/-- The members settle a query: each part of its request is the one that is given, or the default.
    Related tests are context with the intent to test. -/
def Settles (catalogue : Catalogue) (members : List (String × Json)) : Query → Prop
  | .dependencyGraph request =>
    catalogue.Names members request.uri ∧
    Settled IsNumber (lookup "depth" members) catalogue.defaults.depth request.depth ∧
    Settled IsFlag (lookup "includeExternal" members) catalogue.defaults.includeExternal
      request.includeExternal ∧
    Settled (IsChoice DependencyDirection.name) (lookup "direction" members)
      catalogue.defaults.dependencyDirection request.direction
  | .callGraph request =>
    catalogue.Names members request.uri ∧ catalogue.Places members request.position ∧
    Settled IsNumber (lookup "depth" members) catalogue.defaults.depth request.depth ∧
    Settled (IsChoice CallDirection.name) (lookup "direction" members)
      catalogue.defaults.callDirection request.direction ∧
    Settled IsFlag (lookup "includeExternal" members) catalogue.defaults.includeExternal
      request.includeExternal
  | .impact request =>
    catalogue.Names members request.uri ∧ catalogue.Places members request.position ∧
    Settled (IsChoice ChangeType.name) (lookup "changeType" members)
      catalogue.defaults.changeType request.change
  | .aiContext request =>
    catalogue.Names members request.uri ∧ catalogue.Places members request.position ∧
    Settled (IsChoice Intent.name) (lookup "intent" members) catalogue.defaults.intent
      request.intent ∧
    Settled IsNumber (lookup "maxTokens" members) catalogue.defaults.maxTokens request.maxTokens
  | .relatedTests request =>
    catalogue.Names members request.uri ∧
    Settled IsNumber (lookup "line" members) catalogue.defaults.testsLine
      request.position.line ∧
    request.position.character = catalogue.defaults.character ∧
    request.intent = .test ∧ request.maxTokens = catalogue.defaults.maxTokens
  | .symbolInfo request =>
    catalogue.Names members request.uri ∧ catalogue.Places members request.position
  | .parserMetrics request => Speaks members request.language
  | .reindex => True

theorem readArguments_eq_ok_iff {α : Type} {decode : Json → Except Error α} {arguments : Json}
    {a : α} : readArguments decode arguments = .ok a ↔
      decode (match arguments with | .null => .object [] | given => given) = .ok a := by
  unfold readArguments
  cases arguments <;> dsimp only <;> cases decode _ <;> simp

theorem resolveUri_eq_ok_iff {catalogue : Catalogue} {raw uri : String} :
    catalogue.resolveUri raw = .ok uri ↔ documentUri? raw catalogue.root = some uri := by
  unfold resolveUri
  cases documentUri? raw catalogue.root <;> simp

theorem names_iff {catalogue : Catalogue} {members : List (String × Json)} {uri : String} :
    catalogue.Names members uri ↔
      ∃ raw, (required "uri" string).ofObject members = .ok raw ∧
        catalogue.resolveUri raw = .ok uri := by
  unfold Names
  simp only [required_eq_ok_iff_reads string_eq_ok_iff, IsText, exists_eq_right,
    resolveUri_eq_ok_iff]

theorem speaks_iff {members : List (String × Json)} {spoken : Option String} :
    Speaks members spoken ↔
      ∃ language, (optional "language" string).ofObject members = .ok language ∧
        (language.filter fun text => !Text.isBlankText text) = spoken := by
  unfold Speaks
  simp only [optional_eq_ok_iff, string_eq_ok_iff, IsText]
  cases given : lookup "language" members with
  | none => simp [eq_comm]
  | some json =>
    cases json with
    | null => simp [eq_comm]
    | string text =>
      have kept : ((some text).filter fun text => !Text.isBlankText text) =
          if Text.isBlankText text then none else some text := by
        cases blank : Text.isBlankText text <;> simp [Option.filter_some, blank]
      dsimp only
      rw [← kept]
      simp only [reduceCtorEq, Option.some.injEq, false_and, or_self, exists_eq_left', false_or,
        ne_eq, not_false_eq_true, true_and, Json.string.injEq, exists_eq_left]
      exact eq_comm
    | _ => simp

theorem exists_readArguments_iff {α : Type} {label : String} {record : Record α} (tool : Tool)
    (named : record.Named tool.memberNames tool.memberNames.length) {arguments : Json}
    {P : α → Prop} :
    (∃ a, readArguments (record.decode label) arguments = .ok a ∧ P a) ↔
      ∃ members, tool.membersGiven? arguments = some members ∧
        ∃ a, record.ofObject members = .ok a ∧ P a := by
  have read {a : α} : readArguments (record.decode label) arguments = .ok a ↔
      ∃ members, tool.membersGiven? arguments = some members ∧
        record.ofObject members = .ok a := by
    rw [readArguments_eq_ok_iff, named.decode_eq_ok_iff]
    cases arguments <;> simp [Tool.membersGiven?, membersOf]
  simp only [read]
  constructor
  · rintro ⟨a, ⟨members, given, isRead⟩, holds⟩
    exact ⟨members, given, a, isRead, holds⟩
  · rintro ⟨members, given, a, isRead, holds⟩
    exact ⟨a, ⟨members, given, isRead⟩, holds⟩

theorem places_iff {catalogue : Catalogue} {members : List (String × Json)}
    {position : Position} :
    catalogue.Places members position ↔
      (required "line" uint32).ofObject members = .ok position.line ∧
      ∃ option, (optional "character" uint32).ofObject members = .ok option ∧
        option.getD catalogue.defaults.character = position.character := by
  unfold Places
  rw [settled_iff uint32_eq_ok_iff, required_eq_ok_iff_reads uint32_eq_ok_iff]
  simp only [IsNumber, exists_eq_right]

section Tools

variable {catalogue : Catalogue} {arguments : Json} {query : Query}

/-- A tool prepares the queries that the members of its arguments settle. -/
def Prepares (catalogue : Catalogue) (tool : Tool) (arguments : Json) (query : Query) : Prop :=
  ∃ members, tool.membersGiven? arguments = some members ∧ query.tool = tool ∧
    catalogue.Settles members query

theorem prepare_dependencyGraph_iff :
    catalogue.prepare .dependencyGraph arguments = .ok query ↔
      catalogue.Prepares .dependencyGraph arguments query := by
  have named := (Record.Named.of DependencyGraphInput.mk).takeNeeded
    (required "uri" string) (by decide) rfl |>.takeNeeded
    (optional "depth" uint32) (by decide) rfl |>.takeNeeded
    (optional "includeExternal" bool) (by decide) rfl |>.takeNeeded
    (optional "direction" DependencyDirection.choice.decode) (by decide) rfl
  simp only [prepare, bind_eq_ok_iff, DependencyGraphInput.decode, Except.ok.injEq]
  rw [exists_readArguments_iff .dependencyGraph named]
  simp only [Record.exists_ofObject_take, Record.exists_ofObject_of]
  constructor
  · rintro ⟨members, given, raw, isRaw, depth, isDepth, external, isExternal, direction,
      isDirection, uri, resolved, rfl⟩
    exact ⟨members, given, rfl, names_iff.mpr ⟨raw, isRaw, resolved⟩,
      (settled_iff uint32_eq_ok_iff).mpr ⟨depth, isDepth, rfl⟩,
      (settled_iff bool_eq_ok_iff).mpr ⟨external, isExternal, rfl⟩,
      (settled_iff DependencyDirection.decode_eq_ok_iff).mpr ⟨direction, isDirection, rfl⟩⟩
  · rintro ⟨members, given, ofTool, settles⟩
    cases query with
    | dependencyGraph request =>
      obtain ⟨names, depths, externals, directions⟩ := settles
      obtain ⟨raw, isRaw, resolved⟩ := names_iff.mp names
      obtain ⟨depth, isDepth, depthIs⟩ := (settled_iff uint32_eq_ok_iff).mp depths
      obtain ⟨external, isExternal, externalIs⟩ := (settled_iff bool_eq_ok_iff).mp externals
      obtain ⟨direction, isDirection, directionIs⟩ :=
        (settled_iff DependencyDirection.decode_eq_ok_iff).mp directions
      refine ⟨members, given, raw, isRaw, depth, isDepth, external, isExternal, direction,
        isDirection, request.uri, resolved, ?_⟩
      rw [DependencyGraphInput.resolve, depthIs, externalIs, directionIs]
    | _ => cases ofTool

theorem prepare_callGraph_iff :
    catalogue.prepare .callGraph arguments = .ok query ↔
      catalogue.Prepares .callGraph arguments query := by
  have named := (Record.Named.of CallGraphInput.mk).takeNeeded
    (required "uri" string) (by decide) rfl |>.takeNeeded
    (required "line" uint32) (by decide) rfl |>.takeNeeded
    (optional "character" uint32) (by decide) rfl |>.takeNeeded
    (optional "depth" uint32) (by decide) rfl |>.takeNeeded
    (optional "direction" CallDirection.choice.decode) (by decide) rfl |>.takeNeeded
    (optional "includeExternal" bool) (by decide) rfl
  simp only [prepare, bind_eq_ok_iff, CallGraphInput.decode, Except.ok.injEq]
  rw [exists_readArguments_iff .callGraph named]
  simp only [Record.exists_ofObject_take, Record.exists_ofObject_of]
  constructor
  · rintro ⟨members, given, raw, isRaw, line, isLine, character, isCharacter, depth, isDepth,
      direction, isDirection, external, isExternal, uri, resolved, rfl⟩
    exact ⟨members, given, rfl, names_iff.mpr ⟨raw, isRaw, resolved⟩,
      places_iff.mpr ⟨isLine, character, isCharacter, rfl⟩,
      (settled_iff uint32_eq_ok_iff).mpr ⟨depth, isDepth, rfl⟩,
      (settled_iff CallDirection.decode_eq_ok_iff).mpr ⟨direction, isDirection, rfl⟩,
      (settled_iff bool_eq_ok_iff).mpr ⟨external, isExternal, rfl⟩⟩
  · rintro ⟨members, given, ofTool, settles⟩
    cases query with
    | callGraph request =>
      obtain ⟨names, places, depths, directions, externals⟩ := settles
      obtain ⟨raw, isRaw, resolved⟩ := names_iff.mp names
      obtain ⟨isLine, character, isCharacter, characterIs⟩ := places_iff.mp places
      obtain ⟨depth, isDepth, depthIs⟩ := (settled_iff uint32_eq_ok_iff).mp depths
      obtain ⟨direction, isDirection, directionIs⟩ :=
        (settled_iff CallDirection.decode_eq_ok_iff).mp directions
      obtain ⟨external, isExternal, externalIs⟩ := (settled_iff bool_eq_ok_iff).mp externals
      refine ⟨members, given, raw, isRaw, request.position.line, isLine, character, isCharacter,
        depth, isDepth, direction, isDirection, external, isExternal, request.uri, resolved, ?_⟩
      rw [CallGraphInput.resolve, characterIs, depthIs, directionIs, externalIs]
    | _ => cases ofTool

theorem prepare_analyzeImpact_iff :
    catalogue.prepare .analyzeImpact arguments = .ok query ↔
      catalogue.Prepares .analyzeImpact arguments query := by
  have named := (Record.Named.of ImpactInput.mk).takeNeeded
    (required "uri" string) (by decide) rfl |>.takeNeeded
    (required "line" uint32) (by decide) rfl |>.takeNeeded
    (optional "character" uint32) (by decide) rfl |>.takeNeeded
    (optional "changeType" ChangeType.choice.decode) (by decide) rfl
  simp only [prepare, bind_eq_ok_iff, ImpactInput.decode, Except.ok.injEq]
  rw [exists_readArguments_iff .analyzeImpact named]
  simp only [Record.exists_ofObject_take, Record.exists_ofObject_of]
  constructor
  · rintro ⟨members, given, raw, isRaw, line, isLine, character, isCharacter, change, isChange, uri,
      resolved, rfl⟩
    exact ⟨members, given, rfl, names_iff.mpr ⟨raw, isRaw, resolved⟩,
      places_iff.mpr ⟨isLine, character, isCharacter, rfl⟩,
      (settled_iff ChangeType.decode_eq_ok_iff).mpr ⟨change, isChange, rfl⟩⟩
  · rintro ⟨members, given, ofTool, settles⟩
    cases query with
    | impact request =>
      obtain ⟨names, places, changes⟩ := settles
      obtain ⟨raw, isRaw, resolved⟩ := names_iff.mp names
      obtain ⟨isLine, character, isCharacter, characterIs⟩ := places_iff.mp places
      obtain ⟨change, isChange, changeIs⟩ := (settled_iff ChangeType.decode_eq_ok_iff).mp changes
      refine ⟨members, given, raw, isRaw, request.position.line, isLine, character, isCharacter,
        change, isChange, request.uri, resolved, ?_⟩
      rw [ImpactInput.resolve, characterIs, changeIs]
    | _ => cases ofTool

theorem prepare_aiContext_iff :
    catalogue.prepare .aiContext arguments = .ok query ↔
      catalogue.Prepares .aiContext arguments query := by
  have named := (Record.Named.of AiContextInput.mk).takeNeeded
    (required "uri" string) (by decide) rfl |>.takeNeeded
    (required "line" uint32) (by decide) rfl |>.takeNeeded
    (optional "character" uint32) (by decide) rfl |>.takeNeeded
    (optional "intent" Intent.choice.decode) (by decide) rfl |>.takeNeeded
    (optional "maxTokens" uint32) (by decide) rfl
  simp only [prepare, bind_eq_ok_iff, AiContextInput.decode, Except.ok.injEq]
  rw [exists_readArguments_iff .aiContext named]
  simp only [Record.exists_ofObject_take, Record.exists_ofObject_of]
  constructor
  · rintro ⟨members, given, raw, isRaw, line, isLine, character, isCharacter, intent, isIntent,
      budget, isBudget, uri, resolved, rfl⟩
    exact ⟨members, given, rfl, names_iff.mpr ⟨raw, isRaw, resolved⟩,
      places_iff.mpr ⟨isLine, character, isCharacter, rfl⟩,
      (settled_iff Intent.decode_eq_ok_iff).mpr ⟨intent, isIntent, rfl⟩,
      (settled_iff uint32_eq_ok_iff).mpr ⟨budget, isBudget, rfl⟩⟩
  · rintro ⟨members, given, ofTool, settles⟩
    cases query with
    | aiContext request =>
      obtain ⟨names, places, intents, budgets⟩ := settles
      obtain ⟨raw, isRaw, resolved⟩ := names_iff.mp names
      obtain ⟨isLine, character, isCharacter, characterIs⟩ := places_iff.mp places
      obtain ⟨intent, isIntent, intentIs⟩ := (settled_iff Intent.decode_eq_ok_iff).mp intents
      obtain ⟨budget, isBudget, budgetIs⟩ := (settled_iff uint32_eq_ok_iff).mp budgets
      refine ⟨members, given, raw, isRaw, request.position.line, isLine, character, isCharacter,
        intent, isIntent, budget, isBudget, request.uri, resolved, ?_⟩
      rw [AiContextInput.resolve, characterIs, intentIs, budgetIs]
    | _ => cases ofTool

theorem prepare_symbolInfo_iff :
    catalogue.prepare .symbolInfo arguments = .ok query ↔
      catalogue.Prepares .symbolInfo arguments query := by
  have named := (Record.Named.of SymbolInfoInput.mk).takeNeeded
    (required "uri" string) (by decide) rfl |>.takeNeeded
    (required "line" uint32) (by decide) rfl |>.takeNeeded
    (optional "character" uint32) (by decide) rfl
  simp only [prepare, bind_eq_ok_iff, SymbolInfoInput.decode, Except.ok.injEq]
  rw [exists_readArguments_iff .symbolInfo named]
  simp only [Record.exists_ofObject_take, Record.exists_ofObject_of]
  constructor
  · rintro ⟨members, given, raw, isRaw, line, isLine, character, isCharacter, uri, resolved, rfl⟩
    exact ⟨members, given, rfl, names_iff.mpr ⟨raw, isRaw, resolved⟩,
      places_iff.mpr ⟨isLine, character, isCharacter, rfl⟩⟩
  · rintro ⟨members, given, ofTool, settles⟩
    cases query with
    | symbolInfo request =>
      obtain ⟨names, places⟩ := settles
      obtain ⟨raw, isRaw, resolved⟩ := names_iff.mp names
      obtain ⟨isLine, character, isCharacter, characterIs⟩ := places_iff.mp places
      refine ⟨members, given, raw, isRaw, request.position.line, isLine, character, isCharacter,
        request.uri, resolved, ?_⟩
      rw [SymbolInfoInput.resolve, characterIs]
    | _ => cases ofTool

theorem prepare_relatedTests_iff :
    catalogue.prepare .relatedTests arguments = .ok query ↔
      catalogue.Prepares .relatedTests arguments query := by
  have named := (Record.Named.of RelatedTestsInput.mk).takeNeeded
    (required "uri" string) (by decide) rfl |>.takeNeeded
    (optional "line" uint32) (by decide) rfl
  simp only [prepare, bind_eq_ok_iff, RelatedTestsInput.decode, Except.ok.injEq]
  rw [exists_readArguments_iff .relatedTests named]
  simp only [Record.exists_ofObject_take, Record.exists_ofObject_of]
  constructor
  · rintro ⟨members, given, raw, isRaw, line, isLine, uri, resolved, rfl⟩
    exact ⟨members, given, rfl, names_iff.mpr ⟨raw, isRaw, resolved⟩,
      (settled_iff uint32_eq_ok_iff).mpr ⟨line, isLine, rfl⟩, rfl, rfl, rfl⟩
  · rintro ⟨members, given, ofTool, settles⟩
    cases query with
    | relatedTests request =>
      obtain ⟨uri, ⟨place, character⟩, intent, budget⟩ := request
      obtain ⟨names, lines, rfl, rfl, rfl⟩ := settles
      obtain ⟨raw, isRaw, resolved⟩ := names_iff.mp names
      obtain ⟨line, isLine, lineIs⟩ := (settled_iff uint32_eq_ok_iff).mp lines
      refine ⟨members, given, raw, isRaw, line, isLine, uri, resolved, ?_⟩
      rw [RelatedTestsInput.resolve, lineIs]
    | _ => cases ofTool

theorem prepare_parserMetrics_iff :
    catalogue.prepare .parserMetrics arguments = .ok query ↔
      catalogue.Prepares .parserMetrics arguments query := by
  have named := (Record.Named.of ParserMetricsInput.mk).takeNeeded
    (optional "language" string) (by decide) rfl
  simp only [prepare, bind_eq_ok_iff, ParserMetricsInput.decode, Except.ok.injEq]
  rw [exists_readArguments_iff .parserMetrics named]
  simp only [Record.exists_ofObject_take, Record.exists_ofObject_of]
  constructor
  · rintro ⟨members, given, language, isLanguage, rfl⟩
    exact ⟨members, given, rfl, speaks_iff.mpr ⟨language, isLanguage, rfl⟩⟩
  · rintro ⟨members, given, ofTool, settles⟩
    cases query with
    | parserMetrics request =>
      obtain ⟨language, isLanguage, languageIs⟩ := speaks_iff.mp settles
      refine ⟨members, given, language, isLanguage, ?_⟩
      rw [ParserMetricsInput.resolve, languageIs]
    | _ => cases ofTool

/-- A tool accepts arguments for a query. A reindex takes whatever arguments. -/
def Accepts (catalogue : Catalogue) (tool : Tool) (arguments : Json) (query : Query) : Prop :=
  (tool = .reindexWorkspace ∧ query = .reindex) ∨
    (tool ≠ .reindexWorkspace ∧ catalogue.Prepares tool arguments query)

theorem prepare_eq_ok_iff {tool : Tool} :
    catalogue.prepare tool arguments = .ok query ↔ catalogue.Accepts tool arguments query := by
  unfold Accepts
  cases tool with
  | dependencyGraph => simp [prepare_dependencyGraph_iff]
  | callGraph => simp [prepare_callGraph_iff]
  | analyzeImpact => simp [prepare_analyzeImpact_iff]
  | aiContext => simp [prepare_aiContext_iff]
  | relatedTests => simp [prepare_relatedTests_iff]
  | symbolInfo => simp [prepare_symbolInfo_iff]
  | parserMetrics => simp [prepare_parserMetrics_iff]
  | reindexWorkspace => simp [prepare, eq_comm]

end Tools

end Catalogue

end CodeGateway
