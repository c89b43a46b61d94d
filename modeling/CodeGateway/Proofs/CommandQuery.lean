import CodeGateway.CommandLine.Command
import CodeGateway.Proofs.DocumentUri
import CodeGateway.Proofs.EncodedMembers
import CodeGateway.Proofs.ToolArguments
import Mathlib.Data.List.Nodup
import Mathlib.Tactic.FinCases

namespace CodeGateway.CommandLine

open Decode Json

namespace Command

def uri? : Command → Option String
  | deps uri .. | calls uri .. | impact uri .. | context uri .. | tests uri .. | symbol uri .. =>
    some uri
  | metrics _ | reindex => none

/-- The first of these that goes by the text of an option, if the option is given. -/
def chosen? {α : Type} (all : List α) (name : α → String) {texts : List String}
    (given : Option (OneOf texts)) : Option α :=
  given.bind fun text => all.find? fun a => name a == text.val

/-- The query that a command stands for: what its options say and, for those left out, what the
    defaults say. A language of blanks is left out. -/
def query (defaults : QueryDefaults) (uri : String) : Command → Query
  | deps _ depth includeExternal direction =>
    .dependencyGraph ⟨uri, depth.getD defaults.depth, includeExternal || defaults.includeExternal,
      (chosen? DependencyDirection.all DependencyDirection.name direction).getD
        defaults.dependencyDirection⟩
  | calls _ line character depth direction =>
    .callGraph ⟨uri, ⟨line, character.getD defaults.character⟩, depth.getD defaults.depth,
      (chosen? CallDirection.all CallDirection.name direction).getD defaults.callDirection,
      defaults.includeExternal⟩
  | impact _ line character change =>
    .impact ⟨uri, ⟨line, character.getD defaults.character⟩,
      (chosen? ChangeType.all ChangeType.name change).getD defaults.changeType⟩
  | context _ line character intent maxTokens =>
    .aiContext ⟨uri, ⟨line, character.getD defaults.character⟩,
      (chosen? Intent.all Intent.name intent).getD defaults.intent,
      maxTokens.getD defaults.maxTokens⟩
  | tests _ line =>
    .relatedTests ⟨uri, ⟨line.getD defaults.testsLine, defaults.character⟩, .test,
      defaults.maxTokens⟩
  | symbol _ line character => .symbolInfo ⟨uri, ⟨line, character.getD defaults.character⟩⟩
  | metrics (some language) =>
    .parserMetrics ⟨if Text.isBlankText language then none else some language⟩
  | metrics none => .parserMetrics ⟨none⟩
  | reindex => .reindex

theorem ifGiven_number (name : String) (given : Option UInt32) :
    ifGiven name uint32 (given.map ofUInt32) = .ok given :=
  ifGiven_map uint32_ofUInt32 (by simp [ofUInt32]) name given

theorem ifGiven_flag (name : String) (given : Option Bool) :
    ifGiven name Decode.bool (given.map .bool) = .ok given :=
  ifGiven_map bool_bool (by simp) name given

theorem dependencyDirections_eq_names :
    dependencyDirections = DependencyDirection.all.map DependencyDirection.name := rfl

theorem callDirections_eq_names : callDirections = CallDirection.all.map CallDirection.name := rfl

theorem changeTypes_eq_names : changeTypes = ChangeType.all.map ChangeType.name := rfl

theorem intents_eq_names : intents = Intent.all.map Intent.name := rfl

theorem ifGiven_chosen {α : Type} {all : List α} {text : α → String} {texts : List String}
    {item : Json → Except Error α} (exact : ∀ {json a}, item json = .ok a ↔ IsChoice text json a)
    (same : texts = all.map text) (name : String) (given : Option (OneOf texts)) :
    ifGiven name item (given.unattach.map .string) = .ok (chosen? all text given) := by
  have named : given.unattach = (chosen? all text given).map text := by
    cases given with
    | none => rfl
    | some t =>
      have known : t.val ∈ all.map text := same ▸ t.property
      obtain ⟨a, among, isName⟩ := List.mem_map.mp known
      cases found : all.find? fun a => text a == t.val with
      | none => exact absurd (beq_iff_eq.mpr isName) (List.find?_eq_none.mp found a among)
      | some b =>
        have isNamed : (text b == t.val) = true :=
          List.find?_some (p := fun a => text a == t.val) found
        simp [chosen?, found, eq_of_beq isNamed]
  rw [named, Option.map_map]
  exact ifGiven_map (fun _ => exact.mpr (.inl rfl)) (by simp) name _

variable {catalogue : Catalogue}

theorem tool_query (command : Command) (defaults : QueryDefaults) (uri : String) :
    (command.query defaults uri).tool = command.tool := by
  cases command with
  | metrics language => cases language <;> rfl
  | _ => rfl

theorem readArguments_of_decode {Input : Type} {decode : Json → Except Error Input}
    {command : Command} {input : Input} (decoded : decode command.arguments = .ok input) :
    Catalogue.readArguments decode command.arguments = .ok input := by
  have isObject : ∃ members, command.arguments = .object members := by
    cases command <;> exact ⟨_, rfl⟩
  obtain ⟨members, isObject⟩ := isObject
  rw [isObject] at decoded ⊢
  exact Catalogue.readArguments_eq_ok_iff.mpr decoded

theorem resolve_of_decode {Input : Type} {decode : Json → Except Error Input} {command : Command}
    {input : Input} {document : Input → String} {request : Input → String → Query}
    (decoded : decode command.arguments = .ok input) :
    (do
      let input ← Catalogue.readArguments decode command.arguments
      let uri ← catalogue.resolveUri (document input)
      .ok (request input uri)) =
      (catalogue.resolveUri (document input)).map (request input) := by
  rw [readArguments_of_decode decoded]
  cases found : catalogue.resolveUri (document input) <;>
    simp [bind, Except.bind, Except.map, found]

theorem prepare_of_uri_none {command : Command} (none : command.uri? = none) :
    catalogue.prepare command.tool command.arguments =
      .ok (command.query catalogue.defaults "") := by
  cases command with
  | metrics language =>
    have decoded : ParserMetricsInput.decode (metrics language).arguments = .ok ⟨language⟩ := by
      have given := ifGiven_map string_string (by simp) "language" language
      simp [ParserMetricsInput.decode, arguments, given]
    simp only [tool, Catalogue.prepare, readArguments_of_decode decoded, bind, Except.bind]
    cases language with
    | none => rfl
    | some language =>
      cases blank : Text.isBlankText language <;>
        simp [query, ParserMetricsInput.resolve, Option.filter_some, blank]
  | reindex => rfl
  | _ => cases none

theorem prepare_of_uri_some {command : Command} {raw : String} (about : command.uri? = some raw) :
    catalogue.prepare command.tool command.arguments =
      (catalogue.resolveUri raw).map (command.query catalogue.defaults) := by
  cases command with
  | deps uri depth includeExternal direction =>
    obtain rfl := Option.some.inj about
    have flag : (if includeExternal then [("includeExternal", Json.bool true)] else []) =
        memberIf "includeExternal" .bool (if includeExternal then some true else none) := by
      cases includeExternal <;> rfl
    have decoded :
        DependencyGraphInput.decode (deps uri depth includeExternal direction).arguments =
          .ok ⟨uri, depth, if includeExternal then some true else none,
            chosen? DependencyDirection.all DependencyDirection.name direction⟩ := by
      generalize (if includeExternal then some true else none) = given at flag ⊢
      simp [DependencyGraphInput.decode, arguments, flag, ifGiven_number, ifGiven_flag,
        ifGiven_chosen DependencyDirection.decode_eq_ok_iff dependencyDirections_eq_names]
    simp only [tool, Catalogue.prepare]
    rw [resolve_of_decode decoded]
    cases includeExternal <;> rfl
  | calls uri line character depth direction =>
    obtain rfl := Option.some.inj about
    have decoded : CallGraphInput.decode (calls uri line character depth direction).arguments =
        .ok ⟨uri, line, character, depth, chosen? CallDirection.all CallDirection.name direction,
          none⟩ := by
      simp [CallGraphInput.decode, arguments, ifGiven_number,
        ifGiven_chosen CallDirection.decode_eq_ok_iff callDirections_eq_names]
    simp only [tool, Catalogue.prepare]
    rw [resolve_of_decode decoded]
    rfl
  | impact uri line character change =>
    obtain rfl := Option.some.inj about
    have decoded : ImpactInput.decode (impact uri line character change).arguments =
        .ok ⟨uri, line, character, chosen? ChangeType.all ChangeType.name change⟩ := by
      simp [ImpactInput.decode, arguments, ifGiven_number,
        ifGiven_chosen ChangeType.decode_eq_ok_iff changeTypes_eq_names]
    simp only [tool, Catalogue.prepare]
    rw [resolve_of_decode decoded]
    rfl
  | context uri line character intent maxTokens =>
    obtain rfl := Option.some.inj about
    have decoded : AiContextInput.decode (context uri line character intent maxTokens).arguments =
        .ok ⟨uri, line, character, chosen? Intent.all Intent.name intent, maxTokens⟩ := by
      simp [AiContextInput.decode, arguments, ifGiven_number,
        ifGiven_chosen Intent.decode_eq_ok_iff intents_eq_names]
    simp only [tool, Catalogue.prepare]
    rw [resolve_of_decode decoded]
    rfl
  | tests uri line =>
    obtain rfl := Option.some.inj about
    have decoded : RelatedTestsInput.decode (tests uri line).arguments = .ok ⟨uri, line⟩ := by
      simp [RelatedTestsInput.decode, arguments, ifGiven_number]
    simp only [tool, Catalogue.prepare]
    rw [resolve_of_decode decoded]
    rfl
  | symbol uri line character =>
    obtain rfl := Option.some.inj about
    have decoded : SymbolInfoInput.decode (symbol uri line character).arguments =
        .ok ⟨uri, line, character⟩ := by
      simp [SymbolInfoInput.decode, arguments, ifGiven_number]
    simp only [tool, Catalogue.prepare]
    rw [resolve_of_decode decoded]
    rfl
  | _ => cases about

/-- What a command has for an argument of the command line. -/
def value? : Command → String → Option Value
  | deps uri .., "uri" => some (.text uri)
  | deps _ depth .., "depth" => depth.map .number
  | deps _ _ includeExternal _, "include-external" => if includeExternal then some .flag else none
  | deps _ _ _ direction, "direction" => direction.map fun direction => .text direction.val
  | calls uri .., "uri" => some (.text uri)
  | calls _ line .., "line" => some (.number line)
  | calls _ _ character .., "character" => character.map .number
  | calls _ _ _ depth _, "depth" => depth.map .number
  | calls _ _ _ _ direction, "direction" => direction.map fun direction => .text direction.val
  | impact uri .., "uri" => some (.text uri)
  | impact _ line .., "line" => some (.number line)
  | impact _ _ character _, "character" => character.map .number
  | impact _ _ _ change, "change-type" => change.map fun change => .text change.val
  | context uri .., "uri" => some (.text uri)
  | context _ line .., "line" => some (.number line)
  | context _ _ character .., "character" => character.map .number
  | context _ _ _ intent _, "intent" => intent.map fun intent => .text intent.val
  | context _ _ _ _ maxTokens, "max-tokens" => maxTokens.map .number
  | tests uri _, "uri" => some (.text uri)
  | tests _ line, "line" => line.map .number
  | symbol uri .., "uri" => some (.text uri)
  | symbol _ line _, "line" => some (.number line)
  | symbol _ _ character, "character" => character.map .number
  | metrics language, "language" => language.map .text
  | _, _ => none

end Command

/-- A value that the command line may have for an argument. -/
def Argument.Admits (argument : Argument) (value : Value) : Prop :=
  (argument.takes = .nothing ∧ value = .flag) ∨ ∃ text, readValue argument text = .ok value

/-- Each value is given for an argument of the grammar, which admits it, and no positional argument
    is missing. -/
structure Grammar.Admits (grammar : Grammar) (given : Given) : Prop where
  known : ∀ name value, given.lookup name = some value →
    ∃ argument ∈ grammar.positionals ++ grammar.options, argument.name = name ∧
      argument.Admits value
  complete : ∀ argument ∈ grammar.positionals, ∃ value, given.lookup argument.name = some value

section Given

variable {given : Given} {grammar : Grammar} {argument : Argument} {value : Value}

theorem Argument.Admits.cases (admits : argument.Admits value) :
    match argument.takes with
    | .nothing => value = .flag
    | .help | .version => False
    | .text | .path => ∃ text, value = .text text
    | .number => ∃ n, value = .number n
    | .oneOf names => ∃ text ∈ names, value = .text text := by
  obtain ⟨takes, rfl⟩ | ⟨text, read⟩ := admits
  · rw [takes]
  · unfold readValue at read
    cases takes : argument.takes with
    | nothing | help | version =>
      rw [takes] at read
      cases read
    | text =>
      rw [takes] at read
      exact ⟨text, (Except.ok.inj read).symm⟩
    | path =>
      simp only [takes] at read
      split at read
      · cases read
      · exact ⟨text, (Except.ok.inj read).symm⟩
    | number =>
      simp only [takes] at read
      split at read
      · exact ⟨_, (Except.ok.inj read).symm⟩
      · cases read
    | oneOf names =>
      simp only [takes] at read
      split at read
      · rename_i known
        exact ⟨text, by simpa using known, (Except.ok.inj read).symm⟩
      · cases read

theorem Grammar.Admits.of_lookup (admits : grammar.Admits given)
    (distinct : ((grammar.positionals ++ grammar.options).map Argument.name).Nodup)
    (among : argument ∈ grammar.positionals ++ grammar.options)
    (found : given.lookup argument.name = some value) : argument.Admits value := by
  obtain ⟨other, listed, same, holds⟩ := admits.known _ _ found
  obtain rfl := List.inj_on_of_nodup_map distinct listed among same
  exact holds

def Argument.given? (argument : Argument) (given : Given) : Option Value :=
  match argument.takes with
  | .nothing => if (given.lookup argument.name).isSome then some .flag else none
  | .help | .version => none
  | .text | .path => (text? given argument.name).map .text
  | .number => (number? given argument.name).map .number
  | .oneOf texts => (choice? given argument.name texts).map fun text => .text text.val

theorem Grammar.Admits.given?_eq_lookup (admits : grammar.Admits given)
    (distinct : ((grammar.positionals ++ grammar.options).map Argument.name).Nodup)
    (among : argument ∈ grammar.positionals ++ grammar.options) :
    argument.given? given = given.lookup argument.name := by
  unfold Argument.given?
  cases found : given.lookup argument.name with
  | none => cases argument.takes <;> simp [choice?, text?, number?, found]
  | some value =>
    have isValue := (admits.of_lookup distinct among found).cases
    cases takes : argument.takes with
    | nothing => simp_all
    | help | version => simp [takes] at isValue
    | text | path | number =>
      simp only [takes] at isValue
      obtain ⟨_, rfl⟩ := isValue
      simp [text?, number?, found]
    | oneOf texts =>
      simp only [takes] at isValue
      obtain ⟨text, admitted, rfl⟩ := isValue
      simp [choice?, text?, found, admitted]

end Given

/-- A command has the values that are given for it on the command line. -/
def Command.Has (command : Command) (grammar : Grammar) (given : Given) : Prop :=
  ∀ argument ∈ grammar.positionals ++ grammar.options,
    command.value? argument.name = given.lookup argument.name

theorem grammarOf_distinct (name : String) (known : name ∈ mainGrammar.commands) :
    (((grammarOf name).positionals ++ (grammarOf name).options).map Argument.name).Nodup := by
  simp only [mainGrammar, List.mem_cons, List.not_mem_nil, or_false] at known
  rcases known with rfl | rfl | rfl | rfl | rfl | rfl | rfl | rfl | rfl <;> decide

theorem some_getD {α β : Type} {f : α → β} {given : Option α} (default : α)
    (isGiven : (given.map f).isSome = true) : some (f (given.getD default)) = given.map f := by
  cases given with
  | none => cases isGiven
  | some a => rfl

/-- A command has for each argument what is read back of it, once the positional ones are there. -/
theorem value?_commandOf {name : String} (known : name ∈ mainGrammar.commands) {given : Given}
    {argument : Argument}
    (among : argument ∈ (grammarOf name).positionals ++ (grammarOf name).options)
    (complete : argument ∈ (grammarOf name).positionals → (argument.given? given).isSome = true) :
    (commandOf name given).value? argument.name = argument.given? given := by
  simp only [mainGrammar] at known
  rcases List.mem_append.mp among with positional | option
  · have isGiven := complete positional
    fin_cases known <;> fin_cases positional
    all_goals first
      | exact some_getD "" isGiven
      | exact some_getD 0 isGiven
  · fin_cases known <;> fin_cases option <;> rfl

/-- The arguments that a command puts together are fit for the tool that it runs: they come to the
    query with the options of the command, and the defaults for those left out; only a document
    that is named by blanks is refused. And the options of a command are those that are given on the
    command line, choices by their names. -/
theorem command_agrees (catalogue : Catalogue)
    (absolute : Path.isAbsolute catalogue.root = true) :
    (∀ command : Command,
      (∀ uri, (command.query catalogue.defaults uri).tool = command.tool) ∧
      match command.uri? with
      | none => catalogue.prepare command.tool command.arguments =
          .ok (command.query catalogue.defaults "")
      | some raw =>
        if Text.isBlankText raw then
          catalogue.prepare command.tool command.arguments = .error (.badUri raw)
        else
          ∃ uri, documentUri? raw catalogue.root = some uri ∧
            catalogue.prepare command.tool command.arguments =
              .ok (command.query catalogue.defaults uri)) ∧
    ∀ name ∈ mainGrammar.commands, name ≠ "help" → ∀ given, (grammarOf name).Admits given →
      (commandOf name given).Has (grammarOf name) given := by
  constructor
  · intro command
    refine ⟨command.tool_query catalogue.defaults, ?_⟩
    cases about : command.uri? with
    | none => exact Command.prepare_of_uri_none about
    | some raw =>
      dsimp only
      rw [Command.prepare_of_uri_some about, Catalogue.resolveUri]
      have named : documentUri? raw catalogue.root = none ↔ Text.isBlankText raw = true :=
        documentUri?_eq_none_iff absolute
      cases resolved : documentUri? raw catalogue.root with
      | none => simp [named.mp resolved, Except.map]
      | some uri =>
        have notBlank : Text.isBlankText raw = false := by
          rw [Bool.eq_false_iff, Ne, ← named, resolved]
          exact Option.some_ne_none uri
        simp [notBlank, Except.map]
  · intro name known _ given admits argument among
    have distinct := grammarOf_distinct name known
    have isGiven := admits.given?_eq_lookup distinct among
    rw [← isGiven]
    refine value?_commandOf known among fun positional => ?_
    obtain ⟨value, found⟩ := admits.complete argument positional
    rw [isGiven, found]
    rfl

theorem command_agrees_calls :
    ∃ uri, documentUri? "src/a.rs" "/work".toList = some uri ∧
      (Catalogue.ofRoot "/work".toList .builtIn).prepare .callGraph
          (Command.calls "src/a.rs" 4 none (some 2) none).arguments =
        .ok (.callGraph ⟨uri, ⟨4, 0⟩, 2, .both, false⟩) := by
  have agrees := (command_agrees (Catalogue.ofRoot "/work".toList .builtIn) (by decide)).1
    (.calls "src/a.rs" 4 none (some 2) none)
  have named : ¬ Text.isBlankText "src/a.rs" = true := by decide
  have prepared := agrees.2
  dsimp only [Command.uri?] at prepared
  rw [if_neg named] at prepared
  exact prepared

end CodeGateway.CommandLine
