import CodeGateway.Proofs.ToolArguments
import CodeGateway.Proofs.Utf8
import CodeGateway.Settings.Basic

namespace CodeGateway

open Decode Json

namespace Settings

inductive Table where
  | server
  | defaults
  | log

inductive Key where
  | command
  | arguments
  | depth
  | includeExternal
  | dependencyDirection
  | callDirection
  | character
  | intent
  | maxTokens
  | changeType
  | testsLine
  | filter

def Table.name : Table → String
  | server => "server"
  | defaults => "defaults"
  | log => "log"

theorem Table.forall_iff {P : Table → Prop} :
    (∀ table, P table) ↔ P server ∧ P defaults ∧ P log := by
  constructor
  · intro all
    exact ⟨all _, all _, all _⟩
  · rintro ⟨_, _, _⟩ table
    cases table <;> assumption

def tableNames : List String := ["server", "defaults", "log"]

def Table.keyNames : Table → List String
  | server => ["command", "args"]
  | defaults => ["depth", "include_external", "dependency_direction", "call_direction", "character",
      "intent", "max_tokens", "change_type", "tests_line"]
  | log => ["filter"]

namespace Key

def table : Key → Table
  | command | arguments => .server
  | filter => .log
  | _ => .defaults

def name : Key → String
  | command => "command"
  | arguments => "args"
  | depth => "depth"
  | includeExternal => "include_external"
  | dependencyDirection => "dependency_direction"
  | callDirection => "call_direction"
  | character => "character"
  | intent => "intent"
  | maxTokens => "max_tokens"
  | changeType => "change_type"
  | testsLine => "tests_line"
  | filter => "filter"

abbrev Value : Key → Type
  | command => String
  | arguments => List String
  | depth => UInt32
  | includeExternal => Bool
  | dependencyDirection => DependencyDirection
  | callDirection => CallDirection
  | character => UInt32
  | intent => Intent
  | maxTokens => UInt32
  | changeType => ChangeType
  | testsLine => UInt32
  | filter => String

def get (settings : Settings) : (key : Key) → key.Value
  | command => settings.server.command
  | arguments => settings.server.arguments
  | depth => settings.defaults.depth
  | includeExternal => settings.defaults.includeExternal
  | dependencyDirection => settings.defaults.dependencyDirection
  | callDirection => settings.defaults.callDirection
  | character => settings.defaults.character
  | intent => settings.defaults.intent
  | maxTokens => settings.defaults.maxTokens
  | changeType => settings.defaults.changeType
  | testsLine => settings.defaults.testsLine
  | filter => settings.logFilter

/-- What a file has to say for a key to have a value. -/
def Spells : (key : Key) → Json → key.Value → Prop
  | command => IsText
  | arguments => fun json texts => json = .ofList .string texts
  | depth => IsNumber
  | includeExternal => IsFlag
  | dependencyDirection => IsChoice DependencyDirection.name
  | callDirection => IsChoice CallDirection.name
  | character => IsNumber
  | intent => IsChoice Intent.name
  | maxTokens => IsNumber
  | changeType => IsChoice ChangeType.name
  | testsLine => IsNumber
  | filter => IsText

theorem forall_iff {P : Key → Prop} : (∀ key, P key) ↔
    (P command ∧ P arguments) ∧ (P depth ∧ P includeExternal ∧ P dependencyDirection ∧
      P callDirection ∧ P character ∧ P intent ∧ P maxTokens ∧ P changeType ∧ P testsLine) ∧
        P filter := by
  constructor
  · intro all
    exact ⟨⟨all _, all _⟩, ⟨all _, all _, all _, all _, all _, all _, all _, all _, all _⟩, all _⟩
  · rintro ⟨⟨_, _⟩, ⟨_, _, _, _, _, _, _, _, _⟩, _⟩ key
    cases key <;> assumption

end Key

/-- The members of a table, of which there are none where there is no table. -/
def membersIn (names : List String) (given : Option Json) : List (String × Json) :=
  (given.bind (membersOf names 0)).getD []

def given (json : Json) (key : Key) : Option Json :=
  lookup key.name
    (membersIn key.table.keyNames (lookup key.table.name (membersIn tableNames (some json))))

/-- A table, or an array in place of one, that gives none of these names twice. -/
def IsTable (names : List String) (json : Json) : Prop :=
  ∃ members, json.membersOf names 0 = some members ∧
    ∀ name ∈ names, (members.map Prod.fst).count name ≤ 1

/-- Tables where tables are due, and for each key that is given a value of its kind. -/
structure Fits (json : Json) : Prop where
  whole : IsTable tableNames json
  tables : ∀ table value,
    lookup (Table.name table) (membersIn tableNames (some json)) = some value →
      IsTable table.keyNames value
  values : ∀ key value, given json key = some value → ∃ a, key.Spells value a

/-- The value that is given, or the default where none is. -/
def ValueOr {α : Type} (spells : Json → α → Prop) (default : α) : Option Json → α → Prop
  | some json, a => spells json a
  | none, a => a = default

/-- Each key has the value that the file gives, or the built-in one. -/
def Takes (json : Json) (settings : Settings) : Prop :=
  ∀ key, ValueOr key.Spells (key.get builtIn) (given json key) (key.get settings)

section Tables

variable {α : Type} {names : List String} {record : Record α} {label : String} {json : Json} {a : α}

theorem defaulted_eq_ok_iff {name : String} {item : Json → Except Error α}
    {spells : Json → α → Prop} (exact : ∀ {json a}, item json = .ok a ↔ spells json a) {default : α}
    {members : List (String × Json)} :
    (defaulted name item default).ofObject members = .ok a ↔
      ValueOr spells default (lookup name members) a := by
  rw [Member.ofObject_eq_ok_iff]
  unfold defaulted
  dsimp only
  cases lookup name members with
  | none => simp [ValueOr, eq_comm]
  | some json => exact exact

theorem onceEach_eq_ok_iff {decode : Json → Except Error α} :
    onceEach names decode json = .ok a ↔
      (∀ name ∈ names, repeats [name] json = false) ∧ decode json = .ok a := by
  unfold onceEach
  split
  · rename_i name found
    have among := List.mem_of_find?_eq_some found
    have twice := List.find?_some found
    simp only [reduceCtorEq, false_iff, not_and]
    intro once
    rw [once name among] at twice
    cases twice
  · rename_i none
    have once : ∀ name ∈ names, repeats [name] json = false := by
      simpa using none
    exact (and_iff_right once).symm

theorem repeats_iff (distinct : names.Nodup) {members : List (String × Json)}
    (isMembers : json.membersOf names 0 = some members) :
    (∀ name ∈ names, repeats [name] json = false) ↔
      ∀ name ∈ names, (members.map Prod.fst).count name ≤ 1 := by
  cases json with
  | object others =>
    obtain rfl := Option.some.inj isMembers
    simp [repeats]
  | array items =>
    simp only [membersOf, Option.ite_none_right_eq_some, Option.some.injEq] at isMembers
    obtain ⟨-, rfl⟩ := isMembers
    refine iff_of_true (fun _ _ => rfl) fun name _ => ?_
    have fewer : ((names.zip items).map Prod.fst).Sublist names := by
      rw [List.zip_eq_zip_take_min, List.map_fst_zip (by simp)]
      exact List.take_sublist _ _
    exact Nat.le_trans (fewer.count_le name) (List.nodup_iff_count.mp distinct name)
  | _ => cases isMembers

theorem onceEach_decode_iff (named : record.Named names 0) (distinct : names.Nodup) :
    onceEach names (Record.decode label record) json = .ok a ↔
      IsTable names json ∧ record.ofObject (membersIn names (some json)) = .ok a := by
  rw [onceEach_eq_ok_iff, named.decode_eq_ok_iff]
  unfold IsTable membersIn
  cases isMembers : json.membersOf names 0 with
  | none => simp
  | some members => simp [repeats_iff distinct isMembers, isMembers]

theorem valueOr_table_iff (named : record.Named names 0) (distinct : names.Nodup) {default : α}
    (empty : record.ofObject [] = .ok default) {given : Option Json} :
    ValueOr (fun json a => onceEach names (Record.decode label record) json = .ok a) default given
        a ↔
      (∀ json, given = some json → IsTable names json) ∧
        record.ofObject (membersIn names given) = .ok a := by
  cases given with
  | none => simp [ValueOr, membersIn, empty, eq_comm]
  | some json => simp [ValueOr, onceEach_decode_iff named distinct]

theorem ofObject_eq_ok_iff_exists {members : List (String × Json)} :
    record.ofObject members = .ok a ↔ ∃ b, record.ofObject members = .ok b ∧ b = a := by
  simp

end Tables

theorem list_string_eq_ok_iff {json : Json} {texts : List String} :
    list string json = .ok texts ↔ json = .ofList .string texts := by
  cases json with
  | array items =>
    simp only [list, items_eq_ok_iff, string_eq_ok_iff, IsText, ofList, Json.array.injEq]
    rw [← List.forall₂_eq_eq_eq, List.forall₂_map_right_iff]
  | _ => simp [list, ofList]

def IsSet (table : Option Json) (settings : Settings) (key : Key) : Prop :=
  ValueOr key.Spells (key.get builtIn) (lookup key.name (membersIn key.table.keyNames table))
    (key.get settings)

section Parts

variable {table : Option Json} {settings : Settings}

theorem isSet_server_iff :
    ValueOr (fun json server => decodeServer json = .ok server) builtIn.server table
        settings.server ↔
      (∀ json, table = some json → IsTable Table.server.keyNames json) ∧
        IsSet table settings .command ∧ IsSet table settings .arguments := by
  have named := (Record.Named.of ServerSettings.mk)
    |>.takeDefaulted (defaulted "command" string builtIn.server.command) (by decide) rfl
    |>.takeDefaulted (defaulted "args" (list string) builtIn.server.arguments) (by decide) rfl
  refine (valueOr_table_iff named (by decide) rfl).trans (and_congr_right fun _ => ?_)
  obtain ⟨⟨command, arguments⟩, defaults, logFilter⟩ := settings
  rw [ofObject_eq_ok_iff_exists]
  simp only [Record.exists_ofObject_take, Record.exists_ofObject_of,
    defaulted_eq_ok_iff string_eq_ok_iff, defaulted_eq_ok_iff list_string_eq_ok_iff,
    ServerSettings.mk.injEq]
  constructor
  · rintro ⟨_, first, _, second, rfl, rfl⟩
    exact ⟨first, second⟩
  · rintro ⟨first, second⟩
    exact ⟨_, first, _, second, rfl, rfl⟩

theorem isSet_defaults_iff :
    ValueOr (fun json defaults => decodeDefaults json = .ok defaults) builtIn.defaults table
        settings.defaults ↔
      (∀ json, table = some json → IsTable Table.defaults.keyNames json) ∧
        IsSet table settings .depth ∧ IsSet table settings .includeExternal ∧
          IsSet table settings .dependencyDirection ∧ IsSet table settings .callDirection ∧
          IsSet table settings .character ∧ IsSet table settings .intent ∧
          IsSet table settings .maxTokens ∧ IsSet table settings .changeType ∧
          IsSet table settings .testsLine := by
  have named := (Record.Named.of QueryDefaults.mk)
    |>.takeDefaulted (defaulted "depth" uint32 builtIn.defaults.depth) (by decide) rfl
    |>.takeDefaulted (defaulted "include_external" bool builtIn.defaults.includeExternal)
      (by decide) rfl
    |>.takeDefaulted (defaulted "dependency_direction" DependencyDirection.choice.decode
      builtIn.defaults.dependencyDirection) (by decide) rfl
    |>.takeDefaulted (defaulted "call_direction" CallDirection.choice.decode
      builtIn.defaults.callDirection) (by decide) rfl
    |>.takeDefaulted (defaulted "character" uint32 builtIn.defaults.character) (by decide) rfl
    |>.takeDefaulted (defaulted "intent" Intent.choice.decode builtIn.defaults.intent)
      (by decide) rfl
    |>.takeDefaulted (defaulted "max_tokens" uint32 builtIn.defaults.maxTokens) (by decide) rfl
    |>.takeDefaulted (defaulted "change_type" ChangeType.choice.decode builtIn.defaults.changeType)
      (by decide) rfl
    |>.takeDefaulted (defaulted "tests_line" uint32 builtIn.defaults.testsLine) (by decide) rfl
  refine (valueOr_table_iff named (by decide) rfl).trans (and_congr_right fun _ => ?_)
  obtain ⟨server, ⟨depth, includeExternal, dependencyDirection, callDirection, character, intent,
    maxTokens, changeType, testsLine⟩, logFilter⟩ := settings
  rw [ofObject_eq_ok_iff_exists]
  simp only [Record.exists_ofObject_take, Record.exists_ofObject_of,
    defaulted_eq_ok_iff uint32_eq_ok_iff, defaulted_eq_ok_iff bool_eq_ok_iff,
    defaulted_eq_ok_iff DependencyDirection.decode_eq_ok_iff,
    defaulted_eq_ok_iff CallDirection.decode_eq_ok_iff, defaulted_eq_ok_iff Intent.decode_eq_ok_iff,
    defaulted_eq_ok_iff ChangeType.decode_eq_ok_iff, QueryDefaults.mk.injEq]
  constructor
  · rintro ⟨_, isDepth, _, isExternal, _, isDependency, _, isCall, _, isCharacter, _, isIntent, _,
      isTokens, _, isChange, _, isLine, rfl, rfl, rfl, rfl, rfl, rfl, rfl, rfl, rfl⟩
    exact ⟨isDepth, isExternal, isDependency, isCall, isCharacter, isIntent, isTokens, isChange,
      isLine⟩
  · rintro ⟨isDepth, isExternal, isDependency, isCall, isCharacter, isIntent, isTokens, isChange,
      isLine⟩
    exact ⟨_, isDepth, _, isExternal, _, isDependency, _, isCall, _, isCharacter, _, isIntent, _,
      isTokens, _, isChange, _, isLine, rfl, rfl, rfl, rfl, rfl, rfl, rfl, rfl, rfl⟩

theorem isSet_log_iff :
    ValueOr (fun json filter => decodeLog json = .ok filter) builtIn.logFilter table
        settings.logFilter ↔
      (∀ json, table = some json → IsTable Table.log.keyNames json) ∧
        IsSet table settings .filter := by
  have named := (Record.Named.of id)
    |>.takeDefaulted (defaulted "filter" string builtIn.logFilter) (by decide) rfl
  refine (valueOr_table_iff named (by decide) rfl).trans (and_congr_right fun _ => ?_)
  rw [ofObject_eq_ok_iff_exists]
  simp only [Record.exists_ofObject_take, Record.exists_ofObject_of,
    defaulted_eq_ok_iff string_eq_ok_iff]
  constructor
  · rintro ⟨_, first, rfl⟩
    exact first
  · intro first
    exact ⟨_, first, rfl⟩

end Parts

theorem decode_eq_ok_iff {json : Json} {settings : Settings} :
    decode json = .ok settings ↔
      IsTable tableNames json ∧
        (∀ table value, lookup (Table.name table) (membersIn tableNames (some json)) = some value →
          IsTable table.keyNames value) ∧
        Takes json settings := by
  have named := (Record.Named.of Settings.mk)
    |>.takeDefaulted (defaulted "server" decodeServer builtIn.server) (by decide) rfl
    |>.takeDefaulted (defaulted "defaults" decodeDefaults builtIn.defaults) (by decide) rfl
    |>.takeDefaulted (defaulted "log" decodeLog builtIn.logFilter) (by decide) rfl
  refine (onceEach_decode_iff named (by decide)).trans (and_congr_right fun _ => ?_)
  rw [ofObject_eq_ok_iff_exists]
  simp only [Record.exists_ofObject_take, Record.exists_ofObject_of, defaulted_eq_ok_iff Iff.rfl]
  let table (name : String) := lookup name (membersIn tableNames (some json))
  have each : Takes json settings ↔ ∀ key, IsSet (table (Key.table key).name) settings key :=
    Iff.rfl
  rw [each, Key.forall_iff, Table.forall_iff]
  have server := @isSet_server_iff (table "server") settings
  have defaults := @isSet_defaults_iff (table "defaults") settings
  have log := @isSet_log_iff (table "log") settings
  constructor
  · rintro ⟨_, isServer, _, isDefaults, _, isLog, rfl⟩
    obtain ⟨serverTable, serverKeys⟩ := server.mp isServer
    obtain ⟨defaultsTable, defaultsKeys⟩ := defaults.mp isDefaults
    obtain ⟨logTable, logKeys⟩ := log.mp isLog
    exact ⟨⟨serverTable, defaultsTable, logTable⟩, serverKeys, defaultsKeys, logKeys⟩
  · rintro ⟨⟨serverTable, defaultsTable, logTable⟩, serverKeys, defaultsKeys, logKeys⟩
    exact ⟨_, server.mpr ⟨serverTable, serverKeys⟩, _, defaults.mpr ⟨defaultsTable, defaultsKeys⟩,
      _, log.mpr ⟨logTable, logKeys⟩, rfl⟩

def ofValues (values : (key : Key) → key.Value) : Settings where
  server := ⟨values .command, values .arguments⟩
  defaults := ⟨values .depth, values .includeExternal, values .dependencyDirection,
    values .callDirection, values .character, values .intent, values .maxTokens, values .changeType,
    values .testsLine⟩
  logFilter := values .filter

theorem get_ofValues (values : (key : Key) → key.Value) (key : Key) :
    key.get (ofValues values) = values key := by
  cases key <;> rfl

theorem Fits.exists_takes {json : Json} (fits : Fits json) : ∃ settings, Takes json settings := by
  have each (key : Key) : ∃ a, ValueOr key.Spells (key.get builtIn) (given json key) a := by
    cases value : given json key with
    | none => exact ⟨_, rfl⟩
    | some value' => exact fits.values key value' value
  choose values takes using each
  refine ⟨ofValues values, fun key => ?_⟩
  rw [get_ofValues]
  exact takes key

theorem Takes.values {json : Json} {settings : Settings} (takes : Takes json settings) (key : Key)
    (value : Json) (isGiven : given json key = some value) : ∃ a, key.Spells value a := by
  have taken := takes key
  rw [isGiven] at taken
  exact ⟨_, taken⟩

theorem decode_eq_ok_iff_fits {json : Json} {settings : Settings} :
    decode json = .ok settings ↔ Fits json ∧ Takes json settings := by
  rw [decode_eq_ok_iff]
  constructor
  · rintro ⟨whole, tables, takes⟩
    exact ⟨⟨whole, tables, takes.values⟩, takes⟩
  · rintro ⟨fits, takes⟩
    exact ⟨fits.whole, fits.tables, takes⟩

/-- The settings that a file comes to. Its text is taken as a whole: any fault in it, and it is as
    if there were no file. -/
inductive ComesTo : FileState → Settings → Prop
  | missing : ComesTo .missing builtIn
  | unreadable (reason : String) : ComesTo (.unreadable reason) builtIn
  | noText {content : List UInt8} (none : ∀ text, content ≠ Utf8.bytes text) :
    ComesTo (.bytes content) builtIn
  | noToml {text : String} (none : Toml.parse text = none) :
    ComesTo (.bytes (Utf8.bytes text)) builtIn
  | misfit {text : String} {table : Json} (parsed : Toml.parse text = some table)
      (faulty : ¬ Fits table) : ComesTo (.bytes (Utf8.bytes text)) builtIn
  | whole {text : String} {table : Json} {settings : Settings}
      (parsed : Toml.parse text = some table) (fits : Fits table) (takes : Takes table settings) :
    ComesTo (.bytes (Utf8.bytes text)) settings

theorem text_eq_ok_iff {content : List UInt8} {text : String} :
    Utf8.text content = .ok text ↔ content = Utf8.bytes text := by
  unfold Utf8.text Utf8.bytes
  rw [map_eq_ok_iff]
  simp only [Utf8.decode_eq_ok_iff]
  constructor
  · rintro ⟨_, rfl, rfl⟩
    rw [String.toList_ofList]
  · rintro rfl
    exact ⟨_, rfl, String.ofList_toList⟩

theorem parse_eq_some_iff {text : String} {settings : Settings} :
    parse text = some settings ↔
      ∃ table, Toml.parse text = some table ∧ Fits table ∧ Takes table settings := by
  unfold parse
  rw [Option.bind_eq_some_iff]
  refine exists_congr fun table => and_congr_right fun _ => ?_
  rw [← decode_eq_ok_iff_fits]
  cases decode table <;> simp [Except.toOption]

theorem parse_eq_none_of_misfit {text : String} {table : Json}
    (parsed : Toml.parse text = some table) (faulty : ¬ Fits table) : parse text = none := by
  rw [Option.eq_none_iff_forall_ne_some]
  intro settings whole
  obtain ⟨other, parsed', fits, -⟩ := parse_eq_some_iff.mp whole
  obtain rfl := Option.some.inj (parsed.symm.trans parsed')
  exact faulty fits

theorem load_text (text : String) :
    load (.bytes (Utf8.bytes text)) none = (parse text).getD builtIn := by
  have read : Utf8.text (Utf8.bytes text) = .ok text := text_eq_ok_iff.mpr rfl
  simp only [load, tryLoad, read]
  cases parse text <;> rfl

theorem load_noText {content : List UInt8} (none : ∀ text, content ≠ Utf8.bytes text) :
    load (.bytes content) .none = builtIn := by
  cases read : Utf8.text content with
  | ok text => exact absurd (text_eq_ok_iff.mp read) (none text)
  | error invalid =>
    simp only [load, tryLoad, read]
    rfl

/-- What is in use when no command comes from outside. -/
theorem comesTo_iff {file : FileState} {settings : Settings} :
    ComesTo file settings ↔ load file none = settings := by
  constructor
  · intro comes
    cases comes with
    | missing => rfl
    | unreadable reason => rfl
    | noText none => exact load_noText none
    | noToml none =>
      rw [load_text, parse, none]
      rfl
    | misfit parsed faulty =>
      rw [load_text, parse_eq_none_of_misfit parsed faulty]
      rfl
    | whole parsed fits takes =>
      rw [load_text, parse_eq_some_iff.mpr ⟨_, parsed, fits, takes⟩]
      rfl
  · rintro rfl
    cases file with
    | missing => exact .missing
    | unreadable reason => exact .unreadable reason
    | bytes content =>
      by_cases isText : ∃ text, content = Utf8.bytes text
      · obtain ⟨text, rfl⟩ := isText
        rw [load_text]
        cases parsed : Toml.parse text with
        | none =>
          rw [parse, parsed]
          exact .noToml parsed
        | some table =>
          by_cases fits : Fits table
          · obtain ⟨settings, takes⟩ := fits.exists_takes
            rw [parse_eq_some_iff.mpr ⟨table, parsed, fits, takes⟩]
            exact .whole parsed fits takes
          · rw [parse_eq_none_of_misfit parsed fits]
            exact .misfit parsed fits
      · rw [not_exists] at isText
        rw [load_noText isText]
        exact .noText isText

theorem override_of_blank {settings : Settings} {command : Option String}
    (blank : ∀ text, command = some text → Text.isBlankText text = true) :
    settings.override command = settings := by
  cases command with
  | none => rfl
  | some text => simp [override, Option.filter, blank text rfl]

theorem override_of_not_blank {settings : Settings} {text : String}
    (notBlank : Text.isBlankText text = false) :
    settings.override (some text) = { settings with server.command := text } := by
  simp [override, Option.filter, notBlank]

/-- Whatever there is in place of the file, it comes to one choice of settings: to the values of its
    keys and the built-in ones of the others when it can be taken as a whole, and to the built-in
    ones throughout when it cannot. Those are in use, but that the command of the server is the one
    from outside if there is any that is not blank. -/
theorem load_whole_or_built_in (file : FileState) :
    ∃ settings, ComesTo file settings ∧ (∀ other, ComesTo file other → other = settings) ∧
      ∀ command : Option String,
        ((∀ text, command = some text → Text.isBlankText text = true) →
          load file command = settings) ∧
        ∀ text, command = some text → Text.isBlankText text = false →
          load file command = { settings with server.command := text } := by
  refine ⟨load file none, comesTo_iff.mpr rfl, fun other comes => (comesTo_iff.mp comes).symm, ?_⟩
  intro command
  constructor
  · intro blank
    exact override_of_blank blank
  · rintro text rfl notBlank
    exact override_of_not_blank notBlank

/-- One bad value in a file is enough for all of it. -/
theorem load_with_and_without_fault :
    let sound := FileState.bytes (Utf8.bytes
      "[server]\ncommand = \"own\"\nport = 1\n[defaults]\ndepth = 5\n[more]\n")
    let faulty := FileState.bytes (Utf8.bytes
      "[server]\ncommand = \"own\"\n[defaults]\ndepth = \"deep\"\n")
    (∀ settings, ComesTo sound settings ↔
        settings = { builtIn with server.command := "own", defaults.depth := 5 }) ∧
      (∀ settings, ComesTo faulty settings ↔ settings = builtIn) ∧
      load faulty (some " other") = { builtIn with server.command := " other" } := by
  intro sound faulty
  obtain ⟨settings, comes, only, commands⟩ := load_whole_or_built_in sound
  obtain ⟨settings', comes', only', commands'⟩ := load_whole_or_built_in faulty
  have loaded : load sound none = settings := (commands none).1 nofun
  have loaded' : load faulty none = settings' := (commands' none).1 nofun
  obtain rfl : { builtIn with server.command := "own", defaults.depth := 5 } = settings := by
    rw [← loaded]
    decide +kernel
  obtain rfl : builtIn = settings' := by
    rw [← loaded']
    decide +kernel
  refine ⟨fun other => ⟨only other, ?_⟩, fun other => ⟨only' other, ?_⟩, ?_⟩
  · rintro rfl
    exact comes
  · rintro rfl
    exact comes'
  · exact (commands' (some " other")).2 _ rfl (by decide)

end Settings

end CodeGateway
