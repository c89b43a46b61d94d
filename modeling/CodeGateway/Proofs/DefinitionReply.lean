import CodeGateway.Proofs.HoverText
import CodeGateway.Proofs.ReplyRoundTrip

namespace CodeGateway

open Decode Json

/-- The object is a location: a URL in any spelling, and a range. The document goes by the name that
    the URL is printed as. -/
inductive Locates : Json → Location → Prop
  | mk {members : List (String × Json)} {text : String} {url : Url} {place : Json} {range : Range}
      (named : lookup "uri" members = some (.string text)) (isUrl : Url.parse text = .ok url)
      (placed : lookup "range" members = some place) (isRange : Range.decode place = .ok range) :
    Locates (.object members) ⟨url.toString, range⟩

/-- The object is a link to a location, with any range around the target and with or without a range
    that it starts from. It is not a location itself. -/
inductive LinksTo : Json → Location → Prop
  | mk {members : List (String × Json)} {text : String} {url : Url} {place around : Json}
      {range whole : Range} (named : lookup "targetUri" members = some (.string text))
      (isUrl : Url.parse text = .ok url)
      (placed : lookup "targetSelectionRange" members = some place)
      (isRange : Range.decode place = .ok range)
      (within : lookup "targetRange" members = some around)
      (isWhole : Range.decode around = .ok whole)
      (started : ∀ json, lookup "originSelectionRange" members = some json → json ≠ .null →
        ∃ origin, Range.decode json = .ok origin)
      (noLocation : lookup "uri" members = none ∨ lookup "range" members = none) :
    LinksTo (.object members) ⟨url.toString, range⟩

/-- The reply gives these locations, in one of the three shapes. -/
inductive Defines : Json → List Location → Prop
  | one {json : Json} {location : Location} (locates : Locates json location) :
    Defines json [location]
  | many {jsons : List Json} {locations : List Location}
      (located : List.Forall₂ Locates jsons locations) : Defines (.array jsons) locations
  | links {jsons : List Json} {locations : List Location}
      (linked : List.Forall₂ LinksTo jsons locations) : Defines (.array jsons) locations

theorem isObject_of_forall₂ {R : Json → Location → Prop}
    (isObject : ∀ json location, R json location → json.isObject = true) {jsons : List Json}
    {locations : List Location} (all : List.Forall₂ R jsons locations) :
    ∀ json ∈ jsons, json.isObject = true := by
  induction all with
  | nil => nofun
  | cons holds _ ih => exact List.forall_mem_cons.mpr ⟨isObject _ _ holds, ih⟩

theorem decodeUrl_eq_ok_iff {json : Json} {uri : String} :
    decodeUrl json = .ok uri ↔
      ∃ text url, json = .string text ∧ Url.parse text = .ok url ∧ url.toString = uri := by
  cases json with
  | string text =>
    unfold decodeUrl
    dsimp only
    cases parsed : Url.parse text <;> simp [parsed]
  | _ => simp [decodeUrl]

namespace Location

theorem decodeWithUrl_eq_ok_iff {json : Json} {location : Location} :
    decodeWithUrl json = .ok location ↔
      ∃ members, json.membersOf ["uri", "range"] 2 = some members ∧
        (∃ given, lookup "uri" members = some given ∧ decodeUrl given = .ok location.uri) ∧
        ∃ place, lookup "range" members = some place ∧
          Range.decode place = .ok location.range := by
  have named := (Record.Named.of Location.mk).takeNeeded
    (required "uri" decodeUrl) (by decide) rfl |>.takeNeeded
    (required "range" Range.decode) (by decide) rfl
  rw [decodeWithUrl, named.decode_eq_ok_iff]
  apply exists_congr
  intro members
  simp only [Record.ofObject_take, required_eq_ok_iff, Record.of, Except.ok.injEq]
  constructor
  · rintro ⟨given, _, range, ⟨_, uri, rfl, isUri, rfl⟩, isRange, rfl⟩
    exact ⟨given, isUri, isRange⟩
  · rintro ⟨given, isUri, isRange⟩
    exact ⟨given, _, location.range, ⟨_, location.uri, rfl, isUri, rfl⟩, isRange, rfl⟩

theorem decodeWithUrl_of_locates {json : Json} {location : Location}
    (locates : Locates json location) : decodeWithUrl json = .ok location := by
  obtain ⟨named, isUrl, placed, isRange⟩ := locates
  exact decodeWithUrl_eq_ok_iff.mpr ⟨_, rfl,
    ⟨_, named, decodeUrl_eq_ok_iff.mpr ⟨_, _, rfl, isUrl, rfl⟩⟩, _, placed, isRange⟩

theorem decodeWithUrl_ne_ok_of_linksTo {json : Json} {target location : Location}
    (links : LinksTo json target) : decodeWithUrl json ≠ .ok location := by
  obtain ⟨-, -, -, -, -, -, -, noLocation⟩ := links
  intro read
  obtain ⟨members, given, ⟨_, named, -⟩, _, placed, -⟩ := decodeWithUrl_eq_ok_iff.mp read
  cases given
  rcases noLocation with none | none
  · rw [none] at named
    cases named
  · rw [none] at placed
    cases placed

theorem decodeWithUrl_array_ne_ok {jsons : List Json} {location : Location}
    (objects : ∀ json ∈ jsons, json.isObject = true) :
    decodeWithUrl (.array jsons) ≠ .ok location := by
  intro read
  obtain ⟨members, given, ⟨first, named, isUri⟩, -⟩ := decodeWithUrl_eq_ok_iff.mp read
  obtain ⟨text, url, rfl, -⟩ := decodeUrl_eq_ok_iff.mp isUri
  simp only [membersOf, Option.ite_none_right_eq_some, Option.some.injEq] at given
  obtain ⟨-, rfl⟩ := given
  cases jsons with
  | nil => cases named
  | cons json rest =>
    rw [List.zip_cons_cons, lookup_cons, if_pos rfl, Option.some.injEq] at named
    subst named
    cases objects _ List.mem_cons_self

end Location

namespace LocationLink

theorem decode_of_members {members : List (String × Json)} {link : LocationLink}
    (origin : (optional "originSelectionRange" Range.decode).ofObject members = .ok link.origin)
    (uri : (required "targetUri" decodeUrl).ofObject members = .ok link.targetUri)
    (whole : (required "targetRange" Range.decode).ofObject members = .ok link.targetRange)
    (selection : (required "targetSelectionRange" Range.decode).ofObject members =
      .ok link.targetSelection) : decode (.object members) = .ok link := by
  rw [decode, Record.decode, Record.ofObject_take.mpr
    ⟨_, _, Record.ofObject_take.mpr ⟨_, _, Record.ofObject_take.mpr ⟨_, _,
      Record.ofObject_take.mpr ⟨_, _, rfl, origin, rfl⟩, uri, rfl⟩, whole, rfl⟩, selection, rfl⟩]
  rfl

theorem exists_decode_of_linksTo {json : Json} {target : Location} (links : LinksTo json target) :
    ∃ link, decode json = .ok link ∧
      (⟨link.targetUri, link.targetSelection⟩ : Location) = target := by
  obtain ⟨named, isUrl, placed, isRange, within, isWhole, started, -⟩ := links
  rename_i members text url place around range whole
  obtain ⟨origin, starts⟩ := exists_optional started
  have isUri : decodeUrl (.string text) = .ok url.toString :=
    decodeUrl_eq_ok_iff.mpr ⟨_, _, rfl, isUrl, rfl⟩
  have read : decode (.object members) = .ok ⟨origin, url.toString, whole, range⟩ :=
    decode_of_members starts (required_eq_ok_iff.mpr ⟨_, named, isUri⟩)
      (required_eq_ok_iff.mpr ⟨_, within, isWhole⟩) (required_eq_ok_iff.mpr ⟨_, placed, isRange⟩)
  exact ⟨_, read, rfl⟩

end LocationLink

namespace Definition

theorem decode_many {jsons : List Json} {locations : List Location}
    (located : List.Forall₂ Locates jsons locations) :
    decode (.array jsons) = .ok (.many locations) := by
  have objects := isObject_of_forall₂ (fun json location locates => by cases locates; rfl) located
  have several : list Location.decodeWithUrl (.array jsons) = .ok locations :=
    items_eq_ok_iff.mpr (located.imp fun _ _ => Location.decodeWithUrl_of_locates)
  have single : ∀ b, (Location.decodeWithUrl (.array jsons)).map Definition.one ≠ .ok b := by
    intro b read
    obtain ⟨location, read, -⟩ := map_eq_ok_iff.mp read
    exact Location.decodeWithUrl_array_ne_ok objects read
  rw [decode, firstShape_cons_eq_ok_iff, firstShape_cons_eq_ok_iff, several]
  exact .inr ⟨single, .inl rfl⟩

/-- Links get past the shape of a list of locations, unless there are none; and then both shapes
    give nothing. -/
theorem exists_decode_links {jsons : List Json} {locations : List Location}
    (linked : List.Forall₂ LinksTo jsons locations) :
    ∃ definition, decode (.array jsons) = .ok definition ∧ definition.locations = locations := by
  cases linked with
  | nil => exact ⟨.many [], decode_many .nil, rfl⟩
  | @cons first target rest targets links others =>
    have linked : List.Forall₂ LinksTo (first :: rest) (target :: targets) := .cons links others
    have objects := isObject_of_forall₂ (fun json location links => by cases links; rfl) linked
    obtain ⟨several, read, same⟩ :=
      exists_list_of_forall₂ linked LocationLink.exists_decode_of_linksTo
    have single : ∀ b, (Location.decodeWithUrl (.array (first :: rest))).map Definition.one ≠
        .ok b := by
      intro b read
      obtain ⟨location, read, -⟩ := map_eq_ok_iff.mp read
      exact Location.decodeWithUrl_array_ne_ok objects read
    have many : ∀ b, (list Location.decodeWithUrl (.array (first :: rest))).map Definition.many ≠
        .ok b := by
      intro b read
      obtain ⟨all, read, -⟩ := map_eq_ok_iff.mp read
      obtain ⟨location, -, read, -⟩ := List.forall₂_cons_left_iff.mp (items_eq_ok_iff.mp read)
      exact Location.decodeWithUrl_ne_ok_of_linksTo links read
    refine ⟨.links several, ?_, same⟩
    rw [decode, firstShape_cons_eq_ok_iff, firstShape_cons_eq_ok_iff, firstShape_cons_eq_ok_iff,
      read]
    exact .inr ⟨single, .inr ⟨many, .inl rfl⟩⟩

theorem exists_decode_of_defines {reply : Json} {locations : List Location}
    (defines : Defines reply locations) :
    ∃ definition, decode reply = .ok definition ∧ definition.locations = locations := by
  cases defines with
  | @one json location locates =>
    refine ⟨.one location, ?_, rfl⟩
    rw [decode, firstShape_cons_eq_ok_iff, Location.decodeWithUrl_of_locates locates]
    exact .inl rfl
  | many located => exact ⟨.many locations, decode_many located, rfl⟩
  | links linked => exact exists_decode_links linked

end Definition

namespace Query

theorem symbolReply_of_definition {reply : Json} {definition : Definition}
    (decoded : Definition.decode reply = .ok definition) (given : reply ≠ .null)
    (hover references : Outcome) :
    symbolReply hover (.ok reply) references =
      (symbolReply hover (.ok .null) references).map fun info =>
        { info with definitions := definition.locations } := by
  unfold symbolReply
  rw [reads_iff.mp (.present given decoded), reads_iff.mp .absent]
  cases protocolReply Hover.decode hover with
  | error failure => rfl
  | ok text =>
    cases protocolReply (list Location.decodeWithUrl) references with
    | error failure => rfl
    | ok uses => rfl

end Query

/-- The shapes of a definition reply are interchangeable. Whichever of them gives the locations, the
    definitions of the symbol are these, in this order; the rest of what is known of the symbol, and
    whether it gets known at all, is as it would be without definitions. -/
theorem definition_shapes {reply other : Json} {locations : List Location}
    (defines : Defines reply locations) (same : Defines other locations)
    (hover references : Outcome) :
    Query.symbolReply hover (.ok reply) references =
        Query.symbolReply hover (.ok other) references ∧
      Query.symbolReply hover (.ok reply) references =
        (Query.symbolReply hover (.ok .null) references).map fun info =>
          { info with definitions := locations } := by
  have known {reply : Json} (defines : Defines reply locations) :
      Query.symbolReply hover (.ok reply) references =
        (Query.symbolReply hover (.ok .null) references).map fun info =>
          { info with definitions := locations } := by
    have given : reply ≠ .null := by
      rintro rfl
      nomatch defines
    obtain ⟨definition, decoded, rfl⟩ := Definition.exists_decode_of_defines defines
    exact Query.symbolReply_of_definition decoded given hover references
  exact ⟨(known defines).trans (known same).symm, known defines⟩

/-- A file and a text without one, each in a spelling that the parser does not keep. -/
def respelledLocations : Json :=
  .array [.object [("range", (Range.mk ⟨4, 3⟩ ⟨4, 9⟩).encode),
      ("uri", .string "FILE:///work/src/../a.rs")],
    .object [("range", Range.empty.encode), ("uri", .string "Untitled:b")]]

def respelledLinks : Json :=
  .array [.object [("targetRange", (Range.mk ⟨0, 0⟩ ⟨90, 0⟩).encode),
      ("targetSelectionRange", (Range.mk ⟨4, 3⟩ ⟨4, 9⟩).encode),
      ("targetUri", .string "FILE:///work/src/../a.rs")],
    .object [("originSelectionRange", (Range.mk ⟨7, 1⟩ ⟨7, 2⟩).encode),
      ("targetRange", Range.empty.encode), ("targetSelectionRange", Range.empty.encode),
      ("targetUri", .string "Untitled:b")]]

theorem definition_shapes_respelled :
    Defines respelledLinks
        [⟨"file:///work/a.rs", ⟨4, 3⟩, ⟨4, 9⟩⟩, ⟨"untitled:b", .empty⟩] ∧
      Defines respelledLocations
        [⟨"file:///work/a.rs", ⟨4, 3⟩, ⟨4, 9⟩⟩, ⟨"untitled:b", .empty⟩] ∧
      Query.symbolReply (.ok .null) (.ok respelledLinks) (.ok .null) =
        Query.symbolReply (.ok .null) (.ok respelledLocations) (.ok .null) ∧
      Query.symbolReply (.ok .null) (.ok respelledLinks) (.ok .null) =
        .ok ⟨none, [⟨"file:///work/a.rs", ⟨4, 3⟩, ⟨4, 9⟩⟩, ⟨"untitled:b", .empty⟩], []⟩ := by
  have printed (text uri : String) (same : (Url.parse text).toOption.map Url.toString = some uri) :
      ∃ url, Url.parse text = .ok url ∧ url.toString = uri := by
    cases parsed : Url.parse text with
    | error error =>
      rw [parsed] at same
      cases same
    | ok url =>
      rw [parsed] at same
      exact ⟨url, rfl, Option.some.inj same⟩
  obtain ⟨file, isFile, fileUri⟩ :=
    printed "FILE:///work/src/../a.rs" "file:///work/a.rs" (by decide +kernel)
  obtain ⟨text, isText, textUri⟩ := printed "Untitled:b" "untitled:b" (by decide +kernel)
  have isRange := Range.decode_encode
  rw [← fileUri, ← textUri]
  have links : Defines respelledLinks
      [⟨file.toString, ⟨4, 3⟩, ⟨4, 9⟩⟩, ⟨text.toString, .empty⟩] := by
    refine .links (.cons ?_ (.cons ?_ .nil))
    · exact .mk rfl isFile rfl (isRange _) rfl (isRange _) nofun (.inl rfl)
    · refine .mk rfl isText rfl (isRange _) rfl (isRange _) ?_ (.inl rfl)
      rintro _ ⟨⟩ -
      exact ⟨_, isRange _⟩
  have locations : Defines respelledLocations
      [⟨file.toString, ⟨4, 3⟩, ⟨4, 9⟩⟩, ⟨text.toString, .empty⟩] := by
    refine .many (.cons ?_ (.cons ?_ .nil))
    · exact .mk rfl isFile rfl (isRange _)
    · exact .mk rfl isText rfl (isRange _)
  obtain ⟨alike, known⟩ := definition_shapes links locations (.ok .null) (.ok .null)
  exact ⟨links, locations, alike, known⟩

end CodeGateway
