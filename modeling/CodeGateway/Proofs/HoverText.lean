import CodeGateway.Proofs.SymbolReplies
import CodeGateway.Proofs.ToolArguments
import CodeGateway.Proofs.Trimming

namespace CodeGateway

open Decode Json

section Shapes

variable {α : Type} {name : String} {shape : Json → Except Error α}
  {shapes : List (Json → Except Error α)} {json : Json} {a : α}

theorem firstShape_nil_ne_ok : firstShape name [] json ≠ .ok a := nofun

theorem firstShape_cons_eq_ok_iff :
    firstShape name (shape :: shapes) json = .ok a ↔
      shape json = .ok a ∨
        (∀ b, shape json ≠ .ok b) ∧ firstShape name shapes json = .ok a := by
  unfold firstShape
  rw [List.findSome?_cons]
  cases shape json <;> simp [Except.toOption]

end Shapes

/-- What an item of the documentation says: a text itself, or code between fences that name its
    language. -/
inductive Renders : Json → String → Prop
  | plain (text : String) : Renders (.string text) text
  | code {members : List (String × Json)} {language value : String}
      (named : lookup "language" members = some (.string language))
      (valued : lookup "value" members = some (.string value)) :
    Renders (.object members) s!"```{language}\n{value}\n```"

namespace MarkedText

theorem decode_languageString_iff {json : Json} {item : MarkedText} :
    ((Record.of MarkedText.code).take (required "language" string)
        |>.take (required "value" string)).decode "LanguageString" json = .ok item ↔
      ∃ members language value, json.membersOf ["language", "value"] 2 = some members ∧
        lookup "language" members = some (.string language) ∧
        lookup "value" members = some (.string value) ∧ item = .code language value := by
  have named := (Record.Named.of MarkedText.code).takeNeeded
    (required "language" string) (by decide) rfl |>.takeNeeded
    (required "value" string) (by decide) rfl
  rw [named.decode_eq_ok_iff]
  apply exists_congr
  intro members
  simp only [Record.ofObject_take, required_eq_ok_iff, string_eq_ok_iff, IsText, exists_eq_right,
    Record.of, Except.ok.injEq]
  constructor
  · rintro ⟨given, _, value, ⟨_, language, rfl, speaks, rfl⟩, told, rfl⟩
    exact ⟨language, value, given, speaks, told, rfl⟩
  · rintro ⟨language, value, given, speaks, told, rfl⟩
    exact ⟨given, _, value, ⟨_, language, rfl, speaks, rfl⟩, told, rfl⟩

theorem decode_eq_ok_iff {json : Json} {item : MarkedText} :
    MarkedText.decode json = .ok item ↔
      (∃ text, json = .string text ∧ item = .plain text) ∨
      ∃ members language value, json.membersOf ["language", "value"] 2 = some members ∧
        lookup "language" members = some (.string language) ∧
        lookup "value" members = some (.string value) ∧ item = .code language value := by
  have plain {b : MarkedText} : (string json).map .plain = .ok b ↔
      ∃ text, json = .string text ∧ b = .plain text := by
    simp only [map_eq_ok_iff, string_eq_ok_iff, IsText]
    simp only [eq_comm]
  rw [MarkedText.decode, firstShape_cons_eq_ok_iff, firstShape_cons_eq_ok_iff, plain,
    decode_languageString_iff]
  constructor
  · rintro (text | ⟨-, code | ⟨-, none⟩⟩)
    · exact .inl text
    · exact .inr code
    · exact absurd none firstShape_nil_ne_ok
  · rintro (text | code)
    · exact .inl text
    · refine .inr ⟨?_, .inl code⟩
      obtain ⟨members, language, value, given, -⟩ := code
      intro b read
      obtain ⟨text, rfl, -⟩ := plain.mp read
      cases given

theorem decode_array {jsons : List Json} {item : MarkedText} :
    MarkedText.decode (.array jsons) = .ok item ↔
      ∃ language value, jsons = [.string language, .string value] ∧
        item = .code language value := by
  rw [decode_eq_ok_iff]
  constructor
  · rintro (⟨text, other, -⟩ | ⟨members, language, value, given, speaks, told, rfl⟩)
    · cases other
    · simp only [membersOf, Option.ite_none_right_eq_some, Option.some.injEq] at given
      obtain ⟨⟨least, most⟩, rfl⟩ := given
      have two : jsons.length = 2 := by
        rw [List.length_cons, List.length_singleton] at most
        omega
      obtain ⟨first, second, rfl⟩ := List.length_eq_two.mp two
      cases speaks
      cases told
      exact ⟨language, value, rfl, rfl⟩
  · rintro ⟨language, value, rfl, rfl⟩
    exact .inr ⟨_, language, value, rfl, rfl, rfl, rfl⟩

theorem decode_of_renders {json : Json} {text : String} (renders : Renders json text) :
    ∃ item, MarkedText.decode json = .ok item ∧ item.text = text := by
  cases renders with
  | plain => exact ⟨.plain text, decode_eq_ok_iff.mpr (.inl ⟨text, rfl, rfl⟩), rfl⟩
  | @code members language value speaks told =>
    exact ⟨.code language value,
      decode_eq_ok_iff.mpr (.inr ⟨members, language, value, rfl, speaks, told, rfl⟩), rfl⟩

end MarkedText

theorem HoverContents.decode_list {jsons : List Json} {texts : List String}
    (rendered : List.Forall₂ Renders jsons texts) :
    ∃ contents, HoverContents.decode (.array jsons) = .ok contents ∧
      (∀ language value, jsons = [.string language, .string value] →
        contents.text = s!"```{language}\n{value}\n```") ∧
      ((∀ language value, jsons ≠ [.string language, .string value]) →
        contents.text = "\n\n".intercalate texts) := by
  rw [HoverContents.decode]
  -- The shape that is tried before that of a list takes no list but a pair of texts.
  by_cases pair : ∃ language value, jsons = [.string language, .string value]
  · obtain ⟨language, value, rfl⟩ := pair
    refine ⟨.one (.code language value), ?_, ?_, ?_⟩
    · have read := MarkedText.decode_array.mpr ⟨language, value, rfl, rfl⟩
      rw [firstShape_cons_eq_ok_iff, read]
      exact .inl rfl
    · rintro _ _ ⟨⟩
      rfl
    · intro other
      exact absurd rfl (other language value)
  · obtain ⟨all, read, rfl⟩ := exists_list_of_forall₂ rendered MarkedText.decode_of_renders
    refine ⟨.many all, ?_, ?_, ?_⟩
    · have several : ∀ b, (MarkedText.decode (.array jsons)).map HoverContents.one ≠ .ok b := by
        intro b single
        obtain ⟨item, single, -⟩ := map_eq_ok_iff.mp single
        obtain ⟨language, value, same, -⟩ := MarkedText.decode_array.mp single
        exact pair ⟨language, value, same⟩
      rw [firstShape_cons_eq_ok_iff, firstShape_cons_eq_ok_iff, read]
      exact .inr ⟨several, .inl rfl⟩
    · intro language value same
      exact absurd ⟨language, value, same⟩ pair
    · intro _
      rfl

namespace Hover

theorem text?_eq (hover : Hover) : hover.text? =
    if Text.isBlankText hover.contents.text then none
    else some (Text.trim hover.contents.text) := by
  have blank : (Text.trim hover.contents.text).isEmpty =
      Text.isBlankText hover.contents.text := by
    rw [Bool.eq_iff_iff, Text.isBlankText, ← Text.trimChars_eq_nil_iff, String.isEmpty_iff,
      Text.trim, String.ofList_eq_empty_iff]
  rw [text?, blank]

theorem exists_decode {reply contents : Json} {members : List (String × Json)}
    {read : HoverContents} (isHover : reply.membersOf ["contents", "range"] 2 = some members)
    (given : lookup "contents" members = some contents)
    (decoded : HoverContents.decode contents = .ok read)
    (ranged : ∀ json, lookup "range" members = some json → json ≠ .null →
      ∃ range, Range.decode json = .ok range) :
    ∃ range, Hover.decode reply = .ok ⟨read, range⟩ := by
  have named := (Record.Named.of Hover.mk).takeNeeded
    (required "contents" HoverContents.decode) (by decide) rfl |>.takeNeeded
    (optional "range" Range.decode) (by decide) rfl
  obtain ⟨range, place⟩ := exists_optional ranged
  refine ⟨range, named.decode_eq_ok_iff.mpr ⟨members, isHover, ?_⟩⟩
  have first : (required "contents" HoverContents.decode).ofObject members = .ok read :=
    required_eq_ok_iff.mpr ⟨contents, given, decoded⟩
  simp only [Record.ofObject_take]
  exact ⟨_, range, ⟨_, read, rfl, first, rfl⟩, place, rfl⟩

end Hover

namespace Query

theorem symbolReply_of_hover {reply : Json} {hover : Hover}
    (decoded : Hover.decode reply = .ok hover) (definition references : Outcome) :
    symbolReply (.ok reply) definition references =
      (symbolReply (.ok .null) definition references).map fun info =>
        { info with hover := hover.text? } := by
  have given : reply ≠ .null := by
    rintro rfl
    cases decoded
  unfold symbolReply
  rw [reads_iff.mp (.present given decoded), reads_iff.mp .absent]
  cases protocolReply Definition.decode definition with
  | error failure => rfl
  | ok target =>
    cases protocolReply (list Location.decodeWithUrl) references with
    | error failure => rfl
    | ok uses =>
      have known : SymbolInfo.assemble (some hover) target uses =
          { SymbolInfo.assemble none target uses with hover := hover.text? } := by
        simp only [SymbolInfo.assemble, Option.bind_some]
      exact congrArg Except.ok known

end Query

/-- Documentation that is given as a list is what its items say, with an empty line between any two
    of them, and without the blanks around it; there is none if that leaves nothing. Only a list of
    two texts is taken for something else, for code in the language that the first text names. -/
theorem hover_list {reply : Json} {members : List (String × Json)} {items : List Json}
    {texts : List String} (isHover : reply.membersOf ["contents", "range"] 2 = some members)
    (listed : lookup "contents" members = some (.array items))
    (ranged : ∀ json, lookup "range" members = some json → json ≠ .null →
      ∃ range, Range.decode json = .ok range)
    (rendered : List.Forall₂ Renders items texts) :
    ∃ text, ((∀ first second, items ≠ [.string first, .string second]) →
        text = "\n\n".intercalate texts) ∧
      (∀ first second, items = [.string first, .string second] →
        text = s!"```{first}\n{second}\n```") ∧
      ∀ definition references, Query.symbolReply (.ok reply) definition references =
        (Query.symbolReply (.ok .null) definition references).map fun info =>
          { info with
            hover := if Text.isBlankText text then none else some (Text.trim text) } := by
  obtain ⟨contents, decoded, pair, joined⟩ := HoverContents.decode_list rendered
  obtain ⟨range, hover⟩ := Hover.exists_decode isHover listed decoded ranged
  refine ⟨contents.text, joined, pair, ?_⟩
  intro definition references
  rw [Query.symbolReply_of_hover hover, Hover.text?_eq]

def mixedDocumentation : List Json :=
  [.string "Adds one.\n",
    .object [("language", .string "rust"), ("value", .string "fn add_one(n: u32) -> u32")],
    .string "Never fails.  "]

theorem hover_list_mixed :
    Query.symbolReply (.ok (.object [("contents", .array mixedDocumentation)])) (.ok .null)
        (.ok .null) =
      .ok ⟨some "Adds one.\n\n\n```rust\nfn add_one(n: u32) -> u32\n```\n\nNever fails.",
        [], []⟩ := by
  have isHover : (Json.object [("contents", .array mixedDocumentation)]).membersOf
      ["contents", "range"] 2 = some [("contents", .array mixedDocumentation)] := rfl
  have three : ∀ first second, mixedDocumentation ≠ [.string first, .string second] := by
    intro first second
    simp [mixedDocumentation]
  obtain ⟨text, joined, -, known⟩ := hover_list isHover rfl nofun
    (.cons (.plain _) (.cons (.code rfl rfl) (.cons (.plain _) .nil)))
  obtain rfl := joined three
  exact known _ _

/-- Two texts in a list are rendered as code. -/
theorem two_texts_taken_for_code :
    List.Forall₂ Renders [.string "a", .string "b"] ["a", "b"] ∧
      Query.symbolReply (.ok (.object [("contents", .array [.string "a", .string "b"])]))
        (.ok .null) (.ok .null) = .ok ⟨some "```a\nb\n```", [], []⟩ ∧
      Text.trim ("\n\n".intercalate ["a", "b"]) ≠ "```a\nb\n```" := by
  refine ⟨.cons (.plain _) (.cons (.plain _) .nil), rfl, ?_⟩
  decide +kernel

end CodeGateway
