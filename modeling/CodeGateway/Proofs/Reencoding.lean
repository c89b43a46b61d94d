import CodeGateway.Proofs.RecordMembers
import CodeGateway.Proofs.ReplyRoundTrip
import CodeGateway.Proofs.WholeDouble

namespace CodeGateway

open Decode Json

/-- The value that a record is given for its member of this name: by the name in an object, by the
    place in an array. -/
def Json.part? (names : List String) (name : String) : Json → Option Json
  | .object members => lookup name members
  | .array items => lookup name (names.zip items)
  | _ => none

def Decode.Member.Gives {α : Type} (member : Member α) (given : Option Json) (a : α) : Prop :=
  match given with
  | some json => member.decode json = .ok a
  | none => member.ifAbsent = some a

section Parts

variable {α : Type} {record : Record α} {names : List String} {least : Nat} {label : String}
  {json : Json} {a : α}

theorem Decode.Member.gives_of_ofObject {β : Type} {member : Member β}
    {members : List (String × Json)} {b : β} (read : member.ofObject members = .ok b) :
    member.Gives (lookup member.name members) b :=
  Member.ofObject_eq_ok_iff.mp read

theorem Decode.Record.Named.exists_members (named : record.Named names least)
    (decoded : record.decode label json = .ok a) :
    ∃ members, (∀ name, json.part? names name = lookup name members) ∧
      record.ofObject members = .ok a := by
  obtain ⟨members, isMembers, read⟩ := named.decode_eq_ok_iff.mp decoded
  refine ⟨members, fun name => ?_, read⟩
  cases json with
  | object others => exact congrArg (lookup name) (Option.some.inj isMembers)
  | array items =>
    simp only [membersOf, Option.ite_none_right_eq_some, Option.some.injEq] at isMembers
    exact congrArg (lookup name) isMembers.2
  | _ => cases isMembers

theorem Decode.Record.Makes.gives {β : Type} {member : Member β} {part : α → β}
    {listed : List String}
    (makes : record.Makes listed fun members a => member.ofObject members = .ok (part a))
    (same : listed = names) (distinct : names.Nodup) (decoded : record.decode label json = .ok a) :
    member.Gives (json.part? names member.name) (part a) := by
  subst same
  obtain ⟨least, named⟩ := makes.named distinct
  obtain ⟨members, parts, read⟩ := named.exists_members decoded
  exact parts member.name ▸ Member.gives_of_ofObject (makes.holds read)

end Parts

def DependencyNode.memberNames : List String := ["id", "label", "type", "language", "uri"]

def DependencyEdge.memberNames : List String := ["from", "to", "type"]

def DirectImpact.memberNames : List String := ["uri", "range", "type", "severity"]

def PrimaryContext.memberNames : List String := ["type", "name", "code", "language", "location"]

def RelatedSymbol.memberNames : List String :=
  ["name", "relationship", "code", "location", "relevanceScore"]

def MetricsTotals.memberNames : List String :=
  ["filesAttempted", "filesSucceeded", "filesFailed", "totalEntities", "successRate"]

def FunctionNode.memberNames : List String :=
  ["id", "name", "signature", "uri", "range", "language", "metrics"]

def CallGraph.memberNames : List String := ["root", "nodes", "edges"]

def Impact.memberNames : List String :=
  ["directImpact", "indirectImpact", "affectedTests", "summary"]

def DependencyInfo.memberNames : List String := ["name", "type", "code"]

def UsageExample.memberNames : List String := ["code", "location", "description"]

def ArchitectureInfo.memberNames : List String := ["module", "layer", "neighbors"]

def AiContext.memberNames : List String :=
  ["primaryContext", "relatedSymbols", "dependencies", "usageExamples", "architecture", "metadata"]

def ParserMetrics.memberNames : List String := ["metrics", "totals"]

def SymbolInfo.memberNames : List String := ["hover", "definitions", "references"]

def Json.TellsKind (given : Option Json) (name : String) : Prop :=
  given = some (.string name) ∨ given = some (.object [(name, .null)])

section Keeping

variable {α : Type} (decode : Json → Except Error α) (encode : α → Json) (names : List String)

/-- A kind of no known name is taken as `other`, and stays so. -/
def KeepsOther {κ : Type} (choice : Choice κ) (other : κ) (kind : α → κ) : Prop :=
  ∀ json a name, decode json = .ok a → Json.TellsKind (json.part? names "type") name →
    choice.known.lookup name = none →
    kind a = other ∧ (encode a).member? "type" = some (.string "other")

def KeepsText (name : String) (text : α → String) : Prop :=
  ∀ json a, decode json = .ok a →
    json.part? names name = some (.string (text a)) ∧
      (encode a).member? name = some (.string (text a))

/-- A part that is missing or null is none, and what is written for it then is the same always. -/
def KeepsAbsent {β : Type} (name : String) (part : α → Option β) (written : Option Json) : Prop :=
  ∀ json a, decode json = .ok a →
    json.part? names name = none ∨ json.part? names name = some .null →
    part a = none ∧ (encode a).member? name = written

/-- A word in place of a double is written as the double that is read for it, and that is the word
    itself if 53 binary digits hold it. -/
def KeepsWhole (name : String) (part : α → Float) : Prop :=
  ∀ json a i, decode json = .ok a → json.part? names name = some (.int i) →
    part a = floatOfInt i ∧ (encode a).member? name = some (.float (floatOfInt i)) ∧
      ∀ m k, isWord i = true → m < 2 ^ 53 → i.natAbs = m * 2 ^ k →
        Decimal.IsWhole (floatOfInt i) i

end Keeping

section Given

variable {α : Type} {given : Option Json}

theorem ofName_of_unknown {choice : Choice α} {other : α} (isOther : choice.other = some other)
    {name : String} (unknown : choice.known.lookup name = none) :
    choice.ofName name = .ok other := by
  unfold Choice.ofName
  rw [unknown, isOther]

theorem decode_of_tellsKind {choice : Choice α} {other : α} (isOther : choice.other = some other)
    {name : String} (unknown : choice.known.lookup name = none) {json : Json}
    (tells : Json.TellsKind (some json) name) : choice.decode json = .ok other := by
  have read := ofName_of_unknown isOther unknown
  rcases tells with same | same
  · rw [Option.some.inj same]
    exact read
  · rw [Option.some.inj same]
    simp [Choice.decode, read, Decode.unit]

theorem eq_other_of_gives {choice : Choice α} {other : α} (isOther : choice.other = some other)
    {member : Member α} (reads : member.decode = choice.decode) {kind : α}
    (gives : member.Gives given kind) {name : String}
    (unknown : choice.known.lookup name = none) (tells : Json.TellsKind given name) :
    kind = other := by
  obtain ⟨json, rfl⟩ : ∃ json, given = some json := by
    rcases tells with same | same <;> exact ⟨_, same⟩
  have decoded : choice.decode json = .ok kind := reads ▸ gives
  rw [decode_of_tellsKind isOther unknown tells] at decoded
  exact (Except.ok.inj decoded).symm

theorem eq_none_of_gives {item : Json → Except Error α} {name : String} {part : Option α}
    (gives : (omissible name item).Gives given part)
    (absent : given = none ∨ given = some .null) : part = none := by
  rcases absent with rfl | rfl
  · exact (Option.some.inj gives).symm
  · exact (Except.ok.inj gives).symm

end Given

section Laws

variable {α : Type} {record : Record α} {label : String} {encode : α → Json}
  {names listed : List String} {name : String}

theorem keepsOther_of_makes {κ : Type} {choice : Choice κ} {other : κ} {kind : α → κ}
    (member : Member κ) (isOther : choice.other = some other)
    (reads : member.decode = choice.decode) (isType : member.name = "type")
    (makes : record.Makes listed fun members a => member.ofObject members = .ok (kind a))
    (same : listed = names) (distinct : names.Nodup)
    (written : ∀ a, kind a = other → (encode a).member? "type" = some (.string "other")) :
    KeepsOther (record.decode label) encode names choice other kind := by
  intro json a name decoded tells unknown
  have gives := makes.gives same distinct decoded
  rw [isType] at gives
  have isOther := eq_other_of_gives isOther reads gives unknown tells
  exact ⟨isOther, written a isOther⟩

theorem keepsAbsent_of_makes {β : Type} {item : Json → Except Error β} {part : α → Option β}
    {nothing : Option Json}
    (makes : record.Makes listed fun members a =>
      (omissible name item).ofObject members = .ok (part a))
    (same : listed = names) (distinct : names.Nodup)
    (written : ∀ a, part a = none → (encode a).member? name = nothing) :
    KeepsAbsent (record.decode label) encode names name part nothing := by
  intro json a decoded absent
  have isNone := eq_none_of_gives (makes.gives same distinct decoded) absent
  exact ⟨isNone, written a isNone⟩

theorem keepsWhole_of_makes {part : α → Float}
    (makes : record.Makes listed fun members a =>
      (defaulted name float 0.0).ofObject members = .ok (part a))
    (same : listed = names) (distinct : names.Nodup)
    (written : ∀ a, (encode a).member? name = some (.float (part a))) :
    KeepsWhole (record.decode label) encode names name part := by
  intro json a i decoded isWord
  have read : (defaulted name float 0.0).Gives (json.part? names name) (part a) :=
    makes.gives same distinct decoded
  rw [isWord] at read
  have same : floatOfInt i = part a := Except.ok.inj read
  refine ⟨same.symm, same ▸ written a, ?_⟩
  exact fun m k word fits shape => Decimal.isWhole_floatOfInt word fits shape

end Laws

theorem RelatedSymbol.exists_label {json : Json} {symbol : RelatedSymbol}
    (decoded : RelatedSymbol.decode json = .ok symbol) :
    ∃ text, json.part? memberNames "relationship" = some (.string text) ∧
      Relationship.ofLabel text = symbol.relationship := by
  have gives : (required "relationship" Relationship.decode).Gives
      (json.part? memberNames "relationship") symbol.relationship :=
    Record.Makes.gives (.take (.take (.take (.take (.take (.of (by intros; assumption)))))))
      rfl (by decide) decoded
  cases sent : json.part? memberNames "relationship" with
  | none =>
    rw [sent] at gives
    cases gives
  | some label =>
    rw [sent] at gives
    obtain ⟨text, rfl, read⟩ := Relationship.decode_eq_ok_iff.mp gives
    exact ⟨text, rfl, read⟩

theorem RelatedSymbol.keepsText :
    KeepsText decode encode memberNames "relationship" fun symbol => symbol.relationship.label := by
  intro json symbol decoded
  obtain ⟨text, sent, read⟩ := exists_label decoded
  have label : text = symbol.relationship.label := by
    rw [← read, Relationship.label_ofLabel]
  rw [label] at sent
  exact ⟨sent, by simp [encode, member?]⟩

def Query.reencode (query : Query) (json : Json) : Except Error Json :=
  (query.decode json).map query.encode

theorem RelatedSymbol.isRead {json : Json} {symbol : RelatedSymbol}
    (decoded : RelatedSymbol.decode json = .ok symbol) : symbol.relationship.IsRead := by
  obtain ⟨text, -, read⟩ := exists_label decoded
  rw [← read]
  exact Relationship.isRead_ofLabel text

theorem AiContext.isRead {json : Json} {context : AiContext}
    (decoded : AiContext.decode json = .ok context) :
    ∀ symbol ∈ context.related, symbol.relationship.IsRead := by
  have gives : (defaulted "relatedSymbols" (list RelatedSymbol.decode) []).Gives
      (json.part? memberNames "relatedSymbols") context.related :=
    Record.Makes.gives (.take (.take (.take (.take (.take (.take (.of (by intros; assumption))))))))
      rfl (by decide) decoded
  cases sent : json.part? memberNames "relatedSymbols" with
  | none =>
    rw [sent] at gives
    have none : [] = context.related := Option.some.inj gives
    simp [← none]
  | some symbols =>
    rw [sent] at gives
    intro symbol among
    obtain ⟨item, isSymbol⟩ := exists_of_mem_list gives among
    exact RelatedSymbol.isRead isSymbol

/-- What a reply was decoded to comes back from what it is encoded to. -/
theorem Query.decode_encode {query : Query} {json : Json} {reply : query.Reply}
    (decoded : query.decode json = .ok reply) :
    query.decode (query.encode reply) = .ok reply := by
  cases query with
  | dependencyGraph => exact DependencyGraph.decode_encode reply
  | callGraph => exact CallGraph.decode_encode reply
  | impact => exact Impact.decode_encode reply
  | aiContext => exact AiContext.decode_encode (AiContext.isRead decoded)
  | relatedTests => exact AiContext.decode_encode (AiContext.isRead decoded)
  | symbolInfo => exact SymbolInfo.decode_encode reply
  | parserMetrics => exact ParserMetrics.decode_encode reply
  | reindex => rfl

theorem Query.reencode_reencode (query : Query) (json : Json) :
    (query.reencode json).bind query.reencode = query.reencode json := by
  unfold reencode
  cases decoded : query.decode json with
  | error error => rfl
  | ok reply =>
    show (query.decode (query.encode reply)).map query.encode = .ok (query.encode reply)
    rw [Query.decode_encode decoded]
    rfl

/-- Kinds of no known name, wherever a kind is told by a name that need not be known. -/
structure KeepsKinds : Prop where
  node : KeepsOther DependencyNode.decode DependencyNode.encode DependencyNode.memberNames
    DependencyNodeKind.choice .other DependencyNode.kind
  edge : KeepsOther DependencyEdge.decode DependencyEdge.encode DependencyEdge.memberNames
    DependencyEdgeKind.choice .other DependencyEdge.kind
  impact : KeepsOther DirectImpact.decode DirectImpact.encode DirectImpact.memberNames
    ImpactKind.choice .other DirectImpact.kind
  context : KeepsOther PrimaryContext.decode PrimaryContext.encode PrimaryContext.memberNames
    ContextKind.choice .other PrimaryContext.kind

theorem keepsKinds : KeepsKinds where
  node := keepsOther_of_makes (defaulted "type" DependencyNodeKind.choice.decode .file) rfl rfl rfl
    (.take (.take (.take (.take (.take (.of (by intros; assumption)))))))
    rfl (by decide) fun _ same => by
      simp [DependencyNode.encode, member?, same, DependencyNodeKind.name]
  edge := keepsOther_of_makes (required "type" DependencyEdgeKind.choice.decode) rfl rfl rfl
    (.take (.take (.take (.of (by intros; assumption)))))
    rfl (by decide) fun _ same => by
      simp [DependencyEdge.encode, member?, same, DependencyEdgeKind.name]
  impact := keepsOther_of_makes (required "type" ImpactKind.choice.decode) rfl rfl rfl
    (.take (.take (.take (.take (.of (by intros; assumption))))))
    rfl (by decide) fun _ same => by
      simp [DirectImpact.encode, member?, same, ImpactKind.name]
  context := keepsOther_of_makes (defaulted "type" ContextKind.choice.decode .function) rfl rfl rfl
    (.take (.take (.take (.take (.take (.of (by intros; assumption)))))))
    rfl (by decide) fun _ same => by
      simp [PrimaryContext.encode, member?, same, ContextKind.name]

/-- What is left out. Only a call graph without a root says that it has none. -/
structure KeepsOmissions : Prop where
  metrics : KeepsAbsent FunctionNode.decode FunctionNode.encode FunctionNode.memberNames
    "metrics" FunctionNode.metrics none
  root : KeepsAbsent CallGraph.decode CallGraph.encode CallGraph.memberNames
    "root" CallGraph.root (some .null)
  summary : KeepsAbsent Impact.decode Impact.encode Impact.memberNames
    "summary" Impact.summary none
  code : KeepsAbsent DependencyInfo.decode DependencyInfo.encode DependencyInfo.memberNames
    "code" DependencyInfo.code none
  description : KeepsAbsent UsageExample.decode UsageExample.encode UsageExample.memberNames
    "description" UsageExample.description none
  layer : KeepsAbsent ArchitectureInfo.decode ArchitectureInfo.encode ArchitectureInfo.memberNames
    "layer" ArchitectureInfo.layer none
  examples : KeepsAbsent AiContext.decode AiContext.encode AiContext.memberNames
    "usageExamples" AiContext.examples none
  architecture : KeepsAbsent AiContext.decode AiContext.encode AiContext.memberNames
    "architecture" AiContext.architecture none
  metadata : KeepsAbsent AiContext.decode AiContext.encode AiContext.memberNames
    "metadata" AiContext.metadata none
  totals : KeepsAbsent ParserMetrics.decode ParserMetrics.encode ParserMetrics.memberNames
    "totals" ParserMetrics.totals none
  hover : KeepsAbsent SymbolInfo.decode SymbolInfo.encode SymbolInfo.memberNames
    "hover" SymbolInfo.hover none

theorem keepsOmissions : KeepsOmissions where
  metrics := keepsAbsent_of_makes
    (.take (.take (.take (.take (.take (.take (.take (.of (by intros; assumption)))))))))
    rfl (by decide) fun _ isNone => by simp [FunctionNode.encode, member?, isNone]
  root := keepsAbsent_of_makes
    (.take (.take (.take (.of (by intros; assumption)))))
    rfl (by decide) fun _ isNone => by simp [CallGraph.encode, member?, isNone]
  summary := keepsAbsent_of_makes
    (.take (.take (.take (.take (.of (by intros; assumption))))))
    rfl (by decide) fun _ isNone => by simp [Impact.encode, member?, isNone]
  code := keepsAbsent_of_makes
    (.take (.take (.take (.of (by intros; assumption)))))
    rfl (by decide) fun _ isNone => by simp [DependencyInfo.encode, member?, isNone]
  description := keepsAbsent_of_makes
    (.take (.take (.take (.of (by intros; assumption)))))
    rfl (by decide) fun _ isNone => by simp [UsageExample.encode, member?, isNone]
  layer := keepsAbsent_of_makes
    (.take (.take (.take (.of (by intros; assumption)))))
    rfl (by decide) fun _ isNone => by simp [ArchitectureInfo.encode, member?, isNone]
  examples := keepsAbsent_of_makes
    (.take (.take (.take (.take (.take (.take (.of (by intros; assumption))))))))
    rfl (by decide) fun _ isNone => by simp [AiContext.encode, member?, isNone]
  architecture := keepsAbsent_of_makes
    (.take (.take (.take (.take (.take (.take (.of (by intros; assumption))))))))
    rfl (by decide) fun _ isNone => by simp [AiContext.encode, member?, isNone]
  metadata := keepsAbsent_of_makes
    (.take (.take (.take (.take (.take (.take (.of (by intros; assumption))))))))
    rfl (by decide) fun _ isNone => by simp [AiContext.encode, member?, isNone]
  totals := keepsAbsent_of_makes
    (.take (.take (.of (by intros; assumption))))
    rfl (by decide) fun _ isNone => by simp [ParserMetrics.encode, member?, isNone]
  hover := keepsAbsent_of_makes
    (.take (.take (.take (.of (by intros; assumption)))))
    rfl (by decide) fun _ isNone => by simp [SymbolInfo.encode, member?, isNone]

/-- A reply that was decoded comes back from what it is encoded to, and to encode it again changes
    nothing. On the way unknown kinds stay unknown, labels stay as they were sent, what was left out
    stays out, and a whole number becomes the double for it: the same number, if a double can hold
    it. -/
theorem Query.reencoding :
    (∀ (query : Query) json reply, query.decode json = .ok reply →
      query.decode (query.encode reply) = .ok reply) ∧
    (∀ (query : Query) json,
      (query.reencode json).bind query.reencode = query.reencode json) ∧
    KeepsKinds ∧
    KeepsText RelatedSymbol.decode RelatedSymbol.encode RelatedSymbol.memberNames "relationship"
      (fun symbol => symbol.relationship.label) ∧
    (∀ label, (Relationship.ofLabel label).isKnown = false →
      Relationship.ofLabel label = .other label) ∧
    KeepsOmissions ∧
    KeepsWhole RelatedSymbol.decode RelatedSymbol.encode RelatedSymbol.memberNames
      "relevanceScore" RelatedSymbol.relevanceScore ∧
    KeepsWhole MetricsTotals.decode MetricsTotals.encode MetricsTotals.memberNames
      "successRate" MetricsTotals.successRate :=
  ⟨fun _ _ _ decoded => Query.decode_encode decoded, Query.reencode_reencode, keepsKinds,
    RelatedSymbol.keepsText, fun _ => Relationship.ofLabel_of_unknown, keepsOmissions,
    keepsWhole_of_makes
      (.take (.take (.take (.take (.take (.of (by intros; assumption)))))))
      rfl (by decide) fun _ => by simp [RelatedSymbol.encode, member?],
    keepsWhole_of_makes
      (.take (.take (.take (.take (.take (.of (by intros; assumption)))))))
      rfl (by decide) fun _ => by simp [MetricsTotals.encode, member?]⟩

theorem Query.reencoding_three : ∃ reply : ParserMetrics, ∃ totals,
    (Query.parserMetrics ⟨none⟩).decode
      (.object [("totals", .object [("successRate", .int 3)])]) = .ok reply ∧
    (Query.parserMetrics ⟨none⟩).decode
      ((Query.parserMetrics ⟨none⟩).encode reply) = .ok reply ∧
    reply.totals = some totals ∧ Decimal.IsWhole totals.successRate 3 := by
  have decoded : (Query.parserMetrics ⟨none⟩).decode
      (.object [("totals", .object [("successRate", .int 3)])]) =
        .ok ⟨[], some ⟨0, 0, 0, 0, floatOfInt 3⟩⟩ := by
    simp [Query.decode, ParserMetrics.decode, MetricsTotals.decode, Decode.float, ifGiven, option,
      Except.map]
  have inner : MetricsTotals.decode (.object [("successRate", .int 3)]) =
      .ok ⟨0, 0, 0, 0, floatOfInt 3⟩ := by
    simp [MetricsTotals.decode, Decode.float]
  obtain ⟨comesBack, -, -, -, -, -, -, rates⟩ := Query.reencoding
  exact ⟨_, _, decoded, comesBack _ _ _ decoded, rfl,
    (rates _ _ 3 inner rfl).2.2 3 0 rfl (by decide) rfl⟩

/-- Doubles have 53 binary digits, so the odd number next to 2^53 is read as 2^53. -/
theorem MetricsTotals.odd_not_whole : ∃ reply : ParserMetrics, ∃ totals,
    (Query.parserMetrics ⟨none⟩).decode
      (.object [("totals", .object [("successRate", .int 9007199254740993)])]) = .ok reply ∧
    reply.totals = some totals ∧
    Decimal.IsWhole totals.successRate 9007199254740992 ∧
    ¬ Decimal.IsWhole totals.successRate 9007199254740993 := by
  refine ⟨⟨[], some ⟨0, 0, 0, 0, floatOfInt 9007199254740993⟩⟩, _, ?_, rfl, ?_, ?_⟩
  · simp [Query.decode, ParserMetrics.decode, MetricsTotals.decode, Decode.float, ifGiven, option,
      Except.map]
  · unfold Decimal.IsWhole
    decide +kernel
  · unfold Decimal.IsWhole
    decide +kernel

end CodeGateway
