import CodeGateway.Proofs.EncodedMembers
import CodeGateway.Query.Basic

namespace CodeGateway

open Decode Json

@[simp] theorem Position.decode_encode (position : Position) :
    Position.decode position.encode = .ok position := by
  simp [decode, encode]

@[simp] theorem Range.decode_encode (range : Range) : Range.decode range.encode = .ok range := by
  simp [decode, encode]

@[simp] theorem Location.decode_encode (location : Location) :
    Location.decode location.encode = .ok location := by
  simp [decode, encode]

@[simp] theorem DependencyNodeKind.decode_name (kind : DependencyNodeKind) :
    DependencyNodeKind.choice.decode (.string kind.name) = .ok kind := by
  cases kind <;> rfl

@[simp] theorem DependencyEdgeKind.decode_name (kind : DependencyEdgeKind) :
    DependencyEdgeKind.choice.decode (.string kind.name) = .ok kind := by
  cases kind <;> rfl

@[simp] theorem ImpactKind.decode_name (kind : ImpactKind) :
    ImpactKind.choice.decode (.string kind.name) = .ok kind := by
  cases kind <;> rfl

@[simp] theorem Severity.decode_name (severity : Severity) :
    Severity.choice.decode (.string severity.name) = .ok severity := by
  cases severity <;> rfl

@[simp] theorem ContextKind.decode_name (kind : ContextKind) :
    ContextKind.choice.decode (.string kind.name) = .ok kind := by
  cases kind <;> rfl

theorem Relationship.ofLabel_of_unknown {label : String}
    (unknown : (ofLabel label).isKnown = false) : ofLabel label = other label := by
  cases named : ofLabel label with
  | other kept => rw [← label_ofLabel label, named, Relationship.label]
  | _ =>
    rw [named] at unknown
    cases unknown

theorem Relationship.decode_eq_ok_iff {json : Json} {relationship : Relationship} :
    Relationship.decode json = .ok relationship ↔
      ∃ label, json = .string label ∧ ofLabel label = relationship := by
  unfold Relationship.decode
  cases json <;> simp [Decode.string, Except.map]

def Relationship.IsRead (relationship : Relationship) : Prop :=
  ofLabel relationship.label = relationship

theorem Relationship.isRead_ofLabel (label : String) : (ofLabel label).IsRead := by
  rw [IsRead, label_ofLabel]

theorem Relationship.IsRead.decode_label {relationship : Relationship}
    (isRead : relationship.IsRead) :
    Relationship.decode (.string relationship.label) = .ok relationship :=
  congrArg Except.ok isRead

@[simp] theorem DependencyNode.decode_encode (node : DependencyNode) :
    DependencyNode.decode node.encode = .ok node := by
  simp [decode, encode]

@[simp] theorem DependencyEdge.decode_encode (edge : DependencyEdge) :
    DependencyEdge.decode edge.encode = .ok edge := by
  simp [decode, encode]

theorem DependencyGraph.decode_encode (graph : DependencyGraph) :
    DependencyGraph.decode graph.encode = .ok graph := by
  simp [decode, encode]

@[simp] theorem FunctionMetrics.decode_encode (metrics : FunctionMetrics) :
    FunctionMetrics.decode metrics.encode = .ok metrics := by
  simp [decode, encode]

@[simp] theorem FunctionNode.decode_encode (node : FunctionNode) :
    FunctionNode.decode node.encode = .ok node := by
  have metrics := ifGiven_map FunctionMetrics.decode_encode (by simp [FunctionMetrics.encode])
  simp [decode, encode, metrics]

@[simp] theorem CallEdge.decode_encode (edge : CallEdge) :
    CallEdge.decode edge.encode = .ok edge := by
  simp [decode, encode]

theorem CallGraph.decode_encode (graph : CallGraph) :
    CallGraph.decode graph.encode = .ok graph := by
  obtain ⟨root, nodes, edges⟩ := graph
  cases root with
  | none => simp [decode, encode]
  | some root =>
    have given : ifGiven "root" FunctionNode.decode (some root.encode) = .ok (some root) :=
      ifGiven_map FunctionNode.decode_encode (by simp [FunctionNode.encode]) "root" (some root)
    simp [decode, encode, given]

@[simp] theorem DirectImpact.decode_encode (impact : DirectImpact) :
    DirectImpact.decode impact.encode = .ok impact := by
  simp [decode, encode]

@[simp] theorem IndirectImpact.decode_encode (impact : IndirectImpact) :
    IndirectImpact.decode impact.encode = .ok impact := by
  have path := list_ofList string_string impact.path
  simp [decode, encode, path]

@[simp] theorem AffectedTest.decode_encode (test : AffectedTest) :
    AffectedTest.decode test.encode = .ok test := by
  simp [decode, encode]

@[simp] theorem ImpactSummary.decode_encode (summary : ImpactSummary) :
    ImpactSummary.decode summary.encode = .ok summary := by
  simp [decode, encode]

theorem Impact.decode_encode (impact : Impact) : Impact.decode impact.encode = .ok impact := by
  have summary := ifGiven_map ImpactSummary.decode_encode (by simp [ImpactSummary.encode])
  simp [decode, encode, summary]

@[simp] theorem PrimaryContext.decode_encode (primary : PrimaryContext) :
    PrimaryContext.decode primary.encode = .ok primary := by
  simp [decode, encode]

theorem RelatedSymbol.decode_encode {symbol : RelatedSymbol}
    (isRead : symbol.relationship.IsRead) : RelatedSymbol.decode symbol.encode = .ok symbol := by
  simp [decode, encode, isRead.decode_label]

@[simp] theorem DependencyInfo.decode_encode (dependency : DependencyInfo) :
    DependencyInfo.decode dependency.encode = .ok dependency := by
  have code := ifGiven_map string_string (by simp)
  simp [decode, encode, code]

@[simp] theorem UsageExample.decode_encode (usage : UsageExample) :
    UsageExample.decode usage.encode = .ok usage := by
  have description := ifGiven_map string_string (by simp)
  simp [decode, encode, description]

@[simp] theorem ArchitectureInfo.decode_encode (architecture : ArchitectureInfo) :
    ArchitectureInfo.decode architecture.encode = .ok architecture := by
  have layer := ifGiven_map string_string (by simp)
  have neighbors := list_ofList string_string architecture.neighbors
  simp [decode, encode, layer, neighbors]

@[simp] theorem ContextMetadata.decode_encode (metadata : ContextMetadata) :
    ContextMetadata.decode metadata.encode = .ok metadata := by
  simp [decode, encode]

theorem AiContext.decode_encode {context : AiContext}
    (areRead : ∀ symbol ∈ context.related, symbol.relationship.IsRead) :
    AiContext.decode context.encode = .ok context := by
  have related := list_ofList_of_mem fun symbol among =>
    RelatedSymbol.decode_encode (areRead symbol among)
  have examples := ifGiven_map (list_ofList UsageExample.decode_encode) (by simp [ofList])
  have architecture :=
    ifGiven_map ArchitectureInfo.decode_encode (by simp [ArchitectureInfo.encode])
  have metadata := ifGiven_map ContextMetadata.decode_encode (by simp [ContextMetadata.encode])
  simp [decode, encode, related, examples, architecture, metadata]

@[simp] theorem LanguageMetrics.decode_encode (metrics : LanguageMetrics) :
    LanguageMetrics.decode metrics.encode = .ok metrics := by
  simp [decode, encode]

@[simp] theorem MetricsTotals.decode_encode (totals : MetricsTotals) :
    MetricsTotals.decode totals.encode = .ok totals := by
  simp [decode, encode]

theorem ParserMetrics.decode_encode (metrics : ParserMetrics) :
    ParserMetrics.decode metrics.encode = .ok metrics := by
  have totals := ifGiven_map MetricsTotals.decode_encode (by simp [MetricsTotals.encode])
  simp [decode, encode, totals]

theorem SymbolInfo.decode_encode (info : SymbolInfo) :
    SymbolInfo.decode info.encode = .ok info := by
  have hover := ifGiven_map string_string (by simp)
  simp [decode, encode, hover]

end CodeGateway
