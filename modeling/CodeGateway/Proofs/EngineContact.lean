import CodeGateway.Proofs.ToolArguments

namespace CodeGateway

theorem Report.text_ne_empty {report : Report} (some : report ≠ []) : report.text ≠ "" := by
  cases report with
  | nil => exact absurd rfl some
  | cons line rest => simp [Report.text, String.join_cons, String.append_eq_empty_iff]

theorem DependencyGraph.report_ne_nil (graph : DependencyGraph) (uri : String) :
    graph.report uri ≠ [] := by
  simp [DependencyGraph.report]

theorem CallGraph.report_ne_nil (graph : CallGraph) : graph.report ≠ [] := by
  unfold CallGraph.report
  cases graph.root <;> simp [rootSection, noFunctionReport]

theorem Impact.report_ne_nil (impact : Impact) (change : String) : impact.report change ≠ [] := by
  simp [Impact.report]

theorem AiContext.report_ne_nil (context : AiContext) : context.report ≠ [] := by
  simp [AiContext.report, headSection]

theorem AiContext.testsReport_ne_nil (context : AiContext) : context.testsReport ≠ [] := by
  simp [AiContext.testsReport]

theorem SymbolInfo.report_ne_nil (info : SymbolInfo) : info.report ≠ [] := by
  unfold SymbolInfo.report
  split <;> simp

theorem ParserMetrics.report_ne_nil (metrics : ParserMetrics) : metrics.report ≠ [] := by
  unfold ParserMetrics.report
  exact List.cons_ne_nil _ _

theorem Query.report_ne_nil (query : Query) (reply : query.Reply) : query.report reply ≠ [] := by
  cases query with
  | dependencyGraph request => exact DependencyGraph.report_ne_nil reply request.uri
  | callGraph => exact CallGraph.report_ne_nil reply
  | impact request => exact Impact.report_ne_nil reply request.change.name
  | aiContext => exact AiContext.report_ne_nil reply
  | relatedTests => exact AiContext.testsReport_ne_nil reply
  | symbolInfo => exact SymbolInfo.report_ne_nil reply
  | parserMetrics => exact ParserMetrics.report_ne_nil reply
  | reindex => simp [Query.report, reindexReport]

theorem Tool.argumentReport_ne_nil (tool : Tool) (fault : ArgumentFault) :
    tool.argumentReport fault ≠ [] := by
  simp [Tool.argumentReport]

theorem Tool.failureReport_ne_nil (tool : Tool) (query : Query) (failure : Failure) :
    tool.failureReport query failure ≠ [] := by
  unfold Tool.failureReport
  split <;> simp [Tool.noSymbolReport, Tool.genericReport]

def ToolResult.HasText (result : ToolResult) : Prop := result.text ≠ ""

theorem Query.result_hasText (query : Query) (outcome : Except Failure query.Reply) :
    (query.result outcome).HasText := by
  cases outcome with
  | ok reply => exact Report.text_ne_empty (query.report_ne_nil reply)
  | error failure => exact Report.text_ne_empty (query.tool.failureReport_ne_nil query failure)

theorem Tool.name_injective : Function.Injective Tool.name := by
  intro first second
  cases first <;> cases second <;> decide

namespace Catalogue

variable {catalogue : Catalogue} {name : String} {arguments : Json}

theorem find?_eq_some_iff {tool : Tool} :
    catalogue.find? name = some tool ↔ tool ∈ catalogue.tools ∧ tool.name = name := by
  unfold find?
  constructor
  · intro found
    exact ⟨List.mem_of_find?_eq_some found, by simpa using List.find?_some found⟩
  · rintro ⟨listed, rfl⟩
    cases found : catalogue.tools.find? fun other => other.name == tool.name with
    | none => exact absurd (List.find?_eq_none.mp found tool listed) (by simp)
    | some other =>
      have same : other.name = tool.name := by simpa using List.find?_some found
      rw [Tool.name_injective same]

/-- A call comes to a query: the tool of this name is listed, and accepts the arguments. -/
def Asks (catalogue : Catalogue) (name : String) (arguments : Json) (query : Query) : Prop :=
  ∃ tool ∈ catalogue.tools, tool.name = name ∧ catalogue.Accepts tool arguments query

theorem call_eq_query_iff {query : Query} :
    catalogue.call name arguments = .query query ↔ catalogue.Asks name arguments query := by
  have known : catalogue.Asks name arguments query ↔
      ∃ tool, catalogue.find? name = some tool ∧ catalogue.prepare tool arguments = .ok query := by
    simp only [Asks, find?_eq_some_iff, prepare_eq_ok_iff, and_assoc]
  rw [known]
  unfold call
  cases catalogue.find? name with
  | none => simp
  | some tool =>
    dsimp only
    cases prepared : catalogue.prepare tool arguments <;> simp [prepared]

theorem call_answered {result : ToolResult}
    (answered : catalogue.call name arguments = .answered result) :
    result.isError = true ∧ result.HasText := by
  unfold call at answered
  split at answered
  · obtain rfl := Prepared.answered.inj answered
    refine ⟨rfl, ?_⟩
    simp [ToolResult.HasText, unknownToolText, String.append_eq_empty_iff, toString]
  · split at answered
    · cases answered
    · obtain rfl := Prepared.answered.inj answered
      exact ⟨rfl, Report.text_ne_empty (Tool.argumentReport_ne_nil _ _)⟩

end Catalogue

/-- An engine with a state of its own. It answers a query, or never does. -/
abbrev StatefulEngine (σ : Type) : Type :=
  (query : Query) → OptionT (StateM σ) (Except Failure query.Reply)

variable {σ : Type}

def StatefulEngine.answer? (engine : StatefulEngine σ) (query : Query) (state : σ) :
    Option (Except Failure query.Reply) :=
  ((engine query).run.run state).1

def StatefulEngine.after (engine : StatefulEngine σ) (query : Query) (state : σ) : σ :=
  ((engine query).run.run state).2

/-- The engine, with a note taken of each query before it is put. -/
def StatefulEngine.noting (engine : StatefulEngine σ) : StatefulEngine (List Query × σ) :=
  fun query => OptionT.mk fun (asked, state) =>
    (engine.answer? query state, asked ++ [query], engine.after query state)

/-- A call as an observer sees it: the result, if there ever is one, the queries that the engine
    was asked, and the state that it is left in. -/
structure Contact (σ : Type) where
  result? : Option ToolResult
  asked : List Query
  state : σ

namespace Catalogue

variable {catalogue : Catalogue} {engine : StatefulEngine σ} {state : σ} {name : String}
  {arguments : Json}

def contact (catalogue : Catalogue) (engine : StatefulEngine σ) (state : σ) (name : String)
    (arguments : Json) : Contact σ :=
  let (result?, asked, state) :=
    (catalogue.callTool engine.noting name arguments).run.run ([], state)
  ⟨result?, asked, state⟩

theorem contact_of_query {query : Query}
    (comes : catalogue.call name arguments = .query query) :
    catalogue.contact engine state name arguments =
      ⟨(engine.answer? query state).map query.result, [query], engine.after query state⟩ := by
  unfold contact callTool
  rw [comes]
  have put : (engine.noting query).run.run ([], state) =
      (engine.answer? query state, [query], engine.after query state) := rfl
  simp only [bind_pure_comp, OptionT.run_map, StateT.run_map, put]
  rfl

theorem contact_of_answered {result : ToolResult}
    (answered : catalogue.call name arguments = .answered result) :
    catalogue.contact engine state name arguments = ⟨some result, [], state⟩ := by
  unfold contact callTool
  rw [answered]
  rfl

/-- A call that is not a success: it does not get to the engine, or the engine fails it. -/
def Fails (catalogue : Catalogue) (engine : StatefulEngine σ) (state : σ) (name : String)
    (arguments : Json) : Prop :=
  (∀ query, ¬ catalogue.Asks name arguments query) ∨
    ∃ query failure, catalogue.Asks name arguments query ∧
      engine.answer? query state = some (.error failure)

theorem not_asks_of_answered {result : ToolResult}
    (answered : catalogue.call name arguments = .answered result) (query : Query) :
    ¬ catalogue.Asks name arguments query := by
  rw [← call_eq_query_iff, answered]
  exact Prepared.noConfusion

theorem asks_iff_eq {query : Query} (comes : catalogue.call name arguments = .query query)
    (other : Query) : catalogue.Asks name arguments other ↔ query = other := by
  rw [← call_eq_query_iff, comes, Prepared.query.injEq]

theorem asked_eq_iff_asks {query : Query} :
    (catalogue.contact engine state name arguments).asked = [query] ↔
      catalogue.Asks name arguments query := by
  cases comes : catalogue.call name arguments with
  | answered result => simp [contact_of_answered comes, not_asks_of_answered comes]
  | query asked => simp [contact_of_query comes, asks_iff_eq comes]

theorem asked_eq_nil_iff :
    (catalogue.contact engine state name arguments).asked = [] ↔
      ∀ query, ¬ catalogue.Asks name arguments query := by
  cases comes : catalogue.call name arguments with
  | answered result => simp [contact_of_answered comes, not_asks_of_answered comes]
  | query asked => simp [contact_of_query comes, asks_iff_eq comes]

theorem state_of_asked_nil (alone : (catalogue.contact engine state name arguments).asked = []) :
    (catalogue.contact engine state name arguments).state = state := by
  cases comes : catalogue.call name arguments with
  | answered result => rw [contact_of_answered comes]
  | query asked => simp [contact_of_query comes] at alone

theorem result_eq_none_iff :
    (catalogue.contact engine state name arguments).result? = none ↔
      ∃ query, catalogue.Asks name arguments query ∧ engine.answer? query state = none := by
  cases comes : catalogue.call name arguments with
  | answered result => simp [contact_of_answered comes, not_asks_of_answered comes]
  | query asked => simp [contact_of_query comes, asks_iff_eq comes]

theorem preparingMessage_isSome_iff :
    (catalogue.preparingMessage? name arguments).isSome = true ↔
      ∃ query, catalogue.Asks name arguments query := by
  unfold preparingMessage?
  cases comes : catalogue.call name arguments with
  | answered result => simp [not_asks_of_answered comes]
  | query asked => simp [asks_iff_eq comes]

theorem isError_iff_fails {result : ToolResult}
    (ends : (catalogue.contact engine state name arguments).result? = some result) :
    result.isError = true ↔ catalogue.Fails engine state name arguments := by
  unfold Fails
  cases comes : catalogue.call name arguments with
  | answered answer =>
    rw [contact_of_answered comes] at ends
    obtain rfl := Option.some.inj ends
    simp [(call_answered comes).1, not_asks_of_answered comes]
  | query query =>
    rw [contact_of_query comes] at ends
    obtain ⟨outcome, answers, rfl⟩ := Option.map_eq_some_iff.mp ends
    simp only [asks_iff_eq comes, forall_eq', false_or, exists_and_left,
      exists_eq_left', answers, Option.some.injEq]
    cases outcome <;> simp [Query.result]

theorem hasText_of_contact {result : ToolResult}
    (ends : (catalogue.contact engine state name arguments).result? = some result) :
    result.HasText := by
  cases comes : catalogue.call name arguments with
  | answered answer =>
    rw [contact_of_answered comes] at ends
    obtain rfl := Option.some.inj ends
    exact (call_answered comes).2
  | query query =>
    rw [contact_of_query comes] at ends
    obtain ⟨outcome, -, rfl⟩ := Option.map_eq_some_iff.mp ends
    exact query.result_hasText outcome

theorem not_asks_of_isDisposed (disposed : catalogue.isDisposed = true) (query : Query) :
    ¬ catalogue.Asks name arguments query := by
  rintro ⟨tool, listed, -⟩
  have none := List.isEmpty_iff.mp disposed
  rw [none] at listed
  cases listed

end Catalogue

theorem ToolResult.member_content (result : ToolResult) :
    result.encode.member? "content" =
      some (.array [.object [("text", .string result.text), ("type", .string "text")]]) := by
  simp [ToolResult.encode, Json.member?, Json.lookup_cons]

theorem ToolResult.member_isError (result : ToolResult) :
    result.encode.member? "isError" = if result.isError then some (.bool true) else none := by
  cases marked : result.isError <;>
    simp [ToolResult.encode, Json.member?, Json.lookup_cons, marked]

/-- The engine is asked exactly once if the tool is listed and accepts the arguments, and what it is
    asked is what they settle; else, and whenever the tools are disposed of, it is left alone. The
    result is one text with something in it, marked as an error exactly when the engine was not
    asked or failed; only an engine that never answers keeps it from the caller. A line announces
    exactly the calls that ask the engine. -/
theorem Catalogue.engine_contact (catalogue : Catalogue) (engine : StatefulEngine σ) (state : σ)
    (name : String) (arguments : Json) :
    let contact := catalogue.contact engine state name arguments
    (∀ query, contact.asked = [query] ↔ catalogue.Asks name arguments query) ∧
    (contact.asked = [] ↔ ∀ query, ¬ catalogue.Asks name arguments query) ∧
    (contact.asked = [] → contact.state = state) ∧
    (catalogue.isDisposed = true → contact.asked = []) ∧
    (contact.result? = none ↔
      ∃ query, contact.asked = [query] ∧ engine.answer? query state = none) ∧
    (∀ result, contact.result? = some result →
      result.encode.member? "content" = some (.array
        [.object [("text", .string result.text), ("type", .string "text")]]) ∧
      result.text ≠ "" ∧
      (result.encode.member? "isError" = some (.bool true) ↔
        catalogue.Fails engine state name arguments) ∧
      (result.encode.member? "isError" = none ↔
        ¬ catalogue.Fails engine state name arguments)) ∧
    ((catalogue.preparingMessage? name arguments).isSome = true ↔ contact.asked ≠ []) := by
  intro contact
  refine ⟨fun query => asked_eq_iff_asks, asked_eq_nil_iff, state_of_asked_nil,
    fun disposed => asked_eq_nil_iff.mpr (not_asks_of_isDisposed disposed), ?_, ?_, ?_⟩
  · simp only [contact, asked_eq_iff_asks]
    exact result_eq_none_iff
  · intro result ends
    refine ⟨result.member_content, hasText_of_contact ends, ?_, ?_⟩
    all_goals
      rw [result.member_isError, ← isError_iff_fails ends]
      cases result.isError <;> simp
  · rw [preparingMessage_isSome_iff, Ne, asked_eq_nil_iff]
    simp

end CodeGateway
