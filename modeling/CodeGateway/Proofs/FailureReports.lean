import CodeGateway.Proofs.EngineContact

namespace CodeGateway

theorem Report.toList_text_cons (line : String) (report : Report) :
    (Report.text (line :: report)).toList = line.toList ++ '\n' :: report.text.toList := by
  simp [Report.text, String.join_cons]

theorem Report.isInfix_text {report : Report} {line : String} (among : line ∈ report) :
    line.toList <:+: report.text.toList := by
  induction report with
  | nil => cases among
  | cons first report ih =>
    rw [Report.toList_text_cons]
    rcases List.mem_cons.mp among with rfl | among
    · exact (List.prefix_append _ _).isInfix
    · have later : (Report.text report).toList <:+
          first.toList ++ '\n' :: (Report.text report).toList :=
        (List.suffix_cons _ _).trans (List.suffix_append _ _)
      exact (ih among).trans later.isInfix

namespace Tool

theorem isInfix_genericReport (tool : Tool) (failure : Failure) :
    failure.message.toList <:+: (tool.genericReport failure).text.toList := by
  have quoted : s!"> {failure.message}" ∈ tool.genericReport failure := by
    simp [genericReport]
  refine List.IsInfix.trans ?_ (Report.isInfix_text quoted)
  exact ⟨['>', ' '], [], by simp [toString]⟩

theorem genericReport_ne_noSymbolReport (tool : Tool) (query : Query) (failure : Failure) :
    (tool.genericReport failure).text ≠ (tool.noSymbolReport query).text := by
  have generic : ∃ rest, (tool.genericReport failure).text.toList =
      ("# " ++ tool.title).toList ++ ' ' :: rest := by
    refine ⟨"failed\n".toList ++ (Report.text (tool.genericReport failure).tail).toList, ?_⟩
    rw [genericReport, Report.toList_text_cons]
    simp [toString]
  have guided : ∃ rest, (tool.noSymbolReport query).text.toList =
      ("# " ++ tool.title).toList ++ ':' :: rest := by
    obtain ⟨tail, parts⟩ : ∃ tail, tool.noSymbolReport query =
      s!"# {tool.title}: no {tool.subject} found" :: tail := ⟨_, rfl⟩
    refine ⟨s!" no {tool.subject} found\n".toList ++ (Report.text tail).toList, ?_⟩
    rw [parts, Report.toList_text_cons]
    simp [toString]
  obtain ⟨rest, generic⟩ := generic
  obtain ⟨rest', guided⟩ := guided
  intro same
  rw [same, guided] at generic
  have next := List.append_cancel_left generic
  simp at next

end Tool

theorem Failure.classify_eq_noSymbol_iff {failure : Failure} :
    failure.classify = .noSymbol ↔ failure.kind? = some "symbol_not_found" ∨
      "No symbol at position".toList <:+: failure.message.toList := by
  have occurs : Text.occursIn noSymbolText.toList failure.message.toList = true ↔
      "No symbol at position".toList <:+: failure.message.toList :=
    Text.occursIn_iff_isInfix
  rw [← occurs, classify]
  split
  · rename_i either
    simpa [noSymbolKind] using either
  · rename_i neither
    simpa [noSymbolKind] using neither

theorem Failure.kind?_remote {code : Int} {message kind : String} {data : Json}
    (structured : data.member? "kind" = some (.string kind)) :
    (Failure.remote code message (some data)).kind? = some kind := by
  rw [kind?, structured]
  rfl

theorem Tool.failureReport_eq_noSymbolReport_iff {tool : Tool} {query : Query}
    {failure : Failure} :
    (tool.failureReport query failure).text = (tool.noSymbolReport query).text ↔
      failure.classify = .noSymbol := by
  unfold failureReport
  cases failure.classify with
  | noSymbol => simp
  | generic => simp [genericReport_ne_noSymbolReport]

theorem Tool.failureReport_of_ne_noSymbol {tool : Tool} {query : Query} {failure : Failure}
    (other : failure.classify ≠ .noSymbol) :
    tool.failureReport query failure = tool.genericReport failure := by
  unfold failureReport
  cases given : failure.classify with
  | noSymbol => exact absurd given other
  | generic => rfl

theorem Catalogue.tool_of_asks {catalogue : Catalogue} {name : String} {arguments : Json}
    {query : Query} (asks : catalogue.Asks name arguments query) : query.tool.name = name := by
  obtain ⟨tool, -, rfl, ⟨rfl, rfl⟩ | ⟨-, -, -, rfl, -⟩⟩ := asks
  · rfl
  · rfl

/-- When the engine fails what a tool asks of it, the caller is guided if the kind that the engine
    gives is that of a missing symbol, but also, whatever the kind, if the text of the failure says
    so; without a kind the text alone decides. In every other case the report is the one with the
    whole text of the failure in it. -/
theorem failure_report {σ : Type} {catalogue : Catalogue} {name : String} {arguments : Json}
    {query : Query} (asks : catalogue.Asks name arguments query) {engine : StatefulEngine σ}
    {state : σ} {failure : Failure} (fails : engine.answer? query state = some (.error failure)) :
    ∃ text, (catalogue.contact engine state name arguments).result? = some ⟨text, true⟩ ∧
      query.tool.name = name ∧
      (∀ code message data kind, failure = .remote code message (some data) →
        data.member? "kind" = some (.string kind) →
        (text = (query.tool.noSymbolReport query).text ↔
          kind = "symbol_not_found" ∨ "No symbol at position".toList <:+: message.toList)) ∧
      (failure.kind? = none →
        (text = (query.tool.noSymbolReport query).text ↔
          "No symbol at position".toList <:+: failure.message.toList)) ∧
      (text ≠ (query.tool.noSymbolReport query).text →
        text = (query.tool.genericReport failure).text ∧
          failure.message.toList <:+: text.toList) := by
  have comes := Catalogue.call_eq_query_iff.mpr asks
  refine ⟨(query.tool.failureReport query failure).text, ?_, Catalogue.tool_of_asks asks, ?_⟩
  · rw [Catalogue.contact_of_query comes, fails]
    rfl
  · rw [Ne, Tool.failureReport_eq_noSymbolReport_iff, Failure.classify_eq_noSymbol_iff]
    refine ⟨?_, ?_, ?_⟩
    · rintro code message data kind rfl structured
      rw [Failure.kind?_remote structured, Option.some.injEq]
      rfl
    · intro unstructured
      simp [unstructured]
    · rw [← Failure.classify_eq_noSymbol_iff]
      intro other
      rw [Tool.failureReport_of_ne_noSymbol other]
      exact ⟨rfl, query.tool.isInfix_genericReport failure⟩

def StatefulEngine.failing (failure : Failure) : StatefulEngine Unit :=
  fun _ => pure (.error failure)

def Failure.locked (message : String) : Failure :=
  .remote (-32000) message (some (.object [("kind", .string "locked")]))

def callsAt : Query := .callGraph ⟨"file:///work/a.rs", ⟨3, 0⟩, 3, .both, false⟩

def resultOfFailure (failure : Failure) : Option ToolResult :=
  ((Catalogue.ofRoot "/work".toList .builtIn).contact (.failing failure) ()
    "codegraph_get_call_graph" (.object [("line", .int 3), ("uri", .string "a.rs")])).result?

theorem failure_report_locked : ∃ text,
    resultOfFailure (.locked "store is locked") = some ⟨text, true⟩ ∧
      text ≠ (Tool.callGraph.noSymbolReport callsAt).text ∧
      "store is locked".toList <:+: text.toList := by
  have asks : (Catalogue.ofRoot "/work".toList .builtIn).Asks "codegraph_get_call_graph"
      (.object [("line", .int 3), ("uri", .string "a.rs")]) callsAt :=
    Catalogue.call_eq_query_iff.mp rfl
  have fails : (StatefulEngine.failing (.locked "store is locked")).answer? callsAt () =
      some (.error (.locked "store is locked")) := rfl
  obtain ⟨text, result, -, structured, -, generic⟩ := failure_report asks fails
  have other : text ≠ (Tool.callGraph.noSymbolReport callsAt).text := by
    intro guided
    have called := (structured _ _ _ "locked" rfl rfl).mp guided
    rw [← Text.occursIn_iff_isInfix] at called
    revert called
    decide +kernel
  exact ⟨text, result, other, (generic other).2⟩

/-- A locked store is reported as a missing symbol if the engine's message begins like one; what the
    engine said is not told. -/
theorem locked_taken_for_missing :
    (Failure.locked "No symbol at position: store is locked").kind? = some "locked" ∧
      resultOfFailure (.locked "No symbol at position: store is locked") =
        some ⟨(Tool.callGraph.noSymbolReport callsAt).text, true⟩ ∧
      resultOfFailure (.locked "No symbol at position: store is locked") ≠
        some ⟨(Tool.callGraph.genericReport
          (.locked "No symbol at position: store is locked")).text, true⟩ := by
  have guided : resultOfFailure (.locked "No symbol at position: store is locked") =
      some ⟨(Tool.callGraph.noSymbolReport callsAt).text, true⟩ := rfl
  refine ⟨rfl, guided, ?_⟩
  rw [guided, Ne, Option.some.injEq, ToolResult.mk.injEq]
  rintro ⟨texts, -⟩
  exact Tool.callGraph.genericReport_ne_noSymbolReport callsAt _ texts.symm

end CodeGateway
