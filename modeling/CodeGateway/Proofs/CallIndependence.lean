import CodeGateway.Agent.Dispatch
import CodeGateway.Proofs.CallFate
import CodeGateway.Proofs.ExactlyOnce

namespace CodeGateway.Agent

def toolCall? (line : List Char) : Option (Json × ToolCall) :=
  (request? line).bind fun request =>
    if request.method = "tools/call" then
      request.id.bind fun id => (ToolCall.decode request.params).toOption.map (id, ·)
    else none

theorem exists_request_of_toolCall? {line : List Char} {id : Json} {call : ToolCall}
    (makes : toolCall? line = some (id, call)) :
    ∃ request, request? line = some request ∧ request.method = "tools/call" ∧
      request.id = some id ∧ ToolCall.decode request.params = .ok call := by
  obtain ⟨request, isRequest, made⟩ := Option.bind_eq_some_iff.mp makes
  split at made
  · rename_i isCall
    obtain ⟨id', hasId, made⟩ := Option.bind_eq_some_iff.mp made
    obtain ⟨call', decoded, same⟩ := Option.map_eq_some_iff.mp made
    cases same
    refine ⟨request, isRequest, isCall, hasId, ?_⟩
    cases found : ToolCall.decode request.params with
    | error error =>
      rw [found] at decoded
      cases decoded
    | ok call =>
      rw [found] at decoded
      cases decoded
      rfl
  · cases made

theorem callId?_of_toolCall? {line : List Char} {id : Json} {call : ToolCall}
    (makes : toolCall? line = some (id, call)) : callId? line = some id := by
  obtain ⟨request, isRequest, isCall, hasId, decoded⟩ := exists_request_of_toolCall? makes
  rw [callId?_of_request isRequest, decoded, if_pos ⟨isCall, rfl⟩, hasId]

theorem handleLine_of_toolCall? {line : List Char} {id : Json} {call : ToolCall}
    (makes : toolCall? line = some (id, call)) (server : Server) :
    server.handleLine line =
      server.launch id (server.catalogue.call call.name call.arguments) := by
  obtain ⟨request, isRequest, isCall, hasId, decoded⟩ := exists_request_of_toolCall? makes
  rw [handleLine_of_request isRequest]
  simp [Server.handle, isCall, hasId, Server.handleCall, decoded]

namespace Dispatch

theorem serving_runFrom (engine : Nat → Engine) (dispatch : Dispatch) (events : List Event) :
    (dispatch.runFrom engine events).serving =
      dispatch.serving.runFrom (dispatch.trace engine events) := by
  induction events generalizing dispatch with
  | nil => rfl
  | cons event events ih =>
    have later := ih (dispatch.step engine event)
    rw [trace, Serving.runFrom_append]
    exact later

theorem trace_append (engine : Nat → Engine) (dispatch : Dispatch) (events more : List Event) :
    dispatch.trace engine (events ++ more) =
      dispatch.trace engine events ++ (dispatch.runFrom engine events).trace engine more := by
  induction events generalizing dispatch with
  | nil => rfl
  | cons event events ih =>
    rw [List.cons_append, trace, trace, ih, List.append_assoc]
    rfl

theorem line_of_mem_trace {engine : Nat → Engine} {dispatch : Dispatch} {events : List Event}
    {line : List Char} (among : .line line ∈ dispatch.trace engine events) :
    .line line ∈ events := by
  induction events generalizing dispatch with
  | nil => cases among
  | cons event events ih =>
    rw [trace] at among
    rcases List.mem_append.mp among with now | later
    · cases event with
      | line other =>
        cases List.mem_singleton.mp now
        exact List.mem_cons_self
      | conclude ticket => simp [Dispatch.events] at now
      | respond ticket => simp [Dispatch.events] at now
      | write => simp [Dispatch.events] at now
    · exact List.mem_cons_of_mem _ (ih later)

def Holds (dispatch : Dispatch) (ticket : Nat) (prepared : Catalogue.Prepared) : Prop :=
  ∀ entry ∈ dispatch.pending, entry.1 = ticket → entry.2 = prepared

def Given (dispatch : Dispatch) : Prop :=
  ∀ entry ∈ dispatch.pending, entry.1 < dispatch.serving.server.nextTicket

theorem started_handleLine (server : Server) (line : List Char) :
    ∀ entry ∈ started (server.handleLine line).2.orders, entry.1 = server.nextTicket ∧
      (server.handleLine line).1.nextTicket = server.nextTicket + 1 := by
  have handles := handles_handleLine server line
  generalize server.handleLine line = after at handles ⊢
  cases handles with
  | call calls =>
    intro entry among
    rw [List.mem_singleton.mp among]
    exact ⟨rfl, rfl⟩
  | unknown => intro entry among; cases among
  | cancellation => intro entry among; cases among
  | other => intro entry among; cases among

theorem nextTicket_le_step (engine : Nat → Engine) (dispatch : Dispatch) (event : Event) :
    dispatch.serving.server.nextTicket ≤
      (dispatch.step engine event).serving.server.nextTicket :=
  Serving.nextTicket_le_runFrom dispatch.serving _

theorem Given.step {dispatch : Dispatch} (given : Given dispatch) (engine : Nat → Engine)
    (event : Event) : Given (dispatch.step engine event) := by
  have old : ∀ entry ∈ dispatch.pending,
      entry.1 < (dispatch.step engine event).serving.server.nextTicket := by
    intro entry among
    exact Nat.lt_of_lt_of_le (given entry among) (nextTicket_le_step engine dispatch event)
  cases event with
  | line line =>
    intro entry among
    rcases List.mem_append.mp among with among | new
    · exact old entry among
    · obtain ⟨ticket, next⟩ := started_handleLine dispatch.serving.server line entry new
      have after : (dispatch.step engine (.line line)).serving.server.nextTicket =
          dispatch.serving.server.nextTicket + 1 := next
      omega
  | conclude ticket =>
    intro entry among
    exact old entry (List.mem_of_mem_filter among)
  | respond ticket => exact old
  | write => exact old

theorem given_run (catalogue : Catalogue) (engine : Nat → Engine) (events : List Event) :
    Given (run catalogue engine events) := by
  have keeps {dispatch : Dispatch} (given : Given dispatch) :
      Given (dispatch.runFrom engine events) := by
    induction events generalizing dispatch with
    | nil => exact given
    | cons event events ih => exact ih (given.step engine event)
  exact keeps fun entry among => by cases among

theorem Holds.step {dispatch : Dispatch} {ticket : Nat} {prepared : Catalogue.Prepared}
    (holds : Holds dispatch ticket prepared) (old : ticket < dispatch.serving.server.nextTicket)
    (engine : Nat → Engine) (event : Event) :
    Holds (dispatch.step engine event) ticket prepared := by
  cases event with
  | line line =>
    intro entry among same
    rcases List.mem_append.mp among with among | new
    · exact holds entry among same
    · obtain ⟨fresh, -⟩ := started_handleLine dispatch.serving.server line entry new
      omega
  | conclude other =>
    intro entry among
    exact holds entry (List.mem_of_mem_filter among)
  | respond other => exact holds
  | write => exact holds

theorem Holds.result {dispatch : Dispatch} {ticket : Nat} {prepared : Catalogue.Prepared}
    (holds : Holds dispatch ticket prepared) (old : ticket < dispatch.serving.server.nextTicket)
    (engine : Nat → Engine) {events : List Event} {result : ToolResult}
    (ends : .retire ticket result ∈ dispatch.trace engine events) :
    result = prepared.result (engine ticket) := by
  induction events generalizing dispatch with
  | nil => cases ends
  | cons event events ih =>
    rw [trace] at ends
    rcases List.mem_append.mp ends with now | later
    · cases event with
      | line line => simp [Dispatch.events] at now
      | respond other => simp [Dispatch.events] at now
      | write => simp [Dispatch.events] at now
      | conclude other =>
        -- The ticket is looked up among what is pending, and there it holds only this call.
        obtain ⟨found, among, same⟩ := List.mem_map.mp now
        cases same
        obtain ⟨front, back, whole, -⟩ :=
          List.lookup_eq_some_iff.mp (Option.mem_toList.mp among)
        have own : found = prepared := holds (ticket, found) (by rw [whole]; simp) rfl
        rw [own]
    · exact ih (holds.step old engine event)
        (Nat.lt_of_lt_of_le old (nextTicket_le_step engine dispatch event)) later

theorem holds_of_toolCall? (catalogue : Catalogue) (engine : Nat → Engine) (before : List Event)
    {line : List Char} {id : Json} {call : ToolCall} (makes : toolCall? line = some (id, call)) :
    Holds ((run catalogue engine before).step engine (.line line))
      (run catalogue engine before).serving.server.nextTicket
      ((run catalogue engine before).serving.server.catalogue.call call.name call.arguments) := by
  have given := given_run catalogue engine before
  intro entry among same
  rcases List.mem_append.mp among with old | new
  · exact absurd same (Nat.ne_of_lt (given entry old))
  · rw [handleLine_of_toolCall? makes] at new
    rw [List.mem_singleton.mp new]

end Dispatch

/-- A run in which a line makes a certain call. -/
structure CallRun (catalogue : Catalogue) (id : Json) (call : ToolCall) where
  engine : Nat → Engine
  before : List Dispatch.Event
  line : List Char
  after : List Dispatch.Event
  makes : toolCall? line = some (id, call)

namespace CallRun

open Dispatch

variable {catalogue : Catalogue} {id : Json} {call : ToolCall}

def ticket (run : CallRun catalogue id call) : Nat :=
  (Dispatch.run catalogue run.engine run.before).serving.server.nextTicket

def made (run : CallRun catalogue id call) : Dispatch :=
  (Dispatch.run catalogue run.engine run.before).step run.engine (.line run.line)

def last (run : CallRun catalogue id call) : Dispatch :=
  Dispatch.run catalogue run.engine (run.before ++ .line run.line :: run.after)

def IsKept (run : CallRun catalogue id call) : Prop :=
  ¬ run.made.serving.TakesBack run.ticket (run.made.trace run.engine run.after)

def responses (run : CallRun catalogue id call) : List Response :=
  Serving.answersTo run.ticket ((Serving.start catalogue).log
    ((Dispatch.start catalogue).trace run.engine (run.before ++ .line run.line :: run.after)))

def answer (run : CallRun catalogue id call) : Engine := run.engine run.ticket

theorem catalogue_before (run : CallRun catalogue id call) :
    (Dispatch.run catalogue run.engine run.before).serving.server.catalogue = catalogue := by
  rw [Dispatch.run, serving_runFrom]
  exact Serving.catalogue_runFrom _ _

theorem trace_whole (run : CallRun catalogue id call) :
    (Dispatch.start catalogue).trace run.engine (run.before ++ .line run.line :: run.after) =
      (Dispatch.start catalogue).trace run.engine run.before ++
        .line run.line :: run.made.trace run.engine run.after := by
  rw [trace_append]
  rfl

theorem serving_last (run : CallRun catalogue id call) :
    run.last.serving = Serving.run catalogue
      ((Dispatch.start catalogue).trace run.engine run.before ++
        .line run.line :: run.made.trace run.engine run.after) := by
  rw [← trace_whole, last, Dispatch.run, serving_runFrom]
  rfl

theorem ticket_eq (run : CallRun catalogue id call) :
    run.ticket =
      (Serving.ledger ((Dispatch.start catalogue).trace run.engine run.before)).count := by
  rw [ticket, Dispatch.run, serving_runFrom, ← Serving.nextTicket_run catalogue]
  rfl

def response (catalogue : Catalogue) (id : Json) (call : ToolCall) (answer : Engine) : Response :=
  ⟨some id, .result
    ((catalogue.call call.name call.arguments).result answer).encode⟩

theorem serving_made (run : CallRun catalogue id call) :
    run.made.serving =
      Serving.run catalogue ((Dispatch.start catalogue).trace run.engine run.before ++
        [.line run.line]) := by
  have before : (Dispatch.run catalogue run.engine run.before).serving =
      Serving.run catalogue ((Dispatch.start catalogue).trace run.engine run.before) :=
    serving_runFrom run.engine (Dispatch.start catalogue) run.before
  rw [Serving.run_append, ← before]
  rfl

theorem running_made (run : CallRun catalogue id call) :
    ⟨run.ticket, id, false⟩ ∈ run.made.serving.server.running := by
  rw [serving_made, ticket_eq]
  exact Serving.mem_running_of_call catalogue (callId?_of_toolCall? run.makes)

theorem isKept_of_other {run : CallRun catalogue id call}
    (other : ∀ line, .line line ∈ run.after → cancelledKey? line ≠ some id.text) : run.IsKept := by
  intro takes
  have numbered : Serving.Numbered run.made.serving := by
    rw [serving_made]
    exact Serving.numbered_run catalogue _
  obtain ⟨line, among, cancels⟩ := takes.exists_line numbered run.running_made
  exact other line (line_of_mem_trace among) cancels

theorem result_of_retire {run : CallRun catalogue id call} {result : ToolResult}
    (ends : .retire run.ticket result ∈ run.made.trace run.engine run.after) :
    result = (catalogue.call call.name call.arguments).result run.answer := by
  have holds := holds_of_toolCall? catalogue run.engine run.before run.makes
  rw [catalogue_before] at holds
  refine holds.result ?_ run.engine ends
  have handled := handleLine_of_toolCall? run.makes
    (Dispatch.run catalogue run.engine run.before).serving.server
  have next : run.made.serving.server.nextTicket = run.ticket + 1 := by
    rw [made, Dispatch.step]
    simp only [Dispatch.events, Serving.runFrom, List.foldl_cons, List.foldl_nil, Serving.step,
      Serving.takeLine, handled]
    rfl
  exact Nat.lt_of_lt_of_eq (Nat.lt_succ_self _) next.symm

/-- A call that is kept is answered once at most, and is when the run is done. -/
theorem responses_of_isKept {run : CallRun catalogue id call} (kept : run.IsKept) :
    (run.responses = [] ∨ run.responses = [response catalogue id call run.answer]) ∧
      (run.last.serving.isDone = true →
        run.responses = [response catalogue id call run.answer]) := by
  obtain ⟨cancelled, taken, fate⟩ := Serving.exists_fate_of_call catalogue
    ((Dispatch.start catalogue).trace run.engine run.before)
    (run.made.trace run.engine run.after) (callId?_of_toolCall? run.makes)
  rw [← serving_made, ← ticket_eq] at taken
  have free : cancelled = false := by
    cases cancelled with
    | false => rfl
    | true => exact absurd (taken.mp rfl) kept
  rw [← serving_last, ← ticket_eq, ← trace_whole] at fate
  change Serving.Fate _ _ _ run.responses at fate
  subst free
  refine ⟨?_, fun done => ?_⟩
  · generalize run.responses = responses at fate ⊢
    cases fate with
    | underWay => exact Or.inl rfl
    | retired => exact Or.inl rfl
    | answered ends =>
      rw [result_of_retire ends]
      exact Or.inr rfl
  · obtain ⟨idle, answered, -⟩ := Serving.isDone_iff.mp done
    obtain ⟨result, ends, same⟩ := fate.exists_result idle answered
    rw [same, result_of_retire ends]
    rfl

theorem mem_written (run : CallRun catalogue id call) (done : run.last.serving.isDone = true) :
    ∀ answer ∈ run.responses, answer ∈ run.last.serving.written := by
  intro answer among
  obtain ⟨entry, logged, own⟩ := List.mem_filterMap.mp among
  have sent := Serving.output_runFrom (Serving.start catalogue)
    ((Dispatch.start catalogue).trace run.engine (run.before ++ .line run.line :: run.after))
  rw [trace_whole, ← Serving.run, ← serving_last, Serving.output,
    (Serving.isDone_iff.mp done).2.2, List.append_nil, ← trace_whole] at sent
  rw [sent]
  split at own
  · cases own
    exact List.mem_append_right _ (List.mem_map_of_mem logged)
  · cases own

/-- Whatever else two runs contain, a call that both make and in which the engine makes the same of
    its query is answered the same in both, if it is not taken back; it is once they are done. -/
theorem responses_alike (catalogue : Catalogue) (id : Json) (call : ToolCall)
    (first second : CallRun catalogue id call) (kept : first.IsKept) (kept' : second.IsKept)
    (same : ∀ query, catalogue.call call.name call.arguments = .query query →
      first.answer query = second.answer query) :
    ∃ response : Response, response.id = some id ∧
      ∀ run ∈ [first, second],
        (run.responses = [] ∨ run.responses = [response]) ∧
        (run.last.serving.isDone = true →
          run.responses = [response] ∧ response ∈ run.last.serving.written) := by
  have alike :
      response catalogue id call second.answer = response catalogue id call first.answer := by
    unfold response
    cases prepared : catalogue.call call.name call.arguments with
    | answered result => rfl
    | query query => simp only [Catalogue.Prepared.result, same query prepared]
  have answered {run : CallRun catalogue id call} (kept : run.IsKept)
      (own : response catalogue id call run.answer = response catalogue id call first.answer) :
      (run.responses = [] ∨ run.responses = [response catalogue id call first.answer]) ∧
        (run.last.serving.isDone = true →
          run.responses = [response catalogue id call first.answer] ∧
          response catalogue id call first.answer ∈ run.last.serving.written) := by
    obtain ⟨once, whenDone⟩ := responses_of_isKept kept
    rw [own] at once whenDone
    refine ⟨once, fun done => ⟨whenDone done, run.mem_written done _ ?_⟩⟩
    rw [whenDone done]
    exact List.mem_singleton_self _
  refine ⟨response catalogue id call first.answer, rfl, fun run among => ?_⟩
  rcases List.mem_cons.mp among with rfl | among
  · exact answered kept rfl
  · rw [List.mem_singleton.mp among]
    exact answered kept' alike

def metricsCall : ToolCall := ⟨"codegraph_get_parser_metrics", .null⟩

def isMetricsCall : Option (Json × ToolCall) → Bool
  | some (.int 1, ⟨name, .null⟩) => name == metricsCall.name
  | _ => false

theorem eq_of_isMetricsCall {made : Option (Json × ToolCall)} (isIt : isMetricsCall made = true) :
    made = some (.int 1, metricsCall) := by
  unfold isMetricsCall at isIt
  split at isIt
  · rw [beq_iff_eq] at isIt
    subst isIt
    rfl
  · cases isIt

def alone : CallRun (.ofRoot [] .builtIn) (.int 1) metricsCall where
  engine _ _ := .error (.closed "exited")
  before := []
  line := Serving.requestLine "tools/call"
    "\"params\":\x7b\"name\":\"codegraph_get_parser_metrics\"\x7d,\"id\":1"
  after := [.conclude 0, .respond 0, .write]
  makes := eq_of_isMetricsCall (by decide +kernel)

/-- The call among others: one of which the engine makes something else, which is taken back and
    ends later, and a ping. -/
def crowded : CallRun (.ofRoot [] .builtIn) (.int 1) metricsCall where
  engine ticket _ := if ticket = 1 then .error (.closed "exited") else .error .cancelled
  before := [.line (Serving.requestLine "tools/call"
    "\"params\":\x7b\"name\":\"codegraph_reindex_workspace\"\x7d,\"id\":2")]
  line := Serving.requestLine "tools/call"
    "\"id\":1,\"params\":\x7b\"name\":\"codegraph_get_parser_metrics\"\x7d"
  after := [
    .line (Serving.requestLine "notifications/cancelled"
      "\"params\":\x7b\"requestId\":2\x7d"),
    .conclude 1, .line (Serving.requestLine "ping" "\"id\":3"), .conclude 0, .respond 0,
    .respond 1, .write, .write]
  makes := eq_of_isMetricsCall (by decide +kernel)

theorem responses_alike_crowded :
    ∃ response : Response, response.id = some (.int 1) ∧ alone.responses = [response] ∧
      crowded.responses = [response] ∧ response ∈ crowded.last.serving.written := by
  have keptAlone : alone.IsKept := by
    refine isKept_of_other fun line among => ?_
    simp [alone] at among
  have keptCrowded : crowded.IsKept := by
    refine isKept_of_other fun line among => ?_
    simp only [crowded, List.mem_cons, Event.line.injEq, reduceCtorEq, false_or, or_false,
      List.not_mem_nil] at among
    rcases among with rfl | rfl <;> decide +kernel
  have ticket : crowded.ticket = 1 := by decide +kernel
  obtain ⟨response, own, alike⟩ := responses_alike (.ofRoot [] .builtIn) (.int 1) metricsCall alone
    crowded keptAlone keptCrowded fun query _ => by
      rw [answer, answer, ticket]
      rfl
  have doneAlone : alone.last.serving.isDone = true := by decide +kernel
  have doneCrowded : crowded.last.serving.isDone = true := by decide +kernel
  obtain ⟨answered, written⟩ := (alike crowded (by simp)).2 doneCrowded
  exact ⟨response, own, ((alike alone (by simp)).2 doneAlone).1, answered, written⟩

end CallRun

end CodeGateway.Agent
