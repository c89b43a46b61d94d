import CodeGateway.Proofs.ExactlyOnce
import CodeGateway.Proofs.ResponseLog
import CodeGateway.Proofs.Trimming

namespace CodeGateway.Agent

def Answer.code? : Answer → Option Int
  | .result _ => none
  | .error code _ => some code

/-- A line that needs no engine, with the identifier and the code of the answer that it is to
    have. -/
inductive NeedsNoEngine (line : List Char) : (id : Option Json) → (code : Option Int) → Prop
  | unreadable (text : ∃ c ∈ line, Text.isBlank c = false) (noRequest : request? line = none) :
    NeedsNoEngine line none (some (-32700))
  | misfit {request : Request} {id : Json} {error : Decode.Error}
      (isRequest : request? line = some request) (hasId : request.id = some id)
      (isCall : request.method = "tools/call")
      (misfits : ToolCall.decode request.params = .error error) :
    NeedsNoEngine line (some id) (some (-32602))
  | known {request : Request} {id : Json} (isRequest : request? line = some request)
      (hasId : request.id = some id)
      (isKnown : request.method ∈ ["initialize", "tools/list", "ping"]) :
    NeedsNoEngine line (some id) none
  | unknown {request : Request} {id : Json} (isRequest : request? line = some request)
      (hasId : request.id = some id)
      (isUnknown : request.method ∉ ["initialize", "tools/list", "ping", "tools/call",
        "notifications/initialized", "notifications/cancelled"]) :
    NeedsNoEngine line (some id) (some (-32601))

theorem handleLine_of_unreadable {line : List Char} (text : ∃ c ∈ line, Text.isBlank c = false)
    (noRequest : request? line = none) :
    ∃ message, ∀ server : Server,
      server.handleLine line = (server, .respond none (.error (-32700) message)) := by
  have notBlank : (Text.trimChars line).isEmpty = false := by
    obtain ⟨c, among, notBlank⟩ := text
    rw [List.isEmpty_eq_false_iff, Ne, Text.trimChars_eq_nil_iff, List.all_eq_true]
    intro blank
    rw [blank c among] at notBlank
    cases notBlank
  rw [request?, notBlank] at noRequest
  cases parsed : Request.parse (Utf8.encode (Text.trimChars line)) with
  | ok request =>
    rw [parsed] at noRequest
    cases noRequest
  | error error =>
    refine ⟨s!"Parse error: {error.message}", fun server => ?_⟩
    simp [Server.handleLine, notBlank, parsed, parseErrorCode]

theorem answer?_of_known {request : Request}
    (isKnown : request.method ∈ ["initialize", "tools/list", "ping"]) (catalogue : Catalogue) :
    ∃ result, ∀ server : Server, server.catalogue = catalogue →
      server.answer? request = some (.result result) := by
  simp only [List.mem_cons, List.not_mem_nil, or_false] at isKnown
  unfold Server.answer?
  rcases isKnown with same | same | same <;> rw [same]
  · exact ⟨handshakeResult, fun server _ => rfl⟩
  · refine ⟨.object [("tools", .array (catalogue.tools.map Tool.definition))], ?_⟩
    rintro server rfl
    rfl
  · exact ⟨.object [], fun server _ => rfl⟩

theorem NeedsNoEngine.handleLine {line : List Char} {id : Option Json} {code : Option Int}
    (needs : NeedsNoEngine line id code) (catalogue : Catalogue) :
    ∃ answer : Answer, answer.code? = code ∧ ∀ server : Server, server.catalogue = catalogue →
      server.handleLine line = (server, .respond id answer) := by
  cases needs with
  | unreadable text noRequest =>
    obtain ⟨message, handled⟩ := handleLine_of_unreadable text noRequest
    exact ⟨.error (-32700) message, rfl, fun server _ => handled server⟩
  | @misfit request id error isRequest hasId isCall misfits =>
    refine ⟨.error (-32602) s!"Invalid params: {error.message}", rfl, fun server _ => ?_⟩
    rw [handleLine_of_request isRequest]
    simp [Server.handle, isCall, hasId, Server.handleCall, misfits, invalidParamsCode]
  | @known request id isRequest hasId isKnown =>
    obtain ⟨result, answered⟩ := answer?_of_known isKnown catalogue
    refine ⟨.result result, rfl, fun server alike => ?_⟩
    have other : request.method ≠ "tools/call" ∧ request.method ≠ "notifications/cancelled" := by
      constructor <;> intro same <;> simp [same] at isKnown
    rw [handleLine_of_request isRequest]
    simp [Server.handle, other, answered server alike, hasId]
  | @unknown request id isRequest hasId isUnknown =>
    refine ⟨.error (-32601) s!"Method not found: {request.method}", rfl, fun server _ => ?_⟩
    simp only [List.mem_cons, List.not_mem_nil, or_false, not_or] at isUnknown
    rw [handleLine_of_request isRequest]
    simp [Server.handle, Server.answer?, isUnknown, hasId, unknownMethodCode]

theorem NeedsNoEngine.answers {line : List Char} {id : Option Json} {code : Option Int}
    (needs : NeedsNoEngine line id code) (catalogue : Catalogue) :
    ∃ answer : Answer, answer.code? = code ∧ answers catalogue line = [⟨id, answer⟩] ∧
      ∀ server : Server, server.catalogue = catalogue →
        server.handleLine line = (server, ⟨[⟨id, answer⟩], []⟩) := by
  obtain ⟨answer, coded, handled⟩ := needs.handleLine catalogue
  refine ⟨answer, coded, ?_, handled⟩
  rw [Agent.answers, handled (Server.start catalogue) rfl]
  rfl

theorem handleLine_of_blank {line : List Char} (blank : ∀ c ∈ line, Text.isBlank c = true)
    (server : Server) : server.handleLine line = (server, .none) := by
  have none : Text.trimChars line = [] :=
    Text.trimChars_eq_nil_iff.mpr (List.all_eq_true.mpr blank)
  simp [Server.handleLine, none]

theorem answers_of_call {line : List Char} {id : Json} (calls : callId? line = some id)
    (catalogue : Catalogue) : answers catalogue line = [] := by
  have handles := handles_handleLine (Server.start catalogue) line
  unfold answers
  generalize (Server.start catalogue).handleLine line = after at handles ⊢
  cases handles with
  | call => rfl
  | unknown => rfl
  | cancellation => rfl
  | other none => simp [calls] at none

theorem responses_handleLine (server : Server) (line : List Char) :
    (server.handleLine line).2.responses = answers server.catalogue line := by
  have handles := handles_handleLine server line
  generalize server.handleLine line = after at handles ⊢
  cases handles with
  | call calls => exact (answers_of_call calls _).symm
  | unknown _ cancels => exact (answers_of_cancellation cancels _).symm
  | cancellation _ cancels => exact (answers_of_cancellation cancels _).symm
  | other => rfl

namespace Serving

def Event.line? : Event → Option (List Char)
  | .line text => some text
  | _ => none

/-- The responses that stand on no call's account. -/
def atOnce (entries : List (Option Nat × Response)) : List Response :=
  (entries.filter fun entry => entry.1.isNone).map Prod.snd

theorem atOnce_append (entries more : List (Option Nat × Response)) :
    atOnce (entries ++ more) = atOnce entries ++ atOnce more := by
  rw [atOnce, List.filter_append, List.map_append, ← atOnce, ← atOnce]

theorem atOnce_posts (serving : Serving) (event : Event) :
    atOnce (serving.posts event) =
      event.line?.toList.flatMap (answers serving.server.catalogue) := by
  cases event with
  | line line =>
    simp [atOnce, posts, Event.line?, List.filter_map, Function.comp_def, responses_handleLine]
  | retire => rfl
  | write => rfl
  | respond ticket =>
    -- What is sent for a call stands on its account.
    simp only [posts, Event.line?, Option.toList_none, List.flatMap_nil]
    split
    · simp [atOnce, List.filter_map, Function.comp_def]
    · rfl

theorem atOnce_log (serving : Serving) (events : List Event) :
    atOnce (serving.log events) =
      (events.filterMap Event.line?).flatMap (answers serving.server.catalogue) := by
  induction events generalizing serving with
  | nil => rfl
  | cons event events ih =>
    have later := ih (serving.step event)
    rw [catalogue_step] at later
    rw [log, atOnce_append, atOnce_posts, later, ← List.flatMap_append]
    cases event <;> rfl

/-- From any state of the server on: a line that needs no engine is answered with its identifier and
    by its kind, by one response that stands in the queue before anything else happens, and nothing
    else changes, whatever calls are under way. Blank lines do nothing. However lines and calls mix,
    the responses at once stand in the output in the order of their lines. -/
theorem immediate_answers (serving : Serving) :
    (∀ line id code, NeedsNoEngine line id code → ∃ answer : Answer, answer.code? = code ∧
      answers serving.server.catalogue line = [⟨id, answer⟩] ∧
      ∀ before, (serving.runFrom before).step (.line line) =
        { serving.runFrom before with
          queued := (serving.runFrom before).queued ++ [⟨id, answer⟩] }) ∧
    (∀ line, (∀ c ∈ line, Text.isBlank c = true) →
      answers serving.server.catalogue line = [] ∧
      ∀ before, (serving.runFrom before).step (.line line) = serving.runFrom before) ∧
    ∀ events,
      (serving.runFrom events).written ++ (serving.runFrom events).queued =
        serving.written ++ serving.queued ++ (serving.log events).map Prod.snd ∧
      atOnce (serving.log events) =
        (events.filterMap Event.line?).flatMap (answers serving.server.catalogue) := by
  refine ⟨fun line id code needs => ?_, fun line blank => ⟨?_, fun before => ?_⟩,
    fun events => ⟨output_runFrom serving events, atOnce_log serving events⟩⟩
  · obtain ⟨answer, coded, answered, handled⟩ := needs.answers serving.server.catalogue
    refine ⟨answer, coded, answered, fun before => ?_⟩
    rw [step, takeLine, handled _ (catalogue_runFrom serving before)]
  · rw [answers, handleLine_of_blank blank]
    rfl
  · rw [step, takeLine, handleLine_of_blank blank]
    simp [Reaction.none]

def misfitLine : List Char := requestLine "tools/call" "\"params\":7,\"id\":7"

theorem needsNoEngine_misfitLine :
    ∃ id, id.word? = some 7 ∧ NeedsNoEngine misfitLine (some id) (some (-32602)) := by
  have shape : (request? misfitLine).map (fun request => (request.method,
      request.id.bind Json.word?, (ToolCall.decode request.params).isOk)) =
        some ("tools/call", some 7, false) := by decide +kernel
  obtain ⟨request, isRequest, same⟩ := Option.map_eq_some_iff.mp shape
  simp only [Prod.mk.injEq] at same
  obtain ⟨isCall, number, misfits⟩ := same
  obtain ⟨id, hasId, word⟩ := Option.bind_eq_some_iff.mp number
  cases decoded : ToolCall.decode request.params with
  | ok call =>
    rw [decoded] at misfits
    cases misfits
  | error error => exact ⟨id, word, .misfit isRequest hasId isCall decoded⟩

theorem immediate_answers_misfit :
    ((start ⟨[], .builtIn, []⟩).runFrom (overlap.take 2)).server.running.length = 2 ∧
      ∃ id answer, id.word? = some 7 ∧ NeedsNoEngine misfitLine (some id) (some (-32602)) ∧
        answer.code? = some (-32602) ∧
        ((start ⟨[], .builtIn, []⟩).runFrom (overlap.take 2)).step (.line misfitLine) =
          { (start ⟨[], .builtIn, []⟩).runFrom (overlap.take 2) with
            queued := ((start ⟨[], .builtIn, []⟩).runFrom (overlap.take 2)).queued ++
              [⟨some id, answer⟩] } := by
  obtain ⟨id, word, needs⟩ := needsNoEngine_misfitLine
  obtain ⟨answer, coded, -, answered⟩ :=
    (immediate_answers (start ⟨[], .builtIn, []⟩)).1 misfitLine (some id) (some (-32602)) needs
  exact ⟨by decide +kernel, id, answer, word, needs, coded, answered _⟩

end Serving

end CodeGateway.Agent
