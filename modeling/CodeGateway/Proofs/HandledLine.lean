import CodeGateway.Agent.Server

namespace CodeGateway.Agent

def request? (line : List Char) : Option Request :=
  if (Text.trimChars line).isEmpty then none
  else (Request.parse (Utf8.encode (Text.trimChars line))).toOption

def callId? (line : List Char) : Option Json :=
  (request? line).bind fun request =>
    if request.method = "tools/call" ∧ (ToolCall.decode request.params).isOk then request.id
    else none

/-- The text of the identifier that a line takes back. -/
def cancelledKey? (line : List Char) : Option (List Char) :=
  (request? line).bind fun request =>
    if request.method = "notifications/cancelled" then
      (Cancellation.decode request.params).toOption.map fun cancellation => cancellation.id.text
    else none

def answers (catalogue : Catalogue) (line : List Char) : List Response :=
  ((Server.start catalogue).handleLine line).2.responses

theorem callId?_of_request {line : List Char} {request : Request}
    (isRequest : request? line = some request) :
    callId? line =
      if request.method = "tools/call" ∧ (ToolCall.decode request.params).isOk then request.id
      else none := by
  rw [callId?, isRequest, Option.bind_some]

theorem cancelledKey?_of_request {line : List Char} {request : Request}
    (isRequest : request? line = some request) :
    cancelledKey? line =
      if request.method = "notifications/cancelled" then
        (Cancellation.decode request.params).toOption.map fun cancellation => cancellation.id.text
      else none := by
  rw [cancelledKey?, isRequest, Option.bind_some]

theorem id_of_callId? {line : List Char} {id : Json} (calls : callId? line = some id) :
    (request? line).bind Request.id = some id := by
  cases isRequest : request? line with
  | none =>
    rw [callId?, isRequest] at calls
    cases calls
  | some request =>
    rw [callId?_of_request isRequest] at calls
    split at calls
    · exact calls
    · cases calls

/-- The responses to a line carry its identifier, and none when it has none. -/
def AreOwn (line : List Char) (responses : List Response) : Prop :=
  ∀ response ∈ responses, response.id = (request? line).bind Request.id

theorem areOwn_nil (line : List Char) : AreOwn line [] := by
  intro response member
  cases member

theorem areOwn_singleton {line : List Char} {response : Response}
    (own : response.id = (request? line).bind Request.id) : AreOwn line [response] := by
  intro other member
  rw [List.mem_singleton] at member
  rw [member, own]

inductive Handles (server : Server) (line : List Char) : Server × Reaction → Prop
  | call {id : Json} {prepared : Catalogue.Prepared} (calls : callId? line = some id)
      (keeps : cancelledKey? line = none) : Handles server line (server.launch id prepared)
  | unknown {key : List Char} (calls : callId? line = none)
      (cancels : cancelledKey? line = some key) (missing : server.named.lookup key = none) :
    Handles server line (server, .none)
  | cancellation {key : List Char} {ticket : Nat} (calls : callId? line = none)
      (cancels : cancelledKey? line = some key) (found : server.named.lookup key = some ticket) :
    Handles server line
      ({ server with running := server.running.map fun call =>
          if call.ticket == ticket then { call with cancelled := true } else call },
        ⟨[], [.cancel ticket]⟩)
  | other (calls : callId? line = none) (cancels : cancelledKey? line = none)
      (own : AreOwn line (answers server.catalogue line)) :
    Handles server line (server, ⟨answers server.catalogue line, []⟩)

theorem Handles.of_answered {server : Server} {line : List Char} (reaction : Reaction)
    (calls : callId? line = none) (cancels : cancelledKey? line = none)
    (answered : ∀ other : Server, other.catalogue = server.catalogue →
      other.handleLine line = (other, reaction))
    (own : AreOwn line reaction.responses) (orders : reaction.orders = []) :
    Handles server line (server.handleLine line) := by
  have same : answers server.catalogue line = reaction.responses := by
    rw [answers, answered (Server.start server.catalogue) rfl]
  have view : Handles server line (server, ⟨answers server.catalogue line, []⟩) :=
    .other calls cancels (same ▸ own)
  rwa [same, ← orders, ← answered server rfl] at view

theorem handleLine_of_request {line : List Char} {request : Request}
    (isRequest : request? line = some request) (server : Server) :
    server.handleLine line = server.handle request := by
  unfold request? at isRequest
  unfold Server.handleLine
  split at isRequest
  · cases isRequest
  · rename_i text
    cases parsed : Request.parse (Utf8.encode (Text.trimChars line)) with
    | error error =>
      rw [parsed] at isRequest
      cases isRequest
    | ok found =>
      rw [parsed] at isRequest
      cases isRequest
      simp [text, parsed]

theorem handles_of_no_request {line : List Char} (isRequest : request? line = none)
    (server : Server) : Handles server line (server.handleLine line) := by
  have calls : callId? line = none := by rw [callId?, isRequest]; rfl
  have cancels : cancelledKey? line = none := by rw [cancelledKey?, isRequest]; rfl
  have own : none = (request? line).bind Request.id := by rw [isRequest]; rfl
  unfold request? at isRequest
  split at isRequest
  · rename_i text
    refine .of_answered .none calls cancels ?_ (areOwn_nil line) rfl
    intro other _
    simp [Server.handleLine, text]
  · rename_i text
    cases parsed : Request.parse (Utf8.encode (Text.trimChars line)) with
    | ok request =>
      rw [parsed] at isRequest
      cases isRequest
    | error error =>
      refine .of_answered (.respond none
        (.error parseErrorCode s!"Parse error: {error.message}")) calls cancels ?_
          (areOwn_singleton own) rfl
      intro other _
      simp [Server.handleLine, text, parsed]

theorem handles_of_call {line : List Char} {request : Request}
    (isRequest : request? line = some request) (isCall : request.method = "tools/call")
    (server : Server) : Handles server line (server.handleLine line) := by
  have handled (other : Server) := handleLine_of_request isRequest other
  have cancels : cancelledKey? line = none := by
    rw [cancelledKey?_of_request isRequest, isCall]
    rfl
  cases hasId : request.id with
  | none =>
    have calls : callId? line = none := by
      rw [callId?_of_request isRequest, hasId, ite_self]
    refine .of_answered .none calls cancels ?_ (areOwn_nil line) rfl
    intro other _
    simp [handled, Server.handle, isCall, hasId]
  | some id =>
    cases decoded : ToolCall.decode request.params with
    | error error =>
      have calls : callId? line = none := by
        rw [callId?_of_request isRequest, if_neg]
        simp [decoded, Except.isOk, Except.toBool]
      have own : some id = (request? line).bind Request.id := by rw [isRequest]; exact hasId.symm
      refine .of_answered (.respond (some id)
        (.error invalidParamsCode s!"Invalid params: {error.message}")) calls cancels ?_
          (areOwn_singleton own) rfl
      intro other _
      simp [handled, Server.handle, isCall, hasId, Server.handleCall, decoded]
    | ok call =>
      have calls : callId? line = some id := by
        rw [callId?_of_request isRequest, if_pos, hasId]
        simp [isCall, decoded, Except.isOk, Except.toBool]
      have launched : server.handleLine line =
          server.launch id (server.catalogue.call call.name call.arguments) := by
        simp [handled, Server.handle, isCall, hasId, Server.handleCall, decoded]
      rw [launched]
      exact .call calls cancels

theorem handles_of_cancellation {line : List Char} {request : Request}
    (isRequest : request? line = some request)
    (isCancellation : request.method = "notifications/cancelled") (server : Server) :
    Handles server line (server.handleLine line) := by
  have handled (other : Server) := handleLine_of_request isRequest other
  have calls : callId? line = none := by
    rw [callId?_of_request isRequest, if_neg]
    simp [isCancellation]
  cases decoded : Cancellation.decode request.params with
  | error error =>
    have cancels : cancelledKey? line = none := by
      rw [cancelledKey?_of_request isRequest, if_pos isCancellation, decoded]
      rfl
    refine .of_answered .none calls cancels ?_ (areOwn_nil line) rfl
    intro other _
    simp [handled, Server.handle, isCancellation, Server.handleCancellation, decoded]
  | ok cancellation =>
    have cancels : cancelledKey? line = some cancellation.id.text := by
      rw [cancelledKey?_of_request isRequest, if_pos isCancellation, decoded]
      rfl
    rw [handled]
    cases found : server.named.lookup cancellation.id.text with
    | none =>
      have unchanged : server.handle request = (server, .none) := by
        simp [Server.handle, isCancellation, Server.handleCancellation, decoded, found]
      rw [unchanged]
      exact .unknown calls cancels found
    | some ticket =>
      have taken : server.handle request =
          ({ server with running := server.running.map fun call =>
              if call.ticket == ticket then { call with cancelled := true } else call },
            ⟨[], [.cancel ticket]⟩) := by
        simp [Server.handle, isCancellation, Server.handleCancellation, decoded, found]
      rw [taken]
      exact .cancellation calls cancels found

theorem handles_of_other {line : List Char} {request : Request}
    (isRequest : request? line = some request) (noCall : request.method ≠ "tools/call")
    (noCancellation : request.method ≠ "notifications/cancelled") (server : Server) :
    Handles server line (server.handleLine line) := by
  have handled (other : Server) := handleLine_of_request isRequest other
  have calls : callId? line = none := by
    rw [callId?_of_request isRequest, if_neg]
    simp [noCall]
  have cancels : cancelledKey? line = none := by
    rw [cancelledKey?_of_request isRequest, if_neg noCancellation]
  have same {other : Server} (catalogue : other.catalogue = server.catalogue) :
      other.answer? request = server.answer? request := by
    simp only [Server.answer?, catalogue]
  cases found : server.answer? request with
  | some answer =>
    have own : request.id = (request? line).bind Request.id := by rw [isRequest]; rfl
    refine .of_answered (.respond request.id answer) calls cancels ?_ (areOwn_singleton own) rfl
    intro other catalogue
    simp [handled, Server.handle, noCall, noCancellation, same catalogue, found]
  | none =>
    refine .of_answered .none calls cancels ?_ (areOwn_nil line) rfl
    intro other catalogue
    simp [handled, Server.handle, noCall, noCancellation, same catalogue, found]

theorem handles_handleLine (server : Server) (line : List Char) :
    Handles server line (server.handleLine line) := by
  cases isRequest : request? line with
  | none => exact handles_of_no_request isRequest server
  | some request =>
    by_cases isCall : request.method = "tools/call"
    · exact handles_of_call isRequest isCall server
    · by_cases isCancellation : request.method = "notifications/cancelled"
      · exact handles_of_cancellation isRequest isCancellation server
      · exact handles_of_other isRequest isCall isCancellation server

theorem answers_of_cancellation {line : List Char} {key : List Char}
    (cancels : cancelledKey? line = some key) (catalogue : Catalogue) :
    answers catalogue line = [] := by
  have handles := handles_handleLine (Server.start catalogue) line
  unfold answers
  generalize (Server.start catalogue).handleLine line = after at handles ⊢
  cases handles with
  | call _ keeps => simp [cancels] at keeps
  | unknown => rfl
  | cancellation => rfl
  | other _ keeps => simp [cancels] at keeps

theorem areOwn_answers (catalogue : Catalogue) (line : List Char) :
    AreOwn line (answers catalogue line) := by
  have handles := handles_handleLine (Server.start catalogue) line
  unfold answers
  generalize (Server.start catalogue).handleLine line = after at handles ⊢
  cases handles with
  | call => exact areOwn_nil line
  | unknown => exact areOwn_nil line
  | cancellation => exact areOwn_nil line
  | other _ _ own => exact own

theorem exists_answer {server : Server} {request : Request} {id : Json}
    (hasId : request.id = some id) (notInitialized : request.method ≠ "notifications/initialized") :
    ∃ answer, server.answer? request = some answer := by
  unfold Server.answer?
  simp only [hasId, beq_iff_eq, notInitialized, if_false, Option.isNone_some, Bool.false_eq_true]
  split
  · exact ⟨_, rfl⟩
  · split
    · exact ⟨_, rfl⟩
    · split
      · exact ⟨_, rfl⟩
      · exact ⟨_, rfl⟩

theorem answers_of_request {line : List Char} {request : Request} {id : Json}
    (isRequest : request? line = some request) (hasId : request.id = some id)
    (noCall : callId? line = none) (notInitialized : request.method ≠ "notifications/initialized")
    (notCancelled : request.method ≠ "notifications/cancelled") (catalogue : Catalogue) :
    ∃ answer, answers catalogue line = [⟨some id, answer⟩] := by
  rw [answers, handleLine_of_request isRequest, Server.handle]
  by_cases isCall : request.method = "tools/call"
  · cases decoded : ToolCall.decode request.params with
    | error error =>
      exact ⟨.error invalidParamsCode s!"Invalid params: {error.message}",
        by simp [isCall, hasId, Server.handleCall, decoded, Reaction.respond]⟩
    | ok call =>
      rw [callId?_of_request isRequest, if_pos, hasId] at noCall
      · cases noCall
      · simp [isCall, decoded, Except.isOk, Except.toBool]
  · have answered : ∃ answer, (Server.start catalogue).answer? request = some answer :=
      exists_answer hasId notInitialized
    obtain ⟨answer, answered⟩ := answered
    exact ⟨answer, by simp [isCall, notCancelled, answered, hasId, Reaction.respond]⟩

end CodeGateway.Agent
