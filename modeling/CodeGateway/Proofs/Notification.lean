import CodeGateway.Proofs.CallFate
import CodeGateway.Proofs.ExactlyOnce

namespace CodeGateway.Agent

def RunningCall.withdraw (ticket : Nat) (call : RunningCall) : RunningCall :=
  if call.ticket == ticket then { call with cancelled := true } else call

@[simp] theorem RunningCall.ticket_withdraw (ticket : Nat) (call : RunningCall) :
    (call.withdraw ticket).ticket = call.ticket := by
  unfold withdraw
  split <;> rfl

@[simp] theorem RunningCall.id_withdraw (ticket : Nat) (call : RunningCall) :
    (call.withdraw ticket).id = call.id := by
  unfold withdraw
  split <;> rfl

theorem RunningCall.withdraw_comm (first second : Nat) (call : RunningCall) :
    (call.withdraw second).withdraw first = (call.withdraw first).withdraw second := by
  by_cases one : call.ticket = first
  · have now : call.withdraw first = { call with cancelled := true } := if_pos (by simpa using one)
    have later : (call.withdraw second).withdraw first =
        { call.withdraw second with cancelled := true } := if_pos (by simpa using one)
    rw [now, later]
    simp only [withdraw]
    split <;> rfl
  · have now : call.withdraw first = call := if_neg (by simpa using one)
    have later : (call.withdraw second).withdraw first = call.withdraw second :=
      if_neg (by simpa using one)
    rw [now, later]

def Server.withdraw (server : Server) (ticket : Nat) : Server :=
  { server with running := server.running.map (RunningCall.withdraw ticket) }

theorem Server.launch_withdraw {server : Server} {ticket : Nat} (old : ticket < server.nextTicket)
    (id : Json) (prepared : Catalogue.Prepared) :
    (server.withdraw ticket).launch id prepared =
      ((server.launch id prepared).1.withdraw ticket, (server.launch id prepared).2) := by
  have fresh : RunningCall.withdraw ticket ⟨server.nextTicket, id, false⟩ =
      ⟨server.nextTicket, id, false⟩ := if_neg (by simpa using Nat.ne_of_gt old)
  simp only [launch, forget, withdraw, List.map_append, List.map_cons, List.map_nil, fresh]

theorem Server.handleCancellation_withdraw (server : Server) (ticket : Nat) (params : Json) :
    (server.withdraw ticket).handleCancellation params =
      ((server.handleCancellation params).1.withdraw ticket,
        (server.handleCancellation params).2) := by
  unfold handleCancellation
  cases Cancellation.decode params with
  | error error => rfl
  | ok cancellation =>
    have same : (server.withdraw ticket).named = server.named := rfl
    simp only [same]
    cases server.named.lookup cancellation.id.text with
    | none => rfl
    | some other =>
      refine Prod.ext (congrArg (fun running => { server with running }) ?_) rfl
      simp only [withdraw, List.map_map]
      exact List.map_congr_left fun call _ => call.withdraw_comm other ticket

theorem Server.handleCall_withdraw {server : Server} {ticket : Nat}
    (old : ticket < server.nextTicket) (id params : Json) :
    (server.withdraw ticket).handleCall id params =
      ((server.handleCall id params).1.withdraw ticket, (server.handleCall id params).2) := by
  unfold handleCall
  cases ToolCall.decode params with
  | error error => rfl
  | ok call => exact launch_withdraw old id _

theorem Server.handle_withdraw {server : Server} {ticket : Nat}
    (old : ticket < server.nextTicket) (request : Request) :
    (server.withdraw ticket).handle request =
      ((server.handle request).1.withdraw ticket, (server.handle request).2) := by
  unfold handle
  split
  · cases request.id with
    | none => rfl
    | some id => exact handleCall_withdraw old id request.params
  · split
    · exact handleCancellation_withdraw server ticket request.params
    · have same : (server.withdraw ticket).answer? request = server.answer? request := rfl
      rw [same]
      cases server.answer? request <;> rfl

theorem Server.handleLine_withdraw {server : Server} {ticket : Nat}
    (old : ticket < server.nextTicket) (line : List Char) :
    (server.withdraw ticket).handleLine line =
      ((server.handleLine line).1.withdraw ticket, (server.handleLine line).2) := by
  unfold handleLine
  dsimp only
  split
  · rfl
  · cases Request.parse (Utf8.encode (Text.trimChars line)) with
    | error error => rfl
    | ok request => exact handle_withdraw old request

namespace Serving

structure TookBack (ticket : Nat) (fewer more : Serving) : Prop where
  server : fewer.server = more.server.withdraw ticket
  retired : fewer.retired =
    more.retired.map fun entry => (entry.1.withdraw ticket, entry.2)

theorem TookBack.retire {ticket : Nat} {fewer more : Serving} (took : TookBack ticket fewer more)
    (other : Nat) (result : ToolResult) :
    TookBack ticket (fewer.retire other result) (more.retire other result) := by
  have found : fewer.server.running.find? (fun call => call.ticket == other) =
      (more.server.running.find? fun call => call.ticket == other).map
        (RunningCall.withdraw ticket) := by
    rw [took.server, Server.withdraw, List.find?_map]
    congr 2
    funext call
    simp
  unfold Serving.retire Server.retire
  rw [found]
  cases more.server.running.find? fun call => call.ticket == other with
  | none => exact ⟨took.server, by simp [took.retired]⟩
  | some call =>
    constructor
    · simp [took.server, Server.withdraw, Server.forget, List.filter_map, Function.comp_def]
    · simp [took.retired]

theorem TookBack.respond {ticket : Nat} {fewer more : Serving}
    (took : TookBack ticket fewer more) (other : Nat) :
    TookBack ticket (fewer.respond other) (more.respond other) := by
  constructor
  · simp [took.server]
  · simp [took.retired, List.eraseP_map, Function.comp_def]

theorem TookBack.step {ticket : Nat} {fewer more : Serving} (took : TookBack ticket fewer more)
    (old : ticket < more.server.nextTicket) (event : Event) :
    TookBack ticket (fewer.step event) (more.step event) := by
  cases event with
  | line line =>
    have handled := Server.handleLine_withdraw old line
    rw [← took.server] at handled
    exact ⟨congrArg Prod.fst handled, took.retired⟩
  | retire other result => exact took.retire other result
  | respond other => exact took.respond other
  | write =>
    constructor
    · simp only [Serving.step, server_write, took.server]
    · simp only [Serving.step, retired_write, took.retired]

theorem filter_map_account (ticket : Nat) (account : Option Nat) (responses : List Response) :
    ((responses.map (account, ·)).filter fun entry => entry.1 != some ticket) =
      if account = some ticket then [] else responses.map (account, ·) := by
  split
  · rename_i same
    simp [same]
  · rename_i different
    refine List.filter_eq_self.mpr fun entry among => ?_
    obtain ⟨response, -, rfl⟩ := List.mem_map.mp among
    simpa using different

theorem find?_retired_tookBack {ticket : Nat} {fewer more : Serving}
    (took : TookBack ticket fewer more) (other : Nat) :
    fewer.retired.find? (fun entry => entry.1.ticket == other) =
      (more.retired.find? fun entry => entry.1.ticket == other).map
        fun entry => (entry.1.withdraw ticket, entry.2) := by
  rw [took.retired, List.find?_map]
  congr 2
  funext entry
  simp

theorem TookBack.posts {ticket : Nat} {fewer more : Serving} (took : TookBack ticket fewer more)
    (old : ticket < more.server.nextTicket) (event : Event) :
    fewer.posts event = (more.posts event).filter fun entry => entry.1 != some ticket := by
  cases event with
  | line line =>
    have handled := Server.handleLine_withdraw old line
    rw [← took.server] at handled
    simp only [Serving.posts, congrArg Prod.snd handled]
    exact ((filter_map_account ticket none _).trans (if_neg (by simp))).symm
  | retire other result => rfl
  | write => rfl
  | respond other =>
    have found := find?_retired_tookBack took other
    simp only [Serving.posts, found]
    cases here : more.retired.find? fun entry => entry.1.ticket == other with
    | none => rfl
    | some entry =>
      have same : entry.1.ticket = other := by simpa using List.find?_some here
      simp only [Option.map_some, filter_map_account, Option.some.injEq]
      split
      · rename_i own
        simp [RunningCall.responses, RunningCall.withdraw, same, own]
      · rename_i own
        simp [RunningCall.withdraw, same, own]

theorem TookBack.log {ticket : Nat} {fewer more : Serving} (took : TookBack ticket fewer more)
    (old : ticket < more.server.nextTicket) (events : List Event) :
    fewer.log events = (more.log events).filter fun entry => entry.1 != some ticket := by
  induction events generalizing fewer more with
  | nil => rfl
  | cons event events ih =>
    rw [Serving.log, Serving.log, List.filter_append, took.posts old event,
      ih (took.step old event) (Nat.lt_of_lt_of_le old (nextTicket_step more event))]

end Serving

def Server.withdrawn? (server : Server) (line : List Char) : Option Nat :=
  (cancelledKey? line).bind fun key => server.named.lookup key

/-- The methods that are answered with and without an identifier. -/
def answeredAlways : List String := ["initialize", "tools/list", "ping"]

theorem answer?_of_notification (server : Server) {request : Request}
    (hasNoId : request.id = none) :
    request.method ∈ answeredAlways ∧ (∃ result, server.answer? request = some (.result result)) ∨
      request.method ∉ answeredAlways ∧ server.answer? request = none := by
  unfold Server.answer? answeredAlways
  by_cases handshake : request.method = "initialize"
  · exact Or.inl ⟨by simp [handshake], _, by rw [handshake]; rfl⟩
  by_cases list : request.method = "tools/list"
  · exact Or.inl ⟨by simp [list], _, by rw [list]; rfl⟩
  by_cases ping : request.method = "ping"
  · exact Or.inl ⟨by simp [ping], _, by rw [ping]; rfl⟩
  exact Or.inr ⟨by simp [handshake, list, ping], by simp [handshake, list, ping, hasNoId]⟩

theorem answers_of_notification {line : List Char} {request : Request}
    (isRequest : request? line = some request) (hasNoId : request.id = none)
    (catalogue : Catalogue) :
    request.method ∈ answeredAlways ∧
        (∃ result, answers catalogue line = [⟨none, .result result⟩]) ∨
      request.method ∉ answeredAlways ∧ answers catalogue line = [] := by
  by_cases isCancellation : request.method = "notifications/cancelled"
  · refine Or.inr ⟨by simp [isCancellation, answeredAlways], ?_⟩
    cases decoded : Cancellation.decode request.params with
    | error error =>
      simp [answers, handleLine_of_request isRequest, Server.handle, isCancellation,
        Server.handleCancellation, decoded, Reaction.none]
    | ok cancellation =>
      have cancels : cancelledKey? line = some cancellation.id.text := by
        rw [cancelledKey?_of_request isRequest, if_pos isCancellation, decoded]
        rfl
      exact answers_of_cancellation cancels catalogue
  by_cases isCall : request.method = "tools/call"
  · refine Or.inr ⟨by simp [isCall, answeredAlways], ?_⟩
    simp [answers, handleLine_of_request isRequest, Server.handle, isCall, hasNoId, Reaction.none]
  rw [answers, handleLine_of_request isRequest, Server.handle, if_neg (by simpa using isCall),
    if_neg (by simpa using isCancellation), hasNoId]
  rcases answer?_of_notification (Server.start catalogue) hasNoId with
    ⟨always, result, answered⟩ | ⟨passed, unanswered⟩
  · rw [answered]
    exact Or.inl ⟨always, result, rfl⟩
  · rw [unanswered]
    exact Or.inr ⟨passed, rfl⟩

theorem callId?_of_notification {line : List Char} {request : Request}
    (isRequest : request? line = some request) (hasNoId : request.id = none) :
    callId? line = none := by
  rw [callId?_of_request isRequest, hasNoId, ite_self]

theorem handleLine_of_notification {line : List Char} {request : Request}
    (isRequest : request? line = some request) (hasNoId : request.id = none) (server : Server) :
    server.handleLine line =
      match server.withdrawn? line with
      | none => (server, ⟨answers server.catalogue line, []⟩)
      | some ticket => (server.withdraw ticket, ⟨[], [.cancel ticket]⟩) := by
  have noCall := callId?_of_notification isRequest hasNoId
  have handles := handles_handleLine server line
  unfold Server.withdrawn?
  generalize server.handleLine line = after at handles ⊢
  cases handles with
  | call calls => exact absurd (calls.symm.trans noCall) (by simp)
  | unknown calls cancels missing =>
    simp [cancels, missing, answers_of_cancellation cancels, Reaction.none]
  | cancellation calls cancels found =>
    simp only [cancels, found, Option.bind_some]
    rfl
  | other calls cancels => simp [cancels]

namespace Serving

theorem tookBack_withdraw {serving : Serving} (numbered : Numbered serving) {line : List Char}
    {ticket : Nat} (takes : serving.server.withdrawn? line = some ticket) :
    TookBack ticket { serving with server := serving.server.withdraw ticket } serving ∧
      ticket < serving.server.nextTicket := by
  obtain ⟨key, -, means⟩ := Option.bind_eq_some_iff.mp takes
  obtain ⟨call, running, rfl, -⟩ := numbered.lookup means
  refine ⟨⟨rfl, ?_⟩, numbered.before call (List.mem_append_left _ running)⟩
  have others : serving.retired.map (fun entry => (entry.1.withdraw call.ticket, entry.2)) =
      serving.retired.map id := by
    refine List.map_congr_left fun entry among => ?_
    have different := numbered.not_running_of_retired among call running
    simp [RunningCall.withdraw, Ne.symm different]
  rw [others, List.map_id]

theorem log_of_same {first second : Serving} (server : first.server = second.server)
    (retired : first.retired = second.retired) (events : List Event) :
    first.log events = second.log events := by
  induction events generalizing first second with
  | nil => rfl
  | cons event events ih =>
    have posted : first.posts event = second.posts event := by
      cases event <;> simp only [posts, server, retired]
    rw [log, log, posted]
    refine congrArg _ (ih ?_ ?_)
    · cases event <;> simp [step, takeLine, retire, server]
    · cases event <;> simp [step, takeLine, retire, server, retired]

/-- What is sent after a line without an identifier is what would have been sent without that line,
    save the answer to a call that the line takes back. -/
theorem log_takeLine_of_notification {serving : Serving} (numbered : Numbered serving)
    {line : List Char} {request : Request} (isRequest : request? line = some request)
    (hasNoId : request.id = none) (later : List Event) :
    (serving.takeLine line).log later = (serving.log later).filter fun entry =>
      entry.1.isNone || entry.1 != serving.server.withdrawn? line := by
  have handled := handleLine_of_notification isRequest hasNoId serving.server
  have after : (serving.takeLine line).log later =
      ({ serving with server := (serving.server.handleLine line).1 } : Serving).log later :=
    log_of_same (by rfl) (by rfl) later
  rw [after, handled]
  cases takes : serving.server.withdrawn? line with
  | none =>
    refine (List.filter_eq_self.mpr fun entry _ => ?_).symm
    cases entry.1 <;> rfl
  | some ticket =>
    -- The server with the line is the one without it, but for the mark on that call.
    obtain ⟨took, old⟩ := tookBack_withdraw numbered takes
    rw [took.log old]
    refine List.filter_congr fun entry _ => ?_
    cases entry.1 <;> rfl

/-- A line without an identifier starts no call. With most methods nothing is ever sent on account
    of it: whatever comes later, no more is sent than without the line. With the methods that are
    always answered one response is put into the queue, one without an identifier. -/
theorem notification_unanswered (catalogue : Catalogue) (before : List Event) {line : List Char}
    {request : Request} (isRequest : request? line = some request)
    (hasNoId : request.id = none) :
    (∀ ticket prepared, .start ticket prepared ∉
      ((run catalogue before).server.handleLine line).2.orders) ∧
    (request.method ∉ answeredAlways → ∀ later,
      (((run catalogue before).takeLine line).runFrom later).output.Sublist
        ((run catalogue before).runFrom later).output) ∧
    (request.method ∈ answeredAlways → ∃ result, (run catalogue before).takeLine line =
      { run catalogue before with
        queued := (run catalogue before).queued ++ [⟨none, .result result⟩] }) := by
  have numbered := numbered_run catalogue before
  generalize run catalogue before = serving at numbered ⊢
  have handled := handleLine_of_notification isRequest hasNoId serving.server
  refine ⟨?_, fun passed later => ?_, fun always => ?_⟩
  · intro ticket prepared
    rw [handled]
    split <;> simp
  · have nothing : answers serving.server.catalogue line = [] := by
      rcases answers_of_notification isRequest hasNoId serving.server.catalogue with
        ⟨always, -⟩ | ⟨-, nothing⟩
      · exact absurd always passed
      · exact nothing
    have now : (serving.takeLine line).output = serving.output := by
      simp only [takeLine, output, handled]
      split <;> simp [nothing]
    rw [output_runFrom, output_runFrom, now,
      log_takeLine_of_notification numbered isRequest hasNoId]
    exact (List.Sublist.refl _).append (List.filter_sublist.map _)
  · rcases answers_of_notification isRequest hasNoId serving.server.catalogue with
      ⟨-, result, answered⟩ | ⟨passed, -⟩
    · refine ⟨result, ?_⟩
      have noCancellation : serving.server.withdrawn? line = none := by
        rw [Server.withdrawn?, cancelledKey?_of_request isRequest, if_neg]
        · rfl
        · intro cancels
          rw [cancels] at always
          simp [answeredAlways] at always
      simp only [takeLine, handled, noCancellation, answered]
    · exact absurd always passed

def notification (method params : String) : List Char :=
  requestLine method ("\"params\":" ++ params)

theorem cancellation_unanswered :
    (run ⟨[], .builtIn, []⟩ (overlap.take 2)).server.withdrawn?
        (notification "notifications/cancelled" "\x7b\"requestId\":1\x7d") = some 0 ∧
      ∀ later, (((run ⟨[], .builtIn, []⟩ (overlap.take 2)).takeLine
          (notification "notifications/cancelled" "\x7b\"requestId\":1\x7d")).runFrom
            later).output.Sublist
              ((run ⟨[], .builtIn, []⟩ (overlap.take 2)).runFrom later).output := by
  have method : (request? (notification "notifications/cancelled"
      "\x7b\"requestId\":1\x7d")).map Request.method = some "notifications/cancelled" := by
    decide +kernel
  have noId : ((request? (notification "notifications/cancelled"
      "\x7b\"requestId\":1\x7d")).bind Request.id).isNone = true := by decide +kernel
  obtain ⟨request, isRequest, named⟩ := Option.map_eq_some_iff.mp method
  rw [isRequest] at noId
  refine ⟨by decide +kernel, (notification_unanswered ⟨[], .builtIn, []⟩ (overlap.take 2) isRequest
    (Option.isNone_iff_eq_none.mp noId)).2.1 ?_⟩
  rw [named]
  decide

/-- A ping without an identifier is answered like one that has an identifier. -/
theorem ping_notification_answered :
    (request? (notification "ping" "\x7b\x7d")).map (fun request => request.id.isNone) =
        some true ∧
      (run ⟨[], .builtIn, []⟩ [.line (notification "ping" "\x7b\x7d"), .write]).written.map
        Response.line =
          ["\x7b\"jsonrpc\":\"2.0\",\"result\":\x7b\x7d\x7d\n".toUTF8.toList] := by
  constructor <;> decide +kernel

end Serving

end CodeGateway.Agent
