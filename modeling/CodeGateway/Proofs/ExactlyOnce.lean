import CodeGateway.Proofs.AnswersDue

namespace CodeGateway.Agent.Serving

theorem isDone_iff {serving : Serving} :
    serving.isDone = true ↔
      serving.server.running = [] ∧ serving.retired = [] ∧ serving.queued = [] := by
  simp [isDone, Server.isIdle, and_assoc]

def left (serving : Serving) : Nat :=
  3 * serving.server.running.length + 2 * serving.retired.length + serving.queued.length

theorem left_retire {serving : Serving} {call : RunningCall}
    (among : call ∈ serving.server.running) (result : ToolResult) :
    (serving.retire call.ticket result).left < serving.left := by
  cases found : serving.server.running.find? fun other => other.ticket == call.ticket with
  | none =>
    have missing := List.find?_eq_none.mp found call among
    simp at missing
  | some other =>
    have fewer : (serving.server.running.filter fun other => other.ticket != call.ticket).length <
        serving.server.running.length :=
      List.length_filter_lt_length_iff_exists.mpr ⟨call, among, by simp⟩
    simp only [left, retire, Server.retire, found, Server.forget, Option.toList_some, List.map_cons,
      List.map_nil, List.length_append, List.length_cons, List.length_nil]
    omega

theorem length_responses_le (call : RunningCall) (result : ToolResult) :
    (call.responses result).length ≤ 1 := by
  unfold RunningCall.responses
  split <;> simp

theorem left_respond {serving : Serving} {entry : RunningCall × ToolResult}
    (among : entry ∈ serving.retired) :
    (serving.respond entry.1.ticket).left < serving.left := by
  cases found : serving.retired.find? fun other => other.1.ticket == entry.1.ticket with
  | none =>
    have missing := List.find?_eq_none.mp found entry among
    simp at missing
  | some other =>
    have fewer : (serving.retired.eraseP fun other =>
        other.1.ticket == entry.1.ticket).length = serving.retired.length - 1 :=
      List.length_eraseP_of_mem among (by simp)
    have some' : 0 < serving.retired.length := List.length_pos_of_mem among
    have few := length_responses_le other.1 other.2
    simp only [left, respond, found, fewer, List.length_append]
    omega

theorem left_write {serving : Serving} {response : Response} {rest : List Response}
    (queued : serving.queued = response :: rest) : serving.write.left < serving.left := by
  simp [left, write, queued]

theorem exists_isDone (serving : Serving) :
    ∃ rest, (∀ line, .line line ∉ rest) ∧ (serving.runFrom rest).isDone = true := by
  induction count : serving.left using Nat.strongRecOn generalizing serving with
  | ind count ih =>
    subst count
    have step (event : Event) (noLine : ∀ line, .line line ≠ event)
        (less : (serving.step event).left < serving.left) :
        ∃ rest, (∀ line, .line line ∉ rest) ∧ (serving.runFrom rest).isDone = true := by
      obtain ⟨rest, noLines, done⟩ := ih _ less _ rfl
      refine ⟨event :: rest, fun line member => ?_, done⟩
      rcases List.mem_cons.mp member with here | member
      · exact noLine line here
      · exact noLines line member
    cases running : serving.server.running with
    | cons call calls =>
      exact step (.retire call.ticket ⟨"", false⟩) (by simp)
        (left_retire (by simp [running]) _)
    | nil =>
      cases retired : serving.retired with
      | cons entry entries =>
        exact step (.respond entry.1.ticket) (by simp) (left_respond (by simp [retired]))
      | nil =>
        cases queued : serving.queued with
        | cons response responses => exact step .write (by simp) (left_write queued)
        | nil => exact ⟨[], by simp, isDone_iff.mpr ⟨running, retired, queued⟩⟩

theorem areApart_before {ledger : Ledger} {before after : List Event}
    (apart : ledger.areApart (before ++ after) = true) : ledger.areApart before = true := by
  induction before generalizing ledger with
  | nil => rfl
  | cons event before ih =>
    obtain ⟨now, later⟩ := Bool.and_eq_true_iff.mp apart
    exact Bool.and_eq_true_iff.mpr ⟨now, ih later⟩

theorem keeps_run (catalogue : Catalogue) {events : List Event}
    (apart : Ledger.areApart ⟨0, []⟩ events = true) :
    Keeps (run catalogue events).server (ledger events) :=
  keeps_runFrom (keeps_start catalogue) apart

theorem names_run (catalogue : Catalogue) {events : List Event}
    (apart : Ledger.areApart ⟨0, []⟩ events = true) :
    ((run catalogue events).server.named.map Prod.fst).Nodup ∧
      ((run catalogue events).server.named.map Prod.fst).Perm
        ((ledger events).calls.map fun call => call.2.text) := by
  have keeps := keeps_run catalogue apart
  have names : (run catalogue events).server.named.map Prod.fst =
      ((run catalogue events).server.running.map fun call => call.id.text).reverse := by
    rw [keeps.named, List.map_reverse, List.map_map]
    rfl
  have texts : (ledger events).calls.map (fun call => call.2.text) =
      (run catalogue events).server.running.map fun call => call.id.text := by
    rw [← keeps.calls, List.map_map]
    rfl
  rw [names, texts]
  exact ⟨List.nodup_reverse.mpr keeps.texts, List.reverse_perm _⟩

theorem written_run (catalogue : Catalogue) {events : List Event}
    (apart : Ledger.areApart ⟨0, []⟩ events = true) (done : (run catalogue events).isDone = true) :
    (run catalogue events).written.Perm (linesDue catalogue 0 events) := by
  obtain ⟨idle, answered, sent⟩ := isDone_iff.mp done
  have all := due_runFrom (keeps_start catalogue) apart
  have first : due (start catalogue) events = linesDue catalogue 0 events := rfl
  have last : due (run catalogue events) [] = (run catalogue events).written := by
    simp [due, idle, answered, sent, linesDue]
  rw [first] at all
  exact (all.trans (.of_eq last)).symm

theorem exists_retire {catalogue : Catalogue} {before after : List Event} {line : List Char}
    {id : Json} (apart : Ledger.areApart ⟨0, []⟩ (before ++ .line line :: after) = true)
    (idle : (run catalogue (before ++ .line line :: after)).server.running = [])
    (calls : callId? line = some id) : ∃ result, .retire (ledger before).count result ∈ after := by
  by_contra running
  have keeps := keeps_run catalogue apart
  have made : ((ledger before).count, id) ∈ ((ledger before).step (.line line)).calls := by
    simp [Ledger.step, calls]
  have left := mem_calls_foldl made fun result member => running ⟨result, member⟩
  have whole : ledger (before ++ .line line :: after) =
      after.foldl Ledger.step ((ledger before).step (.line line)) := by
    simp [ledger, List.foldl_append]
  rw [← whole, ← keeps.calls, idle] at left
  cases left

/-- While no two calls that are under way share an identifier, the identifiers of these calls are
    those that the server knows, and the server can get done. Once it is done, what was written are
    the answers to the lines, in some order, each with the identifier of its line: to a request one,
    save to a call that was taken back before it had its result, which has none. -/
theorem exactly_once (catalogue : Catalogue) (events : List Event)
    (apart : Ledger.areApart ⟨0, []⟩ events = true) :
    (∀ before after, events = before ++ after →
      ((run catalogue before).server.named.map Prod.fst).Nodup ∧
        ((run catalogue before).server.named.map Prod.fst).Perm
          ((ledger before).calls.map fun call => call.2.text)) ∧
    (∃ rest, (∀ line, .line line ∉ rest) ∧ (run catalogue (events ++ rest)).isDone = true) ∧
    ((run catalogue events).isDone = true →
      (run catalogue events).server.named = [] ∧
      (run catalogue events).written.Perm (linesDue catalogue 0 events) ∧
      ∀ before line after, events = before ++ .line line :: after →
        AreOwn line (lineDue catalogue (ledger before).count line after) ∧
        ∀ request id, request? line = some request → request.id = some id →
          request.method ≠ "notifications/initialized" →
          request.method ≠ "notifications/cancelled" →
            (callId? line = some id ∧ TakenBack (ledger before).count id after →
              lineDue catalogue (ledger before).count line after = []) ∧
            (¬ (callId? line = some id ∧ TakenBack (ledger before).count id after) →
              ∃ answer, lineDue catalogue (ledger before).count line after =
                [⟨some id, answer⟩])) := by
  refine ⟨?_, ?_, fun done => ?_⟩
  · intro before after equal
    subst equal
    exact names_run catalogue (areApart_before apart)
  · obtain ⟨rest, noLines, done⟩ := exists_isDone (run catalogue events)
    refine ⟨rest, noLines, ?_⟩
    rw [run, runFrom, List.foldl_append]
    exact done
  · obtain ⟨idle, -, -⟩ := isDone_iff.mp done
    have keeps := keeps_run catalogue apart
    refine ⟨by rw [keeps.named, idle]; rfl, written_run catalogue apart done, ?_⟩
    intro before line after equal
    subst equal
    refine ⟨areOwn_lineDue catalogue _ line after, ?_⟩
    intro request id isRequest hasId notInitialized notCancelled
    refine ⟨?_, fun free => ?_⟩
    · intro given
      obtain ⟨calls, taken⟩ := given
      rw [lineDue, calls]
      exact callDue_of_takenBack taken
    · cases calls : callId? line with
      | none =>
        rw [lineDue, calls]
        exact answers_of_request isRequest hasId calls notInitialized notCancelled catalogue
      | some other =>
        have same := id_of_callId? calls
        rw [isRequest, Option.bind_some, hasId] at same
        cases same
        obtain ⟨result, ends⟩ := exists_retire apart idle calls
        have kept : (⟨(ledger before).count, id, false⟩ : RunningCall).cancelled = false := rfl
        obtain ⟨result, answer⟩ :=
          callDue_of_kept kept (fun taken => free ⟨calls, taken⟩) ends
        rw [lineDue, calls]
        exact ⟨_, answer⟩

def requestLine (method params : String) : List Char :=
  ("\x7b\"jsonrpc\":\"2.0\",\"method\":\"" ++ method ++ "\"," ++ params ++ "\x7d").toList

/-- Two calls that end in the other order, the first of them taken back, and a ping in between. -/
def overlap : List Event :=
  [.line (requestLine "tools/call" "\"params\":\x7b\"name\":\"a\"\x7d,\"id\":1"),
    .line (requestLine "tools/call" "\"params\":\x7b\"name\":\"a\"\x7d,\"id\":\"1\""),
    .line (requestLine "ping" "\"id\":3"),
    .retire 1 ⟨"", false⟩,
    .line (requestLine "notifications/cancelled" "\"params\":\x7b\"requestId\":1\x7d"),
    .retire 0 ⟨"", false⟩, .respond 0, .respond 1, .write, .write]

theorem exactly_once_overlap :
    Ledger.areApart ⟨0, []⟩ overlap = true ∧
      (run ⟨[], .builtIn, []⟩ overlap).written.Perm (linesDue ⟨[], .builtIn, []⟩ 0 overlap) ∧
      (linesDue ⟨[], .builtIn, []⟩ 0 overlap).map (fun response => response.id.map Json.text) =
        [some "\"1\"".toList, some "3".toList] := by
  have apart : Ledger.areApart ⟨0, []⟩ overlap = true := by decide +kernel
  have done : (run ⟨[], .builtIn, []⟩ overlap).isDone = true := by decide +kernel
  refine ⟨apart, ((exactly_once ⟨[], .builtIn, []⟩ overlap apart).2.2 done).2.1, ?_⟩
  decide +kernel

end CodeGateway.Agent.Serving
