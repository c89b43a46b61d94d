import CodeGateway.Proofs.CallsUnderWay

namespace CodeGateway.Agent.Serving

def callDue (call : RunningCall) : List Event → List Response
  | [] => []
  | .retire ticket result :: events =>
    if call.ticket = ticket then call.responses result else callDue call events
  | .line line :: events =>
    if cancelledKey? line = some call.id.text then callDue { call with cancelled := true } events
    else callDue call events
  | _ :: events => callDue call events

/-- What a line is answered, at once or in the end. -/
def lineDue (catalogue : Catalogue) (ticket : Nat) (line : List Char) (later : List Event) :
    List Response :=
  match callId? line with
  | some id => callDue ⟨ticket, id, false⟩ later
  | none => answers catalogue line

/-- What all lines are answered, where so many calls were made before. -/
def linesDue (catalogue : Catalogue) : Nat → List Event → List Response
  | _, [] => []
  | count, .line line :: events =>
    lineDue catalogue count line events ++
      linesDue catalogue (if (callId? line).isSome then count + 1 else count) events
  | count, _ :: events => linesDue catalogue count events

def due (serving : Serving) (events : List Event) : List Response :=
  serving.written ++ serving.queued ++
    serving.retired.flatMap (fun entry => entry.1.responses entry.2) ++
    serving.server.running.flatMap (callDue · events) ++
    linesDue serving.server.catalogue serving.server.nextTicket events

theorem Keeps.lookup {server : Server} {ledger : Ledger} (keeps : Keeps server ledger)
    {key : List Char} {ticket : Nat} (found : server.named.lookup key = some ticket)
    {call : RunningCall} (among : call ∈ server.running) :
    call.id.text = key ↔ call.ticket = ticket := by
  obtain ⟨front, back, parts, -⟩ := List.lookup_eq_some_iff.mp found
  have member : (key, ticket) ∈ server.named := by rw [parts]; simp
  rw [keeps.named] at member
  obtain ⟨other, among', same⟩ := List.mem_map.mp (List.mem_reverse.mp member)
  cases same
  exact keeps.same_call among among'

theorem Keeps.lookup_none {server : Server} {ledger : Ledger} (keeps : Keeps server ledger)
    {key : List Char} (missing : server.named.lookup key = none) {call : RunningCall}
    (among : call ∈ server.running) : call.id.text ≠ key := by
  intro equal
  subst equal
  have member : (call.id.text, call.ticket) ∈ server.named := by
    rw [keeps.named, List.mem_reverse]
    exact List.mem_map.mpr ⟨call, among, rfl⟩
  simpa using List.lookup_eq_none_iff.mp missing _ member

theorem callDue_line {call : RunningCall} {line : List Char} {events : List Event}
    (other : cancelledKey? line ≠ some call.id.text) :
    callDue call (.line line :: events) = callDue call events := by
  rw [callDue, if_neg other]

theorem flatMap_congr {α β : Type} {items : List α} {first second : α → List β}
    (same : ∀ item ∈ items, first item = second item) :
    items.flatMap first = items.flatMap second := by
  rw [List.flatMap_def, List.flatMap_def, List.map_congr_left same]

theorem due_line {serving : Serving} {ledger : Ledger} (keeps : Keeps serving.server ledger)
    (line : List Char) (events : List Event) :
    (due serving (.line line :: events)).Perm (due (serving.takeLine line) events) := by
  have handles := handles_handleLine serving.server line
  unfold takeLine due
  generalize serving.server.handleLine line = after at handles ⊢
  cases handles with
  | call calls cancels =>
    have others : serving.server.running.flatMap (callDue · (.line line :: events)) =
        serving.server.running.flatMap (callDue · events) :=
      flatMap_congr fun call _ => callDue_line (by simp [cancels])
    refine .of_eq ?_
    rw [others]
    simp [linesDue, lineDue, calls, Server.launch, Server.forget]
  | unknown calls cancels missing =>
    have others : serving.server.running.flatMap (callDue · (.line line :: events)) =
        serving.server.running.flatMap (callDue · events) := by
      refine flatMap_congr fun call among => callDue_line ?_
      rw [cancels]
      exact fun same => keeps.lookup_none missing among (Option.some.inj same).symm
    refine .of_eq ?_
    rw [others]
    simp [linesDue, lineDue, calls, answers_of_cancellation cancels, Reaction.none]
  | @cancellation key ticket calls cancels found =>
    have others : serving.server.running.flatMap (callDue · (.line line :: events)) =
        (marked ticket serving.server.running).flatMap (callDue · events) := by
      rw [marked, List.flatMap_map]
      refine flatMap_congr fun call among => ?_
      have same := keeps.lookup found among
      by_cases ticket' : call.ticket = ticket
      · simp [callDue, cancels, same.mpr ticket', ticket']
      · have text : key ≠ call.id.text := fun text => ticket' (same.mp text.symm)
        simp [callDue, cancels, text, ticket']
    refine .of_eq ?_
    rw [others]
    simp [linesDue, lineDue, calls, answers_of_cancellation cancels, marked]
  | other calls cancels =>
    have others : serving.server.running.flatMap (callDue · (.line line :: events)) =
        serving.server.running.flatMap (callDue · events) :=
      flatMap_congr fun call _ => callDue_line (by simp [cancels])
    rw [others]
    simp only [linesDue, lineDue, calls, Option.isSome_none, Bool.false_eq_true, if_false,
      List.append_assoc]
    refine .append_left _ (.append_left _ ?_)
    exact (List.Perm.append_left _ (List.perm_append_comm_assoc _ _ _)).trans
      (List.perm_append_comm_assoc _ _ _)

theorem callDue_retire_of_ne {call : RunningCall} {ticket : Nat} (different : call.ticket ≠ ticket)
    (result : ToolResult) (events : List Event) :
    callDue call (.retire ticket result :: events) = callDue call events := by
  rw [callDue, if_neg different]

theorem perm_of_find? {calls : List RunningCall} {ticket : Nat} {call : RunningCall}
    (distinct : (calls.map RunningCall.ticket).Nodup)
    (found : calls.find? (fun call => call.ticket == ticket) = some call) :
    calls.Perm (call :: calls.filter fun other => other.ticket != ticket) := by
  obtain ⟨here, front, back, rfl, before⟩ := List.find?_eq_some_iff_append.mp found
  rw [List.map_append, List.map_cons, List.nodup_append, List.nodup_cons] at distinct
  obtain ⟨-, ⟨missing, -⟩, -⟩ := distinct
  simp only [beq_iff_eq] at here
  subst here
  have front' : (front.filter fun other => other.ticket != call.ticket) = front := by
    rw [List.filter_eq_self]
    intro other among
    simpa using before other among
  have back' : (back.filter fun other => other.ticket != call.ticket) = back := by
    rw [List.filter_eq_self]
    intro other among
    have different : other.ticket ≠ call.ticket :=
      fun same => missing (same ▸ List.mem_map_of_mem among)
    simpa using different
  rw [List.filter_append, List.filter_cons_of_neg (by simp), front', back']
  exact List.perm_middle

theorem due_retire {serving : Serving} {ledger : Ledger} (keeps : Keeps serving.server ledger)
    (ticket : Nat) (result : ToolResult) (events : List Event) :
    (due serving (.retire ticket result :: events)).Perm
      (due (serving.retire ticket result) events) := by
  unfold retire Server.retire due
  cases found : serving.server.running.find? fun call => call.ticket == ticket with
  | none =>
    have others : serving.server.running.flatMap (callDue · (.retire ticket result :: events)) =
        serving.server.running.flatMap (callDue · events) := by
      refine flatMap_congr fun call among => callDue_retire_of_ne ?_ result events
      simpa using List.find?_eq_none.mp found call among
    refine .of_eq ?_
    rw [others]
    simp [linesDue]
  | some call =>
    have among := perm_of_find? keeps.tickets found
    have here : callDue call (.retire ticket result :: events) = call.responses result := by
      rw [callDue, if_pos (find?_ticket found).2]
    have others : (serving.server.running.filter fun other => other.ticket != ticket).flatMap
        (callDue · (.retire ticket result :: events)) =
          (serving.server.running.filter fun other => other.ticket != ticket).flatMap
            (callDue · events) := by
      refine flatMap_congr fun other member => callDue_retire_of_ne ?_ result events
      simpa using (List.mem_filter.mp member).2
    have split := among.flatMap_right (callDue · (.retire ticket result :: events))
    rw [List.flatMap_cons, here, others] at split
    simp only [linesDue, Server.forget, Option.toList_some, List.map_cons, List.map_nil,
      List.flatMap_append, List.flatMap_cons, List.flatMap_nil, List.append_nil, List.append_assoc]
    refine .append_left _ (.append_left _ (.append_left _ ?_))
    rw [← List.append_assoc]
    exact split.append_right _

theorem split_of_find? {α : Type} {items : List α} {test : α → Bool} {item : α}
    (found : items.find? test = some item) :
    ∃ front back, items = front ++ item :: back ∧ items.eraseP test = front ++ back := by
  obtain ⟨here, front, back, parts, before⟩ := List.find?_eq_some_iff_append.mp found
  refine ⟨front, back, parts, ?_⟩
  rw [parts, List.eraseP_append_right _ (by simpa using before)]
  exact congrArg (front ++ ·) (List.eraseP_cons_of_pos here)

theorem due_respond (serving : Serving) (ticket : Nat) (events : List Event) :
    (due serving (.respond ticket :: events)).Perm (due (serving.respond ticket) events) := by
  have others : serving.server.running.flatMap (callDue · (.respond ticket :: events)) =
      serving.server.running.flatMap (callDue · events) := rfl
  unfold respond due
  rw [others]
  cases found : serving.retired.find? fun entry => entry.1.ticket == ticket with
  | none => exact .refl _
  | some entry =>
    obtain ⟨front, back, parts, rest⟩ := split_of_find? found
    simp only [rest]
    rw [parts]
    simp only [linesDue, List.flatMap_append, List.flatMap_cons, List.append_assoc]
    exact .append_left _ (.append_left _ (List.perm_append_comm_assoc _ _ _))

theorem due_write (serving : Serving) (events : List Event) :
    due serving (.write :: events) = due serving.write events := by
  have others : serving.server.running.flatMap (callDue · (.write :: events)) =
      serving.server.running.flatMap (callDue · events) := rfl
  unfold write due
  rw [others]
  split <;> rename_i queued <;> simp [linesDue, queued]

theorem due_step {serving : Serving} {ledger : Ledger} (keeps : Keeps serving.server ledger)
    (event : Event) (events : List Event) :
    (due serving (event :: events)).Perm (due (serving.step event) events) := by
  cases event with
  | line line => exact due_line keeps line events
  | retire ticket result => exact due_retire keeps ticket result events
  | respond ticket => exact due_respond serving ticket events
  | write => exact .of_eq (due_write serving events)

theorem due_runFrom {serving : Serving} {ledger : Ledger} (keeps : Keeps serving.server ledger)
    {events : List Event} (apart : ledger.areApart events = true) :
    (due serving events).Perm (due (serving.runFrom events) []) := by
  induction events generalizing serving ledger with
  | nil => exact .refl _
  | cons event events ih =>
    obtain ⟨now, later⟩ := Bool.and_eq_true_iff.mp apart
    exact (due_step keeps event events).trans (ih (keeps.step now) later)

/-- A line takes a call back before the call has a result. -/
def TakenBack (ticket : Nat) (id : Json) (later : List Event) : Prop :=
  ∃ between line after, later = between ++ .line line :: after ∧
    cancelledKey? line = some id.text ∧ ∀ result, .retire ticket result ∉ between

theorem callDue_of_cancelled {call : RunningCall} (cancelled : call.cancelled = true)
    (events : List Event) : callDue call events = [] := by
  induction events generalizing call with
  | nil => rfl
  | cons event events ih =>
    cases event with
    | retire ticket result =>
      rw [callDue, ih cancelled, RunningCall.responses, if_pos cancelled, ite_self]
    | line line =>
      rw [callDue, ih cancelled, ih rfl, ite_self]
    | respond ticket => exact ih cancelled
    | write => exact ih cancelled

theorem callDue_of_takenBack {call : RunningCall} {events : List Event}
    (taken : TakenBack call.ticket call.id events) : callDue call events = [] := by
  obtain ⟨between, line, after, rfl, cancels, running⟩ := taken
  induction between with
  | nil =>
    rw [List.nil_append, callDue, if_pos cancels]
    exact callDue_of_cancelled rfl after
  | cons event between ih =>
    have later := ih fun result member => running result (by simp [member])
    cases event with
    | retire ticket result =>
      have different : call.ticket ≠ ticket := by
        intro equal
        subst equal
        exact running result (by simp)
      exact (callDue_retire_of_ne different result _).trans later
    | line other =>
      rw [List.cons_append, callDue, later, callDue_of_cancelled rfl, ite_self]
    | respond ticket => exact later
    | write => exact later

theorem callDue_of_kept {call : RunningCall} (kept : call.cancelled = false) {events : List Event}
    (free : ¬ TakenBack call.ticket call.id events) {result : ToolResult}
    (ends : .retire call.ticket result ∈ events) :
    ∃ result : ToolResult, callDue call events = [⟨some call.id, .result result.encode⟩] := by
  induction events with
  | nil => cases ends
  | cons event events ih =>
    have free' (other : ∀ result, event ≠ .retire call.ticket result) :
        ¬ TakenBack call.ticket call.id events := by
      intro given
      obtain ⟨between, line, after, rfl, cancels, running⟩ := given
      refine free ⟨event :: between, line, after, rfl, cancels, fun result member => ?_⟩
      rcases List.mem_cons.mp member with here | member
      · exact other result here.symm
      · exact running result member
    cases event with
    | retire ticket now =>
      by_cases same : call.ticket = ticket
      · refine ⟨now, ?_⟩
        rw [callDue, if_pos same, RunningCall.responses, kept]
        rfl
      · rw [callDue_retire_of_ne same]
        refine ih (free' fun result here => ?_) ?_
        · cases here
          exact same rfl
        · rcases List.mem_cons.mp ends with here | member
          · cases here
            exact absurd rfl same
          · exact member
    | line line =>
      have other : cancelledKey? line ≠ some call.id.text :=
        fun cancels => free ⟨[], line, events, rfl, cancels, by simp⟩
      rw [callDue_line other]
      exact ih (free' (by simp)) (by simpa using ends)
    | respond ticket => exact ih (free' (by simp)) (by simpa using ends)
    | write => exact ih (free' (by simp)) (by simpa using ends)

theorem id_of_mem_callDue {call : RunningCall} {events : List Event} {response : Response}
    (member : response ∈ callDue call events) : response.id = some call.id := by
  induction events generalizing call with
  | nil => cases member
  | cons event events ih =>
    cases event with
    | retire ticket result =>
      rw [callDue] at member
      split at member
      · unfold RunningCall.responses at member
        split at member
        · cases member
        · rw [List.mem_singleton.mp member]
      · exact ih member
    | line line =>
      rw [callDue] at member
      split at member
      · have same := ih member
        exact same
      · exact ih member
    | respond ticket => exact ih member
    | write => exact ih member

theorem areOwn_lineDue (catalogue : Catalogue) (ticket : Nat) (line : List Char)
    (later : List Event) : AreOwn line (lineDue catalogue ticket line later) := by
  cases calls : callId? line with
  | none =>
    rw [lineDue, calls]
    exact areOwn_answers catalogue line
  | some id =>
    rw [lineDue, calls]
    intro response member
    rw [id_of_mem_callDue member]
    exact (id_of_callId? calls).symm

theorem mem_calls_foldl {ledger : Ledger} {call : Nat × Json} (among : call ∈ ledger.calls)
    {events : List Event} (running : ∀ result, .retire call.1 result ∉ events) :
    call ∈ (events.foldl Ledger.step ledger).calls := by
  induction events generalizing ledger with
  | nil => exact among
  | cons event events ih =>
    refine ih ?_ fun result member => running result (by simp [member])
    cases event with
    | line line =>
      simp only [Ledger.step]
      split
      · exact List.mem_append_left _ among
      · exact among
    | retire ticket result =>
      refine List.mem_filter.mpr ⟨among, ?_⟩
      have different : call.1 ≠ ticket := by
        intro equal
        subst equal
        exact running result (by simp)
      simpa using different
    | respond ticket => exact among
    | write => exact among

end CodeGateway.Agent.Serving
