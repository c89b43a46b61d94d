import CodeGateway.Proofs.ResponseLog

namespace CodeGateway.Agent.Serving

def unanswered (serving : Serving) : List RunningCall :=
  serving.server.running ++ serving.retired.map Prod.fst

/-- No two calls have one ticket, and identifiers mean calls that are under way. -/
structure Numbered (serving : Serving) : Prop where
  distinct : (serving.unanswered.map RunningCall.ticket).Nodup
  before : ∀ call ∈ serving.unanswered, call.ticket < serving.server.nextTicket
  named : ∀ entry ∈ serving.server.named, ∃ call ∈ serving.server.running,
    call.ticket = entry.2 ∧ call.id.text = entry.1

theorem numbered_start (catalogue : Catalogue) : Numbered (start catalogue) := by
  constructor <;> simp [unanswered, start, Server.start]

theorem Numbered.not_running_of_retired {serving : Serving} (numbered : Numbered serving)
    {entry : RunningCall × ToolResult} (among : entry ∈ serving.retired) :
    ∀ call ∈ serving.server.running, call.ticket ≠ entry.1.ticket := by
  have distinct := numbered.distinct
  rw [unanswered, List.map_append, List.nodup_append] at distinct
  intro call running
  exact distinct.2.2 _ (List.mem_map_of_mem running) _
    (List.mem_map_of_mem (List.mem_map_of_mem among))

theorem Numbered.running_tickets {serving : Serving} (numbered : Numbered serving) :
    (serving.server.running.map RunningCall.ticket).Nodup := by
  have distinct := numbered.distinct
  rw [unanswered, List.map_append, List.nodup_append] at distinct
  exact distinct.1

theorem Numbered.retired_tickets {serving : Serving} (numbered : Numbered serving) :
    (serving.retired.map fun entry => entry.1.ticket).Nodup := by
  have distinct := numbered.distinct
  rw [unanswered, List.map_append, List.nodup_append, List.map_map] at distinct
  exact distinct.2.1

theorem Numbered.launch {serving : Serving} (numbered : Numbered serving) (id : Json)
    (prepared : Catalogue.Prepared) :
    Numbered { serving with server := (serving.server.launch id prepared).1 } := by
  have whole : ({ serving with server := (serving.server.launch id prepared).1 } :
      Serving).unanswered.Perm (⟨serving.server.nextTicket, id, false⟩ :: serving.unanswered) := by
    simp only [unanswered, Server.launch, Server.forget, List.append_assoc, List.singleton_append]
    exact List.perm_middle
  constructor
  · rw [(whole.map RunningCall.ticket).nodup_iff, List.map_cons, List.nodup_cons]
    refine ⟨?_, numbered.distinct⟩
    intro given
    obtain ⟨call, among, same⟩ := List.mem_map.mp given
    exact Nat.ne_of_lt (numbered.before call among) same
  · intro call among
    show call.ticket < serving.server.nextTicket + 1
    rcases List.mem_cons.mp (whole.mem_iff.mp among) with rfl | among
    · exact Nat.lt_succ_self _
    · exact Nat.lt_succ_of_lt (numbered.before call among)
  · intro entry among
    simp only [Server.launch, Server.forget, List.mem_cons, List.mem_filter] at among ⊢
    rcases among with rfl | ⟨among, -⟩
    · exact ⟨_, List.mem_append_right _ List.mem_cons_self, rfl, rfl⟩
    · obtain ⟨call, running, means⟩ := numbered.named entry among
      exact ⟨call, List.mem_append_left _ running, means⟩

theorem Numbered.mark {serving : Serving} (numbered : Numbered serving) (ticket : Nat) :
    Numbered { serving with
      server := { serving.server with running := marked ticket serving.server.running } } := by
  have tickets : ({ serving with
      server := { serving.server with running := marked ticket serving.server.running } } :
        Serving).unanswered.map RunningCall.ticket = serving.unanswered.map RunningCall.ticket := by
    simp only [unanswered, List.map_append]
    rw [map_marked ticket serving.server.running fun _ => rfl]
  constructor
  · rw [tickets]
    exact numbered.distinct
  · intro call among
    have known := List.mem_map_of_mem (f := RunningCall.ticket) among
    rw [tickets] at known
    obtain ⟨other, among', same⟩ := List.mem_map.mp known
    rw [← same]
    exact numbered.before other among'
  · intro entry among
    obtain ⟨call, running, means⟩ := numbered.named entry among
    refine ⟨_, List.mem_map_of_mem running, ?_⟩
    split <;> exact means

theorem Numbered.takeLine {serving : Serving} (numbered : Numbered serving) (line : List Char) :
    Numbered (serving.takeLine line) := by
  have handles := handles_handleLine serving.server line
  unfold Serving.takeLine
  generalize serving.server.handleLine line = after at handles ⊢
  cases handles with
  | @call id prepared =>
    have launched := numbered.launch id prepared
    exact ⟨launched.distinct, launched.before, launched.named⟩
  | unknown => exact ⟨numbered.distinct, numbered.before, numbered.named⟩
  | @cancellation key ticket =>
    have taken := numbered.mark ticket
    exact ⟨taken.distinct, taken.before, taken.named⟩
  | other => exact ⟨numbered.distinct, numbered.before, numbered.named⟩

theorem Numbered.retire {serving : Serving} (numbered : Numbered serving) (ticket : Nat)
    (result : ToolResult) : Numbered (serving.retire ticket result) := by
  unfold Serving.retire Server.retire
  cases found : serving.server.running.find? fun call => call.ticket == ticket with
  | none =>
    have same : serving.retired ++ (none : Option RunningCall).toList.map (·, result) =
        serving.retired := List.append_nil _
    simp only [same]
    exact ⟨numbered.distinct, numbered.before, numbered.named⟩
  | some call =>
    obtain ⟨among, rfl⟩ := find?_ticket found
    have moved := perm_of_find? numbered.running_tickets found
    have whole : serving.unanswered.Perm
        ((serving.server.running.filter fun other => other.ticket != call.ticket) ++
          (serving.retired ++ [(call, result)]).map Prod.fst) := by
      rw [unanswered, List.map_append, ← List.append_assoc]
      exact (moved.append_right _).trans (List.perm_append_singleton _ _).symm
    constructor
    · exact (whole.map RunningCall.ticket).nodup_iff.mp numbered.distinct
    · intro other member
      exact numbered.before other (whole.mem_iff.mpr member)
    · intro entry member
      obtain ⟨member, different⟩ := List.mem_filter.mp member
      obtain ⟨other, running, sameTicket, sameText⟩ := numbered.named entry member
      refine ⟨other, List.mem_filter.mpr ⟨running, ?_⟩, sameTicket, sameText⟩
      rw [bne_iff_ne] at different ⊢
      intro same
      have equal := List.inj_on_of_nodup_map numbered.running_tickets running among same
      rw [← sameText, equal] at different
      exact different rfl

theorem Numbered.respond {serving : Serving} (numbered : Numbered serving) (ticket : Nat) :
    Numbered (serving.respond ticket) := by
  unfold Serving.respond
  split
  · exact numbered
  · have fewer : (serving.server.running ++
        (serving.retired.eraseP fun entry => entry.1.ticket == ticket).map Prod.fst).Sublist
          serving.unanswered :=
      (List.Sublist.refl _).append (List.eraseP_sublist.map _)
    exact ⟨numbered.distinct.sublist (fewer.map _),
      fun call among => numbered.before call (fewer.subset among), numbered.named⟩

theorem Numbered.step {serving : Serving} (numbered : Numbered serving) (event : Event) :
    Numbered (serving.step event) := by
  cases event with
  | line line => exact numbered.takeLine line
  | retire ticket result => exact numbered.retire ticket result
  | respond ticket => exact numbered.respond ticket
  | write =>
    simp only [Serving.step, write]
    split
    · exact numbered
    · exact ⟨numbered.distinct, numbered.before, numbered.named⟩

theorem Numbered.runFrom {serving : Serving} (numbered : Numbered serving) (events : List Event) :
    Numbered (serving.runFrom events) := by
  induction events generalizing serving with
  | nil => exact numbered
  | cons event events ih => exact ih (numbered.step event)

/-- The agent takes a call back: a cancellation comes while its identifier means the call. -/
def TakesBack (serving : Serving) (ticket : Nat) (events : List Event) : Prop :=
  ∃ before line after key, events = before ++ .line line :: after ∧
    cancelledKey? line = some key ∧
    (serving.runFrom before).server.named.lookup key = some ticket

theorem takesBack_cons_iff {serving : Serving} {ticket : Nat} {event : Event}
    {events : List Event} :
    serving.TakesBack ticket (event :: events) ↔
      (∃ line key, event = .line line ∧ cancelledKey? line = some key ∧
        serving.server.named.lookup key = some ticket) ∨
      (serving.step event).TakesBack ticket events := by
  constructor
  · intro given
    obtain ⟨before, line, after, key, whole, cancels, means⟩ := given
    cases before with
    | nil =>
      cases whole
      exact Or.inl ⟨line, key, rfl, cancels, means⟩
    | cons first before =>
      cases whole
      exact Or.inr ⟨before, line, after, key, rfl, cancels, means⟩
  · intro given
    rcases given with ⟨line, key, rfl, cancels, means⟩ | later
    · exact ⟨[], line, events, key, rfl, cancels, means⟩
    · obtain ⟨before, line, after, key, rfl, cancels, means⟩ := later
      exact ⟨event :: before, line, after, key, rfl, cancels, means⟩

theorem not_takesBack_nil (serving : Serving) (ticket : Nat) : ¬ serving.TakesBack ticket [] := by
  intro given
  obtain ⟨before, line, after, key, whole, -⟩ := given
  simp at whole

theorem Numbered.lookup {serving : Serving} (numbered : Numbered serving) {key : List Char}
    {ticket : Nat} (means : serving.server.named.lookup key = some ticket) :
    ∃ call ∈ serving.server.running, call.ticket = ticket ∧ call.id.text = key := by
  obtain ⟨front, back, whole, -⟩ := List.lookup_eq_some_iff.mp means
  have among : (key, ticket) ∈ serving.server.named := by rw [whole]; simp
  exact numbered.named _ among

theorem origin_of_running {serving : Serving} {event : Event} {call : RunningCall}
    (among : call ∈ (serving.step event).server.running) :
    (∃ old ∈ serving.server.running, old.ticket = call.ticket ∧ old.id = call.id) ∨
      call.ticket = serving.server.nextTicket ∧
        ∃ line, event = .line line ∧ callId? line = some call.id := by
  cases event with
  | line line =>
    have handles := handles_handleLine serving.server line
    simp only [step, takeLine] at among
    generalize serving.server.handleLine line = after at handles among
    cases handles with
    | call calls =>
      simp only [Server.launch, Server.forget, List.mem_append, List.mem_singleton] at among
      rcases among with among | rfl
      · exact Or.inl ⟨call, among, rfl, rfl⟩
      · exact Or.inr ⟨rfl, line, rfl, calls⟩
    | unknown => exact Or.inl ⟨call, among, rfl, rfl⟩
    | cancellation =>
      obtain ⟨old, running, rfl⟩ := List.mem_map.mp among
      exact Or.inl ⟨old, running, by split <;> exact ⟨rfl, rfl⟩⟩
    | other => exact Or.inl ⟨call, among, rfl, rfl⟩
  | retire ticket result =>
    simp only [step, retire, Server.retire] at among
    split at among
    · exact Or.inl ⟨call, among, rfl, rfl⟩
    · exact Or.inl ⟨call, List.mem_of_mem_filter among, rfl, rfl⟩
  | respond ticket =>
    rw [step, server_respond] at among
    exact Or.inl ⟨call, among, rfl, rfl⟩
  | write =>
    rw [step, server_write] at among
    exact Or.inl ⟨call, among, rfl, rfl⟩

theorem ticket_of_running {serving : Serving} {event : Event} {call : RunningCall}
    (among : call ∈ (serving.step event).server.running) :
    (∃ old ∈ serving.server.running, old.ticket = call.ticket ∧ old.id = call.id) ∨
      call.ticket = serving.server.nextTicket :=
  (origin_of_running among).imp_right And.left

theorem nextTicket_step (serving : Serving) (event : Event) :
    serving.server.nextTicket ≤ (serving.step event).server.nextTicket := by
  cases event with
  | line line =>
    have handles := handles_handleLine serving.server line
    simp only [step, takeLine]
    generalize serving.server.handleLine line = after at handles
    cases handles with
    | call => exact Nat.le_succ _
    | _ => exact Nat.le_refl _
  | retire ticket result =>
    simp only [step, retire, Server.retire]
    split <;> exact Nat.le_refl _
  | respond ticket => simp [step]
  | write => simp [step]

theorem Numbered.not_takesBack {serving : Serving} (numbered : Numbered serving) {ticket : Nat}
    (old : ticket < serving.server.nextTicket)
    (gone : ∀ call ∈ serving.server.running, call.ticket ≠ ticket) (events : List Event) :
    ¬ serving.TakesBack ticket events := by
  induction events generalizing serving with
  | nil => exact not_takesBack_nil serving ticket
  | cons event events ih =>
    rw [takesBack_cons_iff]
    rintro (⟨line, key, -, -, means⟩ | later)
    · obtain ⟨call, running, same, -⟩ := numbered.lookup means
      exact gone call running same
    · have older := Nat.lt_of_lt_of_le old (nextTicket_step serving event)
      refine ih (numbered.step event) older ?_ later
      intro call among
      rcases ticket_of_running among with ⟨before, running, same, -⟩ | new
      · exact same ▸ gone before running
      · exact new ▸ Nat.ne_of_gt old

theorem retired_of_step {serving : Serving} {event : Event} {entry : RunningCall × ToolResult}
    (among : entry ∈ (serving.step event).retired) :
    entry ∈ serving.retired ∨
      entry.1 ∈ serving.server.running ∧ event = .retire entry.1.ticket entry.2 := by
  cases event with
  | line line => exact Or.inl among
  | retire ticket result =>
    simp only [step, retire, Server.retire] at among
    split at among
    · simp only [Option.toList_none, List.map_nil, List.append_nil] at among
      exact Or.inl among
    · rename_i call found
      rcases List.mem_append.mp among with among | new
      · exact Or.inl among
      · rw [Option.toList_some, List.map_cons, List.map_nil, List.mem_singleton] at new
        subst new
        obtain ⟨running, same⟩ := find?_ticket found
        exact Or.inr ⟨running, by rw [same]⟩
  | respond ticket =>
    rw [step, retired_respond] at among
    exact Or.inl (List.mem_of_mem_eraseP among)
  | write =>
    rw [step, retired_write] at among
    exact Or.inl among

theorem Numbered.find?_retired {serving : Serving} (numbered : Numbered serving)
    {entry : RunningCall × ToolResult} (among : entry ∈ serving.retired) :
    serving.retired.find? (fun other => other.1.ticket == entry.1.ticket) = some entry := by
  cases found : serving.retired.find? fun other => other.1.ticket == entry.1.ticket with
  | none =>
    have missing := List.find?_eq_none.mp found entry among
    simp at missing
  | some other =>
    have same := List.find?_some found
    rw [beq_iff_eq] at same
    have equal := List.inj_on_of_nodup_map numbered.retired_tickets
      (List.mem_of_find?_eq_some found) among same
    rw [equal]

theorem Numbered.answersTo_of_gone {serving : Serving} (numbered : Numbered serving) {ticket : Nat}
    (old : ticket < serving.server.nextTicket)
    (gone : ∀ call ∈ serving.unanswered, call.ticket ≠ ticket) (events : List Event) :
    answersTo ticket (serving.log events) = [] := by
  induction events generalizing serving with
  | nil => rfl
  | cons event events ih =>
    have later : answersTo ticket ((serving.step event).log events) = [] := by
      refine ih (numbered.step event) (Nat.lt_of_lt_of_le old (nextTicket_step serving event)) ?_
      intro call among
      rcases List.mem_append.mp among with running | retired
      · rcases ticket_of_running running with ⟨before, running, same, -⟩ | new
        · exact same ▸ gone before (List.mem_append_left _ running)
        · exact new ▸ Nat.ne_of_gt old
      · obtain ⟨entry, member, rfl⟩ := List.mem_map.mp retired
        rcases retired_of_step member with before | ⟨running, -⟩
        · exact gone _ (List.mem_append_right _ (List.mem_map_of_mem before))
        · exact gone _ (List.mem_append_left _ running)
    rw [log, answersTo_append, later, List.append_nil]
    rcases answersTo_posts serving ticket event with nothing | ⟨-, entry, found, -⟩
    · exact nothing
    · have same := List.find?_some found
      have among := List.mem_of_find?_eq_some found
      exact absurd (by simpa using same)
        (gone entry.1 (List.mem_append_right _ (List.mem_map_of_mem among)))

theorem mem_retired_step {serving : Serving} {event : Event} {entry : RunningCall × ToolResult}
    (among : entry ∈ serving.retired) (other : event ≠ .respond entry.1.ticket) :
    entry ∈ (serving.step event).retired := by
  cases event with
  | line line => exact among
  | retire ticket result => exact List.mem_append_left _ among
  | respond ticket =>
    rw [step, retired_respond]
    refine (List.mem_eraseP_of_neg ?_).mpr among
    intro same
    exact other (by rw [beq_iff_eq.mp same])
  | write => rwa [step, retired_write]

theorem Numbered.answersTo_of_retired {serving : Serving} (numbered : Numbered serving)
    {entry : RunningCall × ToolResult} (among : entry ∈ serving.retired) (events : List Event) :
    answersTo entry.1.ticket (serving.log events) = entry.1.responses entry.2 ∨
      answersTo entry.1.ticket (serving.log events) = [] ∧
        entry ∈ (serving.runFrom events).retired := by
  induction events generalizing serving with
  | nil => exact Or.inr ⟨rfl, among⟩
  | cons event events ih =>
    rw [log, answersTo_append]
    have steps : serving.runFrom (event :: events) = (serving.step event).runFrom events := rfl
    rw [steps]
    by_cases now : event = .respond entry.1.ticket
    · -- Its turn has come: it leaves the second list and is on neither from then on.
      subst now
      have found := numbered.find?_retired among
      obtain ⟨front, back, parts, erased⟩ := split_of_find? found
      have posted : serving.posts (.respond entry.1.ticket) =
          (entry.1.responses entry.2).map (some entry.1.ticket, ·) := by
        simp only [posts, found]
      have after : serving.step (.respond entry.1.ticket) =
          { serving with
            retired := front ++ back
            queued := serving.queued ++ entry.1.responses entry.2 } := by
        simp only [Serving.step, Serving.respond, found, erased]
      have rest : answersTo entry.1.ticket
          ((serving.step (.respond entry.1.ticket)).log events) = [] := by
        have bound := numbered.before entry.1 (List.mem_append_right _ (List.mem_map_of_mem among))
        refine (numbered.step _).answersTo_of_gone (by rw [after]; exact bound) ?_ events
        rw [after]
        intro call member
        rcases List.mem_append.mp member with running | retired
        · exact numbered.not_running_of_retired among call running
        · have distinct := numbered.retired_tickets
          rw [parts, (List.perm_middle.map _).nodup_iff, List.map_cons, List.nodup_cons] at distinct
          obtain ⟨other, left, rfl⟩ := List.mem_map.mp retired
          intro same
          exact distinct.1 (List.mem_map.mpr ⟨other, left, same⟩)
      rw [posted, rest, List.append_nil, answersTo_map, if_pos rfl]
      exact Or.inl rfl
    · have nothing : answersTo entry.1.ticket (serving.posts event) = [] := by
        rcases answersTo_posts serving entry.1.ticket event with nothing | ⟨here, -⟩
        · exact nothing
        · exact absurd here now
      rw [nothing, List.nil_append]
      exact ih (numbered.step event) (mem_retired_step among now)

/-- What has become of a call after some steps, and what it was answered. -/
inductive Fate (events : List Event) (after : Serving) (call : RunningCall) :
    List Response → Prop
  | underWay (among : call ∈ after.server.running) : Fate events after call []
  | retired {result : ToolResult} (ends : .retire call.ticket result ∈ events)
      (among : (call, result) ∈ after.retired) : Fate events after call []
  | answered {result : ToolResult} (ends : .retire call.ticket result ∈ events) :
    Fate events after call (call.responses result)

theorem Fate.cons {event : Event} {events : List Event} {after : Serving} {call : RunningCall}
    {responses : List Response} (fate : Fate events after call responses) :
    Fate (event :: events) after call responses := by
  cases fate with
  | underWay among => exact .underWay among
  | retired ends among => exact .retired (List.mem_cons_of_mem _ ends) among
  | answered ends => exact .answered (List.mem_cons_of_mem _ ends)

theorem Fate.exists_result {events : List Event} {after : Serving} {call : RunningCall}
    {responses : List Response} (fate : Fate events after call responses)
    (idle : after.server.running = []) (answered : after.retired = []) :
    ∃ result, .retire call.ticket result ∈ events ∧ responses = call.responses result := by
  cases fate with
  | underWay among =>
    rw [idle] at among
    cases among
  | retired ends among =>
    rw [answered] at among
    cases among
  | @answered result ends => exact ⟨result, ends, rfl⟩

theorem running_step {serving : Serving} {call : RunningCall}
    (among : call ∈ serving.server.running) {event : Event}
    (other : ∀ result, event ≠ .retire call.ticket result) :
    ∃ cancelled, { call with cancelled } ∈ (serving.step event).server.running ∧
      (cancelled = true ↔ call.cancelled = true ∨
        ∃ line key, event = .line line ∧ cancelledKey? line = some key ∧
          serving.server.named.lookup key = some call.ticket) := by
  cases event with
  | line line =>
    have handles := handles_handleLine serving.server line
    simp only [Serving.step, Serving.takeLine, Event.line.injEq]
    generalize serving.server.handleLine line = after at handles ⊢
    cases handles with
    | call calls keeps =>
      exact ⟨call.cancelled, List.mem_append_left _ among, by simp [keeps]⟩
    | unknown calls cancels missing =>
      exact ⟨call.cancelled, among, by simp [cancels, missing]⟩
    | other calls keeps => exact ⟨call.cancelled, among, by simp [keeps]⟩
    | @cancellation key ticket calls cancels found =>
      by_cases same : call.ticket = ticket
      · refine ⟨true, List.mem_map.mpr ⟨call, among, by simp [same]⟩, ?_⟩
        simp [cancels, found, same]
      · refine ⟨call.cancelled, List.mem_map.mpr ⟨call, among, by simp [same]⟩, ?_⟩
        simp [cancels, found, Ne.symm same]
  | retire ticket result =>
    refine ⟨call.cancelled, ?_, by simp⟩
    have different : call.ticket ≠ ticket := by
      intro same
      subst same
      exact other result rfl
    simp only [Serving.step, Serving.retire, Server.retire]
    split
    · exact among
    · exact List.mem_filter.mpr ⟨among, by simpa using different⟩
  | respond ticket =>
    refine ⟨call.cancelled, ?_, by simp⟩
    rwa [Serving.step, server_respond]
  | write =>
    refine ⟨call.cancelled, ?_, by simp⟩
    rwa [Serving.step, server_write]

theorem Numbered.step_retire {serving : Serving} (numbered : Numbered serving) {call : RunningCall}
    (among : call ∈ serving.server.running) (result : ToolResult) :
    (call, result) ∈ (serving.step (.retire call.ticket result)).retired := by
  have found : serving.server.running.find? (fun other => other.ticket == call.ticket) =
      some call := by
    cases found : serving.server.running.find? fun other => other.ticket == call.ticket with
    | none =>
      have missing := List.find?_eq_none.mp found call among
      simp at missing
    | some other =>
      obtain ⟨among', same⟩ := find?_ticket found
      rw [List.inj_on_of_nodup_map numbered.running_tickets among' among same]
  simp [Serving.step, Serving.retire, Server.retire, found]

/-- Every call under way meets its fate: it is answered once at most, and with its own result. -/
theorem Numbered.exists_fate {serving : Serving} (numbered : Numbered serving) {call : RunningCall}
    (among : call ∈ serving.server.running) (events : List Event) :
    ∃ cancelled, (cancelled = true ↔
        call.cancelled = true ∨ serving.TakesBack call.ticket events) ∧
      Fate events (serving.runFrom events) { call with cancelled }
        (answersTo call.ticket (serving.log events)) := by
  induction events generalizing serving call with
  | nil => exact ⟨call.cancelled, by simp [not_takesBack_nil], .underWay among⟩
  | cons event events ih =>
    have steps : serving.runFrom (event :: events) = (serving.step event).runFrom events := rfl
    have unanswered : answersTo call.ticket (serving.posts event) = [] := by
      rcases answersTo_posts serving call.ticket event with nothing | ⟨-, entry, found, -⟩
      · exact nothing
      · have same := List.find?_some found
        exact absurd (beq_iff_eq.mp same).symm (numbered.not_running_of_retired
          (List.mem_of_find?_eq_some found) call among)
    rw [log, answersTo_append, unanswered, List.nil_append, steps, takesBack_cons_iff]
    by_cases ends : ∃ result, event = .retire call.ticket result
    · -- The identifier means the call no longer, so nothing takes it back after this.
      obtain ⟨result, rfl⟩ := ends
      have retired := numbered.step_retire among result
      have numbered' := numbered.step (.retire call.ticket result)
      have bound := numbered'.before call (List.mem_append_right _ (List.mem_map_of_mem retired))
      have free := numbered'.not_takesBack bound (numbered'.not_running_of_retired retired) events
      refine ⟨call.cancelled, by simp [free], ?_⟩
      rcases numbered'.answersTo_of_retired retired events with answers | ⟨nothing, left⟩
      · rw [answers]
        exact .answered List.mem_cons_self
      · rw [nothing]
        exact .retired List.mem_cons_self left
    · have other : ∀ result, event ≠ .retire call.ticket result :=
        fun result same => ends ⟨result, same⟩
      obtain ⟨now, running, taken⟩ := running_step among other
      obtain ⟨cancelled, taken', fate⟩ := ih (numbered.step event) running
      exact ⟨cancelled, by rw [taken', taken, or_assoc], fate.cons⟩

theorem id_of_running {serving : Serving} {ticket : Nat} {id : Json}
    (old : ticket < serving.server.nextTicket)
    (own : ∀ call ∈ serving.server.running, call.ticket = ticket → call.id = id)
    (events : List Event) :
    ∀ call ∈ (serving.runFrom events).server.running, call.ticket = ticket → call.id = id := by
  induction events generalizing serving with
  | nil => exact own
  | cons event events ih =>
    refine ih (Nat.lt_of_lt_of_le old (nextTicket_step serving event)) ?_
    intro call among same
    rcases ticket_of_running among with ⟨before, running, ticket', id'⟩ | new
    · exact id'.symm.trans (own before running (ticket'.trans same))
    · exact absurd (same.symm.trans new) (Nat.ne_of_lt old)

theorem TakesBack.exists_line {serving : Serving} (numbered : Numbered serving) {call : RunningCall}
    (among : call ∈ serving.server.running) {events : List Event}
    (takes : serving.TakesBack call.ticket events) :
    ∃ line, .line line ∈ events ∧ cancelledKey? line = some call.id.text := by
  obtain ⟨before, line, after, key, rfl, cancels, means⟩ := takes
  obtain ⟨other, running, same, text⟩ := (numbered.runFrom before).lookup means
  have own : ∀ other ∈ serving.server.running, other.ticket = call.ticket → other.id = call.id := by
    intro other running same
    rw [List.inj_on_of_nodup_map numbered.running_tickets running among same]
  have id := id_of_running (numbered.before call (List.mem_append_left _ among)) own before
    other running same
  exact ⟨line, by simp, by rw [cancels, ← text, id]⟩

theorem run_append (catalogue : Catalogue) (events more : List Event) :
    run catalogue (events ++ more) = (run catalogue events).runFrom more :=
  runFrom_append (start catalogue) events more

theorem numbered_run (catalogue : Catalogue) (events : List Event) :
    Numbered (run catalogue events) := (numbered_start catalogue).runFrom events

theorem nextTicket_runFrom {serving : Serving} {ledger : Ledger}
    (same : serving.server.nextTicket = ledger.count) (events : List Event) :
    (serving.runFrom events).server.nextTicket = (events.foldl Ledger.step ledger).count := by
  induction events generalizing serving ledger with
  | nil => exact same
  | cons event events ih =>
    refine ih ?_
    cases event with
    | line line =>
      have handles := handles_handleLine serving.server line
      simp only [step, takeLine, Ledger.step]
      generalize serving.server.handleLine line = after at handles ⊢
      cases handles with
      | call calls => simp only [calls, Server.launch, Server.forget, same]
      | unknown calls => simp only [calls, same]
      | cancellation calls => simp only [calls, same]
      | other calls => simp only [calls, same]
    | retire ticket result =>
      simp only [step, retire, Server.retire]
      split <;> exact same
    | respond ticket =>
      rw [step, server_respond]
      exact same
    | write =>
      rw [step, server_write]
      exact same

theorem nextTicket_run (catalogue : Catalogue) (events : List Event) :
    (run catalogue events).server.nextTicket = (ledger events).count :=
  nextTicket_runFrom rfl events

theorem nextTicket_le_runFrom (serving : Serving) (events : List Event) :
    serving.server.nextTicket ≤ (serving.runFrom events).server.nextTicket := by
  induction events generalizing serving with
  | nil => exact Nat.le_refl _
  | cons event events ih => exact Nat.le_trans (nextTicket_step serving event) (ih _)

theorem Numbered.answersTo_of_unmade {serving : Serving} (numbered : Numbered serving)
    {ticket : Nat} {events : List Event}
    (unmade : (serving.runFrom events).server.nextTicket ≤ ticket) :
    answersTo ticket (serving.log events) = [] := by
  induction events generalizing serving with
  | nil => rfl
  | cons event events ih =>
    have later : answersTo ticket ((serving.step event).log events) = [] :=
      ih (numbered.step event) unmade
    rw [log, answersTo_append, later, List.append_nil]
    rcases answersTo_posts serving ticket event with nothing | ⟨-, entry, found, -⟩
    · exact nothing
    · have same := List.find?_some found
      have among := List.mem_of_find?_eq_some found
      have bound := numbered.before entry.1 (List.mem_append_right _ (List.mem_map_of_mem among))
      have made := nextTicket_le_runFrom serving (event :: events)
      rw [beq_iff_eq] at same
      omega

theorem mem_running_of_call (catalogue : Catalogue) {before : List Event} {line : List Char}
    {id : Json} (calls : callId? line = some id) :
    ⟨(ledger before).count, id, false⟩ ∈
      (run catalogue (before ++ [.line line])).server.running := by
  have step : run catalogue (before ++ [.line line]) = (run catalogue before).takeLine line :=
    run_append catalogue before [.line line]
  have handles := handles_handleLine (run catalogue before).server line
  rw [step, takeLine, ← nextTicket_run catalogue before]
  generalize (run catalogue before).server.handleLine line = after at handles ⊢
  cases handles with
  | call same =>
    cases calls.symm.trans same
    exact List.mem_append_right _ List.mem_cons_self
  | unknown none => exact absurd (calls.symm.trans none) (by simp)
  | cancellation none => exact absurd (calls.symm.trans none) (by simp)
  | other none => exact absurd (calls.symm.trans none) (by simp)

theorem exists_fate_of_call (catalogue : Catalogue) (before after : List Event) {line : List Char}
    {id : Json} (calls : callId? line = some id) :
    ∃ cancelled, (cancelled = true ↔
        (run catalogue (before ++ [.line line])).TakesBack (ledger before).count after) ∧
      Fate after (run catalogue (before ++ .line line :: after))
        ⟨(ledger before).count, id, cancelled⟩
        (answersTo (ledger before).count
          ((start catalogue).log (before ++ .line line :: after))) := by
  have split : before ++ .line line :: after = (before ++ [.line line]) ++ after := by simp
  have numbered := numbered_run catalogue (before ++ [.line line])
  obtain ⟨cancelled, taken, fate⟩ :=
    numbered.exists_fate (mem_running_of_call catalogue calls) after
  have early : answersTo (ledger before).count ((start catalogue).log before) = [] :=
    (numbered_start catalogue).answersTo_of_unmade
      (Nat.le_of_eq (nextTicket_run catalogue before))
  have now : answersTo (ledger before).count
      ((run catalogue before).log [.line line]) = [] := by
    rw [log, answersTo_append]
    rcases answersTo_posts (run catalogue before) (ledger before).count (.line line) with
      nothing | ⟨wrong, -⟩
    · rw [nothing]
      rfl
    · cases wrong
  refine ⟨cancelled, by simpa using taken, ?_⟩
  rw [split, log_append, log_append, answersTo_append, answersTo_append, early]
  change Fate after _ _ (([] ++ answersTo _ ((run catalogue before).log [.line line])) ++ _)
  rw [now, run_append]
  exact fate

end CodeGateway.Agent.Serving
