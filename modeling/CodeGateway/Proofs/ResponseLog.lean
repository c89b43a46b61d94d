import CodeGateway.Proofs.AnswersDue

namespace CodeGateway.Agent.Serving

@[simp] theorem server_respond (serving : Serving) (ticket : Nat) :
    (serving.respond ticket).server = serving.server := by
  unfold respond
  split <;> rfl

@[simp] theorem retired_respond (serving : Serving) (ticket : Nat) :
    (serving.respond ticket).retired =
      serving.retired.eraseP fun entry => entry.1.ticket == ticket := by
  unfold respond
  split
  · rename_i missing
    exact (List.eraseP_of_forall_not (List.find?_eq_none.mp missing)).symm
  · rfl

@[simp] theorem server_write (serving : Serving) : serving.write.server = serving.server := by
  unfold write
  split <;> rfl

@[simp] theorem retired_write (serving : Serving) : serving.write.retired = serving.retired := by
  unfold write
  split <;> rfl

theorem catalogue_step (serving : Serving) (event : Event) :
    (serving.step event).server.catalogue = serving.server.catalogue := by
  cases event with
  | line line =>
    have handles := handles_handleLine serving.server line
    simp only [step, takeLine]
    generalize serving.server.handleLine line = after at handles
    cases handles <;> rfl
  | retire ticket result =>
    simp only [step, retire, Server.retire]
    split <;> rfl
  | respond ticket => rw [step, server_respond]
  | write => rw [step, server_write]

theorem catalogue_runFrom (serving : Serving) (events : List Event) :
    (serving.runFrom events).server.catalogue = serving.server.catalogue := by
  induction events generalizing serving with
  | nil => rfl
  | cons event events ih => exact (ih (serving.step event)).trans (catalogue_step serving event)

def output (serving : Serving) : List Response := serving.written ++ serving.queued

/-- What a step puts in the queue, each response with the call that it answers. A line that is
    answered at once is no call. -/
def posts (serving : Serving) : Event → List (Option Nat × Response)
  | .line line => (serving.server.handleLine line).2.responses.map (none, ·)
  | .respond ticket =>
    match serving.retired.find? fun entry => entry.1.ticket == ticket with
    | some (call, result) => (call.responses result).map (some ticket, ·)
    | none => []
  | _ => []

def log : Serving → List Event → List (Option Nat × Response)
  | _, [] => []
  | serving, event :: events => serving.posts event ++ log (serving.step event) events

def answersTo (ticket : Nat) (entries : List (Option Nat × Response)) : List Response :=
  entries.filterMap fun entry => if entry.1 = some ticket then some entry.2 else none

@[simp] theorem answersTo_append (ticket : Nat) (entries more : List (Option Nat × Response)) :
    answersTo ticket (entries ++ more) = answersTo ticket entries ++ answersTo ticket more :=
  List.filterMap_append

theorem answersTo_map (ticket : Nat) (account : Option Nat) (responses : List Response) :
    answersTo ticket (responses.map (account, ·)) =
      if account = some ticket then responses else [] := by
  unfold answersTo
  rw [List.filterMap_map]
  split
  · rename_i same
    simp [same]
  · rename_i different
    simp [different]

@[simp] theorem output_write (serving : Serving) : serving.write.output = serving.output := by
  unfold write output
  split
  · rfl
  · rename_i queued
    simp [queued]

theorem output_step (serving : Serving) (event : Event) :
    (serving.step event).output = serving.output ++ (serving.posts event).map Prod.snd := by
  cases event with
  | line line => simp [step, takeLine, output, posts, Function.comp_def]
  | retire ticket result => simp [step, retire, output, posts]
  | respond ticket =>
    simp only [step, respond, output, posts]
    cases serving.retired.find? fun entry => entry.1.ticket == ticket with
    | none => simp
    | some entry => simp [Function.comp_def]
  | write => simp [step, posts]

theorem output_runFrom (serving : Serving) (events : List Event) :
    (serving.runFrom events).output = serving.output ++ (serving.log events).map Prod.snd := by
  induction events generalizing serving with
  | nil => simp [runFrom, log]
  | cons event events ih =>
    have later := ih (serving.step event)
    rw [output_step] at later
    rw [log, List.map_append, ← List.append_assoc]
    exact later

theorem log_append (serving : Serving) (events more : List Event) :
    serving.log (events ++ more) =
      serving.log events ++ (serving.runFrom events).log more := by
  induction events generalizing serving with
  | nil => rfl
  | cons event events ih =>
    rw [List.cons_append, log, log, ih, List.append_assoc]
    rfl

theorem runFrom_append (serving : Serving) (events more : List Event) :
    serving.runFrom (events ++ more) = (serving.runFrom events).runFrom more :=
  List.foldl_append

theorem answersTo_posts (serving : Serving) (ticket : Nat) (event : Event) :
    answersTo ticket (serving.posts event) = [] ∨
      event = .respond ticket ∧ ∃ entry,
        serving.retired.find? (fun other => other.1.ticket == ticket) = some entry ∧
        answersTo ticket (serving.posts event) = entry.1.responses entry.2 := by
  cases event with
  | line line => exact Or.inl ((answersTo_map _ _ _).trans (if_neg (by simp)))
  | retire other result => exact Or.inl rfl
  | write => exact Or.inl rfl
  | respond other =>
    cases found : serving.retired.find? fun entry => entry.1.ticket == other with
    | none =>
      have silent : serving.posts (.respond other) = [] := by simp [posts, found]
      rw [silent]
      exact Or.inl rfl
    | some entry =>
      have posted : serving.posts (.respond other) =
          (entry.1.responses entry.2).map (some other, ·) := by simp [posts, found]
      rw [posted, answersTo_map]
      by_cases same : other = ticket
      · subst same
        exact Or.inr ⟨rfl, entry, found, if_pos rfl⟩
      · exact Or.inl (if_neg (by simpa using same))

end CodeGateway.Agent.Serving
