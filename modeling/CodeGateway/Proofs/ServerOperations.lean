import CodeGateway.Agent.Serving

namespace CodeGateway.Agent.Serving

theorem runFrom_lines (serving : Serving) (lines : List (List Char)) :
    serving.runFrom (lines.map Event.line) =
      { serving with
        server := (serving.server.handleLines lines).1
        queued := serving.queued ++ (serving.server.handleLines lines).2.responses } := by
  induction lines generalizing serving with
  | nil => simp [runFrom, Server.handleLines, Reaction.none]
  | cons line lines ih =>
    have first : serving.runFrom ((line :: lines).map Event.line) =
        (serving.takeLine line).runFrom (lines.map Event.line) := rfl
    rw [first, ih]
    simp [takeLine, Server.handleLines, Reaction.append, List.append_assoc]

theorem ticket_of_retire {server : Server} {ticket : Nat} {call : RunningCall}
    (retired : (server.retire ticket).2 = some call) : call.ticket = ticket := by
  unfold Server.retire at retired
  split at retired
  · cases retired
  · rename_i other found
    cases retired
    simpa using List.find?_some found

theorem runFrom_finish {serving : Serving} {ticket : Nat}
    (fresh : ∀ entry ∈ serving.retired, entry.1.ticket ≠ ticket) (result : ToolResult) :
    serving.runFrom [.retire ticket result, .respond ticket] =
      { serving with
        server := (serving.server.finish ticket result).1
        queued := serving.queued ++ (serving.server.finish ticket result).2 } := by
  have steps : serving.runFrom [.retire ticket result, .respond ticket] =
      (serving.retire ticket result).respond ticket := rfl
  have missing : serving.retired.find? (fun entry => entry.1.ticket == ticket) = none := by
    rw [List.find?_eq_none]
    intro entry among
    simpa using fresh entry among
  rw [steps]
  unfold retire Server.finish
  have sameTicket {call : RunningCall} (found : (serving.server.retire ticket).2 = some call) :
      call.ticket = ticket := ticket_of_retire found
  generalize serving.server.retire ticket = taken at sameTicket ⊢
  obtain ⟨server, found⟩ := taken
  cases found with
  | none => simp [respond, missing]
  | some call =>
    have same : call.ticket = ticket := sameTicket rfl
    have others : (serving.retired ++ [(call, result)]).eraseP
        (fun entry => entry.1.ticket == ticket) = serving.retired := by
      rw [List.eraseP_append_right _ (by simpa using fresh)]
      simp [same]
    simp [respond, missing, same, others]

end CodeGateway.Agent.Serving
