import CodeGateway.Proofs.SharedRequest
import Mathlib.Data.List.Induction

namespace CodeGateway.SharedLink

/-- A request was registered while the connection stood, and since then no reply to it has come, the
    reader has not stopped, and it has not ended. -/
def WaitsAfter (events : List Event) (id : Nat) : Prop :=
  ∃ before after request, events = before ++ .move (.register id) :: after ∧
    (run before).request? id = some request ∧ request.stage = .numbered ∧
    (run before).link.closed = none ∧ (∀ message, .route message ∈ after →
      ¬ Message.IsReply message id) ∧ (∀ reason, .stop reason ∉ after) ∧
    ∀ request outcome, (run events).request? id = some request → request.stage ≠ .ended outcome

theorem not_waiting_of_closed {shared : SharedLink} (sound : Sound shared)
    (closed : shared.link.closed ≠ none) (id : Nat) : id ∉ shared.link.waiting := by
  rw [sound.closed closed]
  exact List.not_mem_nil

theorem Does.waiting {shared after : SharedLink} {event : Event} (does : Does shared event after)
    (sound : Sound shared) {id : Nat} (waits : id ∈ after.link.waiting) :
    (id ∈ shared.link.waiting ∧ (∀ message, event = .route message → ¬ Message.IsReply message id) ∧
      ∀ reason, event ≠ .stop reason) ∨
    ∃ request, event = .move (.register id) ∧ shared.request? id = some request ∧
      request.stage = .numbered ∧ shared.link.closed = none := by
  cases does with
  | nothing idle =>
    obtain ⟨move, rfl⟩ := idle (by
      by_contra closed
      exact not_waiting_of_closed sound closed id waits)
    exact Or.inl ⟨waits, by simp, by simp⟩
  | @registered request found stage standing =>
    rcases List.mem_append.mp waits with before | now
    · exact Or.inl ⟨before, by simp, by simp⟩
    · rw [List.mem_singleton] at now
      subst now
      exact Or.inr ⟨request, rfl, found, stage, standing⟩
  | unsent => exact Or.inl ⟨List.mem_of_mem_erase waits, by simp, by simp⟩
  | withdrawn => exact Or.inl ⟨List.mem_of_mem_erase waits, by simp, by simp⟩
  | @replied message other reply waits' =>
    refine Or.inl ⟨List.mem_of_mem_erase waits, ?_, by simp⟩
    intro message here isReply
    cases here
    have same := Option.some.inj (reply.2.symm.trans isReply.2)
    rw [Int.ofNat_inj] at same
    subst same
    exact not_mem_erase sound.once _ waits
  | answered strange =>
    refine Or.inl ⟨waits, ?_, by simp⟩
    intro message here
    cases here
    exact strange id waits
  | stopped => cases waits
  | _ => exact Or.inl ⟨waits, by simp, by simp⟩

theorem WaitsAfter.snoc {events : List Event} {id : Nat} {event : Event}
    (waitsAfter : WaitsAfter events id) (noReply : ∀ message, event = .route message →
      ¬ Message.IsReply message id) (noStop : ∀ reason, event ≠ .stop reason)
    (open' : ∀ request outcome, (run (events ++ [event])).request? id = some request →
      request.stage ≠ .ended outcome) : WaitsAfter (events ++ [event]) id := by
  obtain ⟨before, after, request, rfl, found, stage, standing, noReplies, noStops, -⟩ := waitsAfter
  refine ⟨before, after ++ [event], request, by simp, found, stage, standing, ?_, ?_, open'⟩
  · intro message member
    rcases List.mem_append.mp member with member | member
    · exact noReplies message member
    · exact noReply message (List.mem_singleton.mp member).symm
  · intro reason member
    rcases List.mem_append.mp member with member | member
    · exact noStops reason member
    · exact noStop reason (List.mem_singleton.mp member).symm

end CodeGateway.SharedLink
