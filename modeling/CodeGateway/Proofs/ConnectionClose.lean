import CodeGateway.Proofs.ClosedLink
import CodeGateway.Proofs.ConnectionReader

namespace CodeGateway.Connection

def Event.isRead : Event → Bool
  | read => true
  | _ => false

/-- An event that brings no bytes and no end of them. -/
def Event.Quiet (event : Event) : Prop :=
  event.bytes = [] ∧ event.isHangUp = false

def Idle (connection : Connection) : Prop :=
  connection.shared.link.closed = none →
    Frame.read connection.hungUp connection.unread = .more

theorem unread_of_quiet (connection : Connection) {event : Event} (quiet : event.Quiet)
    (other : event.isRead = false) :
    (connection.step event).shared.link.closed = connection.shared.link.closed ∧
      (connection.step event).hungUp = connection.hungUp ∧
      (connection.step event).unread = connection.unread := by
  cases event with
  | move move => exact ⟨closed_move _ move, rfl, rfl⟩
  | hangUp => cases quiet.2
  | read => cases other
  | arrive bytes =>
    obtain rfl : bytes = [] := quiet.1
    simp only [step, arrive]
    split <;> simp

theorem Idle.step {connection : Connection} (idle : connection.Idle) {event : Event}
    (quiet : event.Quiet) : (connection.step event).Idle := by
  by_cases reads : event.isRead = true
  · cases event with
    | read =>
      have view := reads_next? connection
      simp only [Connection.step]
      generalize connection.next? = next at view ⊢
      cases view with
      | stopped => exact idle
      | waits => exact idle
      | routes standing found =>
        rw [idle standing] at found
        cases found
      | stops standing stops =>
        rcases stops with ⟨wrong, rest, found, -⟩ | ⟨found, -⟩ | ⟨found, -⟩
        · rw [idle standing] at found
          cases found
        · rw [idle standing] at found
          cases found
        · rw [idle standing] at found
          cases found
    | _ => cases reads
  · obtain ⟨closed, hungUp, unread⟩ := unread_of_quiet connection quiet
      (eq_false_of_ne_true reads)
    intro standing
    rw [closed] at standing
    rw [hungUp, unread]
    exact idle standing

end CodeGateway.Connection
