import CodeGateway.Proofs.SharedRequest
import Mathlib.Data.List.Induction

namespace CodeGateway.SharedLink

/-- The first message that answers a request while it waits. -/
def FirstReply (events : List Event) (id : Nat) (message : Json) : Prop :=
  ∃ before after, events = before ++ .route message :: after ∧ Message.IsReply message id ∧
    id ∈ (run before).link.waiting ∧
    ∀ earlier other later, before = earlier ++ .route other :: later → Message.IsReply other id →
      id ∉ (run earlier).link.waiting

/-- What a request may have ended with, and why. -/
inductive Cause (events : List Event) (request : Request) : Outcome → Prop
  | answered {message : Json} (reply : FirstReply events request.id message)
      (accepted : message.member? "error" = none) :
    Cause events request (.ok ((message.member? "result").getD .null))
  | failed {message error : Json} (reply : FirstReply events request.id message)
      (refused : message.member? "error" = some error) :
    Cause events request (.error (Message.remoteFailure error))
  | cancelled (fired : .move (.fire request.signal) ∈ events) :
    Cause events request (.error .cancelled)
  | closed {reason : String} (stopped : .stop reason ∈ events)
      (recorded : (run events).link.closed = some reason) :
    Cause events request (.error (.closed reason))
  | muted (stopped : .move .stopWriter ∈ events) :
    Cause events request (.error (.closed "writer stopped"))

theorem step_of_reply {shared : SharedLink} (sound : Sound shared) {id : Nat} {message : Json}
    (reply : Message.IsReply message id) (waits : id ∈ shared.link.waiting) :
    shared.step (.route message) =
      shared.absorb (shared.link.forget id, ⟨[], [(id, Message.outcome message)]⟩) := by
  have standing : ¬ shared.link.closed.isSome = true := by
    intro closed
    rw [sound.closed (Option.isSome_iff_ne_none.mp closed)] at waits
    cases waits
  rw [step, if_neg standing, Link.route_of_reply reply waits]

theorem lookup_step_of_reply {shared : SharedLink} (sound : Sound shared) {id : Nat}
    {message : Json} (reply : Message.IsReply message id) (waits : id ∈ shared.link.waiting) :
    (shared.step (.route message)).posted.lookup id = some (Message.outcome message) := by
  obtain ⟨-, unhanded⟩ := (sound.waits id).mp waits
  rw [step_of_reply sound reply waits, lookup_post, unhanded, if_pos rfl]
  rfl

theorem FirstReply.append {events : List Event} {id : Nat} {message : Json}
    (reply : FirstReply events id message) (more : List Event) :
    FirstReply (events ++ more) id message := by
  obtain ⟨before, after, rfl, isReply, waits, first⟩ := reply
  exact ⟨before, after ++ more, by simp, isReply, waits, first⟩

theorem Cause.append {events : List Event} {request : Request} {outcome : Outcome}
    (cause : Cause events request outcome) (event : Event) :
    Cause (events ++ [event]) request outcome := by
  cases cause with
  | answered reply accepted => exact .answered (reply.append _) accepted
  | failed reply refused => exact .failed (reply.append _) refused
  | cancelled fired => exact .cancelled (List.mem_append_left _ fired)
  | closed stopped recorded =>
    exact .closed (List.mem_append_left _ stopped) ((does_run events event).closed recorded)
  | muted stopped => exact .muted (List.mem_append_left _ stopped)

theorem Cause.congr {events : List Event} {request other : Request} {outcome : Outcome}
    (cause : Cause events request outcome) (id : other.id = request.id)
    (signal : other.signal = request.signal) : Cause events other outcome := by
  cases cause with
  | answered reply accepted => exact .answered (id ▸ reply) accepted
  | failed reply refused => exact .failed (id ▸ reply) refused
  | cancelled fired => exact .cancelled (signal ▸ fired)
  | closed stopped recorded => exact .closed stopped recorded
  | muted stopped => exact .muted stopped

end CodeGateway.SharedLink
