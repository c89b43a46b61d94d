import CodeGateway.Proofs.SessionLink

namespace CodeGateway

namespace Message

/-- The request that a message takes back. A message with an identifier is a request itself. -/
def cancelled? (message : Json) : Option Nat :=
  if (message.member? "method").bind Json.string? = some "$/cancelRequest" ∧
      (message.member? "id").isNone then
    match (message.member? "params").bind (Json.member? "id") with
    | some (.int id) => some id.toNat
    | _ => none
  else none

@[simp] theorem cancelled?_cancel (id : Nat) : cancelled? (cancel id) = some id := by
  simp [cancelled?, cancel, Json.string?, Json.member?, Json.lookup, notification]

@[simp] theorem cancelled?_request (id : Nat) (method : String) (params : Json) :
    cancelled? (request id method params) = none := by
  simp [cancelled?]

@[simp] theorem cancelled?_answer (id : Json) : cancelled? (answer id) = none := by
  simp [cancelled?]

theorem cancelled?_notification_of_ne {method : String} (different : method ≠ "$/cancelRequest")
    (params : Json) : cancelled? (notification method params) = none := by
  simp [cancelled?, Json.string?, different]

def cancelledIds (messages : List Json) : List Nat := messages.filterMap cancelled?

@[simp] theorem cancelledIds_append (messages more : List Json) :
    cancelledIds (messages ++ more) = cancelledIds messages ++ cancelledIds more :=
  List.filterMap_append

theorem mem_cancelledIds {messages : List Json} {id : Nat} (among : cancel id ∈ messages) :
    id ∈ cancelledIds messages :=
  List.mem_filterMap.mpr ⟨_, among, cancelled?_cancel id⟩

theorem cancel_split {messages more front back : List Json} {id : Nat}
    (whole : messages ++ more = front ++ cancel id :: back) :
    (∃ rest, messages = front ++ cancel id :: rest) ∨
      id ∈ cancelledIds more ∧ ∃ middle, front = messages ++ middle := by
  rcases List.append_eq_append_iff.mp whole with ⟨middle, rfl, rfl⟩ | ⟨middle, rfl, rest⟩
  · exact Or.inr ⟨mem_cancelledIds (by simp), middle, rfl⟩
  · cases middle with
    | nil =>
      rw [List.nil_append] at rest
      exact Or.inr ⟨mem_cancelledIds (by simp [← rest]), [], by simp⟩
    | cons first middle =>
      cases rest
      exact Or.inl ⟨middle, rfl⟩

theorem outcome_ne_cancelled (message : Json) : outcome message ≠ .error .cancelled := by
  unfold outcome
  split <;> simp [remoteFailure]

end Message

namespace SharedLink

open Message (cancelledIds)

/-- What a link has told the server of its requests: it has forgotten those that were taken back,
    and only those, each once and behind its own message. -/
structure Accounts (shared : SharedLink) : Prop where
  once : (cancelledIds shared.outgoing).Nodup
  same : ∀ id, id ∈ cancelledIds shared.outgoing ↔ shared.outcome? id = some (.error .cancelled)
  behind : ∀ front id back, shared.outgoing = front ++ Message.cancel id :: back →
    ∃ method params, Message.request id method params ∈ front
  signalled : ∀ id request, shared.request? id = some request →
    request.stage = .ended (.error .cancelled) → request.signal ∈ shared.fired

structure Honest (shared : SharedLink) : Prop where
  sound : Sound shared
  heard : shared.muted = false
  unposted : ∀ id, shared.posted.lookup id ≠ some (.error .cancelled)
  spoken : ∀ id request, shared.request? id = some request → request.stage = .sent →
    Message.request id request.method request.params ∈ shared.outgoing
  accounts : Accounts shared

theorem honest_start : Honest start := by
  refine ⟨sound_start, rfl, by simp [start], by simp [start, request?], ?_⟩
  constructor <;> simp [start, cancelledIds, outcome?, request?]

theorem Honest.quietly {shared after : SharedLink} (honest : Honest shared) (sound : Sound after)
    (heard : after.muted = false)
    (unposted : ∀ id, after.posted.lookup id ≠ some (.error .cancelled))
    {sent : List Json} (outgoing : after.outgoing = shared.outgoing ++ sent)
    (quiet : cancelledIds sent = []) (fired : ∀ signal ∈ shared.fired, signal ∈ after.fired)
    (spoken : ∀ id request, after.request? id = some request → request.stage = .sent →
      shared.request? id = some request ∨
        Message.request id request.method request.params ∈ sent)
    (same : ∀ id request, request.stage = .ended (.error .cancelled) →
      (after.request? id = some request ↔ shared.request? id = some request)) : Honest after := by
  refine ⟨sound, heard, unposted, ?_, ?_⟩
  · intro id request found stage
    rw [outgoing]
    rcases spoken id request found stage with before | now
    · exact List.mem_append_left _ (honest.spoken id request before stage)
    · exact List.mem_append_right _ now
  · have ids : cancelledIds after.outgoing = cancelledIds shared.outgoing := by
      rw [outgoing, Message.cancelledIds_append, quiet, List.append_nil]
    constructor
    · rw [ids]
      exact honest.accounts.once
    · intro id
      rw [ids, honest.accounts.same, outcome?_eq_some_iff, outcome?_eq_some_iff]
      constructor
      · intro given
        obtain ⟨request, found, ended⟩ := given
        exact ⟨request, (same id request ended).mpr found, ended⟩
      · intro given
        obtain ⟨request, found, ended⟩ := given
        exact ⟨request, (same id request ended).mp found, ended⟩
    · intro front id back whole
      rw [outgoing] at whole
      rcases Message.cancel_split whole with ⟨rest, parts⟩ | ⟨among, -⟩
      · exact honest.accounts.behind front id rest parts
      · rw [quiet] at among
        cases among
    · intro id request found ended
      exact fired _ (honest.accounts.signalled id request ((same id request ended).mp found) ended)

theorem request?_advance_iff {shared : SharedLink} {id other : Nat} {stage : Stage}
    {mover request : Request} (found : shared.request? id = some mover) :
    (shared.advance id stage).request? other = some request ↔
      if other = id then request = { mover with stage }
      else shared.request? other = some request := by
  by_cases self : other = id
  · subst self
    rw [request?_advance_self found, if_pos rfl, Option.some.injEq]
    exact eq_comm
  · rw [request?_advance_of_ne _ self, if_neg self]

theorem Honest.advance {shared middle : SharedLink} (honest : Honest shared) {mover : Request}
    {stage : Stage} (sound : Sound (middle.advance mover.id stage))
    (requests : middle.requests = shared.requests) (found : shared.request? mover.id = some mover)
    (live : mover.stage ≠ .ended (.error .cancelled))
    (notCancelled : stage ≠ .ended (.error .cancelled)) (heard : middle.muted = false)
    (posted : middle.posted = shared.posted) (fired : middle.fired = shared.fired)
    {sent : List Json} (outgoing : middle.outgoing = shared.outgoing ++ sent)
    (quiet : cancelledIds sent = [])
    (spoken : stage = .sent → Message.request mover.id mover.method mover.params ∈ sent) :
    Honest (middle.advance mover.id stage) := by
  have seen (id : Nat) : middle.request? id = shared.request? id := by
    simp only [request?, requests]
  have found' : middle.request? mover.id = some mover := (seen mover.id).trans found
  refine honest.quietly sound heard ?_ outgoing quiet ?_ ?_ ?_
  · intro id
    rw [show (middle.advance mover.id stage).posted = shared.posted from posted]
    exact honest.unposted id
  · intro signal among
    rw [show (middle.advance mover.id stage).fired = shared.fired from fired]
    exact among
  · intro id request given isSent
    rw [request?_advance_iff found'] at given
    split at given
    · rename_i same
      subst same
      subst given
      exact Or.inr (spoken isSent)
    · exact Or.inl ((seen id).symm.trans given)
  · intro id request ended
    rw [request?_advance_iff found']
    split
    · rename_i same
      subst same
      constructor
      · intro given
        rw [given] at ended
        exact absurd ended notCancelled
      · intro given
        rw [found] at given
        cases given
        exact absurd ended live
    · rw [seen]

theorem Honest.withdraw {shared : SharedLink} (honest : Honest shared) {request : Request}
    (found : shared.request? request.id = some request) (stage : request.stage = .sent)
    (fired : request.signal ∈ shared.fired) :
    Honest (({ shared with link := shared.link.forget request.id }.hand
      [Message.cancel request.id]).advance request.id (.ended (.error .cancelled))) := by
  have found' : ({ shared with link := shared.link.forget request.id }.hand
      [Message.cancel request.id]).request? request.id = some request := found
  have outgoing : ({ shared with link := shared.link.forget request.id }.hand
      [Message.cancel request.id]).outgoing = shared.outgoing ++ [Message.cancel request.id] := by
    simp [hand, honest.heard]
  have does : Does shared (.move (.withdraw request.id)) _ := .withdrawn found stage fired
  -- Whatever was taken back has ended, and this request has not.
  have fresh : request.id ∉ cancelledIds shared.outgoing := by
    rw [honest.accounts.same, outcome?_eq_some_iff]
    intro given
    obtain ⟨other, among, ended⟩ := given
    rw [found] at among
    cases among
    exact absurd (stage.symm.trans ended) (by simp)
  refine ⟨honest.sound.does does, honest.heard, honest.unposted, ?_, ?_⟩
  · intro id other given isSent
    rw [request?_advance_iff found'] at given
    show _ ∈ ({ shared with link := shared.link.forget request.id }.hand
      [Message.cancel request.id]).outgoing
    rw [outgoing]
    split at given
    · rw [given] at isSent
      cases isSent
    · exact List.mem_append_left _ (honest.spoken id other given isSent)
  · constructor
    · show (cancelledIds ({ shared with link := shared.link.forget request.id }.hand
        [Message.cancel request.id]).outgoing).Nodup
      rw [outgoing, Message.cancelledIds_append]
      refine List.nodup_append.mpr ⟨honest.accounts.once, by simp [cancelledIds], ?_⟩
      intro first among second single same
      simp only [cancelledIds, List.filterMap_cons, Message.cancelled?_cancel, List.filterMap_nil,
        List.mem_singleton] at single
      exact fresh (single ▸ same ▸ among)
    · intro id
      show id ∈ cancelledIds ({ shared with link := shared.link.forget request.id }.hand
        [Message.cancel request.id]).outgoing ↔ _
      rw [outgoing, Message.cancelledIds_append, List.mem_append, honest.accounts.same,
        outcome?_eq_some_iff, outcome?_eq_some_iff]
      simp only [request?_advance_iff found']
      by_cases self : id = request.id
      · subst self
        simp [cancelledIds]
      · have other : id ∉ cancelledIds [Message.cancel request.id] := by
          simpa [cancelledIds] using self
        simp only [other, or_false, if_neg self]
        rfl
    · intro front id back whole
      replace whole : shared.outgoing ++ [Message.cancel request.id] =
          front ++ Message.cancel id :: back := outgoing.symm.trans whole
      rcases Message.cancel_split whole with ⟨rest, parts⟩ | ⟨among, middle, rfl⟩
      · exact honest.accounts.behind front id rest parts
      · have last : id = request.id := by simpa [cancelledIds] using among
        have spoken := honest.spoken request.id request found stage
        exact ⟨_, _, last ▸ List.mem_append_left middle spoken⟩
    · intro id other given ended
      rw [request?_advance_iff found'] at given
      split at given
      · rw [given]
        exact fired
      · exact honest.accounts.signalled id other given ended

theorem cancelledIds_of_answers {sent : List Json}
    (answers : ∀ message ∈ sent, ∃ id, message = Message.answer id) : cancelledIds sent = [] := by
  refine List.filterMap_eq_nil_iff.mpr fun message among => ?_
  obtain ⟨id, rfl⟩ := answers message among
  exact Message.cancelled?_answer id

theorem unposted_step {shared : SharedLink}
    (unposted : ∀ id, shared.posted.lookup id ≠ some (.error .cancelled)) (event : Event)
    (id : Nat) : (shared.step event).posted.lookup id ≠ some (.error .cancelled) := by
  intro handed
  rcases (does_step shared event).handed handed with before |
    ⟨-, ⟨message, -, -, same⟩ | ⟨reason, -, same, -⟩⟩
  · exact unposted id before
  · exact Message.outcome_ne_cancelled message same.symm
  · cases same

theorem Honest.of_requests {shared after : SharedLink} (honest : Honest shared)
    (sound : Sound after) (heard : after.muted = false)
    (unposted : ∀ id, after.posted.lookup id ≠ some (.error .cancelled))
    (requests : after.requests = shared.requests) {sent : List Json}
    (outgoing : after.outgoing = shared.outgoing ++ sent) (quiet : cancelledIds sent = [])
    (fired : ∀ signal ∈ shared.fired, signal ∈ after.fired) : Honest after := by
  have seen (id : Nat) : after.request? id = shared.request? id := by
    simp only [request?, requests]
  refine honest.quietly sound heard unposted outgoing quiet fired ?_ ?_
  · intro id request found _
    exact Or.inl ((seen id).symm.trans found)
  · intro id request _
    rw [seen]

theorem Honest.begin {shared : SharedLink} (honest : Honest shared) (signal : Nat)
    (method : String) (params : Json) : Honest (shared.begin signal method params) := by
  have found {id : Nat} {request : Request} (live : request.stage ≠ .numbered)
      (given : (shared.begin signal method params).request? id = some request) :
      shared.request? id = some request := by
    rw [request?_begin] at given
    rcases Option.or_eq_some_iff.mp given with before | ⟨-, now⟩
    · exact before
    · obtain ⟨-, now⟩ := Option.ite_none_right_eq_some.mp now
      cases now
      exact absurd rfl live
  refine honest.quietly (honest.sound.begin signal method params) honest.heard honest.unposted
    (List.append_nil _).symm rfl (fun _ => id) ?_ ?_
  · intro id request given isSent
    exact Or.inl (found (by simp [isSent]) given)
  · intro id request ended
    refine ⟨found (by simp [ended]), fun before => ?_⟩
    rw [request?_begin, before]
    rfl

theorem Honest.absorb {shared : SharedLink} (honest : Honest shared) {operation : Link × Effects}
    (sound : Sound (shared.absorb operation))
    (unposted : ∀ id, (shared.absorb operation).posted.lookup id ≠ some (.error .cancelled))
    (quiet : cancelledIds operation.2.sent = []) : Honest (shared.absorb operation) :=
  honest.of_requests sound honest.heard unposted rfl (outgoing_absorb honest.heard operation) quiet
    fun _ => id

theorem Honest.move {shared : SharedLink} (honest : Honest shared) {move : Move}
    (talks : move ≠ .stopWriter) : Honest (shared.move move) := by
  have does := does_move shared move
  have sound := honest.sound.does does
  generalize shared.move move = after at does sound ⊢
  have nothing : shared.outgoing = shared.outgoing ++ [] := (List.append_nil _).symm
  cases does with
  | nothing => exact honest
  | began signal method params => exact honest.begin signal method params
  | registered found stage =>
    exact honest.advance sound rfl found (by simp [stage]) (by simp) honest.heard rfl rfl nothing
      rfl (by simp)
  | refused found stage =>
    exact honest.advance sound rfl found (by simp [stage]) (by simp) honest.heard rfl rfl nothing
      rfl (by simp)
  | @sent request found stage =>
    have outgoing : (shared.hand
        [Message.request request.id request.method request.params]).outgoing =
          shared.outgoing ++ [Message.request request.id request.method request.params] := by
      simp [hand, honest.heard]
    exact honest.advance sound rfl found (by simp [stage]) (by simp) honest.heard rfl rfl outgoing
      (by simp [cancelledIds]) (by simp)
  | unsent _ _ muted => exact absurd (honest.heard.symm.trans muted) (by simp)
  | fired signal =>
    exact honest.of_requests sound honest.heard honest.unposted rfl nothing rfl
      fun _ => List.mem_cons_of_mem signal
  | @collected request outcome found stage handed =>
    have other : outcome ≠ .error .cancelled := by
      rintro rfl
      exact honest.unposted request.id handed
    exact honest.advance sound rfl found (by simp [stage]) (by simpa using other) honest.heard rfl
      rfl nothing rfl (by simp)
  | dropped found stage =>
    exact honest.advance sound rfl found (by simp [stage]) (by simp) honest.heard rfl rfl nothing
      rfl (by simp)
  | withdrawn found stage fired => exact honest.withdraw found stage fired
  | muted => exact absurd rfl talks

theorem Honest.step {shared : SharedLink} (honest : Honest shared) {event : Event}
    (talks : event ≠ .move .stopWriter) : Honest (shared.step event) := by
  have sound := honest.sound.does (does_step shared event)
  have unposted := unposted_step honest.unposted event
  cases event with
  | move move => exact honest.move fun same => talks (congrArg _ same)
  | route message =>
    simp only [SharedLink.step] at sound unposted ⊢
    split at sound
    · rename_i closed
      simpa only [closed, if_true] using honest
    · rename_i standing
      simp only [standing] at unposted ⊢
      exact honest.absorb sound unposted
        (cancelledIds_of_answers fun sent among => sent_route among)
  | stop reason =>
    simp only [SharedLink.step] at sound unposted ⊢
    split at sound
    · rename_i closed
      simpa only [closed, if_true] using honest
    · rename_i standing
      simp only [standing] at unposted ⊢
      exact honest.absorb sound unposted rfl

theorem Honest.document {shared : SharedLink} (honest : Honest shared) (opened : List String)
    {method : String} (other : method ≠ "$/cancelRequest") (params : Json) :
    Honest (shared.absorb ({ shared.link with opened },
      .send (Message.notification method params))) := by
  have posted : shared.posted ++ [] = shared.posted := List.append_nil _
  refine honest.absorb (honest.sound.document opened _) ?_ ?_
  · simp only [SharedLink.absorb, Effects.send, posted]
    exact honest.unposted
  · simp [Effects.send, cancelledIds, Message.cancelled?_notification_of_ne other]

end SharedLink

end CodeGateway
