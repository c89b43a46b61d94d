import CodeGateway.Proofs.DocumentMessage
import CodeGateway.Proofs.SessionStep
import CodeGateway.Proofs.ClosedLink

namespace CodeGateway

namespace Message

def IsQuiet (message : Json) : Prop := opened? message = none ∧ closed? message = none

def IsOrdinary (method : String) : Prop :=
  method ≠ "textDocument/didOpen" ∧ method ≠ "textDocument/didClose"

theorem isQuiet_request {method : String} (ordinary : IsOrdinary method) (id : Nat)
    (params : Json) : IsQuiet (request id method params) :=
  ⟨documentOf?_request_of_ne ordinary.1 id params, documentOf?_request_of_ne ordinary.2 id params⟩

theorem isQuiet_cancel (id : Nat) : IsQuiet (cancel id) :=
  ⟨documentOf?_notification_of_ne (by decide) _, documentOf?_notification_of_ne (by decide) _⟩

theorem isQuiet_answer (id : Json) : IsQuiet (answer id) :=
  ⟨documentOf?_answer _ id, documentOf?_answer _ id⟩

theorem request_ne_notification (id : Nat) (method other : String) (params more : Json) :
    request id method params ≠ notification other more := by
  simp [request, notification]

theorem request_ne_answer (id : Nat) (method : String) (params other : Json) :
    request id method params ≠ answer other := by
  simp [request, answer]

theorem request_inj {id other : Nat} {method method' : String} {params params' : Json}
    (same : request id method params = request other method' params') :
    id = other ∧ method = method' ∧ params = params' := by
  simp only [request, Json.object.injEq, List.cons.injEq, Prod.mk.injEq, Json.int.injEq,
    Json.string.injEq] at same
  exact ⟨by omega, same.2.2.1.2, same.2.2.2.1.2⟩

end Message

namespace SharedLink

def asked (shared : SharedLink) : List (Nat × Nat × RequestText) :=
  shared.requests.map fun request => (request.id, request.signal, request.method, request.params)

theorem asked_advance (shared : SharedLink) (id : Nat) (stage : Stage) :
    (shared.advance id stage).asked = shared.asked := by
  simp only [asked, advance, List.map_map]
  congr 1
  funext request
  simp only [Function.comp]
  split <;> rfl

theorem asked_begin (shared : SharedLink) (signal : Nat) (method : String) (params : Json) :
    (shared.begin signal method params).asked =
      shared.asked ++ [(shared.link.nextId, signal, method, params)] := by
  simp [asked, begin, Link.takeNumber]

theorem mem_asked_of_request? {shared : SharedLink} {id : Nat} {request : Request}
    (found : shared.request? id = some request) :
    (id, request.signal, request.method, request.params) ∈ shared.asked := by
  have among := List.mem_of_find?_eq_some found
  have same := request?_id found
  exact List.mem_map.mpr ⟨request, among, by rw [same]⟩

theorem Sound.lt_of_mem_asked {shared : SharedLink} (sound : Sound shared) {id signal : Nat}
    {text : RequestText} (among : (id, signal, text) ∈ shared.asked) : id < shared.link.nextId := by
  obtain ⟨request, member, same⟩ := List.mem_map.mp among
  cases same
  exact sound.counted _ (List.mem_map_of_mem member)

theorem Sound.request?_of_mem_asked {shared : SharedLink} (sound : Sound shared) {id signal : Nat}
    {text : RequestText} (among : (id, signal, text) ∈ shared.asked) :
    ∃ stage, shared.request? id = some ⟨id, signal, text.1, text.2, stage⟩ := by
  obtain ⟨request, member, same⟩ := List.mem_map.mp among
  simp only [Prod.mk.injEq] at same
  obtain ⟨rfl, rfl, rfl⟩ := same
  exact ⟨request.stage, sound.request?_of_mem member⟩

theorem Does.asked {shared after : SharedLink} {event : Event} (does : Does shared event after)
    (noBegin : ∀ signal method params, event ≠ .move (.begin signal method params)) :
    after.asked = shared.asked := by
  cases does with
  | began signal method params => exact absurd rfl (noBegin signal method params)
  | registered => exact asked_advance _ _ _
  | refused => exact asked_advance _ _ _
  | sent => exact asked_advance _ _ _
  | unsent => exact asked_advance _ _ _
  | collected => exact asked_advance _ _ _
  | dropped => exact asked_advance _ _ _
  | withdrawn => exact asked_advance _ _ _
  | _ => rfl

theorem Does.opened {shared after : SharedLink} {event : Event} (does : Does shared event after) :
    after.link.opened = shared.link.opened := by
  cases does <;> rfl

theorem outgoing_absorb {shared : SharedLink} (heard : shared.muted = false)
    (operation : Link × Effects) :
    (shared.absorb operation).outgoing = shared.outgoing ++ operation.2.sent := by
  simp [absorb, hand, heard]

theorem sent_route {link : Link} {message sent : Json}
    (among : sent ∈ (link.route message).2.sent) : ∃ id, sent = Message.answer id := by
  unfold Link.route at among
  split at among
  · exact ⟨_, List.mem_singleton.mp among⟩
  · split at among
    · cases among
    · cases among
  · cases among

structure Running (shared : SharedLink) : Prop where
  sound : Sound shared
  standing : shared.link.closed = none
  heard : shared.muted = false
  ordinary : ∀ entry ∈ shared.asked, Message.IsOrdinary entry.2.2.1
  made : ∀ id method params, Message.request id method params ∈ shared.outgoing →
    ∃ signal, (id, signal, method, params) ∈ shared.asked
  spoken : ∀ id request, shared.request? id = some request → request.stage ≠ .numbered →
    request.stage ≠ .registered →
      Message.request id request.method request.params ∈ shared.outgoing

end SharedLink

namespace SharedSession.LinkStep

theorem event_ne_begin (step : LinkStep) (signal : Nat) (method : String)
    (params : Json) : step.event ≠ .move (.begin signal method params) := by
  cases step <;> simp [event]

theorem event_ne_stop (step : LinkStep) (reason : String) :
    step.event ≠ .stop reason := by
  cases step <;> simp [event]

theorem event_ne_stopWriter (step : LinkStep) : step.event ≠ .move .stopWriter := by
  cases step <;> simp [event]

end SharedSession.LinkStep

namespace SharedLink

open SharedSession (LinkStep)

def Expects (shared : SharedLink) (message : Json) : Prop :=
  Message.IsQuiet message ∧ ∀ id method params, message = Message.request id method params →
    ∃ signal, (id, signal, method, params) ∈ shared.asked

theorem Running.expects_request {shared : SharedLink} (running : Running shared) {id : Nat}
    {request : Request} (found : shared.request? id = some request) :
    shared.Expects (Message.request id request.method request.params) := by
  have among := mem_asked_of_request? found
  refine ⟨Message.isQuiet_request (running.ordinary _ among) _ _, ?_⟩
  intro id method params same
  obtain ⟨rfl, rfl, rfl⟩ := Message.request_inj same
  exact ⟨request.signal, among⟩

theorem expects_cancel (shared : SharedLink) (id : Nat) : shared.Expects (Message.cancel id) := by
  refine ⟨Message.isQuiet_cancel id, ?_⟩
  intro id method params same
  exact absurd same.symm (Message.request_ne_notification _ _ _ _ _)

theorem expects_answer (shared : SharedLink) (id : Json) : shared.Expects (Message.answer id) := by
  refine ⟨Message.isQuiet_answer id, ?_⟩
  intro id method params same
  exact absurd same.symm (Message.request_ne_answer _ _ _ _)

theorem sent_moved {shared : SharedLink} (running : Running shared) (move : Move) :
    ∃ sent, (shared.step (.move move)).outgoing = shared.outgoing ++ sent ∧
      ∀ message ∈ sent, shared.Expects message := by
  obtain ⟨sent, grown, all⟩ := (does_move shared move).sends
  refine ⟨sent, grown, ?_⟩
  intro message among
  obtain ⟨request, found, -, rfl | rfl⟩ := all message among
  · exact running.expects_request found
  · exact expects_cancel shared _

theorem sent_linked {shared : SharedLink} (running : Running shared) (step : LinkStep) :
    ∃ sent, (shared.step step.event).outgoing = shared.outgoing ++ sent ∧
      ∀ message ∈ sent, shared.Expects message := by
  cases step with
  | route message =>
    have routed : shared.step (LinkStep.route message).event =
        shared.absorb (shared.link.route message) := by
      simp [LinkStep.event, step, running.standing]
    refine ⟨_, by rw [routed, outgoing_absorb running.heard], ?_⟩
    intro sent among
    obtain ⟨id, rfl⟩ := sent_route among
    exact expects_answer shared id
  | _ => exact sent_moved running _

theorem exists_before {shared after : SharedLink} (running : Running shared)
    (asked : after.asked = shared.asked) {id : Nat} {request : Request}
    (found : after.request? id = some request) : ∃ earlier, shared.request? id = some earlier := by
  have among := mem_asked_of_request? found
  rw [asked] at among
  obtain ⟨stage, before⟩ := running.sound.request?_of_mem_asked among
  exact ⟨_, before⟩

theorem Running.spoken_linked {shared : SharedLink} (running : Running shared) (step : LinkStep)
    {id : Nat} {request : Request} (found : (shared.step step.event).request? id = some request)
    (notNumbered : request.stage ≠ .numbered) (notRegistered : request.stage ≠ .registered) :
    Message.request id request.method request.params ∈ (shared.step step.event).outgoing := by
  have does := does_step shared step.event
  obtain ⟨sent, grown, -⟩ := sent_linked running step
  obtain ⟨earlier, before⟩ := exists_before running (does.asked step.event_ne_begin) found
  obtain ⟨stage, kept, moves⟩ := does.moves running.sound before
  rw [found] at kept
  cases kept
  have spoken (notNumbered : earlier.stage ≠ .numbered)
      (notRegistered : earlier.stage ≠ .registered) :
      Message.request id earlier.method earlier.params ∈ (shared.step step.event).outgoing := by
    rw [grown]
    exact List.mem_append_left _ (running.spoken id _ before notNumbered notRegistered)
  generalize step.event = event at moves spoken ⊢
  cases moves with
  | stays => exact spoken notNumbered notRegistered
  | registers => exact absurd rfl notRegistered
  | refused _ closed =>
    rw [running.standing] at closed
    cases closed
  | sends registered =>
    have same := request?_id before
    subst same
    have sent := move_send_of_heard before registered running.heard
    rw [SharedLink.step, sent]
    exact List.mem_append_right _ (by simp)
  | fails _ muted =>
    rw [running.heard] at muted
    cases muted
  | collects stage => exact spoken (by simp [stage]) (by simp [stage])
  | withdraws stage => exact spoken (by simp [stage]) (by simp [stage])

theorem Running.linked {shared : SharedLink} (running : Running shared) (step : LinkStep) :
    Running (shared.step step.event) := by
  have does := does_step shared step.event
  have asked := does.asked step.event_ne_begin
  obtain ⟨sent, grown, all⟩ := sent_linked running step
  constructor
  · exact running.sound.does does
  · cases closed : (shared.step step.event).link.closed with
    | none => rfl
    | some reason =>
      rcases does.closed_of closed with before | stop
      · rw [running.standing] at before
        cases before
      · exact absurd stop (step.event_ne_stop reason)
  · cases muted : (shared.step step.event).muted with
    | false => rfl
    | true =>
      rcases does.muted_of muted with before | stop
      · rw [running.heard] at before
        cases before
      · exact absurd stop step.event_ne_stopWriter
  · rw [asked]
    exact running.ordinary
  · intro id method params among
    rw [grown] at among
    rw [asked]
    rcases List.mem_append.mp among with before | now
    · exact running.made id method params before
    · exact (all _ now).2 id method params rfl
  · exact fun id request found notNumbered notRegistered =>
      running.spoken_linked step found notNumbered notRegistered

theorem Running.begin {shared : SharedLink} (running : Running shared) (signal : Nat)
    {method : String} (ordinary : Message.IsOrdinary method) (params : Json) :
    Running (shared.begin signal method params) := by
  constructor
  · exact running.sound.begin signal method params
  · exact running.standing
  · exact running.heard
  · intro entry among
    rw [asked_begin] at among
    rcases List.mem_append.mp among with before | now
    · exact running.ordinary entry before
    · rw [List.mem_singleton.mp now]
      exact ordinary
  · intro id method params among
    obtain ⟨caller, asked⟩ := running.made id method params among
    rw [asked_begin]
    exact ⟨caller, List.mem_append_left _ asked⟩
  · intro id request found notNumbered notRegistered
    rw [request?_begin] at found
    rcases Option.or_eq_some_iff.mp found with before | ⟨-, now⟩
    · exact running.spoken id request before notNumbered notRegistered
    · obtain ⟨-, now⟩ := Option.ite_none_right_eq_some.mp now
      cases now
      exact absurd rfl notNumbered

theorem Sound.document {shared : SharedLink} (sound : Sound shared) (opened : List String)
    (message : Json) : Sound (shared.absorb ({ shared.link with opened }, .send message)) := by
  have posted : shared.posted ++ [] = shared.posted := List.append_nil _
  constructor
  · exact sound.distinct
  · exact sound.counted
  · exact sound.once
  · simp only [absorb, Effects.send, posted]
    exact sound.waits
  · simp only [absorb, Effects.send, posted]
    exact sound.handed
  · exact sound.closed

theorem Running.document {shared : SharedLink} (running : Running shared) (opened : List String)
    (method : String) (params : Json) :
    Running (shared.absorb ({ shared.link with opened },
      .send (Message.notification method params))) := by
  constructor
  · exact running.sound.document opened _
  · exact running.standing
  · exact running.heard
  · exact running.ordinary
  · intro id method' params' among
    rw [outgoing_absorb running.heard] at among
    rcases List.mem_append.mp among with before | now
    · exact running.made id method' params' before
    · exact absurd (List.mem_singleton.mp now) (Message.request_ne_notification _ _ _ _ _)
  · intro id request found notNumbered notRegistered
    rw [outgoing_absorb running.heard]
    exact List.mem_append_left _ (running.spoken id request found notNumbered notRegistered)

structure Continues (shared after : SharedLink) : Prop where
  asked : ∀ entry ∈ shared.asked, entry ∈ after.asked
  ended : ∀ id outcome, shared.outcome? id = some outcome → after.outcome? id = some outcome
  outgoing : ∃ sent, after.outgoing = shared.outgoing ++ sent

theorem Continues.refl (shared : SharedLink) : Continues shared shared :=
  ⟨fun _ => id, fun _ _ => id, [], (List.append_nil _).symm⟩

theorem outcome?_eq_some_iff {shared : SharedLink} {id : Nat} {outcome : Outcome} :
    shared.outcome? id = some outcome ↔
      ∃ request, shared.request? id = some request ∧ request.stage = .ended outcome := by
  unfold outcome?
  cases shared.request? id with
  | none => simp
  | some request => cases stage : request.stage <;> simp [Request.outcome?, stage]

theorem continues_begin {shared : SharedLink} (signal : Nat) (method : String) (params : Json) :
    Continues shared (shared.begin signal method params) := by
  refine ⟨?_, ?_, [], (List.append_nil _).symm⟩
  · intro entry among
    rw [asked_begin]
    exact List.mem_append_left _ among
  · intro id outcome given
    obtain ⟨request, found, ended⟩ := outcome?_eq_some_iff.mp given
    refine outcome?_eq_some_iff.mpr ⟨request, ?_, ended⟩
    rw [request?_begin, found]
    rfl

theorem grown_step {shared : SharedLink} (heard : shared.muted = false) (event : Event) :
    ∃ sent, (shared.step event).outgoing = shared.outgoing ++ sent := by
  have nothing : shared.outgoing = shared.outgoing ++ [] := (List.append_nil _).symm
  cases event with
  | move move =>
    obtain ⟨sent, grown, -⟩ := (does_move shared move).sends
    exact ⟨sent, grown⟩
  | route message =>
    rw [step]
    split
    · exact ⟨[], nothing⟩
    · exact ⟨_, outgoing_absorb heard _⟩
  | stop reason =>
    rw [step]
    split
    · exact ⟨[], nothing⟩
    · exact ⟨_, outgoing_absorb heard _⟩

theorem continues_step {shared : SharedLink} (sound : Sound shared) (heard : shared.muted = false)
    (event : Event) : Continues shared (shared.step event) := by
  refine ⟨?_, ?_, grown_step heard event⟩
  · intro entry among
    by_cases begins : ∃ signal method params, event = .move (.begin signal method params)
    · obtain ⟨signal, method, params, rfl⟩ := begins
      exact (continues_begin signal method params).asked entry among
    · rw [(does_step shared event).asked fun signal method params same =>
        begins ⟨signal, method, params, same⟩]
      exact among
  · intro id outcome given
    obtain ⟨request, found, ended⟩ := outcome?_eq_some_iff.mp given
    exact outcome?_eq_some_iff.mpr ⟨request, ended_runFrom sound found ended [event], ended⟩

theorem continues_linked {shared : SharedLink} (running : Running shared) (step : LinkStep) :
    Continues shared (shared.step step.event) :=
  continues_step running.sound running.heard step.event

theorem continues_document {shared : SharedLink} (heard : shared.muted = false)
    (opened : List String) (message : Json) :
    Continues shared (shared.absorb ({ shared.link with opened }, .send message)) :=
  ⟨fun _ => id, fun _ _ => id, [message], outgoing_absorb heard _⟩

end SharedLink

end CodeGateway
