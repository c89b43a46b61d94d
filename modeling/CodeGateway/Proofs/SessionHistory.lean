import CodeGateway.Proofs.SessionRest

namespace CodeGateway

namespace SharedLink

theorem outcome?_step {shared : SharedLink} (sound : Sound shared) (event : Event) {id : Nat}
    {outcome : Outcome} (ended : shared.outcome? id = some outcome) :
    (shared.step event).outcome? id = some outcome := by
  obtain ⟨request, found, stage⟩ := outcome?_eq_some_iff.mp ended
  exact outcome?_eq_some_iff.mpr ⟨request, ended_runFrom sound found stage [event], stage⟩

theorem Sound.not_waiting_of_ended {shared : SharedLink} (sound : Sound shared) {id : Nat}
    {outcome : Outcome} (ended : shared.outcome? id = some outcome) :
    id ∉ shared.link.waiting := by
  intro waits
  obtain ⟨⟨request, found, isOpen⟩, -⟩ := (sound.waits id).mp waits
  obtain ⟨other, found', stage⟩ := outcome?_eq_some_iff.mp ended
  cases found.symm.trans found'
  exact isOpen.ne_ended outcome stage

theorem closed_stop (shared : SharedLink) (reason : String) :
    ∃ first, (shared.step (.stop reason)).link.closed = some first := by
  cases closed : shared.link.closed with
  | some first => exact ⟨first, by simp [step, closed]⟩
  | none => exact ⟨reason, by simp [step, closed, absorb, hand, Link.close]⟩

theorem step_route_of_ended {shared : SharedLink} (sound : Sound shared) {id : Nat}
    {outcome : Outcome} (ended : shared.outcome? id = some outcome) {message : Json}
    (reply : Message.IsReply message id) : shared.step (.route message) = shared := by
  have gone := sound.not_waiting_of_ended ended
  have missing : (shared.link.waiting.find? fun (waiting : Nat) => (waiting : Int) == (id : Int)) =
      none := by
    rw [List.find?_eq_none]
    intro waiting among same
    simp only [beq_iff_eq, Int.ofNat_inj] at same
    exact gone (same ▸ among)
  have routed : shared.link.route message = (shared.link, .none) := by
    rw [Link.route, Message.kind_eq_reply_iff.mpr reply]
    simp only [missing]
  rw [step, routed]
  split
  · rfl
  · simp [absorb, hand, Effects.none]

end SharedLink

namespace SharedSession

open SharedLink (Honest)

def Incident.Brings : Incident → SharedLink.Event → Prop
  | .stop reason, event => event = .stop reason
  | .step (.link own), event => event = own.event
  | .step _, event => ∃ signal method params, event = .move (.begin signal method params)

theorem Incident.Brings.talks {incident : Incident} {event : SharedLink.Event}
    (brings : incident.Brings event) : event ≠ .move .stopWriter := by
  unfold Incident.Brings at brings
  split at brings
  · simp [brings]
  · rw [brings]
    exact LinkStep.event_ne_stopWriter _
  · obtain ⟨signal, method, params, rfl⟩ := brings
    simp

/-- What an incident does to the link: it is one of the link's own events, or a document is opened
    or closed. -/
inductive Touches (shared : SharedLink) (incident : Incident) : SharedLink → Prop
  | stays : Touches shared incident shared
  | steps (event : SharedLink.Event) (brings : incident.Brings event) :
    Touches shared incident (shared.step event)
  | documents (opened : List String) (method : String) (params : Json)
      (other : method ≠ "$/cancelRequest") :
    Touches shared incident (shared.absorb ({ shared.link with opened },
      .send (Message.notification method params)))

theorem Turn.touches {session : SharedSession} {n : Nat} {call after : Call} {event : Event}
    {shared : SharedLink} {holder : Option Nat} (heard : session.shared.muted = false)
    (turn : Turn session n call event shared after holder) :
    Touches session.shared (.step event) shared := by
  cases turn with
  | abandons _ _ muted => cases heard.symm.trans muted
  | opens => exact .documents _ _ _ (by decide)
  | closes => exact .documents _ _ _ (by decide)
  | asks => exact .steps (.move (.begin _ _ _)) ⟨_, _, _, rfl⟩
  | _ => exact .stays

theorem touches_meet {session : SharedSession} (heard : session.shared.muted = false)
    (incident : Incident) : Touches session.shared incident (session.meet incident).shared := by
  cases incident with
  | stop reason => exact .steps (.stop reason) rfl
  | step event =>
    have does := does_step session event
    rw [meet]
    generalize session.step event = after at does ⊢
    cases does with
    | nothing => exact .stays
    | called => exact .stays
    | turned found turn => exact turn.touches heard
    | linked step => exact .steps step.event rfl

section Touches

variable {shared after : SharedLink} {incident : Incident}

theorem Touches.honest (touches : Touches shared incident after) (honest : Honest shared) :
    Honest after := by
  cases touches with
  | stays => exact honest
  | steps _ brings => exact honest.step brings.talks
  | documents opened method params other => exact honest.document opened other params

theorem Touches.ended (touches : Touches shared incident after) (honest : Honest shared) {id : Nat}
    {outcome : Outcome} (ended : shared.outcome? id = some outcome) :
    after.outcome? id = some outcome := by
  cases touches with
  | stays => exact ended
  | steps event => exact SharedLink.outcome?_step honest.sound event ended
  | documents => exact ended

theorem Touches.closed (touches : Touches shared incident after) {reason : String}
    (closed : shared.link.closed = some reason) : after.link.closed = some reason := by
  cases touches with
  | stays => exact closed
  | steps event => exact (SharedLink.does_step shared event).closed closed
  | documents => exact closed

end Touches

theorem honest_meetAll {session : SharedSession} (honest : Honest session.shared)
    (incidents : List Incident) : Honest (session.meetAll incidents).shared := by
  induction incidents generalizing session with
  | nil => exact honest
  | cons incident incidents ih => exact ih ((touches_meet honest.heard incident).honest honest)

theorem honest_after (incidents : List Incident) : Honest (after incidents).shared :=
  honest_meetAll SharedLink.honest_start incidents

theorem ended_meetAll {session : SharedSession} (honest : Honest session.shared) {id : Nat}
    {outcome : Outcome} (ended : session.shared.outcome? id = some outcome)
    (incidents : List Incident) :
    (session.meetAll incidents).shared.outcome? id = some outcome := by
  induction incidents generalizing session with
  | nil => exact ended
  | cons incident incidents ih =>
    have touches := touches_meet honest.heard incident
    exact ih (touches.honest honest) (touches.ended honest ended)

theorem closed_meetAll {session : SharedSession} (honest : Honest session.shared) {reason : String}
    (closed : session.shared.link.closed = some reason) (incidents : List Incident) :
    (session.meetAll incidents).shared.link.closed = some reason := by
  induction incidents generalizing session with
  | nil => exact closed
  | cons incident incidents ih =>
    have touches := touches_meet honest.heard incident
    exact ih (touches.honest honest) (touches.closed closed)

theorem meetAll_append (session : SharedSession) (incidents more : List Incident) :
    session.meetAll (incidents ++ more) = (session.meetAll incidents).meetAll more :=
  List.foldl_append

theorem runFrom_eq_meetAll (session : SharedSession) (events : List Event) :
    session.runFrom events = session.meetAll (events.map .step) := by
  induction events generalizing session with
  | nil => rfl
  | cons event events ih => exact ih (session.step event)

theorem exists_runFrom_of_standing {session : SharedSession} (honest : Honest session.shared)
    {incidents : List Incident}
    (standing : (session.meetAll incidents).shared.link.closed = none) :
    ∃ events, session.meetAll incidents = session.runFrom events := by
  induction incidents generalizing session with
  | nil => exact ⟨[], rfl⟩
  | cons incident incidents ih =>
    have later := (touches_meet honest.heard incident).honest honest
    obtain ⟨events, same⟩ := ih later standing
    cases incident with
    | step event => exact ⟨event :: events, same⟩
    | stop reason =>
      obtain ⟨first, closed⟩ := SharedLink.closed_stop session.shared reason
      have still : (session.meetAll (.stop reason :: incidents)).shared.link.closed = some first :=
        closed_meetAll later closed incidents
      exact absurd (standing.symm.trans still) (by simp)

theorem orderly_of_standing {incidents : List Incident}
    (standing : (after incidents).shared.link.closed = none) : Orderly (after incidents) := by
  obtain ⟨events, same⟩ := exists_runFrom_of_standing SharedLink.honest_start standing
  rw [after, same]
  exact orderly_start.runFrom events

end SharedSession

end CodeGateway
