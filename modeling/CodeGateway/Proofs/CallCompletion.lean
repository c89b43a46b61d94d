import CodeGateway.Proofs.CallResults

namespace CodeGateway

namespace SharedLink

variable {shared : SharedLink} {id : Nat} {request : Request}

def Due (shared : SharedLink) (id signal : Nat) : Prop :=
  shared.posted.lookup id ≠ none ∨ signal ∈ shared.fired ∨ shared.link.closed ≠ none

theorem Due.step {signal : Nat} (due : shared.Due id signal) (event : Event) :
    (shared.step event).Due id signal := by
  have does := does_step shared event
  rcases due with handed | fired | closed
  · obtain ⟨outcome, handed⟩ := Option.ne_none_iff_exists'.mp handed
    exact Or.inl (by simp [does.lookup handed])
  · exact Or.inr (Or.inl (does.fired_mem fired))
  · obtain ⟨reason, closed⟩ := Option.ne_none_iff_exists'.mp closed
    exact Or.inr (Or.inr (by simp [does.closed closed]))

theorem Due.runFrom {signal : Nat} (due : shared.Due id signal) (events : List Event) :
    (shared.runFrom events).Due id signal := by
  induction events generalizing shared with
  | nil => exact due
  | cons event events ih => exact ih (due.step event)

theorem Continues.trans {later latest : SharedLink} (first : Continues shared later)
    (second : Continues later latest) : Continues shared latest := by
  obtain ⟨sent, grown⟩ := first.outgoing
  obtain ⟨more, grown'⟩ := second.outgoing
  exact ⟨fun entry among => second.asked entry (first.asked entry among),
    fun id outcome ended => second.ended id outcome (first.ended id outcome ended),
    sent ++ more, by rw [grown', grown, List.append_assoc]⟩

theorem move_register_leaves (found : shared.request? id = some request) :
    ∃ stage, (shared.move (.register id)).request? id = some { request with stage } ∧
      stage ≠ .numbered := by
  have idle (notNumbered : request.stage.isNumbered = false) :
      shared.move (.register id) = shared := by
    simp [move, proceed, found, notNumbered]
  cases stage : request.stage with
  | numbered =>
    cases closed : shared.link.closed with
    | none =>
      rw [move_register_of_standing found stage closed]
      exact ⟨_, request?_advance_self found .registered, by simp⟩
    | some reason =>
      rw [move_register_of_closed found stage closed]
      exact ⟨_, request?_advance_self found _, by simp⟩
  | _ =>
    rw [idle (by rw [stage]; rfl)]
    exact ⟨request.stage, found, by simp [stage]⟩

theorem move_send_leaves (heard : shared.muted = false) (found : shared.request? id = some request)
    (notNumbered : request.stage ≠ .numbered) :
    ∃ stage, (shared.move (.send id)).request? id = some { request with stage } ∧
      (stage = .sent ∨ ∃ outcome, stage = .ended outcome) := by
  have idle (notRegistered : request.stage.isRegistered = false) :
      shared.move (.send id) = shared := by
    simp [move, proceed, found, notRegistered]
  cases stage : request.stage with
  | numbered => exact absurd stage notNumbered
  | registered =>
    rw [move_send_of_heard found stage heard]
    exact ⟨_, request?_advance_self found .sent, Or.inl rfl⟩
  | sent =>
    rw [idle (by rw [stage]; rfl)]
    exact ⟨request.stage, found, Or.inl stage⟩
  | ended outcome =>
    rw [idle (by rw [stage]; rfl)]
    exact ⟨request.stage, found, Or.inr ⟨outcome, stage⟩⟩

theorem ended_of_sent (sound : Sound shared) (found : shared.request? id = some request)
    (stage : request.stage = .sent) (due : shared.Due id request.signal) :
    ∃ outcome, ((shared.move (.collect id)).move (.withdraw id)).outcome? id = some outcome := by
  cases handed : shared.posted.lookup id with
  | some outcome =>
    have collected := move_collect_of_handed found stage handed
    refine ⟨outcome, outcome?_step (sound.runFrom [.move (.collect id)]) (.move (.withdraw id)) ?_⟩
    exact outcome?_eq_some_iff.mpr ⟨_, collected, rfl⟩
  | none =>
    have waits : id ∈ shared.link.waiting :=
      (sound.waits id).mpr ⟨⟨request, found, Or.inr stage⟩, handed⟩
    -- A connection that has ended would have handed it something.
    have fired : request.signal ∈ shared.fired := by
      rcases due with given | fired | closed
      · exact absurd handed given
      · exact fired
      · rw [sound.closed closed] at waits
        cases waits
    have idle : shared.move (.collect id) = shared := by
      rw [move, proceed_of_ready found (by rw [stage]; rfl), collect, request?_id found, handed]
      simp [waits]
    rw [idle, move_withdraw_of_fired found stage fired]
    exact ⟨_, outcome?_eq_some_iff.mpr ⟨_, request?_advance_self found _, rfl⟩⟩

end SharedLink

namespace SharedSession

open SharedLink (Continues Honest)

def finish (id : Nat) : List LinkStep :=
  [.register id, .send id, .collect id, .withdraw id]

theorem runFrom_links (session : SharedSession) (steps : List LinkStep) :
    session.runFrom (steps.map .link) =
      { session with shared := session.shared.runFrom (steps.map LinkStep.event) } := by
  induction steps generalizing session with
  | nil => rfl
  | cons step steps ih => exact ih (session.step (.link step))

theorem honest_runFrom_links {shared : SharedLink} (honest : Honest shared)
    (steps : List LinkStep) : Honest (shared.runFrom (steps.map LinkStep.event)) := by
  induction steps generalizing shared with
  | nil => exact honest
  | cons step steps ih => exact ih (honest.step step.event_ne_stopWriter)

theorem continues_runFrom_links {shared : SharedLink} (honest : Honest shared)
    (steps : List LinkStep) : Continues shared (shared.runFrom (steps.map LinkStep.event)) := by
  induction steps generalizing shared with
  | nil => exact .refl shared
  | cons step steps ih =>
    have first := SharedLink.continues_step honest.sound honest.heard step.event
    exact first.trans (ih (honest.step step.event_ne_stopWriter))

theorem ended_finish {shared : SharedLink} (honest : Honest shared) {id : Nat}
    {request : SharedLink.Request} (found : shared.request? id = some request)
    (due : shared.Due id request.signal) :
    ∃ outcome, (shared.runFrom ((finish id).map LinkStep.event)).outcome? id = some outcome := by
  -- Whatever its stage, it is past its registration after the first step and past sending after
  -- the second; the last two steps end it if it has not ended yet.
  have honest' : Honest (shared.move (.register id)) := honest_runFrom_links honest [.register id]
  have honest'' : Honest ((shared.move (.register id)).move (.send id)) :=
    honest_runFrom_links honest [.register id, .send id]
  obtain ⟨early, registered, notNumbered⟩ := SharedLink.move_register_leaves found
  obtain ⟨stage, sent, reached⟩ :=
    SharedLink.move_send_leaves honest'.heard registered notNumbered
  rcases reached with stage | ⟨outcome, stage⟩
  · exact SharedLink.ended_of_sent honest''.sound sent stage
      (due.runFrom [.move (.register id), .move (.send id)])
  · have ended := SharedLink.outcome?_eq_some_iff.mpr ⟨_, sent, stage⟩
    exact ⟨outcome, (continues_runFrom_links honest'' [.collect id, .withdraw id]).ended _ _ ended⟩

theorem ended_finishAll {shared : SharedLink} (honest : Honest shared) {signal : Nat}
    (ids : List Nat) (made : ∀ id ∈ ids, ∃ text, (id, signal, text) ∈ shared.asked)
    (due : ∀ id ∈ ids, shared.Due id signal) :
    ∀ id ∈ ids, ∃ outcome,
      (shared.runFrom ((ids.flatMap finish).map LinkStep.event)).outcome? id = some outcome := by
  induction ids generalizing shared with
  | nil => simp
  | cons first ids ih =>
    have split : shared.runFrom (((first :: ids).flatMap finish).map LinkStep.event) =
        (shared.runFrom ((finish first).map LinkStep.event)).runFrom
          ((ids.flatMap finish).map LinkStep.event) := by
      simp [SharedLink.runFrom]
    have honest' := honest_runFrom_links honest (finish first)
    have continues := continues_runFrom_links honest (finish first)
    rw [split]
    intro id among
    rcases List.mem_cons.mp among with rfl | among
    · obtain ⟨text, asked⟩ := made id List.mem_cons_self
      obtain ⟨stage, found⟩ := honest.sound.request?_of_mem_asked asked
      obtain ⟨outcome, ended⟩ := ended_finish honest found (due id List.mem_cons_self)
      exact ⟨outcome, (continues_runFrom_links honest' (ids.flatMap finish)).ended _ _ ended⟩
    · refine ih honest' ?_ ?_ id among
      · intro id among
        obtain ⟨text, asked⟩ := made id (List.mem_cons_of_mem first among)
        exact ⟨text, continues.asked _ asked⟩
      · exact fun id among => (due id (List.mem_cons_of_mem first among)).runFrom _

theorem Touches.keeps_fired {shared after : SharedLink} {incident : Incident}
    (touches : Touches shared incident after) {signal : Nat} (fired : signal ∈ shared.fired) :
    signal ∈ after.fired := by
  cases touches with
  | stays => exact fired
  | steps event => exact (SharedLink.does_step shared event).fired_mem fired
  | documents => exact fired

theorem fired_after {incidents : List Incident} {signal : Nat}
    (fires : .step (.link (.fire signal)) ∈ incidents) :
    signal ∈ (after incidents).shared.fired := by
  induction incidents using List.reverseRecOn with
  | nil => cases fires
  | append_singleton incidents incident ih =>
    rcases List.mem_append.mp fires with before | now
    · exact (touches_after incidents incident).keeps_fired (ih before)
    · rw [after_snoc, ← List.mem_singleton.mp now]
      exact List.mem_cons_self

theorem closed_after {incidents : List Incident} {reason : String}
    (stops : .stop reason ∈ incidents) : (after incidents).shared.link.closed ≠ none := by
  obtain ⟨before, later, rfl⟩ := List.append_of_mem stops
  obtain ⟨first, closed⟩ := SharedLink.closed_stop (after before).shared reason
  have honest := honest_after (before ++ [.stop reason])
  rw [after_snoc] at honest
  have kept : (((after before).meet (.stop reason)).meetAll later).shared.link.closed =
      some first := closed_meetAll honest closed later
  rw [after, meetAll_append]
  exact fun standing => absurd (kept.symm.trans standing) (by simp)

/-- What ends a request, as far as the history tells. -/
def Decided (incidents : List Incident) (signal id : Nat) : Prop :=
  (∃ message, Answers incidents message id) ∨ .step (.link (.fire signal)) ∈ incidents ∨
    ∃ reason, .stop reason ∈ incidents

theorem Decided.due {incidents : List Incident} {signal id : Nat}
    (decided : Decided incidents signal id) : (after incidents).shared.Due id signal := by
  rcases decided with ⟨message, answers⟩ | fired | ⟨reason, stopped⟩
  · exact Or.inl (by simp [answers.handed])
  · exact Or.inr (Or.inl (fired_after fired))
  · exact Or.inr (Or.inr (closed_after stopped))

theorem isWork_of_finish {ids : List Nat} {event : Event}
    (among : event ∈ (ids.flatMap finish).map .link) : event.isWork = true := by
  obtain ⟨step, member, rfl⟩ := List.mem_map.mp among
  obtain ⟨id, -, member⟩ := List.mem_flatMap.mp member
  simp only [finish, List.mem_cons, List.not_mem_nil, or_false] at member
  rcases member with rfl | rfl | rfl | rfl <;> rfl

theorem runFrom_conclude {session : SharedSession} {n : Nat} {call : Call}
    (found : session.calls[n]? = some call) (stage : call.stage = .asking) (all : call.left = [])
    {steps : List LinkStep} {outcomes : List Outcome}
    (ended : call.made.mapM (session.shared.runFrom (steps.map LinkStep.event)).outcome? =
      some outcomes) :
    (session.runFrom (steps.map .link ++ [.conclude n])).calls[n]? =
      some { call with stage := .conclude call.query (call.query.conclude outcomes) } := by
  have links := runFrom_links session steps
  rw [runFrom_append]
  generalize session.runFrom (steps.map .link) = later at links ⊢
  have found' : later.calls[n]? = some call := by
    rw [links]
    exact found
  have ended' : call.made.mapM later.shared.outcome? = some outcomes := by
    rw [links]
    exact ended
  show (later.step (.conclude n)).calls[n]? = _
  rw [step_conclude found' stage all ended']
  exact found_update found' _

theorem gets_over {incidents : List Incident} {n : Nat} {call : Call}
    (found : (after incidents).calls[n]? = some call) (stage : call.stage = .asking)
    (all : call.left = []) (decided : ∀ id ∈ call.made, Decided incidents call.signal id) :
    ∃ works : List Event, (∀ event ∈ works, event.isWork = true) ∧
      ∃ outcomes, (after (incidents ++ works.map .step)).calls[n]? =
        some { call with stage := .conclude call.query (call.query.conclude outcomes) } := by
  obtain ⟨done, -, made⟩ := (accounted_after incidents n call found).fits.split
  have asked : ∀ id ∈ call.made,
      ∃ text, (id, call.signal, text) ∈ (after incidents).shared.asked := by
    intro id among
    obtain ⟨text, -, asked⟩ := exists_of_forall₂_of_mem made among
    exact ⟨text, asked⟩
  have ended := ended_finishAll (honest_after incidents) call.made asked
    fun id among => (decided id among).due
  obtain ⟨outcomes, ended⟩ := exists_mapM ended
  refine ⟨(call.made.flatMap finish).map .link ++ [.conclude n], ?_, outcomes, ?_⟩
  · intro event among
    rcases List.mem_append.mp among with works | concludes
    · exact isWork_of_finish works
    · rw [List.mem_singleton.mp concludes]
      rfl
  · rw [after, meetAll_append, ← runFrom_eq_meetAll]
    exact runFrom_conclude found stage all ended

end SharedSession

end CodeGateway
