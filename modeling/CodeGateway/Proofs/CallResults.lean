import CodeGateway.Proofs.ReplyCause
import CodeGateway.Proofs.SessionHistory

namespace CodeGateway.SharedSession

open SharedLink (Continues Honest)

def Stage.result? {query : Query} : Stage query → Option (Except Failure query.Reply)
  | forgotten result => some result
  | closing result => some result
  | ended result => some result
  | _ => none

theorem Stage.result?_conclude {query : Query} (result : Except Failure query.Reply) :
    (conclude query result).result? = some result := by
  unfold conclude
  split <;> rfl

theorem Stage.isOver_of_result? {query : Query} {stage : Stage query}
    {result : Except Failure query.Reply} (has : stage.result? = some result) :
    stage.isOver = true := by
  cases stage <;> first | rfl | cases has

theorem forall₂_of_mapM {α β : Type} {f : α → Option β} {xs : List α} {ys : List β}
    (all : xs.mapM f = some ys) : List.Forall₂ (fun x y => f x = some y) xs ys := by
  induction xs generalizing ys with
  | nil =>
    cases all
    exact .nil
  | cons first xs ih =>
    rw [List.mapM_cons] at all
    cases here : f first with
    | none => simp [here] at all
    | some y =>
      cases later : xs.mapM f with
      | none => simp [here, later] at all
      | some ys =>
        simp only [here, later, Option.bind_eq_bind, Option.bind_some, Option.pure_def,
          Option.some.injEq] at all
        subst all
        exact .cons here (ih later)

/-- What holds of a call as long as it is there: its requests have rising numbers, and its result
    comes from their ends, or from no request when its query cannot be asked. -/
structure Call.Accounted (shared : SharedLink) (call : Call) : Prop where
  fits : call.Fits shared
  rising : call.made.Pairwise (· < ·)
  result : ∀ result, call.stage.result? = some result →
    (∃ failure, call.query.requests = .error failure) ∨
      ∃ outcomes,
        List.Forall₂ (fun id outcome => shared.outcome? id = some outcome) call.made outcomes ∧
          result = call.query.conclude outcomes

section Call

variable {shared after : SharedLink} {call : Call}

theorem Call.Accounted.later (accounted : call.Accounted shared)
    (continues : Continues shared after) : call.Accounted after := by
  refine ⟨accounted.fits.later continues, accounted.rising, fun result has => ?_⟩
  rcases accounted.result result has with refused | ⟨outcomes, ended, same⟩
  · exact Or.inl refused
  · exact Or.inr ⟨outcomes, ended.imp fun id outcome => continues.ended id outcome, same⟩

theorem accounted_start (shared : SharedLink) (signal : Nat) (query : Query) :
    (Call.start signal query).Accounted shared := by
  have fits := fits_start shared signal query
  unfold Call.start at fits ⊢
  split
  · rename_i failure asked
    exact ⟨by simpa only [asked] using fits, .nil, fun _ _ => Or.inl ⟨failure, asked⟩⟩
  · rename_i requests asked
    simp only [asked] at fits
    split
    · rename_i url names
      exact ⟨by simpa only [names] using fits, .nil, fun _ has => by cases has⟩
    · rename_i noFile
      exact ⟨by simpa only [noFile] using fits, .nil, fun _ has => by cases has⟩

end Call

section Turn

variable {session : SharedSession} {n : Nat} {call later : Call} {event : Event}
  {shared : SharedLink} {holder : Option Nat}

theorem Turn.rising (honest : Honest session.shared) (accounted : call.Accounted session.shared)
    (turn : Turn session n call event shared later holder) : later.made.Pairwise (· < ·) := by
  cases turn with
  | asks =>
    obtain ⟨done, -, made⟩ := accounted.fits.split
    rw [List.pairwise_append]
    refine ⟨accounted.rising, by simp, ?_⟩
    intro id among next single
    obtain ⟨text, -, asked⟩ := exists_of_forall₂_of_mem made among
    rw [List.mem_singleton.mp single]
    exact honest.sound.lt_of_mem_asked asked
  | _ => exact accounted.rising

theorem Turn.accounted (honest : Honest session.shared)
    (accounted : call.Accounted session.shared)
    (turn : Turn session n call event shared later holder) : later.Accounted shared := by
  have continues := turn.continues honest.heard
  have rising := turn.rising honest accounted
  refine ⟨turn.fits honest.heard accounted.fits, rising, ?_⟩
  cases turn with
  | asks stage =>
    intro result has
    rw [stage] at has
    cases has
  | concludes stage all ended =>
    intro result has
    rw [Stage.result?_conclude] at has
    cases has
    exact Or.inr ⟨_, forall₂_of_mapM ended, rfl⟩
  | takes stage => exact fun result has => accounted.result result (by rw [stage]; exact has)
  | closes => exact (accounted.later continues).result
  | refused _ _ muted => cases honest.heard.symm.trans muted
  | abandons _ _ muted => cases honest.heard.symm.trans muted
  | releases stage => exact fun result has => accounted.result result (by rw [stage]; exact has)
  | _ => exact fun result has => by cases has

end Turn

theorem Touches.continues {shared after : SharedLink} {incident : Incident}
    (touches : Touches shared incident after) (honest : Honest shared) :
    Continues shared after := by
  cases touches with
  | stays => exact .refl shared
  | steps event => exact SharedLink.continues_step honest.sound honest.heard event
  | documents => exact SharedLink.continues_document honest.heard _ _

theorem accounted_meet {session : SharedSession} (honest : Honest session.shared)
    (accounted : ∀ (n : Nat) (call : Call), session.calls[n]? = some call →
      call.Accounted session.shared) (incident : Incident) (n : Nat) (call : Call)
    (found : (session.meet incident).calls[n]? = some call) :
    call.Accounted (session.meet incident).shared := by
  have continues := (touches_meet honest.heard incident).continues honest
  cases incident with
  | stop reason => exact (accounted n call found).later continues
  | step event =>
    have does := does_step session event
    simp only [meet] at found continues ⊢
    generalize session.step event = after at does found continues
    cases does with
    | nothing => exact accounted n call found
    | linked => exact (accounted n call found).later continues
    | called signal query =>
      rcases getElem?_snoc found with before | ⟨-, rfl⟩
      · exact accounted n call before
      · exact accounted_start _ signal query
    | @turned m other after event shared holder given turn =>
      rw [getElem?_set given] at found
      split at found
      · cases found
        exact turn.accounted honest (accounted m other given)
      · exact (accounted n call found).later continues

theorem after_snoc (incidents : List Incident) (incident : Incident) :
    after (incidents ++ [incident]) = (after incidents).meet incident :=
  meetAll_append start incidents [incident]

theorem accounted_after (incidents : List Incident) (n : Nat) (call : Call)
    (found : (after incidents).calls[n]? = some call) :
    call.Accounted (after incidents).shared := by
  induction incidents using List.reverseRecOn generalizing n call with
  | nil => cases found
  | append_singleton incidents incident ih =>
    rw [after_snoc] at found ⊢
    exact accounted_meet (honest_after incidents) ih incident n call found

section Brings

variable {incident : Incident}

theorem Incident.Brings.routes {message : Json} (brings : incident.Brings (.route message)) :
    incident = .step (.link (.route message)) := by
  cases incident with
  | stop => cases brings
  | step event =>
    cases event with
    | link own =>
      cases own <;> cases brings
      rfl
    | _ => obtain ⟨signal, method, params, begins⟩ := brings; cases begins

theorem Incident.Brings.fires {signal : Nat} (brings : incident.Brings (.move (.fire signal))) :
    incident = .step (.link (.fire signal)) := by
  cases incident with
  | stop => cases brings
  | step event =>
    cases event with
    | link own =>
      cases own <;> cases brings
      rfl
    | _ => obtain ⟨signal, method, params, begins⟩ := brings; cases begins

theorem Incident.Brings.stops {reason : String} (brings : incident.Brings (.stop reason)) :
    incident = .stop reason := by
  cases incident with
  | stop => cases brings; rfl
  | step event =>
    cases event with
    | link own => exact absurd brings.symm (own.event_ne_stop reason)
    | _ => obtain ⟨signal, method, params, begins⟩ := brings; cases begins

end Brings

section Touches

variable {shared after : SharedLink} {incident : Incident}

theorem Touches.fired_of (touches : Touches shared incident after) {signal : Nat}
    (fired : signal ∈ after.fired) :
    signal ∈ shared.fired ∨ incident = .step (.link (.fire signal)) := by
  cases touches with
  | stays => exact Or.inl fired
  | steps event brings =>
    rcases (SharedLink.does_step shared event).fired_of fired with before | rfl
    · exact Or.inl before
    · exact Or.inr brings.fires
  | documents => exact Or.inl fired

theorem Touches.closed_of (touches : Touches shared incident after) {reason : String}
    (closed : after.link.closed = some reason) :
    shared.link.closed = some reason ∨ incident = .stop reason := by
  cases touches with
  | stays => exact Or.inl closed
  | steps event brings =>
    rcases (SharedLink.does_step shared event).closed_of closed with before | rfl
    · exact Or.inl before
    · exact Or.inr brings.stops
  | documents => exact Or.inl closed

theorem Touches.lookup (touches : Touches shared incident after) {id : Nat} {outcome : Outcome}
    (handed : shared.posted.lookup id = some outcome) :
    after.posted.lookup id = some outcome := by
  cases touches with
  | stays => exact handed
  | steps event => exact (SharedLink.does_step shared event).lookup handed
  | documents =>
    have same : shared.posted ++ [] = shared.posted := List.append_nil shared.posted
    simpa only [SharedLink.absorb, Effects.send, SharedLink.hand, same] using handed

theorem Touches.handed (touches : Touches shared incident after) {id : Nat} {outcome : Outcome}
    (handed : after.posted.lookup id = some outcome) :
    shared.posted.lookup id = some outcome ∨ id ∈ shared.link.waiting ∧
      ((∃ message, incident = .step (.link (.route message)) ∧ Message.IsReply message id ∧
        outcome = Message.outcome message) ∨
      ∃ reason, outcome = .error (.closed reason) ∧ after.link.closed = some reason) := by
  cases touches with
  | stays => exact Or.inl handed
  | steps event brings =>
    rcases (SharedLink.does_step shared event).handed handed with
      before | ⟨waits, ⟨message, rfl, reply, same⟩ | ⟨reason, -, same, closed⟩⟩
    · exact Or.inl before
    · exact Or.inr ⟨waits, Or.inl ⟨message, brings.routes, reply, same⟩⟩
    · exact Or.inr ⟨waits, Or.inr ⟨reason, same, closed⟩⟩
  | documents => exact Or.inl ((List.append_nil shared.posted) ▸ handed)

inductive Ending (shared : SharedLink) (request : SharedLink.Request) : Outcome → Prop
  | before {outcome : Outcome} (ended : request.stage = .ended outcome) :
    Ending shared request outcome
  | refused {reason : String} (closed : shared.link.closed = some reason) :
    Ending shared request (.error (.closed reason))
  | handed {outcome : Outcome} (stage : request.stage = .sent)
      (handed : shared.posted.lookup request.id = some outcome) : Ending shared request outcome
  | withdrawn (stage : request.stage = .sent) (fired : request.signal ∈ shared.fired) :
    Ending shared request (.error .cancelled)

theorem ending_of_moves {request : SharedLink.Request} {event : SharedLink.Event}
    {stage : SharedLink.Stage} (moves : SharedLink.Moves shared request event stage)
    (heard : shared.muted = false) {outcome : Outcome} (ended : stage = .ended outcome) :
    Ending shared request outcome := by
  cases moves with
  | stays => exact .before ended
  | registers => cases ended
  | sends => cases ended
  | refused _ closed =>
    cases ended
    exact .refused closed
  | fails _ muted => cases heard.symm.trans muted
  | collects stage handed =>
    cases ended
    exact .handed stage handed
  | withdraws stage fired =>
    cases ended
    exact .withdrawn stage fired

theorem Touches.ending (touches : Touches shared incident after) (honest : Honest shared) {id : Nat}
    {request : SharedLink.Request} {outcome : Outcome} (found : after.request? id = some request)
    (ended : request.stage = .ended outcome) :
    ∃ earlier, shared.request? id = some earlier ∧
      request = { earlier with stage := .ended outcome } ∧ Ending shared earlier outcome := by
  -- A request that was not there before has its number and no more, so it has not ended.
  have same : request = { request with stage := .ended outcome } := by rw [← ended]
  cases touches with
  | stays => exact ⟨request, found, same, .before ended⟩
  | documents => exact ⟨request, found, same, .before ended⟩
  | steps event =>
    have does := SharedLink.does_step shared event
    cases before : shared.request? id with
    | none => cases (does.numbered before found).2.symm.trans ended
    | some earlier =>
      obtain ⟨stage, kept, moves⟩ := does.moves honest.sound before
      cases found.symm.trans kept
      exact ⟨earlier, rfl, same, ending_of_moves moves honest.heard ended⟩

end Touches

theorem touches_after (incidents : List Incident) (incident : Incident) :
    Touches (after incidents).shared incident (after (incidents ++ [incident])).shared := by
  rw [after_snoc]
  exact touches_meet (honest_after incidents).heard _

/-- The message answers a request while it waits. -/
def Answers (incidents : List Incident) (message : Json) (id : Nat) : Prop :=
  ∃ before later, incidents = before ++ .step (.link (.route message)) :: later ∧
    Message.IsReply message id ∧ id ∈ (after before).shared.link.waiting

theorem Answers.append {incidents : List Incident} {message : Json} {id : Nat}
    (answers : Answers incidents message id) (more : List Incident) :
    Answers (incidents ++ more) message id := by
  obtain ⟨before, later, rfl, reply, waits⟩ := answers
  exact ⟨before, later ++ more, by simp, reply, waits⟩

inductive EndsBy (incidents : List Incident) (signal id : Nat) : Outcome → Prop
  | answered {message : Json} (answers : Answers incidents message id) :
    EndsBy incidents signal id (Message.outcome message)
  | cancelled (fired : .step (.link (.fire signal)) ∈ incidents) :
    EndsBy incidents signal id (.error .cancelled)
  | closed {reason : String} (stopped : .stop reason ∈ incidents)
      (recorded : (after incidents).shared.link.closed = some reason) :
    EndsBy incidents signal id (.error (.closed reason))

section After

variable {incidents : List Incident} {id : Nat} {outcome : Outcome}

theorem mem_of_brought {cause : Incident} {P : SharedLink → Prop} (never : ¬ P SharedLink.start)
    (only : ∀ {shared incident later}, Touches shared incident later → P later →
      P shared ∨ incident = cause) (holds : P (after incidents).shared) : cause ∈ incidents := by
  induction incidents using List.reverseRecOn with
  | nil => exact absurd holds never
  | append_singleton incidents incident ih =>
    rcases only (touches_after incidents incident) holds with before | rfl
    · exact List.mem_append_left _ (ih before)
    · simp

theorem mem_of_fired {signal : Nat} (fired : signal ∈ (after incidents).shared.fired) :
    .step (.link (.fire signal)) ∈ incidents :=
  mem_of_brought (P := fun shared => signal ∈ shared.fired) List.not_mem_nil
    (fun touches => touches.fired_of) fired

theorem mem_of_closed {reason : String}
    (closed : (after incidents).shared.link.closed = some reason) : .stop reason ∈ incidents := by
  have never : SharedLink.start.link.closed ≠ some reason := by
    simp [SharedLink.start, Link.start]
  exact mem_of_brought (P := fun shared => shared.link.closed = some reason) never
    (fun touches => touches.closed_of) closed

theorem handed_after (handed : (after incidents).shared.posted.lookup id = some outcome) :
    (∃ message, Answers incidents message id ∧ outcome = Message.outcome message) ∨
      ∃ reason, outcome = .error (.closed reason) ∧
        (after incidents).shared.link.closed = some reason := by
  induction incidents using List.reverseRecOn with
  | nil => cases handed
  | append_singleton incidents incident ih =>
    have touches := touches_after incidents incident
    rcases touches.handed handed with before | ⟨waits, ⟨message, rfl, reply, same⟩ | closed⟩
    · rcases ih before with ⟨message, answers, same⟩ | ⟨reason, same, closed⟩
      · exact Or.inl ⟨message, answers.append [incident], same⟩
      · exact Or.inr ⟨reason, same, touches.closed closed⟩
    · exact Or.inl ⟨message, ⟨incidents, [], rfl, reply, waits⟩, same⟩
    · exact Or.inr closed

theorem Answers.handed {message : Json} (answers : Answers incidents message id) :
    (after incidents).shared.posted.lookup id = some (Message.outcome message) := by
  obtain ⟨before, later, rfl, reply, waits⟩ := answers
  induction later using List.reverseRecOn with
  | nil =>
    rw [after_snoc]
    exact SharedLink.lookup_step_of_reply (honest_after before).sound reply waits
  | append_singleton later incident ih =>
    have whole : before ++ .step (.link (.route message)) :: (later ++ [incident]) =
        (before ++ .step (.link (.route message)) :: later) ++ [incident] := by simp
    rw [whole]
    exact (touches_after _ incident).lookup ih

theorem EndsBy.append {signal : Nat} (ends : EndsBy incidents signal id outcome)
    (incident : Incident) : EndsBy (incidents ++ [incident]) signal id outcome := by
  cases ends with
  | answered answers => exact .answered (answers.append [incident])
  | cancelled fired => exact .cancelled (List.mem_append_left _ fired)
  | closed stopped recorded =>
    exact .closed (List.mem_append_left _ stopped)
      ((touches_after incidents incident).closed recorded)

theorem endsBy_after {request : SharedLink.Request}
    (found : (after incidents).shared.request? id = some request)
    (ended : request.stage = .ended outcome) : EndsBy incidents request.signal id outcome := by
  induction incidents using List.reverseRecOn generalizing request with
  | nil => cases found
  | append_singleton incidents incident ih =>
    obtain ⟨earlier, before, rfl, ending⟩ :=
      (touches_after incidents incident).ending (honest_after incidents) found ended
    -- All that has ended the request had come before this incident.
    have ends : EndsBy incidents earlier.signal id outcome := by
      cases ending with
      | before ended => exact ih before ended
      | refused closed => exact .closed (mem_of_closed closed) closed
      | handed stage handed =>
        rw [SharedLink.request?_id before] at handed
        rcases handed_after handed with ⟨message, answers, rfl⟩ | ⟨reason, rfl, closed⟩
        · exact .answered answers
        · exact .closed (mem_of_closed closed) closed
      | withdrawn stage fired => exact .cancelled (mem_of_fired fired)
    exact ends.append incident

theorem sent_or_closed {request : SharedLink.Request}
    (found : (after incidents).shared.request? id = some request)
    (ended : request.stage = .ended outcome) :
    Message.request id request.method request.params ∈ (after incidents).shared.outgoing ∨
      ∃ reason, (after incidents).shared.link.closed = some reason ∧
        outcome = .error (.closed reason) := by
  induction incidents using List.reverseRecOn generalizing request with
  | nil => cases found
  | append_singleton incidents incident ih =>
    have honest := honest_after incidents
    have touches := touches_after incidents incident
    obtain ⟨more, grown⟩ := (touches.continues honest).outgoing
    obtain ⟨earlier, before, rfl, ending⟩ := touches.ending honest found ended
    rw [grown, List.mem_append]
    cases ending with
    | before ended =>
      rcases ih before ended with spoken | ⟨reason, closed, refused⟩
      · exact Or.inl (Or.inl spoken)
      · exact Or.inr ⟨reason, touches.closed closed, refused⟩
    | refused closed => exact Or.inr ⟨_, touches.closed closed, rfl⟩
    | handed stage => exact Or.inl (Or.inl (honest.spoken id earlier before stage))
    | withdrawn stage => exact Or.inl (Or.inl (honest.spoken id earlier before stage))

/-- The request was sent, or it has ended because the connection had by then. -/
def Went (shared : SharedLink) (id : Nat) (text : RequestText) : Prop :=
  Message.request id text.1 text.2 ∈ shared.outgoing ∨
    ∃ reason, shared.link.closed = some reason ∧
      shared.outcome? id = some (.error (.closed reason))

theorem went_and_endsBy {signal : Nat} {text : RequestText}
    (asked : (id, signal, text) ∈ (after incidents).shared.asked)
    (given : (after incidents).shared.outcome? id = some outcome) :
    Went (after incidents).shared id text ∧ EndsBy incidents signal id outcome := by
  obtain ⟨request, found, ended⟩ := SharedLink.outcome?_eq_some_iff.mp given
  obtain ⟨stage, found'⟩ := (honest_after incidents).sound.request?_of_mem_asked asked
  cases found.symm.trans found'
  refine ⟨?_, endsBy_after found ended⟩
  rcases sent_or_closed found ended with sent | ⟨reason, closed, refused⟩
  · exact Or.inl sent
  · exact Or.inr ⟨reason, closed, by rw [given, refused]⟩

end After

theorem forall₂_mem {α β : Type} {R : α → β → Prop} {xs : List α} {ys : List β}
    (all : List.Forall₂ R xs ys) : List.Forall₂ (fun x y => x ∈ xs ∧ R x y) xs ys :=
  (List.forall₂_and_left _ _).mpr ⟨fun _ among => among, all⟩

/-- A call has a result once all its requests have ended, and from their ends alone. -/
theorem result_after {incidents : List Incident} {n : Nat} {call : Call}
    (found : (after incidents).calls[n]? = some call) {requests : List RequestText}
    (asked : call.query.requests = .ok requests) {result : Except Failure call.query.Reply}
    (has : call.stage.result? = some result) :
    call.left = [] ∧ List.Forall₂ (Went (after incidents).shared) call.made requests ∧
      ∃ outcomes, List.Forall₂ (fun id outcome =>
          (after incidents).shared.outcome? id = some outcome ∧
            EndsBy incidents call.signal id outcome) call.made outcomes ∧
        result = call.query.conclude outcomes := by
  obtain ⟨fits, -, results⟩ := accounted_after incidents n call found
  obtain ⟨done, whole, made⟩ := fits.split
  obtain ⟨all, ended⟩ := fits.finished (Stage.isOver_of_result? has)
  have wanted : requests = done := by
    rw [all, List.append_nil] at whole
    rw [← whole, Query.wanted_of_ok asked]
  -- What each request was is known from `made`, that it has ended from the stage of the call.
  refine ⟨all, ?_, ?_⟩
  · rw [wanted]
    refine (forall₂_mem made).imp ?_
    rintro id text ⟨among, asked⟩
    obtain ⟨outcome, given⟩ := ended id among
    exact (went_and_endsBy asked given).1
  · rcases results result has with ⟨failure, refused⟩ | ⟨outcomes, given, same⟩
    · cases asked.symm.trans refused
    · refine ⟨outcomes, (forall₂_mem given).imp ?_, same⟩
      rintro id outcome ⟨among, given⟩
      obtain ⟨text, -, asked⟩ := exists_of_forall₂_of_mem made among
      exact ⟨given, (went_and_endsBy asked given).2⟩

end CodeGateway.SharedSession
