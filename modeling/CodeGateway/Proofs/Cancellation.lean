import CodeGateway.Proofs.SessionHistory
import Mathlib.Data.List.Nodup

namespace CodeGateway.SharedSession

open Message (cancelledIds)
open SharedLink (Accounts Honest Running)

variable {session later : SharedSession} {signal : Nat} {gone : List Nat} {event : Event}

def unanswered (session : SharedSession) (signal : Nat) : List Nat :=
  session.shared.link.waiting.filter fun id =>
    session.calls.any fun call => call.signal == signal && call.made.contains id

theorem Orderly.signal_of_made (orderly : Orderly session) {n : Nat} {call : Call}
    (found : session.calls[n]? = some call) {id : Nat} (made : id ∈ call.made) :
    ∃ request, session.shared.request? id = some request ∧ request.signal = call.signal := by
  obtain ⟨done, -, all⟩ := (orderly.fits n call found).split
  obtain ⟨text, -, asked⟩ := exists_of_forall₂_of_mem all made
  obtain ⟨stage, given⟩ := orderly.running.sound.request?_of_mem_asked asked
  exact ⟨_, given, rfl⟩

theorem Orderly.mem_unanswered (orderly : Orderly session) {id : Nat} :
    id ∈ session.unanswered signal ↔ id ∈ session.shared.link.waiting ∧
      ∃ request, session.shared.request? id = some request ∧ request.signal = signal := by
  simp only [unanswered, List.mem_filter, List.any_eq_true, Bool.and_eq_true, beq_iff_eq,
    List.contains_iff_mem]
  refine and_congr_right fun waits => ⟨?_, ?_⟩
  · rintro ⟨call, among, rfl, made⟩
    obtain ⟨n, found⟩ := List.mem_iff_getElem?.mp among
    exact orderly.signal_of_made found made
  · rintro ⟨request, given, rfl⟩
    obtain ⟨n, call, found, made⟩ := orderly.owned _ (SharedLink.mem_asked_of_request? given)
    obtain ⟨other, given', same⟩ := orderly.signal_of_made found made
    cases given.symm.trans given'
    exact ⟨call, List.mem_of_getElem? found, same.symm, made⟩

/-- What has changed since a signal fired: some of its requests have been taken back, and some of
    their calls have ended. -/
structure Settling (session : SharedSession) (signal : Nat) (gone : List Nat)
    (later : SharedSession) : Prop where
  once : gone.Nodup
  among : ∀ id ∈ gone, id ∈ session.unanswered signal
  outgoing : later.shared.outgoing = session.shared.outgoing ++ gone.map Message.cancel
  link : later.shared.link = { session.shared.link with
    waiting := session.shared.link.waiting.filter (· ∉ gone) }
  posted : later.shared.posted = session.shared.posted
  fired : later.shared.fired = signal :: session.shared.fired
  requests : ∀ id, later.shared.request? id = (session.shared.request? id).map fun request =>
    if id ∈ gone then { request with stage := .ended (.error .cancelled) } else request
  calls : ∀ (n : Nat) (call : Call), session.calls[n]? = some call →
    later.calls[n]? = some call ∨ (∃ id ∈ call.made, id ∈ gone) ∧
      ∃ outcomes, call.made.mapM later.shared.outcome? = some outcomes ∧
        later.calls[n]? = some { call with stage := .ended (call.query.conclude outcomes) }
  missing : ∀ n : Nat, session.calls[n]? = none → later.calls[n]? = none

theorem settling_fired (session : SharedSession) (signal : Nat) :
    Settling session signal [] (session.step (.link (.fire signal))) := by
  constructor
  · exact List.nodup_nil
  · simp
  · exact (List.append_nil _).symm
  · simp [step, SharedLink.step, LinkStep.event, SharedLink.move]
  · rfl
  · rfl
  · intro id
    simp only [List.not_mem_nil, if_false, Option.map_id']
    rfl
  · exact fun n call found => Or.inl found
  · exact fun n none => none

theorem Call.Fits.made_of_reindex {shared : SharedLink} {call : Call} (fits : call.Fits shared)
    (reindex : call.query = .reindex) (all : call.left = []) : ∃ id, call.made = [id] := by
  obtain ⟨done, whole, made⟩ := fits.split
  have single : done.length = 1 := by
    rw [all, List.append_nil, reindex] at whole
    rw [← whole]
    rfl
  exact List.length_eq_one_iff.mp (made.length_eq.trans single)

theorem conclude_of_cancelled {shared link : SharedLink} {call : Call} (fits : call.Fits shared)
    (all : call.left = []) {outcomes : List Outcome}
    (ended : call.made.mapM link.outcome? = some outcomes) {id : Nat} (made : id ∈ call.made)
    (cancelled : link.outcome? id = some (.error .cancelled)) :
    Stage.conclude call.query (call.query.conclude outcomes) =
      .ended (call.query.conclude outcomes) := by
  -- Only a reindex that succeeds goes on, to take the documents back; it has one request.
  have only (reindex : call.query = .reindex) : outcomes = [.error .cancelled] := by
    obtain ⟨other, single⟩ := fits.made_of_reindex reindex all
    rw [single, List.mem_singleton] at made
    subst made
    rw [single] at ended
    simpa [List.mapM_cons, cancelled] using ended.symm
  obtain ⟨signal, query, stage, numbers, left⟩ := call
  cases query with
  | reindex =>
    rw [only rfl]
    rfl
  | _ => rfl

theorem Settling.request?_of_gone (settling : Settling session signal gone later)
    (orderly : Orderly session) {id : Nat} (here : id ∈ gone) :
    ∃ request : SharedLink.Request, later.shared.request? id =
      some { request with stage := .ended (.error .cancelled) } := by
  obtain ⟨-, request, found, -⟩ := orderly.mem_unanswered.mp (settling.among id here)
  refine ⟨request, ?_⟩
  rw [settling.requests, found, Option.map_some, if_pos here]

theorem Settling.request?_of_not_gone (settling : Settling session signal gone later) {id : Nat}
    (spared : id ∉ gone) : later.shared.request? id = session.shared.request? id := by
  simp [settling.requests, spared]

theorem Settling.outcome?_of_gone (settling : Settling session signal gone later)
    (orderly : Orderly session) {id : Nat} (here : id ∈ gone) :
    later.shared.outcome? id = some (.error .cancelled) := by
  obtain ⟨request, found⟩ := settling.request?_of_gone orderly here
  exact SharedLink.outcome?_eq_some_iff.mpr ⟨_, found, rfl⟩

theorem Settling.conclude (settling : Settling session signal gone later)
    (orderly : Orderly session) {n : Nat} {call : Call} (found : session.calls[n]? = some call)
    (same : later.calls[n]? = some call) (all : call.left = []) {id : Nat} (made : id ∈ call.made)
    (unended : session.shared.outcome? id = none) {outcomes : List Outcome}
    (ended : call.made.mapM later.shared.outcome? = some outcomes) :
    Settling session signal gone (later.update n
      { call with stage := .conclude call.query (call.query.conclude outcomes) }) := by
  -- What was open when the signal fired has ended since: it was taken back.
  have here : id ∈ gone := by
    by_contra spared
    obtain ⟨outcome, given⟩ := mem_of_mapM ended made
    rw [SharedLink.outcome?, settling.request?_of_not_gone spared] at given
    exact absurd (unended.symm.trans given) (by simp)
  have finished := conclude_of_cancelled (orderly.fits n call found) all ended made
    (settling.outcome?_of_gone orderly here)
  refine { settling with calls := ?_, missing := ?_ }
  · intro m other found'
    simp only [update, getElem?_set same, finished]
    by_cases self : m = n
    · subst self
      cases found.symm.trans found'
      exact Or.inr ⟨⟨id, made, here⟩, outcomes, ended, if_pos rfl⟩
    · simp only [if_neg self]
      exact settling.calls m other found'
  · intro m none
    have other : m ≠ n := by
      rintro rfl
      exact absurd (found.symm.trans none) (by simp)
    simp only [update, getElem?_set same, if_neg other]
    exact settling.missing m none

theorem Settling.call_step (settling : Settling session signal gone later)
    (orderly : Orderly session) (resting : session.isAtRest = true) {n : Nat}
    (of : event.call? = some n) : Settling session signal gone (later.step event) := by
  cases found : session.calls[n]? with
  | none =>
    rw [step_of_missing of (settling.missing n found)]
    exact settling
  | some call =>
    rcases settling.calls n call found with same | ⟨-, outcomes, -, finished⟩
    · rcases Call.isResting_cases (resting_of_isAtRest resting found) with
        ⟨result, stage⟩ | ⟨stage, all, id, made, unended⟩
      · rw [step_of_ended of same stage]
        exact settling
      · rcases step_of_asking of same stage all with idle | ⟨outcomes, -, ended, stepped⟩
        · rw [idle]
          exact settling
        · rw [stepped]
          exact settling.conclude orderly found same all made unended ended
    · rw [step_of_ended of finished rfl]
      exact settling

theorem Settling.still (settling : Settling session signal gone later) (orderly : Orderly session)
    (resting : session.isAtRest = true) (id : Nat) (request : SharedLink.Request)
    (found : later.shared.request? id = some request) :
    (∃ outcome, request.stage = .ended outcome) ∨ request.stage = .sent ∧
      id ∈ later.shared.link.waiting ∧ later.shared.posted.lookup id = none := by
  by_cases here : id ∈ gone
  · obtain ⟨other, found'⟩ := settling.request?_of_gone orderly here
    cases found.symm.trans found'
    exact Or.inl ⟨_, rfl⟩
  · rw [settling.request?_of_not_gone here] at found
    rcases request_of_isAtRest resting found with ended | ⟨sent, waits, unhanded, -⟩
    · exact Or.inl ended
    · refine Or.inr ⟨sent, ?_, ?_⟩
      · rw [settling.link]
        exact List.mem_filter.mpr ⟨waits, by simpa using here⟩
      · rw [settling.posted]
        exact unhanded

theorem Settling.lost (settling : Settling session signal gone later) (orderly : Orderly session)
    (resting : session.isAtRest = true) {id : Nat} {request : SharedLink.Request}
    (found : later.shared.request? id = some request) (stage : request.stage = .sent)
    (fired : request.signal ∈ later.shared.fired) :
    id ∉ gone ∧ id ∈ session.unanswered signal ∧
      session.shared.request? id = some request := by
  have spared : id ∉ gone := by
    intro here
    obtain ⟨other, found'⟩ := settling.request?_of_gone orderly here
    cases found.symm.trans found'
    cases stage
  rw [settling.request?_of_not_gone spared] at found
  rcases request_of_isAtRest resting found with ⟨outcome, ended⟩ | ⟨-, waits, -, unfired⟩
  · exact absurd (stage.symm.trans ended) (by simp)
  · -- At rest no signal of a waiting request had fired, so this one's is the signal that fired.
    rw [settling.fired] at fired
    have same := (List.mem_cons.mp fired).resolve_right unfired
    exact ⟨spared, orderly.mem_unanswered.mpr ⟨waits, request, found, same⟩, found⟩

theorem erase_filter_not_mem {waiting : List Nat} (once : waiting.Nodup) (gone : List Nat)
    (id : Nat) :
    (waiting.filter (· ∉ gone)).erase id = waiting.filter (· ∉ gone ++ [id]) := by
  rw [List.Nodup.erase_eq_filter (once.filter _), List.filter_filter]
  refine List.filter_congr fun other _ => ?_
  simp [Bool.and_comm, bne, beq_eq_decide]

theorem Settling.withdraw (settling : Settling session signal gone later)
    (orderly : Orderly session) (resting : session.isAtRest = true)
    (running : Running later.shared) {id : Nat} {request : SharedLink.Request}
    (found : later.shared.request? id = some request) (stage : request.stage = .sent)
    (fired : request.signal ∈ later.shared.fired) :
    Settling session signal (gone ++ [id]) (later.step (.link (.withdraw id))) := by
  obtain ⟨spared, mine, before⟩ := settling.lost orderly resting found stage fired
  have stepped : later.step (.link (.withdraw id)) = { later with shared :=
      (({ later.shared with link := later.shared.link.forget id }.hand
        [Message.cancel id]).advance id (.ended (.error .cancelled))) } := by
    have moved := SharedLink.move_withdraw_of_fired found stage fired
    rw [← moved]
    rfl
  have continues := SharedLink.continues_linked running (.withdraw id)
  have outgoing : ({ later.shared with link := later.shared.link.forget id }.hand
      [Message.cancel id]).outgoing = later.shared.outgoing ++ [Message.cancel id] := by
    simp [SharedLink.hand, running.heard]
  constructor
  · rw [← List.concat_eq_append]
    exact List.Nodup.concat spared settling.once
  · intro other member
    rcases List.mem_append.mp member with earlier | now
    · exact settling.among other earlier
    · rw [List.mem_singleton.mp now]
      exact mine
  · rw [stepped, List.map_append, ← List.append_assoc, ← settling.outgoing]
    exact outgoing
  · rw [stepped]
    show later.shared.link.forget id = _
    rw [settling.link, Link.forget, erase_filter_not_mem orderly.running.sound.once]
  · rw [stepped]
    exact settling.posted
  · rw [stepped]
    exact settling.fired
  · intro other
    rw [stepped]
    show (SharedLink.advance _ id _).request? other = _
    by_cases self : other = id
    · subst self
      have handed : ({ later.shared with link := later.shared.link.forget other }.hand
          [Message.cancel other]).request? other = some request := found
      rw [SharedLink.request?_advance_self handed, before]
      simp
    · rw [SharedLink.request?_advance_of_ne _ self]
      refine (settling.requests other).trans ?_
      simp [self]
  · intro n call given
    rcases settling.calls n call given with same | ⟨⟨lost, made, here⟩, outcomes, ended, finished⟩
    · exact Or.inl same
    · refine Or.inr ⟨⟨lost, made, List.mem_append_left _ here⟩, outcomes, ?_, finished⟩
      exact mapM_mono continues.ended ended
  · exact settling.missing

theorem Settling.link_step (settling : Settling session signal gone later)
    (orderly : Orderly session) (resting : session.isAtRest = true)
    (running : Running later.shared) {step : LinkStep} (own : step.event.isOwn = true) :
    ∃ more, Settling session signal (gone ++ more) (later.step (.link step)) := by
  rcases SharedLink.step_of_still own (settling.still orderly resting) with
    same | ⟨id, request, rfl, found, sent, fired⟩
  · refine ⟨[], ?_⟩
    rw [List.append_nil, SharedSession.step, same]
    exact settling
  · exact ⟨[id], settling.withdraw orderly resting running found sent fired⟩

theorem Settling.runFrom (settling : Settling session signal gone later)
    (orderly : Orderly session) (resting : session.isAtRest = true) (orderly' : Orderly later)
    {works : List Event} (all : ∀ event ∈ works, event.isWork = true) :
    ∃ gone, Settling session signal gone (later.runFrom works) := by
  induction works generalizing later gone with
  | nil => exact ⟨gone, settling⟩
  | cons event works ih =>
    obtain ⟨work, rest⟩ := List.forall_mem_cons.mp all
    have next := orderly'.does (does_step later event)
    cases of : event.call? with
    | some n => exact ih (settling.call_step orderly resting of) next rest
    | none =>
      cases event with
      | link step =>
        rw [isWork_link] at work
        obtain ⟨more, settling⟩ := settling.link_step orderly resting orderly'.running work
        exact ih settling next rest
      | call => cases work
      | _ => cases of

theorem Settling.covers (settling : Settling session signal gone later) (orderly : Orderly session)
    (resting' : later.isAtRest = true) {id : Nat} (mine : id ∈ session.unanswered signal) :
    id ∈ gone := by
  by_contra spared
  obtain ⟨waits, request, found, same⟩ := orderly.mem_unanswered.mp mine
  have found' := (settling.request?_of_not_gone spared).trans found
  rcases request_of_isAtRest resting' found' with ⟨outcome, ended⟩ | ⟨-, -, -, unfired⟩
  · exact orderly.running.sound.not_waiting_of_ended
      (SharedLink.outcome?_eq_some_iff.mpr ⟨request, found, ended⟩) waits
  · rw [settling.fired, same] at unfired
    exact unfired List.mem_cons_self

theorem Settling.finished (settling : Settling session signal gone later)
    (orderly : Orderly session) (orderly' : Orderly later) (resting' : later.isAtRest = true)
    {n : Nat} {call : Call} (found : session.calls[n]? = some call) {id : Nat}
    (made : id ∈ call.made) (mine : id ∈ session.unanswered signal) :
    ∃ outcomes, call.made.mapM later.shared.outcome? = some outcomes ∧
      later.calls[n]? = some { call with stage := .ended (call.query.conclude outcomes) } := by
  obtain ⟨waits, asked, given, same⟩ := orderly.mem_unanswered.mp mine
  obtain ⟨again, given', theirs⟩ := orderly.signal_of_made found made
  cases given.symm.trans given'
  rcases settling.calls n call found with unchanged | ⟨-, finished⟩
  · exfalso
    rcases Call.isResting_cases (resting_of_isAtRest resting' unchanged) with
      ⟨result, stage⟩ | ⟨stage, all, other, made', unended⟩
    · obtain ⟨-, ended⟩ := (orderly.fits n call found).finished (by rw [stage]; rfl)
      obtain ⟨outcome, hasEnded⟩ := ended id made
      exact orderly.running.sound.not_waiting_of_ended hasEnded waits
    · -- Nothing waits at rest under a signal that has fired.
      obtain ⟨request, found', signal'⟩ := orderly'.signal_of_made unchanged made'
      rcases request_of_isAtRest resting' found' with ⟨outcome, ended⟩ | ⟨-, -, -, unfired⟩
      · have given := SharedLink.outcome?_eq_some_iff.mpr ⟨request, found', ended⟩
        exact absurd (unended.symm.trans given) (by simp)
      · rw [settling.fired, signal', ← theirs, same] at unfired
        exact unfired List.mem_cons_self
  · exact finished

/-- What has become of a session at rest once a signal has fired and it is at rest again. -/
structure Cancels (session : SharedSession) (signal : Nat) (later : SharedSession) : Prop where
  /-- One message for each of the unanswered requests, and no message besides. -/
  told : ∃ gone : List Nat, gone.Perm (session.unanswered signal) ∧
    later.shared.outgoing = session.shared.outgoing ++ gone.map Message.cancel
  once : (session.unanswered signal).Nodup
  sent : ∀ id ∈ session.unanswered signal, ∃ method params,
    Message.request id method params ∈ session.shared.outgoing
  own : ∀ call ∈ session.calls, call.signal ≠ signal →
    ∀ id ∈ call.made, id ∉ session.unanswered signal
  ended : ∀ id ∈ session.unanswered signal,
    later.shared.outcome? id = some (.error .cancelled)
  kept : ∀ id ∉ session.unanswered signal,
    later.shared.request? id = session.shared.request? id
  link : later.shared.link = { session.shared.link with
    waiting := session.shared.link.waiting.filter (· ∉ session.unanswered signal) }
  finished : ∀ (n : Nat) (call : Call), session.calls[n]? = some call →
    (∃ id ∈ call.made, id ∈ session.unanswered signal) →
      ∃ outcomes, call.made.mapM later.shared.outcome? = some outcomes ∧
        later.calls[n]? = some { call with stage := .ended (call.query.conclude outcomes) }
  others : ∀ (n : Nat) (call : Call), session.calls[n]? = some call →
    (∀ id ∈ call.made, id ∉ session.unanswered signal) → later.calls[n]? = some call
  /-- However it goes on, what the server was told to forget is what was taken back. -/
  accounts : ∀ more, Accounts (later.meetAll more).shared
  /-- However it goes on, no message is sent for a request that had ended. -/
  spared : ∀ more id outcome, session.shared.outcome? id = some outcome →
    (cancelledIds (later.meetAll more).shared.outgoing).count id =
      (cancelledIds session.shared.outgoing).count id
  /-- However it goes on, a reply to a request that was taken back changes nothing. -/
  deaf : ∀ more, ∀ id ∈ session.unanswered signal, ∀ message, Message.IsReply message id →
    (later.meetAll more).step (.link (.route message)) = later.meetAll more

theorem count_meetAll {session : SharedSession} (honest : Honest session.shared) {id : Nat}
    {outcome : Outcome} (ended : session.shared.outcome? id = some outcome)
    (more : List Incident) :
    (cancelledIds (session.meetAll more).shared.outgoing).count id =
      (cancelledIds session.shared.outgoing).count id := by
  have later := (honest_meetAll honest more).accounts
  have kept := ended_meetAll honest ended more
  have same : id ∈ cancelledIds (session.meetAll more).shared.outgoing ↔
      id ∈ cancelledIds session.shared.outgoing := by
    rw [later.same, honest.accounts.same, kept, ended]
  rw [later.once.count, honest.accounts.once.count]
  simp only [same]

theorem Settling.cancels (settling : Settling session signal gone later)
    (orderly : Orderly session) (resting : session.isAtRest = true) (orderly' : Orderly later)
    (resting' : later.isAtRest = true) (honest : Honest session.shared) {incidents : List Incident}
    (reached : session.meetAll incidents = later) : Cancels session signal later := by
  have honest' : Honest later.shared := reached ▸ honest_meetAll honest incidents
  have same (id : Nat) : id ∈ gone ↔ id ∈ session.unanswered signal :=
    ⟨settling.among id, settling.covers orderly resting'⟩
  have waiting : session.shared.link.waiting.filter (· ∉ gone) =
      session.shared.link.waiting.filter (· ∉ session.unanswered signal) := by
    refine List.filter_congr fun id _ => ?_
    rw [decide_eq_decide, same]
  have once : (session.unanswered signal).Nodup := orderly.running.sound.once.filter _
  have ended (id : Nat) (mine : id ∈ session.unanswered signal) :
      later.shared.outcome? id = some (.error .cancelled) :=
    settling.outcome?_of_gone orderly ((same id).mpr mine)
  constructor
  · exact ⟨gone, (List.perm_ext_iff_of_nodup settling.once once).mpr same, settling.outgoing⟩
  · exact once
  · intro id mine
    obtain ⟨waits, request, found, -⟩ := orderly.mem_unanswered.mp mine
    rcases request_of_isAtRest resting found with ⟨outcome, ended⟩ | ⟨sent, -⟩
    · exact absurd waits (orderly.running.sound.not_waiting_of_ended
        (SharedLink.outcome?_eq_some_iff.mpr ⟨request, found, ended⟩))
    · exact ⟨_, _, orderly.running.spoken id request found (by simp [sent]) (by simp [sent])⟩
  · intro call among different id made mine
    obtain ⟨n, found⟩ := List.mem_iff_getElem?.mp among
    obtain ⟨-, request, given, mine⟩ := orderly.mem_unanswered.mp mine
    obtain ⟨other, given', theirs⟩ := orderly.signal_of_made found made
    cases given.symm.trans given'
    exact different (theirs.symm.trans mine)
  · exact ended
  · exact fun id spared => settling.request?_of_not_gone fun here => spared ((same id).mp here)
  · rw [settling.link, waiting]
  · rintro n call found ⟨id, made, mine⟩
    exact settling.finished orderly orderly' resting' found made mine
  · intro n call found spared
    rcases settling.calls n call found with unchanged | ⟨⟨id, made, here⟩, -⟩
    · exact unchanged
    · exact absurd ((same id).mp here) (spared id made)
  · exact fun more => (honest_meetAll honest' more).accounts
  · intro more id outcome ended
    rw [← reached, ← meetAll_append]
    exact count_meetAll honest ended (incidents ++ more)
  · intro more id mine message reply
    have still := ended_meetAll honest' (ended id mine) more
    have deaf := SharedLink.step_route_of_ended (honest_meetAll honest' more).sound still reply
    simp only [step, LinkStep.event, deaf]

/-- A session at rest whose signal fires comes to rest again, and whichever way it goes there, just
    those requests of the signal that wait for an answer are taken back. -/
theorem cancels_unanswered (incidents : List Incident) (signal : Nat)
    (rest : AtRest (after incidents)) (under : (after incidents).unanswered signal ≠ []) :
    let fired := (after incidents).step (.link (.fire signal))
    (∃ works, (∀ event ∈ works, event.isWork = true) ∧ AtRest (fired.runFrom works)) ∧
      ∀ works, (∀ event ∈ works, event.isWork = true) → AtRest (fired.runFrom works) →
        Cancels (after incidents) signal (fired.runFrom works) := by
  have honest := honest_after incidents
  -- Nothing waits any more when the connection has ended.
  have standing : (after incidents).shared.link.closed = none := by
    by_contra closed
    have empty := honest.sound.closed closed
    simp [unanswered, empty] at under
  have orderly := orderly_of_standing standing
  have resting := isAtRest_of_atRest orderly rest
  have orderly' : Orderly ((after incidents).step (.link (.fire signal))) :=
    orderly.does (does_step _ _)
  refine ⟨comes_to_rest orderly', ?_⟩
  intro works all rest'
  have latest := orderly'.runFrom works
  obtain ⟨gone, settling⟩ :=
    (settling_fired (after incidents) signal).runFrom orderly resting orderly' all
  exact settling.cancels orderly resting latest (isAtRest_of_atRest latest rest') honest
    (runFrom_eq_meetAll _ (.link (.fire signal) :: works)).symm

/-- A symbol is looked up under one signal and the metrics are asked for under another, and the
    second of the requests for the symbol is answered. -/
def symbolAndMetrics : List Event :=
  [.call 1 (.symbolInfo ⟨"untitled:a", ⟨0, 0⟩⟩), .ask 0, .ask 0, .ask 0,
    .call 2 (.parserMetrics ⟨none⟩), .ask 1,
    .link (.register 1), .link (.register 2), .link (.register 3), .link (.register 4),
    .link (.send 1), .link (.send 2), .link (.send 3), .link (.send 4),
    .link (.route (.object [("id", .int 2), ("jsonrpc", .string "2.0"), ("result", .null)])),
    .link (.collect 2)]

theorem cancels_unanswered_symbol :
    let session := after (symbolAndMetrics.map .step)
    let later := (session.step (.link (.fire 1))).runFrom
      [.link (.withdraw 3), .link (.withdraw 1), .conclude 0]
    AtRest session ∧ session.unanswered 1 = [1, 3] ∧ AtRest later ∧ Cancels session 1 later := by
  have rest : AtRest (after (symbolAndMetrics.map .step)) :=
    atRest_of_isAtRest (by decide +kernel)
  have lost : (after (symbolAndMetrics.map .step)).unanswered 1 = [1, 3] := by decide +kernel
  have rest' : AtRest (((after (symbolAndMetrics.map .step)).step (.link (.fire 1))).runFrom
      [.link (.withdraw 3), .link (.withdraw 1), .conclude 0]) :=
    atRest_of_isAtRest (by decide +kernel)
  refine ⟨rest, lost, rest', ?_⟩
  exact (cancels_unanswered (symbolAndMetrics.map .step) 1 rest (by simp [lost])).2 _
    (by simp [Event.isWork]) rest'

end CodeGateway.SharedSession
