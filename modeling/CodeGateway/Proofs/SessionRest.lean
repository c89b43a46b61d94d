import CodeGateway.Proofs.CancelMessage
import CodeGateway.Proofs.SessionOperations
import CodeGateway.Session.History
import Mathlib.Algebra.Order.BigOperators.Group.List
import Mathlib.Algebra.Order.Ring.Nat

namespace CodeGateway

namespace SharedLink

def Stage.ahead : Stage → Nat
  | numbered => 3
  | registered => 2
  | sent => 1
  | ended _ => 0

def ahead (shared : SharedLink) : Nat :=
  (shared.requests.map fun request => request.stage.ahead).sum

theorem ahead_advance_lt {shared middle : SharedLink} (sound : Sound shared)
    (requests : middle.requests = shared.requests) {request : Request}
    (found : shared.request? request.id = some request) {stage : Stage}
    (fewer : stage.ahead < request.stage.ahead) :
    (middle.advance request.id stage).ahead < shared.ahead := by
  -- No two requests have one number, so the others keep what is ahead of them.
  have self : ∀ other ∈ shared.requests, other.id = request.id → other = request := by
    intro other among same
    have seen := sound.request?_of_mem among
    rw [same, found] at seen
    exact (Option.some.inj seen).symm
  simp only [ahead, advance, requests, List.map_map]
  refine List.sum_lt_sum _ _ ?_ ⟨request, List.mem_of_find?_eq_some found, ?_⟩
  · intro other among
    by_cases same : other.id = request.id
    · rw [self other among same]
      simpa using Nat.le_of_lt fewer
    · simp [same]
  · simpa using fewer

theorem ahead_begin (shared : SharedLink) (signal : Nat) (method : String) (params : Json) :
    (shared.begin signal method params).ahead = shared.ahead + 3 := by
  simp [ahead, begin, Link.takeNumber, Stage.ahead]

theorem move_withdraw_of_fired {shared : SharedLink} {id : Nat} {request : Request}
    (found : shared.request? id = some request) (stage : request.stage = .sent)
    (fired : request.signal ∈ shared.fired) :
    shared.move (.withdraw id) =
      ({ shared with link := shared.link.forget id }.hand [Message.cancel id]).advance id
        (.ended (.error .cancelled)) := by
  have same := request?_id found
  subst same
  rw [move, proceed_of_ready found (by rw [stage]; rfl), withdraw,
    if_pos (List.contains_iff_mem.mpr fired)]

def Event.isOwn : Event → Bool
  | .move (.register _) => true
  | .move (.send _) => true
  | .move (.collect _) => true
  | .move (.withdraw _) => true
  | _ => false

theorem Does.ahead_lt {shared after : SharedLink} {event : Event} (does : Does shared event after)
    (sound : Sound shared) (own : event.isOwn = true) :
    after = shared ∨ after.ahead < shared.ahead := by
  cases does with
  | nothing => exact Or.inl rfl
  | registered found stage =>
    exact Or.inr (ahead_advance_lt sound rfl found (by simp [stage, Stage.ahead]))
  | refused found stage =>
    exact Or.inr (ahead_advance_lt sound rfl found (by simp [stage, Stage.ahead]))
  | sent found stage =>
    exact Or.inr (ahead_advance_lt sound rfl found (by simp [stage, Stage.ahead]))
  | unsent found stage =>
    exact Or.inr (ahead_advance_lt sound rfl found (by simp [stage, Stage.ahead]))
  | collected found stage =>
    exact Or.inr (ahead_advance_lt sound rfl found (by simp [stage, Stage.ahead]))
  | dropped found stage =>
    exact Or.inr (ahead_advance_lt sound rfl found (by simp [stage, Stage.ahead]))
  | withdrawn found stage =>
    exact Or.inr (ahead_advance_lt sound rfl found (by simp [stage, Stage.ahead]))
  | _ => cases own

end SharedLink

namespace SharedSession

open SharedLink (Running)

theorem isWork_link (step : LinkStep) : (Event.link step).isWork = step.event.isOwn := by
  cases step <;> rfl

/-- How many steps a call has before it, besides those for its requests. A document that it opens
    costs it one, to be closed some day. -/
def Stage.ahead {query : Query} : Stage query → Nat
  | queued _ => 7
  | reading _ _ => 6
  | asking => 4
  | forgotten _ => 3
  | closing _ => 2
  | ended _ => 0

def Call.ahead (call : Call) : Nat := call.stage.ahead + 4 * call.left.length

def ahead (session : SharedSession) : Nat :=
  session.shared.ahead + session.shared.link.opened.length + (session.calls.map Call.ahead).sum

theorem sum_set {calls : List Call} {n : Nat} {call : Call} (found : calls[n]? = some call)
    (after : Call) :
    ((calls.set n after).map Call.ahead).sum + call.ahead =
      (calls.map Call.ahead).sum + after.ahead := by
  induction calls generalizing n with
  | nil => cases found
  | cons first calls ih =>
    cases n with
    | zero =>
      cases found
      simp only [List.set_cons_zero, List.map_cons, List.sum_cons]
      omega
    | succ n =>
      have rest := ih found
      simp only [List.set_cons_succ, List.map_cons, List.sum_cons]
      omega

theorem Stage.ahead_conclude {query : Query} (result : Except Failure query.Reply) :
    (Stage.conclude query result).ahead < 4 := by
  unfold Stage.conclude
  split <;> simp [Stage.ahead]

theorem Turn.ahead_lt {session : SharedSession} {n : Nat} {call after : Call} {event : Event}
    {shared : SharedLink} {holder : Option Nat}
    (turn : Turn session n call event shared after holder) :
    shared.ahead + shared.link.opened.length + after.ahead <
      session.shared.ahead + session.shared.link.opened.length + call.ahead := by
  cases turn with
  | passes stage => simp [Call.ahead, stage, Stage.ahead]
  | locks stage => simp [Call.ahead, stage, Stage.ahead]
  | fails stage => simp [Call.ahead, stage, Stage.ahead]
  | refused stage => simp [Call.ahead, stage, Stage.ahead]
  | @opens url path disk text stage =>
    have requests : (session.shared.absorb
        (session.shared.link.sendDocument url path text)).ahead = session.shared.ahead := rfl
    have opened : (session.shared.absorb
        (session.shared.link.sendDocument url path text)).link.opened =
          session.shared.link.opened ++ [url.toString] := rfl
    simp only [requests, opened, Call.ahead, stage, Stage.ahead, List.length_append,
      List.length_singleton]
    omega
  | @asks method params left stage next =>
    have opened : (session.shared.begin call.signal method params).link.opened =
        session.shared.link.opened := rfl
    simp only [SharedLink.ahead_begin, opened, Call.ahead, stage, next, Stage.ahead,
      List.length_cons]
    omega
  | concludes stage all =>
    have fewer := Stage.ahead_conclude (call.query.conclude ‹_›)
    simp only [Call.ahead, stage, all, Stage.ahead] at fewer ⊢
    omega
  | takes stage => simp [Call.ahead, stage, Stage.ahead]
  | @closes result name stage isOpen =>
    have requests : (session.shared.absorb
        (session.shared.link.closeDocument name)).ahead = session.shared.ahead := rfl
    have opened : (session.shared.absorb
        (session.shared.link.closeDocument name)).link.opened =
          session.shared.link.opened.erase name := rfl
    have bound := List.length_pos_of_mem isOpen
    simp only [requests, opened, List.length_erase_of_mem isOpen]
    omega
  | @abandons result name stage isOpen =>
    have requests : SharedLink.ahead
        { session.shared with link := session.shared.link.closeDocuments.1 } =
          session.shared.ahead := rfl
    have none : session.shared.link.closeDocuments.1.opened.length = 0 := rfl
    simp only [requests, none, Call.ahead, stage, Stage.ahead]
    omega
  | releases stage => simp [Call.ahead, stage, Stage.ahead]

variable {session after : SharedSession} {event : Event}

theorem Does.ahead_lt (does : Does session event after) (running : Running session.shared)
    (work : event.isWork = true) : after = session ∨ after.ahead < session.ahead := by
  cases does with
  | nothing => exact Or.inl rfl
  | called => cases work
  | @turned n call later event shared holder found turn =>
    have fewer := turn.ahead_lt
    have whole := sum_set found later
    simp only [ahead]
    omega
  | linked step =>
    have does := SharedLink.does_step session.shared step.event
    rw [isWork_link] at work
    rcases does.ahead_lt running.sound work with same | fewer
    · left
      rw [same]
    · right
      simp only [ahead, does.opened]
      omega

theorem comes_to_rest (orderly : Orderly session) :
    ∃ works, (∀ event ∈ works, event.isWork = true) ∧ AtRest (session.runFrom works) := by
  -- The induction is on what is ahead: a step that changes anything leaves less of it.
  induction count : session.ahead using Nat.strong_induction_on generalizing session with
  | h count ih =>
    by_cases rest : AtRest session
    · exact ⟨[], by simp, rest⟩
    · simp only [AtRest, not_forall] at rest
      obtain ⟨event, work, changes⟩ := rest
      have does := does_step session event
      rcases does.ahead_lt orderly.running work with same | fewer
      · exact absurd same changes
      · obtain ⟨works, all, rest⟩ := ih _ (count ▸ fewer) (orderly.does does) rfl
        exact ⟨event :: works, List.forall_mem_cons.mpr ⟨work, all⟩, rest⟩

section Rest

variable {n : Nat} {call : Call}

theorem AtRest.linked (rest : AtRest session) {step : LinkStep}
    (work : (Event.link step).isWork = true) : session.shared.step step.event = session.shared :=
  congrArg SharedSession.shared (rest _ work)

theorem AtRest.resting_request (rest : AtRest session) (running : Running session.shared)
    {request : SharedLink.Request} (found : session.shared.request? request.id = some request) :
    request.isResting session.shared = true := by
  have still (step : LinkStep) {stage : SharedLink.Stage} (work : (Event.link step).isWork = true)
      (moved : (session.shared.step step.event).request? request.id =
        some { request with stage }) : request.stage = stage := by
    rw [rest.linked work, found, Option.some.injEq] at moved
    exact congrArg SharedLink.Request.stage moved
  unfold SharedLink.Request.isResting
  cases stage : request.stage with
  | numbered =>
    have moved : (session.shared.move (.register request.id)).request? request.id =
        some { request with stage := .registered } := by
      rw [SharedLink.move_register_of_standing found stage running.standing]
      exact SharedLink.request?_advance_self found _
    exact absurd (stage.symm.trans (still (.register request.id) rfl moved)) (by simp)
  | registered =>
    have moved : (session.shared.move (.send request.id)).request? request.id =
        some { request with stage := .sent } := by
      rw [SharedLink.move_send_of_heard found stage running.heard]
      exact SharedLink.request?_advance_self found _
    exact absurd (stage.symm.trans (still (.send request.id) rfl moved)) (by simp)
  | sent =>
    have unhanded : session.shared.posted.lookup request.id = none := by
      cases handed : session.shared.posted.lookup request.id with
      | none => rfl
      | some outcome =>
        have moved := SharedLink.move_collect_of_handed found stage handed
        exact absurd (stage.symm.trans (still (.collect request.id) rfl moved)) (by simp)
    have waits : request.id ∈ session.shared.link.waiting :=
      (running.sound.waits request.id).mpr ⟨⟨request, found, Or.inr stage⟩, unhanded⟩
    have unfired : request.signal ∉ session.shared.fired := by
      intro fired
      have moved : (session.shared.move (.withdraw request.id)).request? request.id =
          some { request with stage := .ended (.error .cancelled) } := by
        rw [SharedLink.move_withdraw_of_fired found stage fired]
        exact SharedLink.request?_advance_self found _
      exact absurd (stage.symm.trans (still (.withdraw request.id) rfl moved)) (by simp)
    simp [waits, unhanded, unfired]
  | ended => rfl

theorem AtRest.free (rest : AtRest session) (orderly : Orderly session) :
    session.holder = none := by
  cases has : session.holder with
  | none => rfl
  | some m =>
    obtain ⟨call, found⟩ := orderly.holder m has
    have holds := (orderly.holds m call found).mpr has
    cases stage : call.stage with
    | reading url path =>
      have read := rest (.read m fun _ => none) rfl
      rw [step, proceed_of_found found, SharedSession.read, stage] at read
      exact absurd (has.symm.trans (congrArg SharedSession.holder read).symm) (by simp)
    | closing result =>
      cases opened : session.shared.link.opened with
      | nil =>
        have released := rest (.release m) rfl
        rw [step_release found stage opened] at released
        exact absurd (has.symm.trans (congrArg SharedSession.holder released).symm) (by simp)
      | cons name names =>
        have closed := rest (.close m name) rfl
        rw [step, proceed_of_found found, close, stage] at closed
        have fewer := congrArg (fun session => session.shared.link.opened.length) closed
        simp [opened, orderly.running.heard, SharedLink.absorb, SharedLink.hand,
          Link.closeDocument] at fewer
    | _ => simp [stage, Stage.holds] at holds

theorem step_lock_of_queued (found : session.calls[n]? = some call) {url : Url}
    (stage : call.stage = .queued url) (free : session.holder = none) :
    ∃ stage, (∀ url, stage ≠ .queued url) ∧
      (session.step (.lock n)).calls[n]? = some { call with stage } := by
  rw [step, proceed_of_found found, lock, free, stage]
  dsimp only
  split
  · exact ⟨.asking, by simp, found_update found _⟩
  · split
    · exact ⟨.asking, by simp, found_update found _⟩
    · rename_i path somewhere
      exact ⟨.reading url path, by simp, found_update found _⟩

theorem step_conclude (found : session.calls[n]? = some call) (stage : call.stage = .asking)
    (all : call.left = []) {outcomes : List Outcome}
    (ended : call.made.mapM session.shared.outcome? = some outcomes) :
    session.step (.conclude n) =
      session.update n
        { call with stage := .conclude call.query (call.query.conclude outcomes) } := by
  rw [step, proceed_of_found found]
  simp only [conclude, stage, all, ended]

theorem Stage.conclude_ne_asking {query : Query} (result : Except Failure query.Reply) :
    Stage.conclude query result ≠ .asking := by
  unfold Stage.conclude
  split <;> simp

theorem AtRest.resting_call (rest : AtRest session) (orderly : Orderly session)
    (found : session.calls[n]? = some call) : call.isResting session.shared = true := by
  have free := rest.free orderly
  have held := orderly.holds n call found
  rw [free] at held
  have still (event : Event) {after : Call} (work : event.isWork = true)
      (moved : (session.step event).calls[n]? = some after) : call = after := by
    rw [rest event work, found, Option.some.injEq] at moved
    exact moved
  have staged (event : Event) {stage : Stage call.query} (work : event.isWork = true)
      (moved : (session.step event).calls[n]? = some { call with stage }) :
      call.stage = stage := by
    have same := still event work moved
    rw [Call.mk.injEq] at same
    simpa using same
  unfold Call.isResting
  cases stage : call.stage with
  | queued url =>
    obtain ⟨stage', left, moved⟩ := step_lock_of_queued found stage free
    exact absurd (stage.symm.trans (staged (.lock n) rfl moved)) (left url).symm
  | reading => simp [stage, Stage.holds] at held
  | asking =>
    cases left : call.left with
    | cons text texts =>
      have moved : (session.step (.ask n)).calls[n]? =
          some { call with made := call.made ++ [session.shared.link.nextId], left := texts } := by
        rw [step_ask found stage left]
        exact found_update found _
      have fewer := congrArg Call.left (still (.ask n) rfl moved)
      simp [left] at fewer
    | nil =>
      -- With all its requests ended the call would end.
      rw [List.isEmpty_nil, Bool.true_and, List.any_eq_true]
      by_contra answered
      have ended : ∀ id ∈ call.made, ∃ outcome, session.shared.outcome? id = some outcome := by
        intro id among
        by_contra unanswered
        simp only [not_exists, ← Option.eq_none_iff_forall_ne_some] at unanswered
        exact answered ⟨id, among, by rw [unanswered, Option.isNone_none]⟩
      obtain ⟨outcomes, all⟩ := exists_mapM ended
      have moved : (session.step (.conclude n)).calls[n]? =
          some { call with stage := .conclude call.query (call.query.conclude outcomes) } := by
        rw [step_conclude found stage left all]
        exact found_update found _
      have concluded := staged (.conclude n) rfl moved
      rw [stage] at concluded
      exact absurd concluded.symm (Stage.conclude_ne_asking _)
  | forgotten result =>
    have moved : (session.step (.lock n)).calls[n]? =
        some { call with stage := .closing result } := by
      rw [step_lock_of_forgotten found stage free]
      exact found_update found _
    exact absurd (stage.symm.trans (staged (.lock n) rfl moved)) (by simp)
  | closing => simp [stage, Stage.holds] at held
  | ended => rfl

theorem isAtRest_of_atRest (orderly : Orderly session) (rest : AtRest session) :
    session.isAtRest = true := by
  simp only [isAtRest, Bool.and_eq_true, List.all_eq_true]
  constructor
  · intro call among
    obtain ⟨n, found⟩ := List.mem_iff_getElem?.mp among
    exact rest.resting_call orderly found
  · intro request among
    exact rest.resting_request orderly.running (orderly.running.sound.request?_of_mem among)

theorem Call.isResting_cases {shared : SharedLink} (resting : call.isResting shared = true) :
    (∃ result, call.stage = .ended result) ∨
      call.stage = .asking ∧ call.left = [] ∧ ∃ id ∈ call.made, shared.outcome? id = none := by
  unfold Call.isResting at resting
  cases stage : call.stage with
  | asking =>
    rw [stage] at resting
    simp only [Bool.and_eq_true, List.isEmpty_iff, List.any_eq_true, Option.isNone_iff_eq_none]
      at resting
    exact Or.inr ⟨rfl, resting⟩
  | ended result => exact Or.inl ⟨result, rfl⟩
  | _ =>
    rw [stage] at resting
    cases resting

def Event.call? : Event → Option Nat
  | .lock n => some n
  | .read n _ => some n
  | .ask n => some n
  | .conclude n => some n
  | .close n _ => some n
  | .release n => some n
  | .call _ _ => none
  | .link _ => none

theorem step_of_missing (of : event.call? = some n) (missing : session.calls[n]? = none) :
    session.step event = session := by
  cases event with
  | call => cases of
  | link => cases of
  | _ =>
    cases of
    simp only [step, proceed, missing]

theorem step_of_ended (of : event.call? = some n) (found : session.calls[n]? = some call)
    {result : Except Failure call.query.Reply} (stage : call.stage = .ended result) :
    session.step event = session := by
  cases event with
  | call => cases of
  | link => cases of
  | lock m =>
    cases of
    simp only [step, proceed, found]
    simp only [lock, stage]
    cases session.holder <;> rfl
  | _ =>
    cases of
    simp only [step, proceed, found]
    simp only [SharedSession.read, ask, conclude, close, release, stage]

theorem step_of_asking (of : event.call? = some n) (found : session.calls[n]? = some call)
    (stage : call.stage = .asking) (all : call.left = []) :
    session.step event = session ∨ ∃ outcomes, event = .conclude n ∧
      call.made.mapM session.shared.outcome? = some outcomes ∧
        session.step event = session.update n
          { call with stage := .conclude call.query (call.query.conclude outcomes) } := by
  cases event with
  | call => cases of
  | link => cases of
  | conclude m =>
    cases of
    cases ended : call.made.mapM session.shared.outcome? with
    | some outcomes => exact Or.inr ⟨outcomes, rfl, rfl, step_conclude found stage all ended⟩
    | none =>
      left
      simp only [step, proceed, found]
      simp only [conclude, stage, all, ended]
  | lock m =>
    left
    cases of
    simp only [step, proceed, found]
    simp only [lock, stage]
    cases session.holder <;> rfl
  | _ =>
    left
    cases of
    simp only [step, proceed, found]
    simp only [SharedSession.read, ask, close, release, stage, all]

theorem step_of_isResting (of : event.call? = some n) (found : session.calls[n]? = some call)
    (resting : call.isResting session.shared = true) : session.step event = session := by
  rcases Call.isResting_cases resting with ⟨result, stage⟩ | ⟨stage, all, id, among, unended⟩
  · exact step_of_ended of found stage
  · rcases step_of_asking of found stage all with same | ⟨outcomes, -, ended, -⟩
    · exact same
    · obtain ⟨outcome, given⟩ := mem_of_mapM ended among
      exact absurd (unended.symm.trans given) (by simp)

end Rest

end SharedSession

namespace SharedLink

variable {shared : SharedLink}

theorem step_of_still {step : SharedSession.LinkStep} (own : step.event.isOwn = true)
    (still : ∀ id request, shared.request? id = some request →
      (∃ outcome, request.stage = .ended outcome) ∨ request.stage = .sent ∧
        id ∈ shared.link.waiting ∧ shared.posted.lookup id = none) :
    shared.step step.event = shared ∨ ∃ id request, step = .withdraw id ∧
      shared.request? id = some request ∧ request.stage = .sent ∧
        request.signal ∈ shared.fired := by
  have past {id : Nat} {request : Request} (found : shared.request? id = some request) :
      request.stage ≠ .numbered ∧ request.stage ≠ .registered := by
    rcases still _ _ found with ⟨outcome, ended⟩ | ⟨sent, -⟩
    · simp [ended]
    · simp [sent]
  have does := does_step shared step.event
  generalize shared.step step.event = after at does ⊢
  generalize known : step.event = event at does own
  cases does with
  | nothing => exact Or.inl rfl
  | registered found stage => exact absurd stage (past found).1
  | refused found stage => exact absurd stage (past found).1
  | sent found stage => exact absurd stage (past found).2
  | unsent found stage => exact absurd stage (past found).2
  | collected found stage handed =>
    rcases still _ _ found with ⟨outcome, ended⟩ | ⟨-, -, unhanded⟩
    · exact absurd (stage.symm.trans ended) (by simp)
    · exact absurd (handed.symm.trans unhanded) (by simp)
  | dropped found stage unhanded gone =>
    rcases still _ _ found with ⟨outcome, ended⟩ | ⟨-, waits, -⟩
    · exact absurd (stage.symm.trans ended) (by simp)
    · exact absurd waits gone
  | @withdrawn request found stage fired =>
    refine Or.inr ⟨request.id, request, ?_, found, stage, fired⟩
    cases step <;> simp_all [SharedSession.LinkStep.event]
  | _ => cases own

theorem Request.isResting_cases {request : Request} (resting : request.isResting shared = true) :
    (∃ outcome, request.stage = .ended outcome) ∨ request.stage = .sent ∧
      request.id ∈ shared.link.waiting ∧ shared.posted.lookup request.id = none ∧
        request.signal ∉ shared.fired := by
  unfold isResting at resting
  cases stage : request.stage with
  | sent =>
    rw [stage] at resting
    simp only [Bool.and_eq_true, List.contains_iff_mem, Option.isNone_iff_eq_none,
      Bool.not_eq_true', ← Bool.not_eq_true, List.contains_iff_mem, and_assoc] at resting
    exact Or.inr ⟨rfl, resting⟩
  | ended outcome => exact Or.inl ⟨outcome, rfl⟩
  | _ =>
    rw [stage] at resting
    cases resting

end SharedLink

namespace SharedSession

variable {session : SharedSession}

theorem resting_of_isAtRest (isAtRest : session.isAtRest = true) {n : Nat} {call : Call}
    (found : session.calls[n]? = some call) : call.isResting session.shared = true := by
  simp only [SharedSession.isAtRest, Bool.and_eq_true, List.all_eq_true] at isAtRest
  exact isAtRest.1 call (List.mem_of_getElem? found)

theorem request_of_isAtRest (isAtRest : session.isAtRest = true) {id : Nat}
    {request : SharedLink.Request} (found : session.shared.request? id = some request) :
    (∃ outcome, request.stage = .ended outcome) ∨ request.stage = .sent ∧
      id ∈ session.shared.link.waiting ∧ session.shared.posted.lookup id = none ∧
        request.signal ∉ session.shared.fired := by
  simp only [SharedSession.isAtRest, Bool.and_eq_true, List.all_eq_true] at isAtRest
  have resting := isAtRest.2 request (List.mem_of_find?_eq_some found)
  cases SharedLink.request?_id found
  exact SharedLink.Request.isResting_cases resting

theorem atRest_of_isAtRest (isAtRest : session.isAtRest = true) : AtRest session := by
  intro event work
  cases of : event.call? with
  | some n =>
    cases found : session.calls[n]? with
    | none => exact step_of_missing of found
    | some call => exact step_of_isResting of found (resting_of_isAtRest isAtRest found)
  | none =>
    cases event with
    | link step =>
      rw [isWork_link] at work
      have still : ∀ id request, session.shared.request? id = some request →
          (∃ outcome, request.stage = .ended outcome) ∨ request.stage = .sent ∧
            id ∈ session.shared.link.waiting ∧ session.shared.posted.lookup id = none := by
        intro id request found
        exact (request_of_isAtRest isAtRest found).imp_right
          fun ⟨sent, waits, unhanded, _⟩ => ⟨sent, waits, unhanded⟩
      have quiet : session.shared.step step.event = session.shared := by
        rcases SharedLink.step_of_still work still with same | ⟨id, request, -, found, sent, fired⟩
        · exact same
        · rcases request_of_isAtRest isAtRest found with ⟨outcome, ended⟩ | ⟨-, -, -, unfired⟩
          · exact absurd (sent.symm.trans ended) (by simp)
          · exact absurd fired unfired
      simp only [SharedSession.step, quiet]
    | call => cases work
    | _ => cases of

theorem atRest_iff (orderly : Orderly session) : AtRest session ↔ session.isAtRest = true :=
  ⟨isAtRest_of_atRest orderly, atRest_of_isAtRest⟩

end SharedSession

end CodeGateway
