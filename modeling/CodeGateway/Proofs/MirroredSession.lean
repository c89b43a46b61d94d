import CodeGateway.Proofs.CallCompletion
import CodeGateway.Proofs.RequestParts

namespace CodeGateway

namespace Call

def given (ended : List (Nat × Outcome)) (call : Call) : Call :=
  { call with parts := call.parts.map (Part.given ended) }

theorem given_nil : given [] = id := by
  have same : Part.given [] = id := funext Part.given_nil
  funext call
  rw [given, same, List.map_id]
  rfl

theorem foldl_deliver (ended : List (Nat × Outcome)) (calls : List Call) :
    ended.foldl (fun calls entry => calls.map (deliver entry.1 entry.2)) calls =
      calls.map (given ended) := by
  induction ended generalizing calls with
  | nil =>
    rw [given_nil, List.map_id]
    rfl
  | cons entry ended ih =>
    obtain ⟨id, outcome⟩ := entry
    rw [List.foldl_cons, ih, List.map_map]
    congr 1
    funext call
    simp only [Function.comp, given, deliver, List.map_map]
    congr 2
    funext part
    obtain ⟨own, known⟩ := part
    by_cases same : own = id
    · cases known <;> simp [Part.given, Part.deliver, Part.isWaiting, same]
    · simp [Part.given, Part.deliver, SharedLink.lookup_cons, same]

theorem made_iff {call : Call} {id : Nat} :
    call.made id = true ↔ id ∈ call.parts.map Part.id := by
  simp [made]

end Call

namespace SharedSession

open SharedLink (Honest Shows Delivers)

/-- A call under way, as a session has it that carries out all of it. -/
def Call.standing? (shared : SharedLink) (call : Call) : Option CodeGateway.Call :=
  match call.stage with
  | .asking => some ⟨call.signal, .query call.query,
      call.made.map fun id => ⟨id, shared.outcome? id⟩⟩
  | _ => none

def Call.finished? (call : Call) : Option Finished :=
  match call.stage with
  | .ended result => some ⟨call.signal, .query call.query, result⟩
  | _ => none

/-- A call between two operations of a session: it has sent all its requests, or has ended. -/
inductive Call.Settled (shared : SharedLink) (call : Call) : Prop
  | asking (stage : call.stage = .asking) (all : call.left = [])
      (shows : ∀ id ∈ call.made, Shows shared call.signal ⟨id, shared.outcome? id⟩)
  | ended {result : Except Failure call.query.Reply} (stage : call.stage = .ended result)

/-- A shared session is where a session is that has finished these calls. -/
structure Mirrors (session : Session) (finished : List Finished) (shared : SharedSession) :
    Prop where
  honest : Honest shared.shared
  link : shared.shared.link = { session.link with unread := [] }
  free : shared.holder = none
  settled : ∀ call ∈ shared.calls, call.Settled shared.shared
  standing : session.calls = shared.calls.filterMap (Call.standing? shared.shared)
  finished : (shared.calls.filterMap Call.finished?).Perm finished
  distinct : (session.calls.flatMap fun call => call.parts.map Part.id).Nodup

def Incident.isArrival : Incident → Bool
  | .step event => !event.isWork
  | .stop _ => true

/-- With these things coming to it, a shared session gets to where the operation leaves a session,
    and sends what the operation sends. -/
def Follows (shared : SharedSession) (finished : List Finished) (coming : List Incident)
    (operation : Session × Session.Effects) : Prop :=
  ∃ incidents, incidents.filter Incident.isArrival = coming ∧
    Mirrors operation.1 (finished ++ operation.2.finished) (shared.meetAll incidents) ∧
    (shared.meetAll incidents).shared.outgoing = shared.shared.outgoing ++ operation.2.sent

theorem Follows.trans {shared : SharedSession} {finished : List Finished}
    {coming more : List Incident} {first second : Session × Session.Effects}
    (follows : Follows shared finished coming first)
    (later : ∀ after, Mirrors first.1 (finished ++ first.2.finished) after →
      Follows after (finished ++ first.2.finished) more second) :
    Follows shared finished (coming ++ more) (second.1, first.2.append second.2) := by
  obtain ⟨incidents, comes, mirrors, sent⟩ := follows
  obtain ⟨incidents', comes', mirrors', sent'⟩ := later _ mirrors
  refine ⟨incidents ++ incidents', ?_, ?_, ?_⟩
  · rw [List.filter_append, comes, comes']
  · rw [meetAll_append]
    simpa [Session.Effects.append] using mirrors'
  · rw [meetAll_append, sent', sent]
    simp [Session.Effects.append]

theorem filter_works {α : Type} (events : α → Event) {xs : List α}
    (own : ∀ x ∈ xs, (events x).isWork = true) :
    (xs.map fun x => .step (events x)).filter Incident.isArrival = [] := by
  rw [List.filter_eq_nil_iff]
  intro incident among
  obtain ⟨x, member, rfl⟩ := List.mem_map.mp among
  simp [Incident.isArrival, own x member]

theorem follows_works {shared after : SharedSession} {finished : List Finished}
    {works : List Event} (all : ∀ event ∈ works, event.isWork = true)
    (worked : shared.runFrom works = after) {operation : Session × Session.Effects}
    (mirrors : Mirrors operation.1 (finished ++ operation.2.finished) after)
    (sent : after.shared.outgoing = shared.shared.outgoing ++ operation.2.sent) :
    Follows shared finished [] operation := by
  rw [runFrom_eq_meetAll] at worked
  exact ⟨works.map .step, filter_works id all, by rw [worked]; exact mirrors,
    by rw [worked]; exact sent⟩

theorem meetAll_links {α : Type} (shared : SharedSession) (steps : α → LinkStep) (xs : List α) :
    shared.meetAll (xs.map fun x => .step (.link (steps x))) =
      { shared with shared := shared.shared.runFrom (xs.map fun x => (steps x).event) } := by
  induction xs generalizing shared with
  | nil => rfl
  | cons x xs ih => exact ih (shared.step (.link (steps x)))

section Mirrors

variable {session : Session} {finished : List Finished} {shared : SharedSession}

theorem Mirrors.refl (mirrors : Mirrors session finished shared) :
    Follows shared finished [] (session, .none) :=
  ⟨[], rfl, by simpa [Session.Effects.none, meetAll] using mirrors,
    by simp [Session.Effects.none, meetAll]⟩

theorem Call.standing?_given {before after : SharedLink} {ended : List (Nat × Outcome)}
    (delivers : Delivers before after ended) {call : Call} (settled : call.Settled before) :
    call.standing? after = (call.standing? before).map (CodeGateway.Call.given ended) := by
  cases settled with
  | ended stage => simp [Call.standing?, stage]
  | asking stage all shows =>
    simp only [Call.standing?, stage, Option.map_some, CodeGateway.Call.given, List.map_map]
    congr 2
    refine List.map_congr_left fun id among => ?_
    have shown := (delivers _ _ (shows id among)).outcome?
    simpa [Part.given] using shown

theorem Call.Settled.given {before after : SharedLink} {ended : List (Nat × Outcome)}
    (delivers : Delivers before after ended) {call : Call} (settled : call.Settled before) :
    call.Settled after := by
  cases settled with
  | ended stage => exact .ended stage
  | asking stage all shows =>
    refine .asking stage all fun id among => ?_
    have shown := delivers _ _ (shows id among)
    have same := shown.outcome?
    dsimp only [Part.given] at shown same
    rwa [same]

theorem Mirrors.linked (mirrors : Mirrors session finished shared) {after : SharedLink}
    {link : Link} {ended : List (Nat × Outcome)} (honest : Honest after)
    (same : after.link = { link with unread := [] })
    (delivers : Delivers shared.shared after ended) :
    Mirrors ⟨link, session.calls.map (CodeGateway.Call.given ended)⟩ finished
      { shared with shared := after } := by
  refine ⟨honest, same, mirrors.free, ?_, ?_, mirrors.finished, ?_⟩
  · exact fun call among => (mirrors.settled call among).given delivers
  · rw [mirrors.standing, List.map_filterMap]
    refine List.filterMap_congr fun call among => ?_
    exact (Call.standing?_given delivers (mirrors.settled call among)).symm
  · have ids : (fun call : CodeGateway.Call => (call.given ended).parts.map Part.id) =
        fun call => call.parts.map Part.id := by
      funext call
      simp [CodeGateway.Call.given, Part.given, Function.comp_def]
    rw [List.flatMap_map, ids]
    exact mirrors.distinct

theorem Mirrors.linked_quietly (mirrors : Mirrors session finished shared) {after : SharedLink}
    {link : Link} (honest : Honest after) (same : after.link = { link with unread := [] })
    (delivers : Delivers shared.shared after []) :
    Mirrors ⟨link, session.calls⟩ finished { shared with shared := after } := by
  have linked := mirrors.linked honest same delivers
  rwa [CodeGateway.Call.given_nil, List.map_id] at linked

theorem runFrom_wrapUp {n : Nat} {call : Call} (heard : shared.shared.muted = false)
    (found : shared.calls[n]? = some call) (stage : call.stage = .asking) (all : call.left = [])
    {outcomes : List Outcome} (ended : call.made.mapM shared.shared.outcome? = some outcomes)
    (free : shared.holder = none) :
    let result := call.query.conclude outcomes
    let wrapped := (Goal.query call.query).wrapUp shared.shared.link result
    ∃ works : List Event, (∀ event ∈ works, event.isWork = true) ∧
      shared.runFrom works =
        { shared.update n { call with stage := .ended result } with
          shared := shared.shared.absorb (wrapped.1, ⟨wrapped.2, []⟩) } := by
  have concluded := step_conclude found stage all ended
  have steps (events : List Event) : shared.runFrom (.conclude n :: events) =
      (shared.step (.conclude n)).runFrom events := rfl
  obtain ⟨signal, query, callStage, made, left⟩ := call
  dsimp only at concluded ⊢
  generalize query.conclude outcomes = result at concluded ⊢
  have stays (same : Stage.conclude query result = .ended result)
      (nothing : (Goal.query query).wrapUp shared.shared.link result = (shared.shared.link, [])) :
      ∃ works : List Event, (∀ event ∈ works, event.isWork = true) ∧
        shared.runFrom works =
          { shared.update n ⟨signal, query, .ended result, made, left⟩ with
            shared := shared.shared.absorb
              (((Goal.query query).wrapUp shared.shared.link result).1,
                ⟨((Goal.query query).wrapUp shared.shared.link result).2, []⟩) } := by
    have unsent : shared.shared.absorb (shared.shared.link, ⟨[], []⟩) = shared.shared :=
      SharedLink.absorb_nothing shared.shared
    refine ⟨[.conclude n], by simp [Event.isWork], ?_⟩
    rw [steps, concluded, nothing, same, unsent]
    rfl
  cases query with
  | reindex =>
    cases result with
    | error failure => exact stays rfl rfl
    | ok done =>
      have found' : (shared.step (.conclude n)).calls[n]? =
          some ⟨signal, .reindex, .forgotten (.ok done), made, left⟩ := by
        rw [concluded]
        exact found_update found _
      have same : (shared.step (.conclude n)).shared = shared.shared := by rw [concluded]; rfl
      have taken := runFrom_takeBack (by rw [same]; exact heard) found' rfl
        (by rw [concluded]; exact free)
      rw [same] at taken
      refine ⟨.conclude n :: .lock n ::
        (shared.shared.link.opened.map (.close n) ++ [.release n]), ?_, ?_⟩
      · intro event among
        simp only [List.mem_cons, List.mem_append, List.mem_map, List.not_mem_nil,
          or_false] at among
        rcases among with rfl | rfl | ⟨name, -, rfl⟩ | rfl <;> rfl
      · rw [steps, taken, concluded]
        simp [update, Goal.wrapUp]
  | _ => exact stays rfl rfl

theorem Call.standing?_eq_some {link : SharedLink} {call : Call} {standing : CodeGateway.Call}
    (stands : call.standing? link = some standing) :
    call.stage = .asking ∧ standing = ⟨call.signal, .query call.query,
      call.made.map fun id => ⟨id, link.outcome? id⟩⟩ := by
  unfold Call.standing? at stands
  split at stands
  · rename_i stage
    cases stands
    exact ⟨stage, rfl⟩
  · cases stands

theorem filter_of_distinct {front back : List CodeGateway.Call} {call : CodeGateway.Call} {id : Nat}
    (distinct : ((front ++ call :: back).flatMap fun call => call.parts.map Part.id).Nodup)
    (made : call.made id = true) :
    (front ++ call :: back).filter (fun other => !other.made id) = front ++ back := by
  have others {calls : List CodeGateway.Call}
      (apart : id ∉ calls.flatMap fun call => call.parts.map Part.id) :
      calls.filter (fun other => !other.made id) = calls := by
    refine List.filter_eq_self.mpr fun other among => ?_
    rw [Bool.not_eq_true', Bool.eq_false_iff]
    intro makes
    exact apart (List.mem_flatMap.mpr ⟨other, among, CodeGateway.Call.made_iff.mp makes⟩)
  have own := CodeGateway.Call.made_iff.mp made
  rw [List.flatMap_append, List.flatMap_cons, List.nodup_append] at distinct
  obtain ⟨-, distinct, apart⟩ := distinct
  rw [List.nodup_append] at distinct
  obtain ⟨-, -, apart'⟩ := distinct
  rw [List.filter_append, List.filter_cons_of_neg (by simpa using made), others, others]
  · exact fun behind => apart' id own id behind rfl
  · exact fun before => apart id before id (List.mem_append_left _ own) rfl

theorem exists_of_filterMap_eq {α β : Type} {f : α → Option β} {xs : List α} {front back : List β}
    {y : β} (same : xs.filterMap f = front ++ y :: back) :
    ∃ before x behind, xs = before ++ x :: behind ∧ before.filterMap f = front ∧ f x = some y ∧
      behind.filterMap f = back := by
  obtain ⟨before, rest, rfl, first, later⟩ := List.filterMap_eq_append_iff.mp same
  obtain ⟨quiet, x, behind, rfl, nothing, here, last⟩ := List.filterMap_eq_cons_iff.mp later
  refine ⟨before ++ quiet, x, behind, by simp, ?_, here, last⟩
  rw [List.filterMap_append, first, List.filterMap_eq_nil_iff.mpr nothing, List.append_nil]

theorem Mirrors.conclude {link : Link} {before behind : List CodeGateway.Call}
    {standing : CodeGateway.Call} {after : SharedLink} {front back : List Call} {own : Call}
    {holder : Option Nat}
    (mirrors : Mirrors ⟨link, before ++ standing :: behind⟩ finished
      ⟨after, front ++ own :: back, holder⟩)
    (first : front.filterMap (Call.standing? after) = before)
    (last : back.filterMap (Call.standing? after) = behind) (stage : own.stage = .asking)
    (result : Except Failure own.query.Reply) :
    Mirrors ⟨link, before ++ behind⟩ (finished ++ [⟨own.signal, .query own.query, result⟩])
      ⟨after, front ++ { own with stage := .ended result } :: back, holder⟩ := by
  obtain ⟨honest, same, free, settled, -, ends, distinct⟩ := mirrors
  refine ⟨honest, same, free, ?_, ?_, ?_, ?_⟩
  · intro call among
    simp only [List.mem_append, List.mem_cons] at among settled
    rcases among with front | rfl | back
    · exact settled call (Or.inl front)
    · exact .ended rfl
    · exact settled call (Or.inr (Or.inr back))
  · have gone : Call.standing? after { own with stage := .ended result } = none := rfl
    rw [List.filterMap_append, List.filterMap_cons_none gone, first, last]
  · have new : Call.finished? { own with stage := .ended result } =
        some ⟨own.signal, .query own.query, result⟩ := rfl
    have under : own.finished? = none := by simp only [Call.finished?, stage]
    rw [List.filterMap_append, List.filterMap_cons_none under, ← List.filterMap_append] at ends
    rw [List.filterMap_append, List.filterMap_cons_some new]
    refine List.perm_middle.trans (.trans (.cons _ ?_) (List.perm_append_singleton _ _).symm)
    rwa [← List.filterMap_append]
  · rw [List.flatMap_append, List.flatMap_cons] at distinct
    rw [List.flatMap_append]
    exact distinct.sublist ((List.sublist_append_right _ _).append_left _)

theorem Mirrors.settleCall (mirrors : Mirrors session finished shared) (id : Nat) :
    Follows shared finished [] (session.settleCall id) := by
  unfold Session.settleCall
  split
  · exact mirrors.refl
  · rename_i call found
    split
    · exact mirrors.refl
    · rename_i outcomes ended
      obtain ⟨made, before, behind, whole, -⟩ := List.find?_eq_some_iff_append.mp found
      rw [whole, filter_of_distinct (by rw [← whole]; exact mirrors.distinct) made]
      obtain ⟨front, own, back, split, first, stands, last⟩ :=
        exists_of_filterMap_eq (mirrors.standing.symm.trans whole)
      obtain ⟨stage, rfl⟩ := Call.standing?_eq_some stands
      have asking := mirrors.settled own (by simp [split])
      cases asking with
      | ended done => cases stage.symm.trans done
      | asking _ all shows =>
        have ended' : own.made.mapM shared.shared.outcome? = some outcomes := by
          rw [CodeGateway.Call.outcomes?, List.mapM_map] at ended
          exact ended
        obtain ⟨works, isWork, worked⟩ := runFrom_wrapUp mirrors.honest.heard
          (by simp [split] : shared.calls[front.length]? = some own) stage all ended' mirrors.free
        have honest := honest_meetAll mirrors.honest (works.map .step)
        rw [← runFrom_eq_meetAll, worked] at honest
        rw [mirrors.link, Goal.wrapUp_unread] at worked honest
        have linked := mirrors.linked_quietly honest rfl (SharedLink.delivers_absorb _ _ _)
        have set (after : Call) : shared.calls.set front.length after = front ++ after :: back := by
          simp [split]
        rw [whole, split] at linked
        refine follows_works isWork worked ?_ (SharedLink.outgoing_absorb mirrors.honest.heard _)
        rw [update, set]
        exact linked.conclude first last stage _

theorem Mirrors.settle (mirrors : Mirrors session finished shared) (ids : List Nat) :
    Follows shared finished [] (session.settle ids) := by
  induction ids generalizing session finished shared with
  | nil => exact mirrors.refl
  | cons id ids ih => exact (mirrors.settleCall id).trans fun after mirrors => ih mirrors

theorem Mirrors.carryOut (mirrors : Mirrors session finished shared)
    {incidents coming : List Incident} (comes : incidents.filter Incident.isArrival = coming)
    {after : SharedLink} (met : shared.meetAll incidents = { shared with shared := after })
    {operation : Link × Effects} (same : after.link = { operation.1 with unread := [] })
    (sent : after.outgoing = shared.shared.outgoing ++ operation.2.sent)
    (delivers : Delivers shared.shared after operation.2.ended) :
    Follows shared finished coming (session.carryOut operation) := by
  have honest := honest_meetAll mirrors.honest incidents
  rw [met] at honest
  have linked := mirrors.linked honest same delivers
  have first : Follows shared finished coming
      (⟨operation.1, session.calls.map (CodeGateway.Call.given operation.2.ended)⟩,
        ⟨operation.2.sent, []⟩) := by
    refine ⟨incidents, comes, ?_, ?_⟩
    · rw [met, List.append_nil]
      exact linked
    · rw [met]
      exact sent
  have whole := first.trans fun after mirrors => mirrors.settle (operation.2.ended.map Prod.fst)
  rw [List.append_nil] at whole
  rw [Session.carryOut, Session.deliver, CodeGateway.Call.foldl_deliver]
  exact whole

theorem Mirrors.shows (mirrors : Mirrors session finished shared) {call : CodeGateway.Call}
    (among : call ∈ session.calls) {part : Part} (member : part ∈ call.parts) :
    Shows shared.shared call.ticket part := by
  rw [mirrors.standing] at among
  obtain ⟨own, given, stands⟩ := List.mem_filterMap.mp among
  obtain ⟨stage, rfl⟩ := Call.standing?_eq_some stands
  obtain ⟨id, made, rfl⟩ := List.mem_map.mp member
  cases mirrors.settled own given with
  | ended done => cases stage.symm.trans done
  | asking _ _ shows => exact shows id made

theorem Mirrors.cancel (mirrors : Mirrors session finished shared) (ticket : Nat) :
    Follows shared finished [.step (.link (.fire ticket))] (session.cancel ticket) := by
  have fired : Honest (shared.shared.move (.fire ticket)) := mirrors.honest.move (by simp)
  have still : Delivers shared.shared (shared.shared.move (.fire ticket)) [] :=
    SharedLink.delivers_of_eq rfl rfl
  have shown : ∀ id ∈ session.waitingOf ticket,
      ∃ part, part.id = id ∧ Shows (shared.shared.move (.fire ticket)) ticket part := by
    intro id waits
    obtain ⟨call, own, waits⟩ := List.mem_flatMap.mp waits
    obtain ⟨among, same⟩ := List.mem_filter.mp own
    obtain ⟨part, member, rfl⟩ := List.mem_map.mp waits
    rw [beq_iff_eq] at same
    subst same
    exact ⟨part, rfl, (mirrors.shows among (List.mem_filter.mp member).1).of_eq rfl rfl⟩
  obtain ⟨link, outgoing, delivers⟩ := SharedLink.takesBack_withdraws fired
    (List.mem_cons_self : ticket ∈ (shared.shared.move (.fire ticket)).fired) shown
  have met := meetAll_links (shared.step (.link (.fire ticket))) .withdraw
    (session.waitingOf ticket)
  have same : (shared.shared.move (.fire ticket)).link = { session.link with unread := [] } :=
    mirrors.link
  rw [same, Link.cancelAll_unread] at link outgoing delivers
  have steps (incidents : List Incident) :
      shared.meetAll (.step (.link (.fire ticket)) :: incidents) =
        (shared.step (.link (.fire ticket))).meetAll incidents := rfl
  refine mirrors.carryOut ?_ ((steps _).trans met) link outgoing (still.trans delivers)
  simp [Incident.isArrival, Event.isWork]

/-- What comes to the link with some bytes: the messages in them, and the end of the connection. -/
def received (link : Link) (ended : Bool) (bytes : List UInt8) : List Incident :=
  let (_, messages, reason) := link.read ended bytes
  messages.map (fun message => .step (.link (.route message))) ++ reason.toList.map .stop

theorem filter_received (link : Link) (ended : Bool) (bytes : List UInt8) :
    (received link ended bytes).filter Incident.isArrival = received link ended bytes := by
  refine List.filter_eq_self.mpr fun incident among => ?_
  rcases List.mem_append.mp among with routes | stops
  · obtain ⟨message, -, rfl⟩ := List.mem_map.mp routes
    rfl
  · obtain ⟨reason, -, rfl⟩ := List.mem_map.mp stops
    rfl

theorem standing_routes {shared : SharedLink} (standing : shared.link.closed = none)
    (messages : List Json) : (shared.runFrom (messages.map .route)).link.closed = none := by
  induction messages generalizing shared with
  | nil => exact standing
  | cons message messages ih => exact ih ((Connection.closed_route shared message).trans standing)

theorem runFrom_routes {shared : SharedLink} (standing : shared.link.closed = none)
    (messages : List Json) :
    shared.runFrom (messages.map .route) = shared.absorb (shared.link.routeAll messages) := by
  induction messages generalizing shared with
  | nil => exact (SharedLink.absorb_nothing shared).symm
  | cons message messages ih =>
    have first : shared.step (.route message) = shared.absorb (shared.link.route message) :=
      Connection.step_route standing message
    have steps : shared.runFrom ((message :: messages).map .route) =
        (shared.step (.route message)).runFrom (messages.map .route) := rfl
    have still : (shared.step (.route message)).link.closed = none :=
      standing_routes standing [message]
    rw [steps, ih still, first, SharedLink.absorb_absorb]
    rfl

theorem meetAll_received (shared : SharedSession) {link : Link}
    (same : shared.shared.link = { link with unread := [] }) (ended : Bool) (bytes : List UInt8) :
    shared.meetAll (received link ended bytes) =
      { shared with
        shared := shared.shared.absorb
          ({ (link.receive ended bytes).1 with unread := [] }, (link.receive ended bytes).2) } := by
  have closed' : shared.shared.link.closed = link.closed := by rw [same]
  cases closed : link.closed with
  | some reason =>
    have nothing : link.read ended bytes = (link, [], none) := by simp only [Link.read, closed]
    simp only [received, Link.receive, nothing, Link.routeAll, ← same, SharedLink.absorb_nothing]
    rfl
  | none =>
    simp only [received, Link.receive, Link.read_of_standing closed]
    generalize Frame.readAll ended (link.unread ++ bytes) = found
    obtain ⟨messages, stop, rest⟩ := found
    have routed := meetAll_links shared .route messages
    have standing := standing_routes (closed'.trans closed) messages
    have routes := runFrom_routes (closed'.trans closed) messages
    rw [routes] at standing
    change shared.shared.runFrom (messages.map fun message => (LinkStep.route message).event) = _
      at routes
    rw [routes] at routed
    rw [same, Link.routeAll_unread] at routed standing
    rw [meetAll_append, routed]
    simp only [Link.routeAll_unread]
    generalize link.routeAll messages = after at standing ⊢
    cases Link.closeReason? stop with
    | none => rfl
    | some reason =>
      have stopped := SharedLink.absorb_absorb shared.shared
        ({ after.1 with unread := [] }, after.2)
        ((shared.shared.absorb ({ after.1 with unread := [] }, after.2)).link.close reason)
      rw [← Connection.step_stop standing] at stopped
      exact congrArg (fun shared' => { shared with shared := shared' }) stopped

theorem Mirrors.receive (mirrors : Mirrors session finished shared) (ended : Bool)
    (bytes : List UInt8) :
    Follows shared finished (received session.link ended bytes) (session.receive ended bytes) := by
  have met := meetAll_received shared mirrors.link ended bytes
  have honest := honest_meetAll mirrors.honest (received session.link ended bytes)
  rw [met] at honest
  have delivers := SharedLink.delivers_collects honest.sound
  have collected := meetAll_links (shared.meetAll (received session.link ended bytes)) .collect
    ((session.link.receive ended bytes).2.ended.map Prod.fst)
  rw [← meetAll_append, met] at collected
  obtain ⟨link, outgoing⟩ := SharedLink.collects (shared.shared.absorb
      ({ (session.link.receive ended bytes).1 with unread := [] },
        (session.link.receive ended bytes).2))
    ((session.link.receive ended bytes).2.ended.map Prod.fst)
  refine mirrors.carryOut ?_ collected link
    (outgoing.trans (SharedLink.outgoing_absorb mirrors.honest.heard _)) delivers
  rw [List.filter_append, filter_received, filter_works _ (fun _ _ => rfl), List.append_nil]

end Mirrors

end SharedSession

end CodeGateway
