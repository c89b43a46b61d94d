import CodeGateway.Proofs.SessionHistory

namespace CodeGateway

/-- A part with what its request was handed, unless it has ended before. -/
def Part.given (ended : List (Nat × Outcome)) (part : Part) : Part :=
  { part with outcome := part.outcome.or (ended.lookup part.id) }

@[simp] theorem Part.given_nil (part : Part) : part.given [] = part := by
  simp [given]

theorem Part.given_append (part : Part) (first second : List (Nat × Outcome)) :
    part.given (first ++ second) = (part.given first).given second := by
  simp [given, List.lookup_append, Option.or_assoc]

namespace Link

variable (link : Link) (unread : List UInt8)

theorem request_unread (method : String) (params : Json) :
    ({ link with unread } : Link).request method params =
      ({ (link.request method params).1 with unread }, (link.request method params).2) := by
  cases closed : link.closed <;> simp [request, takeNumber, register, closed]

theorem cancel_unread (id : Nat) :
    ({ link with unread } : Link).cancel id =
      ({ (link.cancel id).1 with unread }, (link.cancel id).2) := by
  unfold cancel
  dsimp only
  split <;> rfl

theorem cancelAll_unread (ids : List Nat) :
    ({ link with unread } : Link).cancelAll ids =
      ({ (link.cancelAll ids).1 with unread }, (link.cancelAll ids).2) := by
  induction ids generalizing link with
  | nil => rfl
  | cons id ids ih => simp only [cancelAll, cancel_unread, ih]

theorem openDocument_unread (disk : Disk) (url : Url) :
    ({ link with unread } : Link).openDocument disk url =
      ({ (link.openDocument disk url).1 with unread }, (link.openDocument disk url).2) := by
  unfold openDocument
  dsimp only
  split
  · rfl
  · split
    · rfl
    · split <;> rfl

end Link

theorem Goal.wrapUp_unread (goal : Goal) (link : Link) (unread : List UInt8)
    (result : Except Failure goal.Result) :
    goal.wrapUp { link with unread } result =
      ({ (goal.wrapUp link result).1 with unread }, (goal.wrapUp link result).2) := by
  unfold wrapUp
  split <;> rfl

theorem Session.openDocument_of_no_file {query : Query} (noFile : query.file? = none)
    (session : Session) (disk : Disk) :
    session.openDocument disk query.uri? = (session, []) := by
  unfold Query.file? at noFile
  unfold openDocument
  split
  · rename_i url parsed
    simp only [parsed] at noFile
    have notFile : url.isFile = false := by simpa using noFile
    simp [Link.openDocument, notFile]
  · rfl

theorem Session.calls_openDocument (session : Session) (disk : Disk) (uri : Option String) :
    (session.openDocument disk uri).1.calls = session.calls := by
  unfold openDocument
  split <;> rfl

theorem Session.nextId_openDocument (session : Session) (disk : Disk) (uri : Option String) :
    (session.openDocument disk uri).1.link.nextId = session.link.nextId := by
  unfold openDocument Link.openDocument
  split
  · dsimp only
    split
    · rfl
    · split
      · rfl
      · split <;> rfl
  · rfl

theorem Session.startRequests_unread (takenBack : Bool) (link : Link) (unread : List UInt8)
    (requests : List RequestText) :
    startRequests takenBack { link with unread } requests =
      ({ (startRequests takenBack link requests).1 with unread },
        (startRequests takenBack link requests).2) := by
  induction requests generalizing link with
  | nil => rfl
  | cons request requests ih =>
    obtain ⟨method, params⟩ := request
    cases takenBack with
    | false => simp only [startRequests, Link.request_unread, Bool.false_eq_true, if_false, ih]
    | true => simp only [startRequests, Link.request_unread, Link.cancel_unread, if_true, ih]

theorem Session.startRequests_cons (takenBack : Bool) (link : Link) (request : RequestText)
    (requests : List RequestText) :
    let first := startRequests takenBack link [request]
    let later := startRequests takenBack first.1 requests
    startRequests takenBack link (request :: requests) =
      (later.1, first.2.1 ++ later.2.1, first.2.2 ++ later.2.2) := by
  simp [startRequests]

theorem Session.startRequests_takenBack (link : Link) (request : RequestText) :
    let first := startRequests false link [request]
    let cancelled := first.1.cancel link.nextId
    startRequests true link [request] =
      (cancelled.1, first.2.1 ++ cancelled.2.sent,
        first.2.2.map (Part.given cancelled.2.ended)) := by
  obtain ⟨method, params⟩ := request
  simp only [startRequests, if_true, Bool.false_eq_true, if_false]
  generalize link.request method params = requested
  obtain ⟨link, sent, started⟩ := requested
  cases started <;> simp [Part.given, CodeGateway.Effects.none]

theorem Link.nextId_request (link : Link) (method : String) (params : Json) :
    (link.request method params).1.nextId = link.nextId + 1 := by
  cases closed : link.closed <;> simp [request, takeNumber, register, closed]

theorem Link.nextId_cancel (link : Link) (id : Nat) : (link.cancel id).1.nextId = link.nextId := by
  unfold cancel
  split <;> rfl

theorem Session.nextId_startRequests (takenBack : Bool) (link : Link) (request : RequestText) :
    (startRequests takenBack link [request]).1.nextId = link.nextId + 1 := by
  obtain ⟨method, params⟩ := request
  cases takenBack with
  | false => exact link.nextId_request method params
  | true => exact (Link.nextId_cancel _ _).trans (link.nextId_request method params)

theorem Session.ids_startRequests (takenBack : Bool) (link : Link) (requests : List RequestText) :
    (startRequests takenBack link requests).2.2.map Part.id =
      List.range' link.nextId requests.length := by
  induction requests generalizing link with
  | nil => rfl
  | cons request requests ih =>
    have first : (startRequests takenBack link [request]).2.2.map Part.id = [link.nextId] := rfl
    rw [startRequests_cons, List.map_append, first, ih, nextId_startRequests]
    rfl

namespace SharedLink

def Event.id? : Event → Option Nat
  | .move (.register id) | .move (.send id) | .move (.collect id) | .move (.withdraw id) => some id
  | _ => none

variable {shared after : SharedLink}

theorem Moves.stage_of_apart {request : Request} {event : Event} {stage : Stage}
    (moves : Moves shared request event stage) (apart : event.id? ≠ some request.id) :
    stage = request.stage := by
  cases moves with
  | stays => rfl
  | _ => exact absurd rfl apart

theorem request?_runFrom_of_apart (sound : Sound shared) {id : Nat} {request : Request}
    (found : shared.request? id = some request) (events : List Event)
    (apart : ∀ event ∈ events, event.id? ≠ some id) :
    (shared.runFrom events).request? id = some request := by
  induction events generalizing shared with
  | nil => exact found
  | cons event events ih =>
    have does := does_step shared event
    obtain ⟨stage, kept, moves⟩ := does.moves sound found
    have same := moves.stage_of_apart
      (by rw [request?_id found]; exact apart event List.mem_cons_self)
    rw [same] at kept
    exact ih (sound.does does) kept fun event among => apart event (List.mem_cons_of_mem _ among)

theorem Does.posted {move : Move} (does : Does shared (.move move) after) :
    after.posted = shared.posted := by
  cases does <;> rfl

theorem posted_runFrom (shared : SharedLink) (moves : List Move) :
    (shared.runFrom (moves.map .move)).posted = shared.posted := by
  induction moves generalizing shared with
  | nil => rfl
  | cons move moves ih => exact (ih (shared.move move)).trans (does_move shared move).posted

/-- What a part of a call, put under this signal, shows of its request: that it was sent and waits,
    or how it ended. -/
inductive Shows (shared : SharedLink) (signal : Nat) : Part → Prop
  | waits {id : Nat} {request : Request} (found : shared.request? id = some request)
      (own : request.signal = signal) (stage : request.stage = .sent)
      (unhanded : shared.posted.lookup id = none) : Shows shared signal ⟨id, none⟩
  | ended {id : Nat} {request : Request} {outcome : Outcome}
      (found : shared.request? id = some request) (own : request.signal = signal)
      (stage : request.stage = .ended outcome) : Shows shared signal ⟨id, some outcome⟩

section Shows

variable {signal : Nat} {part : Part}

theorem Shows.exists_request (shows : Shows shared signal part) :
    ∃ request, shared.request? part.id = some request := by
  cases shows with
  | waits found => exact ⟨_, found⟩
  | ended found => exact ⟨_, found⟩

theorem Shows.outcome? (shows : Shows shared signal part) :
    shared.outcome? part.id = part.outcome := by
  cases shows with
  | waits found _ stage => simp [SharedLink.outcome?, found, Request.outcome?, stage]
  | ended found _ stage => simp [SharedLink.outcome?, found, Request.outcome?, stage]

theorem Shows.of_eq (shows : Shows shared signal part)
    (requests : after.requests = shared.requests) (posted : after.posted = shared.posted) :
    Shows after signal part := by
  have seen (id : Nat) : after.request? id = shared.request? id := by
    simp only [request?, requests]
  cases shows with
  | waits found own stage unhanded =>
    exact .waits ((seen _).trans found) own stage (by rw [posted]; exact unhanded)
  | ended found own stage => exact .ended ((seen _).trans found) own stage

theorem Shows.moves_apart (shows : Shows shared signal part) (sound : Sound shared)
    (moves : List Move) (apart : ∀ move ∈ moves, Event.id? (.move move) ≠ some part.id) :
    Shows (shared.runFrom (moves.map .move)) signal part := by
  have apart' : ∀ event ∈ moves.map Event.move, event.id? ≠ some part.id := by
    intro event among
    obtain ⟨move, member, rfl⟩ := List.mem_map.mp among
    exact apart move member
  cases shows with
  | waits found own stage unhanded =>
    refine .waits (request?_runFrom_of_apart sound found _ apart') own stage ?_
    rw [posted_runFrom]
    exact unhanded
  | ended found own stage => exact .ended (request?_runFrom_of_apart sound found _ apart') own stage

end Shows

/-- Between these, the requests that have ended are given their outcomes and the others stay as they
    are. -/
def Delivers (shared after : SharedLink) (ended : List (Nat × Outcome)) : Prop :=
  ∀ signal part, Shows shared signal part → Shows after signal (part.given ended)

theorem Delivers.trans {latest : SharedLink} {first second : List (Nat × Outcome)}
    (delivers : Delivers shared after first) (later : Delivers after latest second) :
    Delivers shared latest (first ++ second) := by
  intro signal part shows
  rw [part.given_append]
  exact later signal _ (delivers signal part shows)

theorem delivers_of_eq (requests : after.requests = shared.requests)
    (posted : after.posted = shared.posted) : Delivers shared after [] := by
  intro signal part shows
  rw [part.given_nil]
  exact shows.of_eq requests posted

theorem delivers_absorb (shared : SharedLink) (link : Link) (sent : List Json) :
    Delivers shared (shared.absorb (link, ⟨sent, []⟩)) [] :=
  delivers_of_eq rfl (List.append_nil _)

theorem collects (shared : SharedLink) (ids : List Nat) :
    (shared.runFrom (ids.map fun id => .move (.collect id))).link = shared.link ∧
      (shared.runFrom (ids.map fun id => .move (.collect id))).outgoing = shared.outgoing := by
  induction ids generalizing shared with
  | nil => exact ⟨rfl, rfl⟩
  | cons id ids ih =>
    have first : (shared.move (.collect id)).link = shared.link ∧
        (shared.move (.collect id)).outgoing = shared.outgoing := by
      have does := does_move shared (.collect id)
      generalize shared.move (.collect id) = after at does ⊢
      cases does <;> exact ⟨rfl, rfl⟩
    obtain ⟨link, outgoing⟩ := ih (shared.move (.collect id))
    exact ⟨link.trans first.1, outgoing.trans first.2⟩

theorem request?_collects (sound : Sound shared) {id : Nat} {request : Request} {outcome : Outcome}
    (found : shared.request? id = some request) (stage : request.stage = .sent)
    (handed : shared.posted.lookup id = some outcome) {ids : List Nat} (among : id ∈ ids) :
    (shared.runFrom (ids.map fun id => .move (.collect id))).request? id =
      some { request with stage := .ended outcome } := by
  induction ids generalizing shared with
  | nil => cases among
  | cons first ids ih =>
    have does := does_move shared (.collect first)
    by_cases same : id = first
    · subst same
      exact ended_runFrom (sound.does does) (move_collect_of_handed found stage handed) rfl _
    · have kept := request?_runFrom_of_apart sound found [.move (.collect first)]
        (by simpa [Event.id?] using Ne.symm same)
      refine ih (sound.does does) kept ?_ ((List.mem_cons.mp among).resolve_left same)
      exact (congrArg (List.lookup id) does.posted).trans handed

theorem delivers_collects {operation : Link × Effects} (sound : Sound (shared.absorb operation)) :
    Delivers shared ((shared.absorb operation).runFrom
      ((operation.2.ended.map Prod.fst).map fun id => .move (.collect id))) operation.2.ended := by
  intro signal part shows
  cases shows with
  | ended found own stage => exact .ended (ended_runFrom sound found stage _) own stage
  | @waits id request found own stage unhanded =>
    have lookup : (shared.absorb operation).posted.lookup id = operation.2.ended.lookup id := by
      rw [absorb, hand, List.lookup_append, unhanded, Option.none_or]
    cases handed : operation.2.ended.lookup id with
    | some outcome =>
      obtain ⟨front, back, whole, -⟩ := List.lookup_eq_some_iff.mp handed
      have among : id ∈ operation.2.ended.map Prod.fst := by simp [whole]
      have collected := request?_collects sound found stage (lookup.trans handed) among
      simp only [Part.given, handed, Option.none_or]
      exact .ended collected own rfl
    | none =>
      have shows : Shows (shared.absorb operation) signal ⟨id, none⟩ :=
        .waits found own stage (lookup.trans handed)
      have stays := shows.moves_apart sound ((operation.2.ended.map Prod.fst).map .collect) ?_
      · simp only [Part.given, handed, Option.none_or]
        rwa [List.map_map] at stays
      · simp only [List.map_map, List.mem_map]
        rintro move ⟨entry, among, rfl⟩ same
        have apart := List.lookup_eq_none_iff.mp handed entry among
        simp [Option.some.inj same] at apart

theorem Honest.moves (honest : Honest shared) (moves : List Move)
    (talks : Move.stopWriter ∉ moves) : Honest (shared.runFrom (moves.map .move)) := by
  induction moves generalizing shared with
  | nil => exact honest
  | cons move moves ih =>
    simp only [List.mem_cons, not_or] at talks
    exact ih (honest.move (Ne.symm talks.1)) talks.2

theorem takesBack_withdraw (honest : Honest shared) {signal : Nat} {part : Part}
    (shows : Shows shared signal part) (fired : signal ∈ shared.fired) :
    let after := shared.move (.withdraw part.id)
    let cancelled := shared.link.cancel part.id
    after.link = cancelled.1 ∧ after.outgoing = shared.outgoing ++ cancelled.2.sent ∧
      Delivers shared after cancelled.2.ended := by
  have sound := honest.sound
  intro after cancelled
  cases shows with
  | @ended id request outcome found own stage =>
    have gone := sound.not_waiting_of_ended (outcome?_eq_some_iff.mpr ⟨request, found, stage⟩)
    have nothing : cancelled = (shared.link, .none) := by
      simp [cancelled, Link.cancel, gone]
    have idle : after = shared := by
      simp [after, move, proceed, found, stage, Stage.isSent]
    rw [nothing, idle]
    exact ⟨rfl, (List.append_nil _).symm, delivers_of_eq rfl rfl⟩
  | @waits id request found own stage unhanded =>
    subst own
    have waits : id ∈ shared.link.waiting :=
      (sound.waits id).mpr ⟨⟨request, found, Or.inr stage⟩, unhanded⟩
    have taken : cancelled = (shared.link.forget id,
        ⟨[Message.cancel id], [(id, .error .cancelled)]⟩) := by
      simp only [cancelled, Link.cancel, List.contains_iff_mem.mpr waits, if_true]
    have withdrawn : after = ({ shared with link := shared.link.forget id }.hand
        [Message.cancel id]).advance id (.ended (.error .cancelled)) :=
      move_withdraw_of_fired found stage fired
    have ended : after.request? id = some { request with stage := .ended (.error .cancelled) } := by
      rw [withdrawn]
      exact request?_advance_self found _
    rw [taken]
    refine ⟨by rw [withdrawn]; rfl, ?_, ?_⟩
    · simp [withdrawn, advance, hand, honest.heard]
    · intro signal other shows
      by_cases same : other.id = id
      · cases shows with
        | ended found' own' stage' =>
          subst same
          cases found.symm.trans found'
          cases stage.symm.trans stage'
        | waits found' own' stage' =>
          subst same
          cases found.symm.trans found'
          simp only [Part.given, lookup_cons, if_true, Option.none_or]
          exact .ended ended own' rfl
      · have stays := shows.moves_apart sound [.withdraw id]
          (by simpa [Event.id?] using Ne.symm same)
        simp only [Part.given, lookup_cons, if_neg same, List.lookup_nil, Option.or_none]
        exact stays

theorem takesBack_withdraws (honest : Honest shared) {signal : Nat}
    (fired : signal ∈ shared.fired) {ids : List Nat}
    (shown : ∀ id ∈ ids, ∃ part, part.id = id ∧ Shows shared signal part) :
    let after := shared.runFrom (ids.map fun id => .move (.withdraw id))
    let cancelled := shared.link.cancelAll ids
    after.link = cancelled.1 ∧ after.outgoing = shared.outgoing ++ cancelled.2.sent ∧
      Delivers shared after cancelled.2.ended := by
  induction ids generalizing shared with
  | nil => exact ⟨rfl, (List.append_nil _).symm, delivers_of_eq rfl rfl⟩
  | cons id ids ih =>
    obtain ⟨part, rfl, shows⟩ := shown id List.mem_cons_self
    obtain ⟨link, outgoing, delivers⟩ := takesBack_withdraw honest shows fired
    have does := does_move shared (.withdraw part.id)
    have honest' : Honest (shared.move (.withdraw part.id)) := honest.move (by simp)
    have shown' : ∀ id ∈ ids, ∃ other, other.id = id ∧
        Shows (shared.move (.withdraw part.id)) signal other := by
      intro id among
      obtain ⟨other, same, shows'⟩ := shown id (List.mem_cons_of_mem _ among)
      exact ⟨other.given _, same, delivers signal other shows'⟩
    obtain ⟨link', outgoing', delivers'⟩ := ih honest' (does.fired_mem fired) shown'
    rw [link] at link' outgoing' delivers'
    refine ⟨link', ?_, delivers.trans delivers'⟩
    exact outgoing'.trans (by rw [outgoing, List.append_assoc]; rfl)

/-- Requests have been started under this signal, and the others have stayed as they were. -/
structure Starts (shared after : SharedLink) (signal : Nat)
    (started : Link × List Json × List Part) : Prop where
  link : after.link = started.1
  outgoing : after.outgoing = shared.outgoing ++ started.2.1
  keeps : Delivers shared after []
  fired : ∀ other ∈ shared.fired, other ∈ after.fired
  shows : ∀ part ∈ started.2.2, Shows after signal part

theorem Starts.trans {latest : SharedLink} {signal : Nat} {link : Link}
    {first later : Link × List Json × List Part} (starts : Starts shared after signal first)
    (next : Starts after latest signal later) (same : link = later.1) :
    Starts shared latest signal (link, first.2.1 ++ later.2.1, first.2.2 ++ later.2.2) := by
  refine ⟨next.link.trans same.symm, ?_, starts.keeps.trans next.keeps,
    fun other among => next.fired other (starts.fired other among), ?_⟩
  · rw [next.outgoing, starts.outgoing, List.append_assoc]
  · intro part among
    rcases List.mem_append.mp among with before | now
    · have kept := next.keeps signal part (starts.shows part before)
      rwa [part.given_nil] at kept
    · exact next.shows part now

theorem Delivers.of_apart (sound : Sound shared) (moves : List Move) {id : Nat}
    (missing : shared.request? id = none)
    (apart : ∀ move ∈ moves, ∀ other, Event.id? (.move move) = some other → other = id) :
    Delivers shared (shared.runFrom (moves.map .move)) [] := by
  intro signal part shows
  rw [part.given_nil]
  refine shows.moves_apart sound moves fun move among same => ?_
  obtain ⟨request, found⟩ := shows.exists_request
  rw [apart move among _ same, missing] at found
  cases found

theorem Sound.lookup_nextId (sound : Sound shared) :
    shared.posted.lookup shared.link.nextId = none := by
  cases handed : shared.posted.lookup shared.link.nextId with
  | none => rfl
  | some outcome =>
    obtain ⟨request, found, -⟩ := sound.handed shared.link.nextId (by simp [handed])
    cases sound.request?_nextId.symm.trans found

def requestMoves (shared : SharedLink) (signal : Nat) (method : String) (params : Json) :
    List Move :=
  [.begin signal method params, .register shared.link.nextId, .send shared.link.nextId]

theorem request?_begin_self {shared : SharedLink} (sound : Sound shared) (signal : Nat)
    (method : String) (params : Json) :
    (shared.begin signal method params).request? shared.link.nextId =
      some ⟨shared.link.nextId, signal, method, params, .numbered⟩ := by
  rw [request?_begin, sound.request?_nextId, if_pos rfl]
  rfl

theorem run_request {shared : SharedLink} (sound : Sound shared) (heard : shared.muted = false)
    (signal : Nat) (method : String) (params : Json) :
    let id := shared.link.nextId
    let after := shared.runFrom ((shared.requestMoves signal method params).map .move)
    let (link, sent, started) := shared.link.request method params
    after.link = link ∧ after.outgoing = shared.outgoing ++ sent ∧
      after.request? id = some ⟨id, signal, method, params,
        match started with
        | .ok _ => .sent
        | .error failure => .ended (.error failure)⟩ := by
  have found := request?_begin_self sound signal method params
  have steps : shared.runFrom ((shared.requestMoves signal method params).map .move) =
      ((shared.begin signal method params).move (.register shared.link.nextId)).move
        (.send shared.link.nextId) := rfl
  cases closed : shared.link.closed with
  | none =>
    have made : shared.link.request method params =
        ({ shared.link with
            nextId := shared.link.nextId + 1
            waiting := shared.link.waiting ++ [shared.link.nextId] },
          [Message.request shared.link.nextId method params], .ok shared.link.nextId) := by
      simp only [Link.request, Link.takeNumber, Link.register, closed]
    have registered := move_register_of_standing found rfl closed
    have found' : ((shared.begin signal method params).move
        (.register shared.link.nextId)).request? shared.link.nextId =
          some ⟨shared.link.nextId, signal, method, params, .registered⟩ := by
      rw [registered]
      exact request?_advance_self found .registered
    have sent := move_send_of_heard found' rfl (by rw [registered]; exact heard)
    simp only [steps, made, sent]
    refine ⟨?_, ?_, request?_advance_self found' .sent⟩
    · rw [registered]
      rfl
    · rw [registered]
      rfl
  | some reason =>
    have made : shared.link.request method params =
        ({ shared.link with nextId := shared.link.nextId + 1 }, [],
          .error (.closed reason)) := by
      simp only [Link.request, Link.takeNumber, Link.register, closed]
    have refused := move_register_of_closed found rfl closed
    have found' := request?_advance_self found (.ended (.error (.closed reason)))
    have idle : ((shared.begin signal method params).advance shared.link.nextId
        (.ended (.error (.closed reason)))).move (.send shared.link.nextId) =
          (shared.begin signal method params).advance shared.link.nextId
            (.ended (.error (.closed reason))) := by
      simp only [move, proceed, found', Stage.isRegistered]
      rfl
    simp only [steps, made, refused, idle]
    exact ⟨rfl, (List.append_nil _).symm, found'⟩

theorem starts_request (honest : Honest shared) (signal : Nat) (method : String) (params : Json) :
    Starts shared (shared.runFrom ((shared.requestMoves signal method params).map .move)) signal
      (Session.startRequests false shared.link [(method, params)]) := by
  have sound := honest.sound
  have made := run_request sound honest.heard signal method params
  have unhanded : (shared.runFrom ((shared.requestMoves signal method params).map
      .move)).posted.lookup shared.link.nextId = none := by
    rw [posted_runFrom]
    exact sound.lookup_nextId
  have keeps : Delivers shared
      (shared.runFrom ((shared.requestMoves signal method params).map .move)) [] :=
    .of_apart sound _ sound.request?_nextId (by simp [requestMoves, Event.id?])
  have fired (other : Nat) (among : other ∈ shared.fired) := fired_runFrom among
    ((shared.requestMoves signal method params).map .move)
  generalize shared.runFrom ((shared.requestMoves signal method params).map .move) = after
    at made unhanded keeps fired ⊢
  simp only [Session.startRequests]
  generalize shared.link.request method params = requested at made ⊢
  obtain ⟨link, sent, started⟩ := requested
  obtain ⟨link', outgoing, found⟩ := made
  refine ⟨link', by simpa [Effects.none] using outgoing, keeps, fired, ?_⟩
  intro part among
  rw [List.mem_singleton.mp among]
  cases started with
  | ok id => exact .waits found rfl rfl unhanded
  | error failure => exact .ended found rfl rfl

theorem starts_request_takenBack (honest : Honest shared) {signal : Nat}
    (fired : signal ∈ shared.fired) (method : String) (params : Json) :
    Starts shared (shared.runFrom ((shared.requestMoves signal method params ++
        [Move.withdraw shared.link.nextId]).map .move)) signal
      (Session.startRequests true shared.link [(method, params)]) := by
  have starts := starts_request honest signal method params
  have honest' : Honest (shared.runFrom ((shared.requestMoves signal method params).map .move)) :=
    honest.moves _ (by simp [requestMoves])
  have fired' := fired_runFrom fired ((shared.requestMoves signal method params).map .move)
  have keeps : Delivers shared (shared.runFrom ((shared.requestMoves signal method params ++
      [Move.withdraw shared.link.nextId]).map .move)) [] :=
    .of_apart honest.sound _ honest.sound.request?_nextId (by simp [requestMoves, Event.id?])
  have later (other : Nat) (among : other ∈ shared.fired) := fired_runFrom among
    ((shared.requestMoves signal method params ++ [Move.withdraw shared.link.nextId]).map .move)
  have steps : shared.runFrom ((shared.requestMoves signal method params ++
      [Move.withdraw shared.link.nextId]).map .move) =
        (shared.runFrom ((shared.requestMoves signal method params).map .move)).move
          (.withdraw shared.link.nextId) := rfl
  rw [steps] at keeps later ⊢
  generalize shared.runFrom ((shared.requestMoves signal method params).map .move) = middle
    at starts honest' fired' keeps later ⊢
  obtain ⟨link, outgoing, -, -, shows⟩ := starts
  obtain ⟨link', outgoing', delivers⟩ :=
    takesBack_withdraw honest' (shows _ (List.mem_singleton.mpr rfl)) fired'
  rw [Session.startRequests_takenBack]
  refine ⟨?_, ?_, keeps, later, ?_⟩
  · rw [← link]
    exact link'
  · rw [← link, ← List.append_assoc, ← outgoing]
    exact outgoing'
  · intro part among
    obtain ⟨before, member, rfl⟩ := List.mem_map.mp among
    rw [← link]
    exact delivers signal before (shows before member)

end SharedLink

end CodeGateway
