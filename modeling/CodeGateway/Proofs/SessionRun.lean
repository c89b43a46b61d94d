import CodeGateway.Proofs.MirroredSession

namespace CodeGateway

namespace Session

inductive Input where
  | ask (disk : Disk) (ticket : Nat) (query : Query) (takenBack : Bool)
  | cancel (ticket : Nat)
  | receive (ended : Bool) (bytes : List UInt8)

def takeIn (session : Session) : Input → Session × Effects
  | .ask disk ticket query takenBack => session.ask disk ticket query takenBack
  | .cancel ticket => session.cancel ticket
  | .receive ended bytes => session.receive ended bytes

def takeInAll (session : Session) : List Input → Session × Effects
  | [] => (session, .none)
  | input :: rest =>
    let (session, effects) := session.takeIn input
    let (session, more) := session.takeInAll rest
    (session, effects.append more)

end Session

namespace SharedSession

open SharedLink (Honest Shows Delivers Starts)

variable {session : Session} {finished : List Finished} {shared : SharedSession}

theorem runFrom_askNext {n : Nat} {call : Call} (honest : Honest shared.shared)
    (found : shared.calls[n]? = some call) (stage : call.stage = .asking) {takenBack : Bool}
    (fired : takenBack = true → call.signal ∈ shared.shared.fired) {method : String}
    {params : Json} {left : List RequestText} (next : call.left = (method, params) :: left) :
    ∃ works after, (∀ event ∈ works, Event.isWork event = true) ∧
      shared.runFrom works =
        { shared.update n
            { call with made := call.made ++ [shared.shared.link.nextId], left } with
          shared := after } ∧
      Starts shared.shared after call.signal
        (Session.startRequests takenBack shared.shared.link [(method, params)]) := by
  have asked := step_ask found stage next
  have links (steps : List LinkStep) : shared.runFrom (.ask n :: steps.map .link) =
      { shared.update n
          { call with made := call.made ++ [shared.shared.link.nextId], left } with
        shared := (shared.shared.begin call.signal method params).runFrom
          (steps.map LinkStep.event) } := by
    have first : shared.runFrom (.ask n :: steps.map .link) =
        (shared.step (.ask n)).runFrom (steps.map .link) := rfl
    rw [first, runFrom_links, asked]
  cases takenBack with
  | false =>
    refine ⟨_, _, ?_, links [.register shared.shared.link.nextId, .send shared.shared.link.nextId],
      SharedLink.starts_request honest call.signal method params⟩
    simp [Event.isWork]
  | true =>
    refine ⟨_, _, ?_, links [.register shared.shared.link.nextId, .send shared.shared.link.nextId,
      .withdraw shared.shared.link.nextId],
      SharedLink.starts_request_takenBack honest (fired rfl) method params⟩
    simp [Event.isWork]

theorem runFrom_askAll {n : Nat} {call : Call} (honest : Honest shared.shared)
    (found : shared.calls[n]? = some call) (stage : call.stage = .asking) {takenBack : Bool}
    (fired : takenBack = true → call.signal ∈ shared.shared.fired) :
    let started := Session.startRequests takenBack shared.shared.link call.left
    ∃ works after, (∀ event ∈ works, Event.isWork event = true) ∧
      shared.runFrom works =
        { shared.update n
            { call with made := call.made ++ started.2.2.map Part.id, left := [] } with
          shared := after } ∧
      Starts shared.shared after call.signal started := by
  generalize remaining : call.left = left
  induction left generalizing shared call with
  | nil =>
    have same : { call with made := call.made ++ [], left := [] } = call := by
      rw [List.append_nil, ← remaining]
    refine ⟨[], shared.shared, by simp, ?_,
      ⟨rfl, (List.append_nil _).symm, SharedLink.delivers_of_eq rfl rfl, fun _ => id, by
        simp [Session.startRequests]⟩⟩
    simp only [Session.startRequests, List.map_nil, same, update, set_self found]
    rfl
  | cons request left ih =>
    obtain ⟨method, params⟩ := request
    obtain ⟨works, middle, isWork, worked, starts⟩ :=
      runFrom_askNext honest found stage fired remaining
    have honest' := honest_meetAll honest (works.map .step)
    rw [← runFrom_eq_meetAll] at honest'
    have found' : (shared.runFrom works).calls[n]? = some
        { call with made := call.made ++ [shared.shared.link.nextId], left } := by
      rw [worked]
      exact found_update found _
    have fired' : takenBack = true → call.signal ∈ (shared.runFrom works).shared.fired := by
      rw [worked]
      exact fun taken => starts.fired _ (fired taken)
    obtain ⟨works', after, isWork', worked', starts'⟩ := ih honest' found' stage fired' rfl
    rw [← runFrom_append, worked] at worked'
    rw [worked] at starts'
    dsimp only at worked' starts'
    rw [starts.link] at worked' starts'
    refine ⟨works ++ works', after, ?_, ?_, ?_⟩
    · intro event among
      exact (List.mem_append.mp among).elim (isWork event) (isWork' event)
    · rw [worked', Session.startRequests_cons]
      simp [update, Session.startRequests]
    · rw [Session.startRequests_cons]
      exact starts.trans starts' rfl

theorem runFrom_document {n : Nat} {signal : Nat} {query : Query} {requests : List RequestText}
    (mirrors : Mirrors session finished shared) (asked : query.requests = .ok requests)
    (disk : Disk) {put : SharedSession} (same : put.shared = shared.shared)
    (free : put.holder = none) (found : put.calls[n]? = some (.start signal query)) :
    let opened := session.openDocument disk query.uri?
    ∃ works, (∀ event ∈ works, Event.isWork event = true) ∧
      put.runFrom works =
        { put.update n ⟨signal, query, .asking, [], requests⟩ with
          shared := shared.shared.absorb
            ({ opened.1.link with unread := [] }, ⟨opened.2, []⟩) } := by
  cases names : query.file? with
  | none =>
    have begun : Call.start signal query = ⟨signal, query, .asking, [], requests⟩ := by
      simp only [Call.start, asked, names]
    have nothing : shared.shared.absorb ({ session.link with unread := [] }, ⟨[], []⟩) =
        shared.shared := by
      rw [← mirrors.link]
      exact SharedLink.absorb_nothing shared.shared
    rw [begun] at found
    rw [Session.openDocument_of_no_file names]
    refine ⟨[], by simp, ?_⟩
    rw [nothing, update, set_self found, ← same]
    rfl
  | some url =>
    have begun : Call.start signal query = ⟨signal, query, .queued url, [], requests⟩ := by
      simp only [Call.start, asked, names]
    rw [begun] at found
    obtain ⟨isFile, parsed⟩ := Query.isFile_of_file? names
    have heard : put.shared.muted = false := by
      rw [same]
      exact mirrors.honest.heard
    have document := runFrom_openDocument heard found rfl isFile free disk
    rw [same, mirrors.link, Link.openDocument_unread] at document
    have opened : session.openDocument disk query.uri? =
        ({ session with link := (session.link.openDocument disk url).1 },
          (session.link.openDocument disk url).2) := by
      simp only [Session.openDocument, parsed]
    rw [opened]
    exact ⟨_, by simp [Event.isWork], document⟩

/-- A call that is put sends its document and all its requests. -/
theorem runFrom_put (mirrors : Mirrors session finished shared) {query : Query}
    {requests : List RequestText} (asked : query.requests = .ok requests) (disk : Disk)
    (ticket : Nat) {takenBack : Bool}
    (fired : takenBack = true → ticket ∈ shared.shared.fired) :
    let opened := session.openDocument disk query.uri?
    let started := Session.startRequests takenBack opened.1.link requests
    ∃ works after, (∀ event ∈ works, Event.isWork event = true) ∧
      (shared.step (.call ticket query)).runFrom works =
        ⟨after, shared.calls ++ [⟨ticket, query, .asking, started.2.2.map Part.id, []⟩], none⟩ ∧
      Starts shared.shared after ticket
        ({ started.1 with unread := [] }, opened.2 ++ started.2.1, started.2.2) := by
  obtain ⟨put, called⟩ : ∃ put, shared.step (.call ticket query) = put := ⟨_, rfl⟩
  have new : put.calls[shared.calls.length]? = some (.start ticket query) := by
    rw [← called]
    exact List.getElem?_concat_length
  obtain ⟨works, isWork, worked⟩ := runFrom_document mirrors asked disk
    (by rw [← called]; rfl) (by rw [← called]; exact mirrors.free) new
  obtain ⟨middle, reached⟩ : ∃ middle, put.runFrom works = middle := ⟨_, rfl⟩
  have honest : Honest middle.shared := by
    rw [← reached, ← called, runFrom_eq_meetAll]
    exact honest_meetAll mirrors.honest (.step (.call ticket query) :: works.map .step)
  rw [reached] at worked
  have asking : middle.calls[shared.calls.length]? =
      some ⟨ticket, query, .asking, [], requests⟩ := by
    rw [worked]
    exact found_update new _
  have fired' : takenBack = true → ticket ∈ middle.shared.fired := by
    rw [worked]
    exact fired
  have document : Starts shared.shared middle.shared ticket
      ({ (session.openDocument disk query.uri?).1.link with unread := [] },
        (session.openDocument disk query.uri?).2, []) := by
    rw [worked]
    exact ⟨rfl, SharedLink.outgoing_absorb mirrors.honest.heard _,
      SharedLink.delivers_absorb _ _ _, fun _ => id, by simp⟩
  obtain ⟨works', after, isWork', worked', starts⟩ := runFrom_askAll honest asking rfl fired'
  rw [document.link, Session.startRequests_unread] at starts worked'
  have both := document.trans starts rfl
  refine ⟨works ++ works', after, ?_, ?_, both⟩
  · intro event among
    exact (List.mem_append.mp among).elim (isWork event) (isWork' event)
  · rw [called, runFrom_append, reached, worked', worked, ← called]
    simp [update, step, mirrors.free]

theorem Mirrors.begun (mirrors : Mirrors session finished shared) {after : SharedLink} {link : Link}
    (honest : Honest after) (same : after.link = { link with unread := [] })
    (delivers : Delivers shared.shared after []) {signal : Nat} {parts : List Part}
    (shows : ∀ part ∈ parts, Shows after signal part)
    (fresh : ∀ id ∈ parts.map Part.id, shared.shared.request? id = none)
    (once : (parts.map Part.id).Nodup) (query : Query) :
    Mirrors ⟨link, session.calls ++ [⟨signal, .query query, parts⟩]⟩ finished
      ⟨after, shared.calls ++ [⟨signal, query, .asking, parts.map Part.id, []⟩], none⟩ := by
  have linked := mirrors.linked_quietly honest same delivers
  have known : (parts.map Part.id).map (fun id => Part.mk id (after.outcome? id)) = parts := by
    rw [List.map_map]
    refine (List.map_congr_left fun part among => ?_).trans (List.map_id parts)
    simp only [Function.comp, (shows part among).outcome?, id]
  refine ⟨honest, same, rfl, ?_, ?_, ?_, ?_⟩
  · intro call among
    rcases List.mem_append.mp among with before | now
    · exact linked.settled call before
    · rw [List.mem_singleton.mp now]
      refine .asking rfl rfl fun id made => ?_
      obtain ⟨part, member, rfl⟩ := List.mem_map.mp made
      rw [(shows part member).outcome?]
      exact shows part member
  · have standing := linked.standing
    dsimp only at standing
    simp [standing, Call.standing?, known]
  · have under : Call.finished? ⟨signal, query, .asking, parts.map Part.id, []⟩ = none := rfl
    rw [List.filterMap_append, List.filterMap_cons_none under, List.filterMap_nil, List.append_nil]
    exact linked.finished
  · rw [List.flatMap_append, List.nodup_append]
    refine ⟨linked.distinct, by simpa using once, ?_⟩
    intro id before other now equal
    subst equal
    obtain ⟨call, among, made⟩ := List.mem_flatMap.mp before
    obtain ⟨part, member, rfl⟩ := List.mem_map.mp made
    obtain ⟨request, found⟩ := (mirrors.shows among member).exists_request
    rw [fresh part.id (by simpa using now)] at found
    cases found

theorem Mirrors.refuse (mirrors : Mirrors session finished shared) (ticket : Nat) {query : Query}
    {failure : Failure} (refused : query.requests = .error failure) :
    Mirrors session (finished ++ [⟨ticket, .query query, .error failure⟩])
      { shared with calls := shared.calls ++ [.start ticket query] } := by
  have begun : Call.start ticket query = ⟨ticket, query, .ended (.error failure), [], []⟩ := by
    simp only [Call.start, refused]
  rw [begun]
  refine ⟨mirrors.honest, mirrors.link, mirrors.free, ?_, ?_, ?_, mirrors.distinct⟩
  · intro call among
    rcases List.mem_append.mp among with before | now
    · exact mirrors.settled call before
    · rw [List.mem_singleton.mp now]
      exact .ended rfl
  · simp [mirrors.standing, Call.standing?]
  · have ends : Call.finished? ⟨ticket, query, .ended (.error failure), [], []⟩ =
        some ⟨ticket, .query query, .error failure⟩ := rfl
    rw [List.filterMap_append, List.filterMap_cons_some ends]
    exact mirrors.finished.append_right _

theorem Mirrors.put (mirrors : Mirrors session finished shared) (disk : Disk) (ticket : Nat)
    (query : Query) {takenBack : Bool} (fired : takenBack = true → ticket ∈ shared.shared.fired) :
    Follows shared finished [.step (.call ticket query)]
      (session.ask disk ticket query takenBack) := by
  cases asked : query.requests with
  | error failure =>
    simp only [Session.ask, asked]
    exact ⟨[.step (.call ticket query)], rfl, mirrors.refuse ticket asked,
      (List.append_nil _).symm⟩
  | ok requests =>
    obtain ⟨works, after, isWork, worked, starts⟩ :=
      runFrom_put mirrors asked disk ticket fired
    have ids := Session.ids_startRequests takenBack
      (session.openDocument disk query.uri?).1.link requests
    have calls := Session.calls_openDocument session disk query.uri?
    have nextId : (session.openDocument disk query.uri?).1.link.nextId =
        shared.shared.link.nextId := by
      rw [Session.nextId_openDocument, mirrors.link]
    simp only [Session.ask, asked, Session.begin, calls]
    generalize session.openDocument disk query.uri? = opened at worked starts ids nextId ⊢
    generalize Session.startRequests takenBack opened.1.link requests = started
      at worked starts ids ⊢
    have steps : shared.meetAll (.step (.call ticket query) :: works.map .step) =
        (shared.step (.call ticket query)).runFrom works := by
      rw [runFrom_eq_meetAll]
      rfl
    have honest := honest_meetAll mirrors.honest (.step (.call ticket query) :: works.map .step)
    rw [steps, worked] at honest
    have fresh : ∀ id ∈ started.2.2.map Part.id, shared.shared.request? id = none := by
      intro id among
      rw [ids, nextId, List.mem_range'_1] at among
      exact mirrors.honest.sound.request?_of_nextId_le among.1
    have once : (started.2.2.map Part.id).Nodup := by
      rw [ids]
      exact List.nodup_range'
    have begun := mirrors.begun honest starts.link starts.keeps starts.shows fresh once query
    have first : Follows shared finished [.step (.call ticket query)]
        (⟨started.1, session.calls ++ [⟨ticket, .query query, started.2.2⟩]⟩,
          ⟨opened.2 ++ started.2.1, []⟩) := by
      refine ⟨.step (.call ticket query) :: works.map .step, ?_, ?_, ?_⟩
      · rw [List.filter_cons_of_pos rfl]
        exact congrArg (List.cons _) (filter_works id isWork)
      · rw [steps, worked, List.append_nil]
        exact begun
      · rw [steps, worked]
        exact starts.outgoing
    have whole := first.trans fun after mirrors => mirrors.settle (started.2.2.map Part.id)
    simpa [Session.Effects.append] using whole

theorem Mirrors.ask (mirrors : Mirrors session finished shared) (disk : Disk) (ticket : Nat)
    (query : Query) (takenBack : Bool) :
    Follows shared finished
      ((if takenBack then [.step (.link (.fire ticket))] else []) ++ [.step (.call ticket query)])
      (session.ask disk ticket query takenBack) := by
  cases takenBack with
  | false => exact mirrors.put disk ticket query (by simp)
  | true =>
    have honest : Honest (shared.shared.move (.fire ticket)) := mirrors.honest.move (by simp)
    have fired := mirrors.linked_quietly honest mirrors.link (SharedLink.delivers_of_eq rfl rfl)
    obtain ⟨incidents, comes, mirrors', sent⟩ := fired.put disk ticket query fun _ =>
      (List.mem_cons_self : ticket ∈ (shared.shared.move (.fire ticket)).fired)
    refine ⟨.step (.link (.fire ticket)) :: incidents, ?_, mirrors', sent⟩
    rw [List.filter_cons_of_pos rfl, comes]
    rfl

def coming (session : Session) : Session.Input → List Incident
  | .ask _ ticket query takenBack =>
    (if takenBack then [.step (.link (.fire ticket))] else []) ++ [.step (.call ticket query)]
  | .cancel ticket => [.step (.link (.fire ticket))]
  | .receive ended bytes => received session.link ended bytes

def comingAll (session : Session) : List Session.Input → List Incident
  | [] => []
  | input :: rest => coming session input ++ comingAll (session.takeIn input).1 rest

theorem Mirrors.takeIn (mirrors : Mirrors session finished shared) (input : Session.Input) :
    Follows shared finished (coming session input) (session.takeIn input) := by
  cases input with
  | ask disk ticket query takenBack => exact mirrors.ask disk ticket query takenBack
  | cancel ticket => exact mirrors.cancel ticket
  | receive ended bytes => exact mirrors.receive ended bytes

theorem Mirrors.takeInAll (mirrors : Mirrors session finished shared)
    (inputs : List Session.Input) :
    Follows shared finished (comingAll session inputs) (session.takeInAll inputs) := by
  induction inputs generalizing session finished shared with
  | nil => exact mirrors.refl
  | cons input inputs ih => exact (mirrors.takeIn input).trans fun after mirrors => ih mirrors

theorem mirrors_start : Mirrors .start [] start := by
  refine ⟨SharedLink.honest_start, rfl, rfl, ?_, rfl, .refl _, List.nodup_nil⟩
  intro call among
  cases among

/-- All that a session does, from its first input on, is what a shared session does to which the
    same calls, signals and messages come: it sends the same messages in the same order, and the
    same calls end with the same results. -/
theorem mirrors_run (inputs : List Session.Input) :
    ∃ incidents, incidents.filter Incident.isArrival = comingAll .start inputs ∧
      Mirrors (Session.start.takeInAll inputs).1 (Session.start.takeInAll inputs).2.finished
        (after incidents) ∧
      (after incidents).shared.outgoing = (Session.start.takeInAll inputs).2.sent :=
  mirrors_start.takeInAll inputs

end SharedSession

end CodeGateway
