import CodeGateway.Link.Shared

namespace CodeGateway

namespace Message

/-- A message without a method that carries the number of a request. -/
def IsReply (message : Json) (id : Nat) : Prop :=
  (message.member? "method").bind Json.string? = none ∧
    (message.member? "id").bind Json.word? = some (id : Int)

theorem kind_eq_reply_iff {message : Json} {id : Int} :
    kind message = .reply id ↔ (message.member? "method").bind Json.string? = none ∧
      (message.member? "id").bind Json.word? = some id := by
  unfold kind
  cases (message.member? "method").bind Json.string? with
  | some method => cases message.member? "id" <;> simp
  | none =>
    cases message.member? "id" with
    | none => simp
    | some value => cases found : value.word? <;> simp [found]

end Message

namespace Link

theorem route_of_reply {link : Link} {message : Json} {id : Nat}
    (reply : Message.IsReply message id) (waits : id ∈ link.waiting) :
    link.route message = (link.forget id, ⟨[], [(id, Message.outcome message)]⟩) := by
  rw [route, Message.kind_eq_reply_iff.mpr reply]
  cases found : link.waiting.find? fun (waiting : Nat) => (waiting : Int) == (id : Int) with
  | some waiting =>
    have same := List.find?_some found
    simp only [beq_iff_eq, Int.ofNat_inj] at same
    subst same
    simp [found]
  | none =>
    have strange := List.find?_eq_none.mp found id waits
    simp at strange

theorem route_of_strange {link : Link} {message : Json}
    (strange : ∀ id ∈ link.waiting, ¬ Message.IsReply message id) :
    ∃ sent, link.route message = (link, ⟨sent, []⟩) := by
  cases kind : Message.kind message with
  | request id => exact ⟨[Message.answer id], by simp [route, kind, Effects.send]⟩
  | other => exact ⟨[], by simp [route, kind, Effects.none]⟩
  | reply id =>
    refine ⟨[], ?_⟩
    cases found : link.waiting.find? fun (waiting : Nat) => (waiting : Int) == id with
    | none => simp [route, kind, found, Effects.none]
    | some waiting =>
      have same := List.find?_some found
      simp only [beq_iff_eq] at same
      subst same
      exact absurd (Message.kind_eq_reply_iff.mp kind)
        (strange waiting (List.mem_of_find?_eq_some found))

theorem register_of_standing {link : Link} (standing : link.closed = none) (id : Nat) :
    link.register id = .ok { link with waiting := link.waiting ++ [id] } := by
  simp only [register, standing]

theorem register_of_closed {link : Link} {reason : String} (closed : link.closed = some reason)
    (id : Nat) : link.register id = .error (.closed reason) := by
  simp only [register, closed]

theorem forget_of_not_mem {link : Link} {id : Nat} (gone : id ∉ link.waiting) :
    link.forget id = link := by
  rw [forget, List.erase_of_not_mem gone]

end Link

namespace SharedLink

theorem request?_id {shared : SharedLink} {id : Nat} {request : Request}
    (found : shared.request? id = some request) : request.id = id := by
  simpa using List.find?_some found

theorem request?_advance (shared : SharedLink) (id other : Nat) (stage : Stage) :
    (shared.advance id stage).request? other = (shared.request? other).map fun request =>
      if request.id = id then { request with stage } else request := by
  unfold request? advance
  simp only [List.find?_map]
  congr 2
  funext request
  simp only [Function.comp]
  split <;> rfl

theorem request?_advance_self {shared : SharedLink} {id : Nat} {request : Request}
    (found : shared.request? id = some request) (stage : Stage) :
    (shared.advance id stage).request? id = some { request with stage } := by
  rw [request?_advance, found, Option.map_some, if_pos (request?_id found)]

theorem request?_advance_of_ne (shared : SharedLink) {id other : Nat} (different : other ≠ id)
    (stage : Stage) : (shared.advance id stage).request? other = shared.request? other := by
  rw [request?_advance]
  cases found : shared.request? other with
  | none => rfl
  | some request =>
    rw [Option.map_some, if_neg]
    rw [request?_id found]
    exact different

theorem request?_begin (shared : SharedLink) (signal : Nat) (method : String) (params : Json)
    (id : Nat) : (shared.begin signal method params).request? id =
      (shared.request? id).or
        (if shared.link.nextId = id then
          some ⟨shared.link.nextId, signal, method, params, .numbered⟩
        else none) := by
  unfold request? begin
  simp only [Link.takeNumber, List.find?_append, List.find?_singleton, beq_iff_eq]

theorem proceed_of_ready {shared : SharedLink} {id : Nat} {request : Request}
    {ready : Stage → Bool} {act : Request → SharedLink} (found : shared.request? id = some request)
    (isReady : ready request.stage = true) : shared.proceed id ready act = act request := by
  simp only [proceed, found, isReady, if_true]

theorem move_register_of_standing {shared : SharedLink} {id : Nat} {request : Request}
    (found : shared.request? id = some request) (stage : request.stage = .numbered)
    (standing : shared.link.closed = none) :
    shared.move (.register id) =
      { shared with link :=
        { shared.link with waiting := shared.link.waiting ++ [id] } }.advance id .registered := by
  have same := request?_id found
  subst same
  rw [move, proceed_of_ready found (by rw [stage]; rfl), register,
    Link.register_of_standing standing]

theorem move_register_of_closed {shared : SharedLink} {id : Nat} {request : Request}
    {reason : String} (found : shared.request? id = some request)
    (stage : request.stage = .numbered) (closed : shared.link.closed = some reason) :
    shared.move (.register id) = shared.advance id (.ended (.error (.closed reason))) := by
  have same := request?_id found
  subst same
  rw [move, proceed_of_ready found (by rw [stage]; rfl), register, Link.register_of_closed closed]

theorem move_send_of_heard {shared : SharedLink} {id : Nat} {request : Request}
    (found : shared.request? id = some request) (stage : request.stage = .registered)
    (heard : shared.muted = false) :
    shared.move (.send id) = { shared with
      outgoing := shared.outgoing ++ [Message.request id request.method request.params] }.advance id
        .sent := by
  have same := request?_id found
  subst same
  rw [move, proceed_of_ready found (by rw [stage]; rfl), send]
  simp only [heard, hand]
  rfl

theorem move_collect_of_handed {shared : SharedLink} {id : Nat} {request : Request}
    {outcome : Outcome} (found : shared.request? id = some request) (stage : request.stage = .sent)
    (handed : shared.posted.lookup id = some outcome) :
    (shared.move (.collect id)).request? id = some { request with stage := .ended outcome } := by
  have same := request?_id found
  subst same
  rw [move, proceed_of_ready found (by rw [stage]; rfl), collect, handed]
  exact request?_advance_self found _

inductive Does (shared : SharedLink) : Event → SharedLink → Prop
  | nothing {event : Event} (idle : shared.link.closed = none → ∃ move, event = .move move) :
    Does shared event shared
  | began (signal : Nat) (method : String) (params : Json) :
    Does shared (.move (.begin signal method params)) (shared.begin signal method params)
  | registered {request : Request} (found : shared.request? request.id = some request)
      (stage : request.stage = .numbered) (standing : shared.link.closed = none) :
    Does shared (.move (.register request.id))
      ({ shared with link :=
        { shared.link with waiting := shared.link.waiting ++ [request.id] } }.advance request.id
          .registered)
  | refused {request : Request} {reason : String}
      (found : shared.request? request.id = some request) (stage : request.stage = .numbered)
      (closed : shared.link.closed = some reason) :
    Does shared (.move (.register request.id))
      (shared.advance request.id (.ended (.error (.closed reason))))
  | sent {request : Request} (found : shared.request? request.id = some request)
      (stage : request.stage = .registered) (heard : shared.muted = false) :
    Does shared (.move (.send request.id))
      ((shared.hand [Message.request request.id request.method request.params]).advance request.id
        .sent)
  | unsent {request : Request} (found : shared.request? request.id = some request)
      (stage : request.stage = .registered) (muted : shared.muted = true) :
    Does shared (.move (.send request.id))
      ({ shared with link := shared.link.forget request.id }.advance request.id
        (.ended (.error (.closed "writer stopped"))))
  | fired (signal : Nat) :
    Does shared (.move (.fire signal)) { shared with fired := signal :: shared.fired }
  | collected {request : Request} {outcome : Outcome}
      (found : shared.request? request.id = some request) (stage : request.stage = .sent)
      (handed : shared.posted.lookup request.id = some outcome) :
    Does shared (.move (.collect request.id)) (shared.advance request.id (.ended outcome))
  | dropped {request : Request} (found : shared.request? request.id = some request)
      (stage : request.stage = .sent) (unhanded : shared.posted.lookup request.id = none)
      (gone : request.id ∉ shared.link.waiting) :
    Does shared (.move (.collect request.id))
      (shared.advance request.id (.ended (.error (.closed "reply dropped"))))
  | withdrawn {request : Request} (found : shared.request? request.id = some request)
      (stage : request.stage = .sent) (fired : request.signal ∈ shared.fired) :
    Does shared (.move (.withdraw request.id))
      (({ shared with link := shared.link.forget request.id }.hand
        [Message.cancel request.id]).advance request.id (.ended (.error .cancelled)))
  | muted : Does shared (.move .stopWriter) { shared with muted := true }
  | replied {message : Json} {id : Nat} (reply : Message.IsReply message id)
      (waits : id ∈ shared.link.waiting) :
    Does shared (.route message)
      (shared.absorb (shared.link.forget id, ⟨[], [(id, Message.outcome message)]⟩))
  | answered {message : Json} (strange : ∀ id ∈ shared.link.waiting, ¬ Message.IsReply message id)
      (sent : List Json) : Does shared (.route message) (shared.absorb (shared.link, ⟨sent, []⟩))
  | stopped {reason : String} (standing : shared.link.closed = none) :
    Does shared (.stop reason) (shared.absorb (shared.link.close reason))

theorem Stage.eq_numbered {stage : Stage} (isNumbered : stage.isNumbered = true) :
    stage = .numbered := by
  cases stage <;> simp_all [Stage.isNumbered]

theorem Stage.eq_registered {stage : Stage} (isRegistered : stage.isRegistered = true) :
    stage = .registered := by
  cases stage <;> simp_all [Stage.isRegistered]

theorem Stage.eq_sent {stage : Stage} (isSent : stage.isSent = true) : stage = .sent := by
  cases stage <;> simp_all [Stage.isSent]

theorem does_nothing (shared : SharedLink) (move : Move) : Does shared (.move move) shared :=
  .nothing fun _ => ⟨move, rfl⟩

theorem does_proceed {shared : SharedLink} {id : Nat} {ready : Stage → Bool}
    {act : Request → SharedLink} {move : Move}
    (does : ∀ request, shared.request? request.id = some request → request.id = id →
      ready request.stage = true → Does shared (.move move) (act request)) :
    Does shared (.move move) (shared.proceed id ready act) := by
  unfold proceed
  cases found : shared.request? id with
  | none => exact does_nothing shared move
  | some request =>
    have same := request?_id found
    subst same
    by_cases isReady : ready request.stage = true
    · simp only [isReady, if_true]
      exact does request found rfl isReady
    · simp only [isReady]
      exact does_nothing shared move

theorem does_move (shared : SharedLink) (move : Move) :
    Does shared (.move move) (shared.move move) := by
  cases move with
  | begin signal method params => exact .began signal method params
  | fire signal => exact .fired signal
  | stopWriter => exact .muted
  | register id =>
    apply does_proceed
    intro request found equal ready
    subst equal
    cases closed : shared.link.closed with
    | none =>
      simp only [register, Link.register_of_standing closed]
      exact .registered found (Stage.eq_numbered ready) closed
    | some reason =>
      simp only [register, Link.register_of_closed closed]
      exact .refused found (Stage.eq_numbered ready) closed
  | send id =>
    apply does_proceed
    intro request found equal ready
    subst equal
    unfold send
    split
    · rename_i muted
      exact .unsent found (Stage.eq_registered ready) muted
    · rename_i heard
      exact .sent found (Stage.eq_registered ready) (Bool.eq_false_iff.mpr heard)
  | collect id =>
    apply does_proceed
    intro request found equal ready
    subst equal
    unfold collect
    cases handed : shared.posted.lookup request.id with
    | some outcome => exact .collected found (Stage.eq_sent ready) handed
    | none =>
      simp only [List.contains_iff_mem]
      split
      · exact does_nothing shared _
      · rename_i gone
        exact .dropped found (Stage.eq_sent ready) handed gone
  | withdraw id =>
    apply does_proceed
    intro request found equal ready
    subst equal
    unfold withdraw
    split
    · rename_i fired
      exact .withdrawn found (Stage.eq_sent ready) (List.contains_iff_mem.mp fired)
    · exact does_nothing shared _

theorem does_step (shared : SharedLink) (event : Event) :
    Does shared event (shared.step event) := by
  cases event with
  | move move => exact does_move shared move
  | route message =>
    simp only [step]
    split
    · rename_i closed
      exact .nothing fun standing => absurd closed (by simp [standing])
    · by_cases reply : ∃ id ∈ shared.link.waiting, Message.IsReply message id
      · obtain ⟨id, waits, reply⟩ := reply
        rw [Link.route_of_reply reply waits]
        exact .replied reply waits
      · have strange : ∀ id ∈ shared.link.waiting, ¬ Message.IsReply message id :=
          fun id waits isReply => reply ⟨id, waits, isReply⟩
        obtain ⟨sent, routed⟩ := Link.route_of_strange strange
        rw [routed]
        exact .answered strange sent
  | stop reason =>
    simp only [step]
    split
    · rename_i closed
      exact .nothing fun standing => absurd closed (by simp [standing])
    · rename_i standing
      exact .stopped (Option.not_isSome_iff_eq_none.mp standing)

end SharedLink

end CodeGateway
