import CodeGateway.Proofs.SharedRequest
import Mathlib.Data.List.Basic
import Mathlib.Data.List.Induction

namespace CodeGateway

namespace Message

/-- A message that asks for an answer. Its identifier may be of any kind, also null or the number of
    a request that waits. -/
def Asks (message id : Json) : Prop :=
  (∃ method, message.member? "method" = some (.string method)) ∧ message.member? "id" = some id

/-- The identifier that the answer to a message is to have, if it asks for one. -/
def asked? (message : Json) : Option Json :=
  ((message.member? "method").bind Json.string?).bind fun _ => message.member? "id"

/-- The number of the request that a message replies to, if it may be that of one. -/
def repliesTo? (message : Json) : Option Nat :=
  match (message.member? "method").bind Json.string? with
  | some _ => none
  | none => ((message.member? "id").bind Json.word?).bind fun id =>
    if 0 ≤ id then some id.toNat else none

theorem asked?_eq_some_iff {message id : Json} : asked? message = some id ↔ Asks message id := by
  have named (value : Json) : (∃ method, value.string? = some method) ↔
      ∃ method, value = .string method := by
    cases value <;> simp [Json.string?]
  simp only [asked?, Asks, Option.bind_eq_some_iff]
  constructor
  · rintro ⟨method, ⟨value, has, text⟩, carries⟩
    obtain ⟨method, rfl⟩ := (named value).mp ⟨method, text⟩
    exact ⟨⟨method, has⟩, carries⟩
  · rintro ⟨⟨method, has⟩, carries⟩
    exact ⟨method, ⟨.string method, has, rfl⟩, carries⟩

theorem repliesTo?_eq_some_iff {message : Json} {id : Nat} :
    repliesTo? message = some id ↔ IsReply message id := by
  unfold repliesTo? IsReply
  cases (message.member? "method").bind Json.string? with
  | some method => simp
  | none =>
    cases (message.member? "id").bind Json.word? with
    | none => simp
    | some number =>
      simp only [Option.bind_some, true_and, Option.some.injEq]
      split
      · rw [Option.some.injEq]
        omega
      · simp only [reduceCtorEq, false_iff]
        omega

theorem asked?_eq_none_iff {message : Json} : asked? message = none ↔ ∀ id, ¬ Asks message id := by
  simp only [Option.eq_none_iff_forall_ne_some, ne_eq, asked?_eq_some_iff]

theorem repliesTo?_eq_none_iff {message : Json} :
    repliesTo? message = none ↔ ∀ id, ¬ IsReply message id := by
  simp only [Option.eq_none_iff_forall_ne_some, ne_eq, repliesTo?_eq_some_iff]

theorem kind_eq_request_iff {message id : Json} :
    kind message = .request id ↔ Asks message id := by
  rw [← asked?_eq_some_iff]
  unfold kind asked?
  cases (message.member? "method").bind Json.string? with
  | some method => cases message.member? "id" <;> simp
  | none =>
    cases message.member? "id" with
    | none => simp
    | some value => cases found : value.word? <;> simp [found]

theorem not_asks_of_no_id {message : Json} (noId : message.member? "id" = none) (id : Json) :
    ¬ Asks message id := by
  rintro ⟨-, carries⟩
  rw [noId] at carries
  cases carries

theorem not_isReply_of_no_id {message : Json} (noId : message.member? "id" = none) (id : Nat) :
    ¬ IsReply message id := by
  rintro ⟨-, carries⟩
  rw [noId] at carries
  cases carries

theorem Asks.not_isReply {message id : Json} (asks : Asks message id) (number : Nat) :
    ¬ IsReply message number := by
  rintro ⟨unnamed, -⟩
  obtain ⟨⟨method, has⟩, -⟩ := asks
  rw [has] at unnamed
  cases unnamed

end Message

namespace Link

theorem route_of_asks {message id : Json} (asks : Message.Asks message id) (link : Link) :
    link.route message = (link, ⟨[Message.answer id], []⟩) := by
  rw [route, Message.kind_eq_request_iff.mpr asks]
  rfl

theorem route_of_unasked {link : Link} {message : Json} (silent : ∀ id, ¬ Message.Asks message id)
    (strange : ∀ id ∈ link.waiting, ¬ Message.IsReply message id) :
    link.route message = (link, ⟨[], []⟩) := by
  obtain ⟨sent, routed⟩ := route_of_strange strange
  unfold route at routed ⊢
  cases kind : Message.kind message with
  | request id => exact absurd (Message.kind_eq_request_iff.mp kind) (silent id)
  | other => rfl
  | reply id =>
    rw [kind] at routed
    dsimp only at routed ⊢
    split at routed <;> simp_all [Effects.none]

inductive Routes (link : Link) (message : Json) : Link × Effects → Prop
  | asks {id : Json} (asks : Message.Asks message id) :
    Routes link message (link, ⟨[Message.answer id], []⟩)
  | replies {id : Nat} (reply : Message.IsReply message id) (waits : id ∈ link.waiting) :
    Routes link message (link.forget id, ⟨[], [(id, Message.outcome message)]⟩)
  | passes (silent : ∀ id, ¬ Message.Asks message id)
      (strange : ∀ id ∈ link.waiting, ¬ Message.IsReply message id) :
    Routes link message (link, ⟨[], []⟩)

theorem routes_route (link : Link) (message : Json) :
    Routes link message (link.route message) := by
  by_cases asks : ∃ id, Message.Asks message id
  · obtain ⟨id, asks⟩ := asks
    rw [route_of_asks asks]
    exact .asks asks
  by_cases reply : ∃ id ∈ link.waiting, Message.IsReply message id
  · obtain ⟨id, waits, reply⟩ := reply
    rw [route_of_reply reply waits]
    exact .replies reply waits
  · have silent (id : Json) : ¬ Message.Asks message id := fun isAsked => asks ⟨id, isAsked⟩
    have strange : ∀ id ∈ link.waiting, ¬ Message.IsReply message id :=
      fun id waits isReply => reply ⟨id, waits, isReply⟩
    rw [route_of_unasked silent strange]
    exact .passes silent strange

theorem sent_route (link : Link) (message : Json) :
    (link.route message).2.sent = (Message.asked? message).toList.map Message.answer := by
  have routes := routes_route link message
  generalize link.route message = after at routes
  cases routes with
  | asks asks =>
    rw [Message.asked?_eq_some_iff.mpr asks]
    rfl
  | replies reply =>
    rw [Message.asked?_eq_none_iff.mpr fun id asks => asks.not_isReply _ reply]
    rfl
  | passes silent =>
    rw [Message.asked?_eq_none_iff.mpr silent]
    rfl

theorem route_fst (link : Link) (message : Json) :
    (link.route message).1 =
      { link with waiting := link.waiting.diff (Message.repliesTo? message).toList } := by
  have routes := routes_route link message
  generalize link.route message = after at routes
  cases routes with
  | asks asks =>
    rw [Message.repliesTo?_eq_none_iff.mpr asks.not_isReply]
    rfl
  | replies reply =>
    rw [Message.repliesTo?_eq_some_iff.mpr reply, Option.toList_some, List.diff_cons,
      List.diff_nil]
    rfl
  | passes _ strange =>
    cases replied : Message.repliesTo? message with
    | none => rfl
    | some id =>
      -- A reply that nobody waits for has no number to take away.
      have gone : id ∉ link.waiting := fun waits =>
        strange id waits (Message.repliesTo?_eq_some_iff.mp replied)
      rw [Option.toList_some, List.diff_cons, List.diff_nil, List.erase_of_not_mem gone]

theorem sent_routeAll (link : Link) (messages : List Json) :
    (link.routeAll messages).2.sent =
      (messages.filterMap Message.asked?).map Message.answer := by
  induction messages generalizing link with
  | nil => rfl
  | cons message messages ih =>
    have first := sent_route link message
    simp only [routeAll, Effects.append, ih, first]
    cases asked : Message.asked? message <;> simp [asked]

theorem routeAll_fst (link : Link) (messages : List Json) :
    (link.routeAll messages).1 =
      { link with waiting := link.waiting.diff (messages.filterMap Message.repliesTo?) } := by
  induction messages generalizing link with
  | nil => rfl
  | cons message messages ih =>
    simp only [routeAll, ih, route_fst]
    cases replied : Message.repliesTo? message <;> simp [replied]

end Link

namespace SharedLink

def isAnswer (message : Json) : Bool := (message.member? "method").isNone

def Event.asked? : Event → Option Json
  | .route message => Message.asked? message
  | _ => none

def answered (shared : SharedLink) : List Json := shared.outgoing.filter isAnswer

theorem isAnswer_answer (id : Json) : isAnswer (Message.answer id) = true := by
  simp [isAnswer, Message.answer, Json.member?, Json.lookup]

theorem isAnswer_request (id : Nat) (method : String) (params : Json) :
    isAnswer (Message.request id method params) = false := by
  simp [isAnswer, Message.request, Json.member?, Json.lookup]

theorem isAnswer_cancel (id : Nat) : isAnswer (Message.cancel id) = false := by
  simp [isAnswer, Message.cancel, Message.notification, Json.member?, Json.lookup]

theorem answered_hand (shared : SharedLink) (messages : List Json) :
    (shared.hand messages).answered =
      if shared.muted then shared.answered else shared.answered ++ messages.filter isAnswer := by
  unfold answered hand
  split
  · rfl
  · rw [← List.filter_append]

theorem Does.answered_of_move {shared after : SharedLink} {move : Move}
    (does : Does shared (.move move) after) : after.answered = shared.answered := by
  cases does with
  | @sent request =>
    refine (answered_hand shared _).trans ?_
    simp [isAnswer_request]
  | @withdrawn request =>
    refine (answered_hand { shared with link := shared.link.forget request.id } _).trans ?_
    simp only [List.filter_cons, isAnswer_cancel, List.filter_nil, List.append_nil, ite_self,
      Bool.false_eq_true, if_false]
    rfl
  | _ => rfl

theorem answered_route (shared : SharedLink) (message : Json) :
    (shared.step (.route message)).answered =
      if shared.link.closed.isSome ∨ shared.muted = true then shared.answered
      else shared.answered ++ (Message.asked? message).toList.map Message.answer := by
  have answers : ((Message.asked? message).toList.map Message.answer).filter isAnswer =
      (Message.asked? message).toList.map Message.answer := by
    rw [List.filter_eq_self]
    intro answer among
    obtain ⟨id, -, rfl⟩ := List.mem_map.mp among
    exact isAnswer_answer id
  rw [step]
  by_cases closed : shared.link.closed.isSome
  · simp [closed]
  · rw [if_neg closed, absorb]
    refine (answered_hand _ _).trans ?_
    rw [Link.sent_route, answers]
    simp only [closed, Bool.false_eq_true, false_or]
    rfl

theorem answered_stop (shared : SharedLink) (reason : String) :
    (shared.step (.stop reason)).answered = shared.answered := by
  rw [step]
  split
  · rfl
  · refine (answered_hand _ _).trans ?_
    simp only [Link.close, List.filter_nil, List.append_nil, ite_self]
    rfl

theorem answered_step (shared : SharedLink) (event : Event) :
    (shared.step event).answered =
      if shared.link.closed.isSome ∨ shared.muted = true then shared.answered
      else shared.answered ++ event.asked?.toList.map Message.answer := by
  cases event with
  | move move =>
    rw [(does_step shared (.move move)).answered_of_move]
    simp [Event.asked?]
  | route message => exact answered_route shared message
  | stop reason =>
    rw [answered_stop]
    simp [Event.asked?]

/-- Answers leave in the order in which they are asked for. As long as the connection stands and the
    writer runs, none is missing. -/
theorem answered_run (events : List Event) :
    (run events).answered <+: (events.filterMap Event.asked?).map Message.answer ∧
      ((run events).link.closed = none → (run events).muted = false →
        (run events).answered = (events.filterMap Event.asked?).map Message.answer) := by
  induction events using List.reverseRecOn with
  | nil => exact ⟨List.prefix_rfl, fun _ _ => rfl⟩
  | append_singleton events event ih =>
    obtain ⟨front, whole⟩ := ih
    have does := does_run events event
    have due : ((events ++ [event]).filterMap Event.asked?).map Message.answer =
        (events.filterMap Event.asked?).map Message.answer ++
          event.asked?.toList.map Message.answer := by
      rw [List.filterMap_append, List.map_append]
      cases asked : event.asked? <;> simp [asked]
    rw [due, run_snoc, answered_step]
    split
    -- A link that is deaf stays so, and what was answered until then is all that ever will be.
    · rename_i deaf
      refine ⟨front.trans (List.prefix_append _ _), fun standing heard => ?_⟩
      rw [← run_snoc] at standing heard
      rcases deaf with closed | muted
      · obtain ⟨reason, closed⟩ := Option.isSome_iff_exists.mp closed
        rw [does.closed closed] at standing
        cases standing
      · rw [does.stays_muted muted] at heard
        cases heard
    · rename_i hears
      simp only [not_or, Bool.not_eq_true, Option.isSome_eq_false_iff,
        Option.isNone_iff_eq_none] at hears
      rw [whole hears.1 hears.2]
      exact ⟨List.prefix_rfl, fun _ _ => rfl⟩

end SharedLink

/-- Of the messages that the server sends, those with a method and an identifier are answered, each
    once, with null, with their identifier and in their order, and none else. Neither they nor
    messages without an identifier touch the requests that wait; any other message takes away at
    most the one whose number it carries. Whatever else goes on at the link, the answers among what
    it sends are those that were asked for, until the connection or the writer ends. -/
theorem Link.server_requests_answered (link : Link) (messages : List Json) :
    (link.routeAll messages).2.sent = (messages.filterMap Message.asked?).map (fun id =>
      .object [("id", id), ("jsonrpc", .string "2.0"), ("result", .null)]) ∧
    (∀ message id, Message.asked? message = some id ↔ Message.Asks message id) ∧
    (link.routeAll messages).1 =
      { link with waiting := link.waiting.diff (messages.filterMap Message.repliesTo?) } ∧
    (∀ message id, Message.repliesTo? message = some id ↔ Message.IsReply message id) ∧
    (∀ message,
      (∀ id, Message.Asks message id → (link.route message).1 = link ∧
        (link.route message).2.ended = []) ∧
      (message.isObject = false ∨ message.member? "id" = none →
        link.route message = (link, .none)) ∧
      ((link.route message).1 = link ∨ ∃ id, Message.IsReply message id ∧
        (link.route message).1 = { link with waiting := link.waiting.erase id })) ∧
    ∀ events : List SharedLink.Event,
      (SharedLink.run events).answered <+:
        (events.filterMap SharedLink.Event.asked?).map Message.answer ∧
      ((SharedLink.run events).link.closed = none → (SharedLink.run events).muted = false →
        (SharedLink.run events).answered =
          (events.filterMap SharedLink.Event.asked?).map Message.answer) := by
  refine ⟨sent_routeAll link messages, fun _ _ => Message.asked?_eq_some_iff,
    routeAll_fst link messages, fun _ _ => Message.repliesTo?_eq_some_iff, fun message => ?_,
    SharedLink.answered_run⟩
  refine ⟨fun id asks => ?_, fun apart => ?_, ?_⟩
  · rw [route_of_asks asks]
    exact ⟨rfl, rfl⟩
  · have noId : message.member? "id" = none := by
      rcases apart with notObject | noId
      · cases message <;> first | rfl | cases notObject
      · exact noId
    exact route_of_unasked (Message.not_asks_of_no_id noId)
      fun id _ => Message.not_isReply_of_no_id noId id
  · have routes := routes_route link message
    generalize link.route message = after at routes
    cases routes with
    | asks => exact Or.inl rfl
    | replies reply => exact Or.inr ⟨_, reply, rfl⟩
    | passes => exact Or.inl rfl

end CodeGateway
