import CodeGateway.Proofs.ReplyCause

namespace CodeGateway

instance (message : Json) (id : Nat) : Decidable (Message.IsReply message id) :=
  inferInstanceAs (Decidable (_ ∧ _))

namespace SharedLink

structure Alike (id : Nat) (first second : SharedLink) : Prop where
  nextId : first.link.nextId = second.link.nextId
  closed : first.link.closed = second.link.closed
  fired : first.fired = second.fired
  muted : first.muted = second.muted
  request : first.request? id = second.request? id
  handed : first.posted.lookup id = second.posted.lookup id

theorem Alike.refl (id : Nat) (shared : SharedLink) : Alike id shared shared :=
  ⟨rfl, rfl, rfl, rfl, rfl, rfl⟩

theorem Alike.symm {id : Nat} {first second : SharedLink} (alike : Alike id first second) :
    Alike id second first :=
  ⟨alike.nextId.symm, alike.closed.symm, alike.fired.symm, alike.muted.symm, alike.request.symm,
    alike.handed.symm⟩

theorem Alike.trans {id : Nat} {first second third : SharedLink} (alike : Alike id first second)
    (next : Alike id second third) : Alike id first third :=
  ⟨alike.nextId.trans next.nextId, alike.closed.trans next.closed, alike.fired.trans next.fired,
    alike.muted.trans next.muted, alike.request.trans next.request, alike.handed.trans next.handed⟩

theorem Alike.waits {id : Nat} {first second : SharedLink} (alike : Alike id first second)
    (sound : Sound first) (sound' : Sound second) :
    id ∈ first.link.waiting ↔ id ∈ second.link.waiting := by
  rw [sound.waits, sound'.waits, alike.request, alike.handed]

def Move.mover? : Move → Option Nat
  | .register id | .send id | .collect id | .withdraw id => some id
  | _ => none

theorem Does.aside_of_move {shared after : SharedLink} {move : Move}
    (does : Does shared (.move move) after) {id mover : Nat} (moves : move.mover? = some mover)
    (different : id ≠ mover) : Alike id shared after := by
  cases does with
  | nothing => exact .refl id shared
  | began => cases moves
  | fired => cases moves
  | muted => cases moves
  | _ =>
    cases moves
    exact ⟨rfl, rfl, rfl, rfl, (request?_advance_of_ne _ different _).symm, rfl⟩

theorem Does.aside_of_route {shared after : SharedLink} {message : Json}
    (does : Does shared (.route message) after) {id : Nat}
    (strange : Message.IsReply message id → id ∉ shared.link.waiting) : Alike id shared after := by
  cases does with
  | nothing => exact .refl id shared
  | @replied _ other reply waits =>
    have different : id ≠ other := by
      intro equal
      subst equal
      exact strange reply waits
    refine ⟨rfl, rfl, rfl, rfl, rfl, ?_⟩
    rw [lookup_post, if_neg different, Option.or_none]
  | answered _ sent =>
    refine ⟨rfl, rfl, rfl, rfl, rfl, ?_⟩
    exact congrArg (List.lookup id) (List.append_nil shared.posted).symm

theorem Alike.advance {id : Nat} {first second : SharedLink} (alike : Alike id first second)
    (other : Nat) (stage : Stage) :
    Alike id (first.advance other stage) (second.advance other stage) := by
  refine ⟨alike.nextId, alike.closed, alike.fired, alike.muted, ?_, alike.handed⟩
  rw [request?_advance, request?_advance, alike.request]

theorem Alike.withWaiting {id : Nat} {first second : SharedLink} (alike : Alike id first second)
    (waiting waiting' : List Nat) :
    Alike id { first with link := { first.link with waiting } }
      { second with link := { second.link with waiting := waiting' } } :=
  ⟨alike.nextId, alike.closed, alike.fired, alike.muted, alike.request, alike.handed⟩

theorem Alike.hand {id : Nat} {first second : SharedLink} (alike : Alike id first second)
    (messages messages' : List Json) : Alike id (first.hand messages) (second.hand messages') :=
  ⟨alike.nextId, alike.closed, alike.fired, alike.muted, alike.request, alike.handed⟩

theorem Alike.proceed {id : Nat} {first second : SharedLink} (alike : Alike id first second)
    (ready : Stage → Bool) {act act' : Request → SharedLink}
    (acts : ∀ request, request.id = id → Alike id (act request) (act' request)) :
    Alike id (first.proceed id ready act) (second.proceed id ready act') := by
  unfold SharedLink.proceed
  rw [← alike.request]
  cases found : first.request? id with
  | none => exact alike
  | some request =>
    by_cases isReady : ready request.stage = true
    · simp only [isReady, if_true]
      exact acts request (request?_id found)
    · simp only [isReady]
      exact alike

theorem Alike.register {id : Nat} {first second : SharedLink} (alike : Alike id first second)
    (request : Request) : Alike id (first.register request) (second.register request) := by
  cases closed : first.link.closed with
  | none =>
    simp only [SharedLink.register, Link.register_of_standing closed,
      Link.register_of_standing (alike.closed.symm.trans closed)]
    exact (alike.withWaiting _ _).advance _ _
  | some reason =>
    simp only [SharedLink.register, Link.register_of_closed closed,
      Link.register_of_closed (alike.closed.symm.trans closed)]
    exact alike.advance _ _

theorem Alike.send {id : Nat} {first second : SharedLink} (alike : Alike id first second)
    (request : Request) : Alike id (first.send request) (second.send request) := by
  unfold SharedLink.send
  by_cases muted : first.muted = true
  · rw [if_pos muted, if_pos (alike.muted ▸ muted)]
    exact (alike.withWaiting _ _).advance _ _
  · rw [if_neg muted, if_neg (alike.muted ▸ muted)]
    exact (alike.hand _ _).advance _ _

theorem Alike.collect {first second : SharedLink} {request : Request}
    (alike : Alike request.id first second) (sound : Sound first) (sound' : Sound second) :
    Alike request.id (first.collect request) (second.collect request) := by
  simp only [SharedLink.collect, ← alike.handed, List.contains_iff_mem, ← alike.waits sound sound']
  split
  · exact alike.advance _ _
  · split
    · exact alike
    · exact alike.advance _ _

theorem Alike.withdraw {id : Nat} {first second : SharedLink} (alike : Alike id first second)
    (request : Request) : Alike id (first.withdraw request) (second.withdraw request) := by
  unfold SharedLink.withdraw
  by_cases fired : first.fired.contains request.signal = true
  · rw [if_pos fired, if_pos (alike.fired ▸ fired)]
    exact ((alike.withWaiting _ _).hand _ _).advance _ _
  · rw [if_neg fired, if_neg (alike.fired ▸ fired)]
    exact alike

theorem Alike.move {id : Nat} {first second : SharedLink} (alike : Alike id first second)
    (sound : Sound first) (sound' : Sound second) (move : Move) :
    Alike id (first.move move) (second.move move) := by
  have other {mover : Nat} (moves : move.mover? = some mover) (different : id ≠ mover) :
      Alike id (first.move move) (second.move move) :=
    ((does_move first move).aside_of_move moves different).symm.trans
      (alike.trans ((does_move second move).aside_of_move moves different))
  cases move with
  | begin signal method params =>
    refine ⟨congrArg (· + 1) alike.nextId, alike.closed, alike.fired, alike.muted, ?_, alike.handed⟩
    show (first.begin signal method params).request? id =
      (second.begin signal method params).request? id
    rw [request?_begin, request?_begin, alike.request, alike.nextId]
  | fire signal =>
    exact ⟨alike.nextId, alike.closed, congrArg (signal :: ·) alike.fired, alike.muted,
      alike.request, alike.handed⟩
  | stopWriter =>
    exact ⟨alike.nextId, alike.closed, alike.fired, rfl, alike.request, alike.handed⟩
  | register mover =>
    by_cases same : id = mover
    · subst same
      exact alike.proceed _ fun request _ => alike.register request
    · exact other rfl same
  | send mover =>
    by_cases same : id = mover
    · subst same
      exact alike.proceed _ fun request _ => alike.send request
    · exact other rfl same
  | collect mover =>
    by_cases same : id = mover
    · subst same
      apply alike.proceed _
      intro request equal
      subst equal
      exact alike.collect sound sound'
    · exact other rfl same
  | withdraw mover =>
    by_cases same : id = mover
    · subst same
      exact alike.proceed _ fun request _ => alike.withdraw request
    · exact other rfl same

theorem Alike.step {id : Nat} {first second : SharedLink} (alike : Alike id first second)
    (sound : Sound first) (sound' : Sound second) (event : Event) :
    Alike id (first.step event) (second.step event) := by
  cases event with
  | move move => exact alike.move sound sound' move
  | route message =>
    by_cases reply : Message.IsReply message id ∧ id ∈ first.link.waiting
    · obtain ⟨isReply, waits⟩ := reply
      have waits' := (alike.waits sound sound').mp waits
      rw [step_of_reply sound isReply waits, step_of_reply sound' isReply waits']
      refine ⟨alike.nextId, alike.closed, alike.fired, alike.muted, alike.request, ?_⟩
      rw [lookup_post, lookup_post, alike.handed]
    · have strange : Message.IsReply message id → id ∉ first.link.waiting :=
        fun isReply waits => reply ⟨isReply, waits⟩
      have strange' : Message.IsReply message id → id ∉ second.link.waiting :=
        fun isReply waits => strange isReply ((alike.waits sound sound').mpr waits)
      exact ((does_step first _).aside_of_route strange).symm.trans
        (alike.trans ((does_step second _).aside_of_route strange'))
  | stop reason =>
    simp only [SharedLink.step, ← alike.closed]
    split
    · exact alike
    · refine ⟨alike.nextId, rfl, alike.fired, alike.muted, alike.request, ?_⟩
      rw [lookup_close, lookup_close, alike.handed]
      simp only [alike.waits sound sound']

end SharedLink

end CodeGateway
