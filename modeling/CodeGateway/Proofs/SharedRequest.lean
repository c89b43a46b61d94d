import CodeGateway.Proofs.SharedLink

namespace CodeGateway.SharedLink

inductive Moves (shared : SharedLink) (request : Request) : Event → Stage → Prop
  | stays {event : Event} : Moves shared request event request.stage
  | registers (stage : request.stage = .numbered) (standing : shared.link.closed = none) :
    Moves shared request (.move (.register request.id)) .registered
  | refused {reason : String} (stage : request.stage = .numbered)
      (closed : shared.link.closed = some reason) :
    Moves shared request (.move (.register request.id)) (.ended (.error (.closed reason)))
  | sends (stage : request.stage = .registered) (heard : shared.muted = false) :
    Moves shared request (.move (.send request.id)) .sent
  | fails (stage : request.stage = .registered) (muted : shared.muted = true) :
    Moves shared request (.move (.send request.id)) (.ended (.error (.closed "writer stopped")))
  | collects {outcome : Outcome} (stage : request.stage = .sent)
      (handed : shared.posted.lookup request.id = some outcome) :
    Moves shared request (.move (.collect request.id)) (.ended outcome)
  | withdraws (stage : request.stage = .sent) (fired : request.signal ∈ shared.fired) :
    Moves shared request (.move (.withdraw request.id)) (.ended (.error .cancelled))

theorem Moves.advance {shared middle : SharedLink} (same : middle.requests = shared.requests)
    {id : Nat} {mover request : Request} {event : Event} {stage : Stage}
    (foundMover : shared.request? mover.id = some mover)
    (found : shared.request? id = some request) (moves : Moves shared mover event stage) :
    ∃ stage', (middle.advance mover.id stage).request? id = some { request with stage := stage' } ∧
      Moves shared request event stage' := by
  have seen (other : Nat) : middle.request? other = shared.request? other := by
    simp only [request?, same]
  by_cases self : id = mover.id
  · subst self
    rw [foundMover] at found
    cases found
    exact ⟨stage, request?_advance_self ((seen _).trans foundMover) stage, moves⟩
  · exact ⟨request.stage, by rw [request?_advance_of_ne _ self, seen, found], .stays⟩

theorem Does.moves {shared after : SharedLink} {event : Event} (does : Does shared event after)
    (sound : Sound shared) {id : Nat} {request : Request}
    (found : shared.request? id = some request) :
    ∃ stage, after.request? id = some { request with stage } ∧
      Moves shared request event stage := by
  cases does with
  | nothing => exact ⟨_, found, .stays⟩
  | began signal method params =>
    exact ⟨_, by rw [request?_begin, found, Option.some_or], .stays⟩
  | registered mover stage standing =>
    exact Moves.advance rfl mover found (.registers stage standing)
  | refused mover stage closed => exact Moves.advance rfl mover found (.refused stage closed)
  | sent mover stage heard => exact Moves.advance rfl mover found (.sends stage heard)
  | unsent mover stage muted => exact Moves.advance rfl mover found (.fails stage muted)
  | fired => exact ⟨_, found, .stays⟩
  | collected mover stage handed => exact Moves.advance rfl mover found (.collects stage handed)
  | @dropped asked mover stage unhanded gone =>
    exact absurd ((sound.waits asked.id).mpr ⟨⟨asked, mover, Or.inr stage⟩, unhanded⟩) gone
  | withdrawn mover stage fired => exact Moves.advance rfl mover found (.withdraws stage fired)
  | muted => exact ⟨_, found, .stays⟩
  | replied => exact ⟨_, found, .stays⟩
  | answered => exact ⟨_, found, .stays⟩
  | stopped => exact ⟨_, found, .stays⟩

theorem request?_advance_none {shared : SharedLink} {id other : Nat} {stage : Stage}
    (missing : shared.request? other = none) : (shared.advance id stage).request? other = none := by
  rw [request?_advance, missing]
  rfl

theorem Does.numbered {shared after : SharedLink} {event : Event} (does : Does shared event after)
    {id : Nat} {request : Request} (missing : shared.request? id = none)
    (found : after.request? id = some request) :
    id = shared.link.nextId ∧ request.stage = .numbered := by
  have none {middle : SharedLink} {other : Nat} {stage : Stage}
      (same : middle.requests = shared.requests)
      (found : (middle.advance other stage).request? id = some request) : False := by
    have seen : middle.request? id = shared.request? id := by simp only [request?, same]
    rw [request?_advance_none (seen.trans missing)] at found
    cases found
  cases does with
  | began signal method params =>
    rw [request?_begin, missing, Option.none_or] at found
    obtain ⟨same, found⟩ := Option.ite_none_right_eq_some.mp found
    cases found
    exact ⟨same.symm, rfl⟩
  | registered => exact (none rfl found).elim
  | refused => exact (none rfl found).elim
  | sent => exact (none rfl found).elim
  | unsent => exact (none rfl found).elim
  | collected => exact (none rfl found).elim
  | dropped => exact (none rfl found).elim
  | withdrawn => exact (none rfl found).elim
  | nothing => exact absurd found (by simp [missing])
  | fired => exact absurd (missing.symm.trans found) (by simp)
  | muted => exact absurd (missing.symm.trans found) (by simp)
  | replied => exact absurd (missing.symm.trans found) (by simp)
  | answered => exact absurd (missing.symm.trans found) (by simp)
  | stopped => exact absurd (missing.symm.trans found) (by simp)

theorem Does.closed {shared after : SharedLink} {event : Event} (does : Does shared event after)
    {reason : String} (closed : shared.link.closed = some reason) :
    after.link.closed = some reason := by
  cases does with
  | stopped standing => exact absurd standing (by simp [closed])
  | _ => exact closed

theorem Does.lookup {shared after : SharedLink} {event : Event} (does : Does shared event after)
    {id : Nat} {outcome : Outcome} (handed : shared.posted.lookup id = some outcome) :
    after.posted.lookup id = some outcome := by
  cases does with
  | replied => exact List.lookup_append.trans (by rw [handed, Option.some_or])
  | answered => exact List.lookup_append.trans (by rw [handed, Option.some_or])
  | stopped => exact List.lookup_append.trans (by rw [handed, Option.some_or])
  | _ => exact handed

theorem Does.handed {shared after : SharedLink} {event : Event} (does : Does shared event after)
    {id : Nat} {outcome : Outcome} (handed : after.posted.lookup id = some outcome) :
    shared.posted.lookup id = some outcome ∨ id ∈ shared.link.waiting ∧
      ((∃ message, event = .route message ∧ Message.IsReply message id ∧
        outcome = Message.outcome message) ∨
      ∃ reason, event = .stop reason ∧ outcome = .error (.closed reason) ∧
        after.link.closed = some reason) := by
  cases does with
  | @replied message other reply waits =>
    rw [lookup_post] at handed
    rcases Option.or_eq_some_iff.mp handed with before | ⟨-, now⟩
    · exact Or.inl before
    · by_cases same : id = other
      · subst same
        rw [if_pos rfl] at now
        cases now
        exact Or.inr ⟨waits, Or.inl ⟨message, rfl, reply, rfl⟩⟩
      · rw [if_neg same] at now
        cases now
  | answered =>
    exact Or.inl ((List.append_nil shared.posted) ▸ handed)
  | @stopped reason standing =>
    rw [lookup_close] at handed
    rcases Option.or_eq_some_iff.mp handed with before | ⟨-, now⟩
    · exact Or.inl before
    · obtain ⟨waits, now⟩ := Option.ite_none_right_eq_some.mp now
      cases now
      exact Or.inr ⟨waits, Or.inr ⟨reason, rfl, rfl, rfl⟩⟩
  | _ => exact Or.inl handed

theorem Does.closed_of {shared after : SharedLink} {event : Event} (does : Does shared event after)
    {reason : String} (closed : after.link.closed = some reason) :
    shared.link.closed = some reason ∨ event = .stop reason := by
  cases does with
  | @stopped other standing =>
    cases closed
    exact Or.inr rfl
  | _ => exact Or.inl closed

theorem Does.fired_of {shared after : SharedLink} {event : Event} (does : Does shared event after)
    {signal : Nat} (fired : signal ∈ after.fired) :
    signal ∈ shared.fired ∨ event = .move (.fire signal) := by
  cases does with
  | fired other =>
    rcases List.mem_cons.mp fired with rfl | before
    · exact Or.inr rfl
    · exact Or.inl before
  | _ => exact Or.inl fired

theorem Does.muted_of {shared after : SharedLink} {event : Event} (does : Does shared event after)
    (muted : after.muted = true) : shared.muted = true ∨ event = .move .stopWriter := by
  cases does with
  | muted => exact Or.inr rfl
  | _ => exact Or.inl muted

theorem Does.fired_mem {shared after : SharedLink} {event : Event} (does : Does shared event after)
    {signal : Nat} (fired : signal ∈ shared.fired) : signal ∈ after.fired := by
  cases does with
  | fired other => exact List.mem_cons_of_mem other fired
  | _ => exact fired

theorem Does.stays_muted {shared after : SharedLink} {event : Event}
    (does : Does shared event after) (muted : shared.muted = true) : after.muted = true := by
  cases does with
  | muted => rfl
  | _ => exact muted

theorem Moves.ended {shared : SharedLink} {request : Request} {event : Event} {stage : Stage}
    (moves : Moves shared request event stage) {outcome : Outcome}
    (ended : request.stage = .ended outcome) : stage = .ended outcome := by
  cases moves with
  | stays => exact ended
  | registers stage => exact absurd (ended.symm.trans stage) (by simp)
  | refused stage => exact absurd (ended.symm.trans stage) (by simp)
  | sends stage => exact absurd (ended.symm.trans stage) (by simp)
  | fails stage => exact absurd (ended.symm.trans stage) (by simp)
  | collects stage => exact absurd (ended.symm.trans stage) (by simp)
  | withdraws stage => exact absurd (ended.symm.trans stage) (by simp)

theorem run_append (events more : List Event) : run (events ++ more) = (run events).runFrom more :=
  List.foldl_append

theorem run_snoc (events : List Event) (event : Event) :
    run (events ++ [event]) = (run events).step event := run_append events [event]

theorem does_run (events : List Event) (event : Event) :
    Does (run events) event (run (events ++ [event])) := by
  rw [run_snoc]
  exact does_step (run events) event

theorem ended_runFrom {shared : SharedLink} (sound : Sound shared) {id : Nat} {request : Request}
    (found : shared.request? id = some request) {outcome : Outcome}
    (ended : request.stage = .ended outcome) (events : List Event) :
    (shared.runFrom events).request? id = some request := by
  induction events generalizing shared with
  | nil => exact found
  | cons event events ih =>
    have does := does_step shared event
    obtain ⟨stage, kept, moves⟩ := does.moves sound found
    rw [moves.ended ended, ← ended] at kept
    exact ih (sound.does does) kept

end CodeGateway.SharedLink
