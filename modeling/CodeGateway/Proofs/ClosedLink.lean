import CodeGateway.Proofs.SharedRequest

namespace CodeGateway.SharedLink

/-- What has become of a request that waited when the connection ended for this reason, after these
    events: it was handed the reason and ends with it, unless it is taken back before it takes what
    it was handed, or its message was still to be sent when the writer stopped. -/
inductive Fails (reason : String) (waiting : Request) (events : List Event) (shared : SharedLink) :
    Stage → Prop
  | unsent (still : waiting.stage = .registered)
      (handed : shared.posted.lookup waiting.id = some (.error (.closed reason))) :
    Fails reason waiting events shared .registered
  | sent (handed : shared.posted.lookup waiting.id = some (.error (.closed reason))) :
    Fails reason waiting events shared .sent
  | failed : Fails reason waiting events shared (.ended (.error (.closed reason)))
  | takenBack (fired : waiting.signal ∈ shared.fired)
      (withdraws : .move (.withdraw waiting.id) ∈ events) :
    Fails reason waiting events shared (.ended (.error .cancelled))
  | unsendable (still : waiting.stage = .registered) (muted : shared.muted = true) :
    Fails reason waiting events shared (.ended (.error (.closed "writer stopped")))

def Request.Sends (request : Request) (message : Json) : Prop :=
  message = Message.request request.id request.method request.params ∨
    message = Message.cancel request.id

def MaySend (shared : SharedLink) (message : Json) : Prop :=
  ∃ request, shared.request? request.id = some request ∧ request.IsOpen ∧ request.Sends message

theorem Fails.step {shared : SharedLink} (sound : Sound shared) {reason : String}
    {waiting : Request} {past : List Event} {stage : Stage}
    (found : shared.request? waiting.id = some { waiting with stage })
    (fails : Fails reason waiting past shared stage) (event : Event) :
    ∃ stage', (shared.step event).request? waiting.id = some { waiting with stage := stage' } ∧
      Fails reason waiting (past ++ [event]) (shared.step event) stage' := by
  have does := does_step shared event
  obtain ⟨stage', kept, moves⟩ := does.moves sound found
  refine ⟨stage', kept, ?_⟩
  generalize asked : ({ waiting with stage } : Request) = request at moves
  cases fails with
  | unsent still handed =>
    cases moves with
    | stays =>
      subst asked
      exact .unsent still (does.lookup handed)
    | registers numbered => subst asked; cases numbered
    | refused numbered => subst asked; cases numbered
    | sends => exact .sent (does.lookup handed)
    | fails _ muted => exact .unsendable still (does.stays_muted muted)
    | collects sent => subst asked; cases sent
    | withdraws sent => subst asked; cases sent
  | sent handed =>
    cases moves with
    | stays =>
      subst asked
      exact .sent (does.lookup handed)
    | registers numbered => subst asked; cases numbered
    | refused numbered => subst asked; cases numbered
    | sends registered => subst asked; cases registered
    | fails registered => subst asked; cases registered
    | collects _ handed' =>
      subst asked
      rw [handed] at handed'
      cases handed'
      exact .failed
    | withdraws _ fired =>
      subst asked
      exact .takenBack (does.fired_mem fired) (by simp)
  | failed =>
    subst asked
    rw [moves.ended rfl]
    exact .failed
  | takenBack fired withdraws =>
    subst asked
    rw [moves.ended rfl]
    exact .takenBack (does.fired_mem fired) (List.mem_append_left _ withdraws)
  | unsendable still muted =>
    subst asked
    rw [moves.ended rfl]
    exact .unsendable still (does.stays_muted muted)

theorem Fails.runFrom {shared : SharedLink} (sound : Sound shared) {reason : String}
    {waiting : Request} {past : List Event} {stage : Stage}
    (found : shared.request? waiting.id = some { waiting with stage })
    (fails : Fails reason waiting past shared stage) (events : List Event) :
    ∃ stage', (shared.runFrom events).request? waiting.id =
        some { waiting with stage := stage' } ∧
      Fails reason waiting (past ++ events) (shared.runFrom events) stage' := by
  induction events generalizing shared past stage with
  | nil => exact ⟨stage, found, by rwa [List.append_nil]⟩
  | cons event events ih =>
    obtain ⟨stage', kept, fails'⟩ := fails.step sound found event
    obtain ⟨last, kept', fails''⟩ := ih (sound.does (does_step shared event)) kept fails'
    rw [List.append_assoc, List.singleton_append] at fails''
    exact ⟨last, kept', fails''⟩

theorem Fails.collect {shared : SharedLink} {reason : String} {waiting : Request}
    {past : List Event} {stage : Stage}
    (found : shared.request? waiting.id = some { waiting with stage })
    (fails : Fails reason waiting past shared stage)
    (able : stage = .sent ∨ stage = .registered ∧ shared.muted = false) :
    (shared.runFrom [.move (.send waiting.id), .move (.collect waiting.id)]).request? waiting.id =
      some { waiting with stage := .ended (.error (.closed reason)) } := by
  simp only [SharedLink.runFrom, List.foldl_cons, List.foldl_nil, SharedLink.step]
  rcases able with rfl | ⟨rfl, heard⟩
  · cases fails with
    | sent handed =>
      have idle : shared.move (.send waiting.id) = shared := by
        simp [move, proceed, found, Stage.isRegistered]
      have collected := move_collect_of_handed found rfl handed
      rw [idle]
      exact collected
  · cases fails with
    | unsent still handed =>
      have sent : (shared.move (.send waiting.id)).request? waiting.id =
          some { waiting with stage := .sent } := by
        rw [move_send_of_heard found rfl heard]
        exact request?_advance_self found .sent
      have kept : (shared.move (.send waiting.id)).posted.lookup waiting.id =
          some (.error (.closed reason)) := by
        rw [move_send_of_heard found rfl heard]
        exact handed
      have collected := move_collect_of_handed sent rfl kept
      exact collected

theorem hand_sends {shared : SharedLink} {message : Json} (maySend : shared.MaySend message) :
    ∃ sent, (shared.hand [message]).outgoing = shared.outgoing ++ sent ∧
      ∀ message ∈ sent, shared.MaySend message := by
  cases muted : shared.muted with
  | true => exact ⟨[], by simp [hand, muted], by simp⟩
  | false =>
    refine ⟨[message], by simp [hand, muted], ?_⟩
    intro other member
    rw [List.mem_singleton.mp member]
    exact maySend

theorem Does.sends {shared after : SharedLink} {move : Move}
    (does : Does shared (.move move) after) :
    ∃ sent, after.outgoing = shared.outgoing ++ sent ∧
      ∀ message ∈ sent, shared.MaySend message := by
  cases does with
  | sent found stage => exact hand_sends ⟨_, found, Or.inl stage, Or.inl rfl⟩
  | withdrawn found stage => exact hand_sends ⟨_, found, Or.inr stage, Or.inr rfl⟩
  | _ => exact ⟨[], (List.append_nil _).symm, by simp⟩

end CodeGateway.SharedLink
