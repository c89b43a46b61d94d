import CodeGateway.Proofs.CallResults

namespace CodeGateway

namespace SharedLink

def Unsendable (shared : SharedLink) (failure : Failure) : Prop :=
  failure = .closed "writer stopped" ∨
    ∃ reason, shared.link.closed = some reason ∧ failure = .closed reason

theorem Unsendable.later {shared after : SharedLink} {failure : Failure}
    (unsendable : shared.Unsendable failure)
    (closed : ∀ reason, shared.link.closed = some reason → after.link.closed = some reason) :
    after.Unsendable failure := by
  rcases unsendable with stopped | ⟨reason, isClosed, same⟩
  · exact Or.inl stopped
  · exact Or.inr ⟨reason, closed reason isClosed, same⟩

structure Mute (first : Nat) (shared : SharedLink) : Prop where
  sound : Sound shared
  muted : shared.muted = true
  late : first ≤ shared.link.nextId
  unsent : ∀ id request, first ≤ id → shared.request? id = some request →
    request.stage = .numbered ∨ request.stage = .registered ∨
      ∃ failure, shared.Unsendable failure ∧ request.stage = .ended (.error failure)

section Does

variable {shared after : SharedLink} {event : Event}

theorem Does.nextId_le (does : Does shared event after) :
    shared.link.nextId ≤ after.link.nextId := by
  cases does with
  | began => exact Nat.le_succ _
  | _ => exact Nat.le_refl _

theorem Does.silent (does : Does shared event after) (muted : shared.muted = true) :
    after.outgoing = shared.outgoing := by
  cases does with
  | sent _ _ heard => cases heard.symm.trans muted
  | withdrawn => simp [hand, advance, muted]
  | replied => simp [absorb, hand, muted]
  | answered => simp [absorb, hand, muted]
  | stopped => simp [absorb, hand, muted]
  | _ => rfl

theorem Mute.does {first : Nat} (mute : Mute first shared) (does : Does shared event after) :
    Mute first after := by
  refine ⟨mute.sound.does does, does.stays_muted mute.muted, mute.late.trans does.nextId_le, ?_⟩
  intro id request behind found
  cases before : shared.request? id with
  | none => exact Or.inl (does.numbered before found).2
  | some earlier =>
    obtain ⟨stage, kept, moves⟩ := does.moves mute.sound before
    cases found.symm.trans kept
    have early := mute.unsent id earlier behind before
    cases moves with
    | stays =>
      rcases early with numbered | registered | ⟨failure, unsendable, ended⟩
      · exact Or.inl numbered
      · exact Or.inr (Or.inl registered)
      · exact Or.inr (Or.inr ⟨failure, unsendable.later fun _ => does.closed, ended⟩)
    | registers => exact Or.inr (Or.inl rfl)
    | refused _ closed => exact Or.inr (Or.inr ⟨_, Or.inr ⟨_, does.closed closed, rfl⟩, rfl⟩)
    | sends _ heard => cases heard.symm.trans mute.muted
    | fails => exact Or.inr (Or.inr ⟨_, Or.inl rfl, rfl⟩)
    | collects sent => simp [sent] at early
    | withdraws sent => simp [sent] at early

end Does

theorem Mute.outcome {first : Nat} {shared : SharedLink} (mute : Mute first shared) {id : Nat}
    (behind : first ≤ id) {outcome : Outcome} (ended : shared.outcome? id = some outcome) :
    ∃ failure, shared.Unsendable failure ∧ outcome = .error failure := by
  obtain ⟨request, found, stage⟩ := outcome?_eq_some_iff.mp ended
  rcases mute.unsent id request behind found with
    numbered | registered | ⟨failure, unsendable, same⟩
  · cases numbered.symm.trans stage
  · cases registered.symm.trans stage
  · cases same.symm.trans stage
    exact ⟨failure, unsendable, rfl⟩

end SharedLink

theorem Query.wanted_ne_nil {query : Query} {requests : List RequestText}
    (asked : query.requests = .ok requests) : query.wanted ≠ [] := by
  rw [wanted_of_ok asked]
  unfold Query.requests at asked
  split at asked
  · split at asked
    · cases asked
      simp [symbolRequests]
    · cases asked
  · cases asked
    simp
  · cases asked
    simp

theorem Query.conclude_of_first {query : Query} {outcomes : List Outcome} {failure : Failure}
    (failed : Query.first outcomes = .error failure) :
    query.conclude outcomes = .error failure := by
  cases query with
  | symbolInfo => rw [conclude, failed]; rfl
  | reindex => rw [conclude, failed]; rfl
  | _ => rw [conclude, failed, commandReply]

namespace SharedSession

open SharedLink (Mute)

structure Call.Late (first : Nat) (shared : SharedLink) (call : Call) : Prop where
  made : ∀ id ∈ call.made, first ≤ id
  whole : call.made.length + call.left.length = call.query.wanted.length
  refused : ∀ failure, call.query.requests = .error failure →
    call.stage = .ended (.error failure)
  fails : ∀ result, call.stage.result? = some result → ∃ failure, result = .error failure ∧
    (call.query.requests = .error failure ∨ shared.Unsendable failure)

theorem late_start (first : Nat) (shared : SharedLink) (signal : Nat) (query : Query) :
    (Call.start signal query).Late first shared := by
  unfold Call.start
  split
  · rename_i failure refused
    refine ⟨by simp, by simp [Query.wanted_of_error refused], by simp [refused], ?_⟩
    intro result has
    cases has
    exact ⟨failure, rfl, Or.inl refused⟩
  · rename_i requests accepted
    have whole := Query.wanted_of_ok accepted
    split
    · exact ⟨by simp, by simp [whole], by simp [accepted], fun _ has => by cases has⟩
    · exact ⟨by simp, by simp [whole], by simp [accepted], fun _ has => by cases has⟩

section Call

variable {first : Nat} {shared after : SharedLink} {call : Call}

theorem Call.Late.later (late : call.Late first shared)
    (closed : ∀ reason, shared.link.closed = some reason → after.link.closed = some reason) :
    call.Late first after := by
  refine ⟨late.made, late.whole, late.refused, fun result has => ?_⟩
  obtain ⟨failure, same, refused | unsendable⟩ := late.fails result has
  · exact ⟨failure, same, Or.inl refused⟩
  · exact ⟨failure, same, Or.inr (unsendable.later closed)⟩

theorem Call.Late.goOn (late : call.Late first shared)
    (notEnded : ∀ result, call.stage ≠ .ended result) {stage : Stage call.query}
    (fails : ∀ result, stage.result? = some result → ∃ failure, result = .error failure ∧
      (call.query.requests = .error failure ∨ shared.Unsendable failure)) :
    Call.Late first shared { call with stage } := by
  refine ⟨late.made, late.whole, ?_, fails⟩
  intro failure refused
  exact absurd (late.refused failure refused) (notEnded _)

theorem Call.Late.conclude (late : call.Late first shared) (mute : Mute first shared)
    (stage : call.stage = .asking) (all : call.left = []) {outcomes : List Outcome}
    (ended : call.made.mapM shared.outcome? = some outcomes) :
    ∃ failure, shared.Unsendable failure ∧ call.query.conclude outcomes = .error failure := by
  have some' : call.made ≠ [] := by
    intro nothing
    have whole := late.whole
    simp only [nothing, all, List.length_nil] at whole
    cases asked : call.query.requests with
    | error failure => cases stage.symm.trans (late.refused failure asked)
    | ok requests => exact Query.wanted_ne_nil asked (List.length_eq_zero_iff.mp whole.symm)
  obtain ⟨id, rest, made⟩ := List.exists_cons_of_ne_nil some'
  have every := forall₂_of_mapM ended
  rw [made] at every
  cases every with
  | cons here =>
    obtain ⟨failure, unsendable, rfl⟩ := mute.outcome (late.made id (by simp [made])) here
    exact ⟨failure, unsendable, Query.conclude_of_first rfl⟩

end Call

section Turn

variable {first : Nat} {session : SharedSession} {n : Nat} {call later : Call} {event : Event}
  {shared : SharedLink} {holder : Option Nat}

theorem Turn.late (mute : Mute first session.shared) (late : call.Late first session.shared)
    (turn : Turn session n call event shared later holder) : later.Late first shared := by
  have stopped {result : Except Failure call.query.Reply}
      (has : Stage.result? (.ended (.error (.closed "writer stopped"))) = some result) :
      ∃ failure, result = .error failure ∧
        (call.query.requests = .error failure ∨ session.shared.Unsendable failure) := by
    cases has
    exact ⟨_, rfl, Or.inr (Or.inl rfl)⟩
  cases turn with
  | passes stage => exact late.goOn (by simp [stage]) fun _ has => by cases has
  | locks stage => exact late.goOn (by simp [stage]) fun _ has => by cases has
  | fails stage => exact late.goOn (by simp [stage]) fun _ has => by cases has
  | opens _ _ heard => cases heard.symm.trans mute.muted
  | closes _ _ heard => cases heard.symm.trans mute.muted
  | refused stage => exact late.goOn (by simp [stage]) fun _ => stopped
  | abandons stage => exact (late.goOn (by simp [stage]) fun _ => stopped).later fun _ => id
  | @asks method params left stage next =>
    refine ⟨?_, ?_, ?_, ?_⟩
    · intro id among
      rcases List.mem_append.mp among with before | now
      · exact late.made id before
      · rw [List.mem_singleton.mp now]
        exact mute.late
    · rw [← late.whole, next]
      simp only [List.length_append, List.length_cons, List.length_nil]
      omega
    · exact late.refused
    · intro result has
      rw [stage] at has
      cases has
  | concludes stage all ended =>
    obtain ⟨failure, unsendable, same⟩ := late.conclude mute stage all ended
    refine late.goOn (by simp [stage]) ?_
    intro result has
    rw [Stage.result?_conclude, same] at has
    cases has
    exact ⟨failure, rfl, Or.inr unsendable⟩
  | takes stage =>
    exact late.goOn (by simp [stage]) fun result has => late.fails result (by rw [stage]; exact has)
  | releases stage =>
    exact late.goOn (by simp [stage]) fun result has => late.fails result (by rw [stage]; exact has)

theorem Turn.mute (mute : Mute first session.shared)
    (turn : Turn session n call event shared later holder) : Mute first shared := by
  cases turn with
  | opens _ _ heard => cases heard.symm.trans mute.muted
  | closes _ _ heard => cases heard.symm.trans mute.muted
  | asks => exact mute.does (.began _ _ _)
  | abandons =>
    obtain ⟨sound, muted, late, unsent⟩ := mute
    exact ⟨⟨sound.distinct, sound.counted, sound.once, sound.waits, sound.handed, sound.closed⟩,
      muted, late, unsent⟩
  | _ => exact mute

theorem Turn.silent (muted : session.shared.muted = true)
    (turn : Turn session n call event shared later holder) :
    shared.outgoing = session.shared.outgoing ∧ shared.link.closed = session.shared.link.closed ∧
      (shared.link.opened = session.shared.link.opened ∨ shared.link.opened = []) := by
  cases turn with
  | opens _ _ heard => cases heard.symm.trans muted
  | closes _ _ heard => cases heard.symm.trans muted
  | abandons => exact ⟨rfl, rfl, Or.inr rfl⟩
  | _ => exact ⟨rfl, rfl, Or.inl rfl⟩

end Turn

/-- What has become of a session since its writer stopped. -/
structure Silenced (before session : SharedSession) : Prop where
  mute : Mute before.shared.link.nextId session.shared
  outgoing : session.shared.outgoing = before.shared.outgoing
  opened : session.shared.link.opened = before.shared.link.opened ∨
    session.shared.link.opened = []
  late : ∀ (n : Nat) (call : Call), before.calls.length ≤ n → session.calls[n]? = some call →
    call.Late before.shared.link.nextId session.shared

section Silenced

variable {before session after : SharedSession}

theorem silenced_stopWriter (sound : SharedLink.Sound session.shared) :
    Silenced session session.stopWriter := by
  refine ⟨⟨sound.does .muted, rfl, Nat.le_refl _, ?_⟩, rfl, Or.inl rfl, ?_⟩
  · intro id request behind found
    have given := sound.lt_of_mem_asked (SharedLink.mem_asked_of_request? found)
    exact absurd behind (Nat.not_le.mpr given)
  · intro n call behind found
    obtain ⟨bound, -⟩ := List.getElem?_eq_some_iff.mp found
    exact absurd behind (Nat.not_le.mpr bound)

theorem Silenced.linked (silenced : Silenced before session) (event : SharedLink.Event) :
    Silenced before { session with shared := session.shared.step event } := by
  have does := SharedLink.does_step session.shared event
  obtain ⟨mute, outgoing, opened, late⟩ := silenced
  refine ⟨mute.does does, (does.silent mute.muted).trans outgoing, ?_, ?_⟩
  · rw [does.opened]
    exact opened
  · intro n call behind found
    exact (late n call behind found).later fun _ => does.closed

theorem Silenced.turned (silenced : Silenced before session) {n : Nat} {call later : Call}
    {event : Event} {shared : SharedLink} {holder : Option Nat}
    (found : session.calls[n]? = some call)
    (turn : Turn session n call event shared later holder) :
    Silenced before ⟨shared, session.calls.set n later, holder⟩ := by
  obtain ⟨mute, outgoing, opened, late⟩ := silenced
  obtain ⟨same, closed, kept⟩ := turn.silent mute.muted
  refine ⟨turn.mute mute, same.trans outgoing, ?_, ?_⟩
  · rcases kept with kept | none
    · rw [kept]
      exact opened
    · exact Or.inr none
  · intro m other behind given
    rw [getElem?_set found] at given
    split at given
    · rename_i equal
      subst equal
      cases given
      exact turn.late mute (late m call behind found)
    · exact (late m other behind given).later fun _ => closed.trans

theorem Silenced.meet (silenced : Silenced before session) (incident : Incident) :
    Silenced before (session.meet incident) := by
  cases incident with
  | stop reason => exact silenced.linked (.stop reason)
  | step event =>
    have does := does_step session event
    rw [SharedSession.meet]
    generalize session.step event = after at does ⊢
    cases does with
    | nothing => exact silenced
    | linked step => exact silenced.linked step.event
    | turned found turn => exact silenced.turned found turn
    | called signal query =>
      refine ⟨silenced.mute, silenced.outgoing, silenced.opened, ?_⟩
      intro n call behind given
      rcases getElem?_snoc given with found | ⟨-, rfl⟩
      · exact silenced.late n call behind found
      · exact late_start _ _ signal query

theorem Silenced.meetAll (silenced : Silenced before session) (incidents : List Incident) :
    Silenced before (session.meetAll incidents) := by
  induction incidents generalizing session with
  | nil => exact silenced
  | cons incident incidents ih => exact ih (silenced.meet incident)

end Silenced

/-- Once the writer has stopped, nothing is sent and no further document counts as sent, whatever
    happens; and a call that is put from then on fails, unless it does not end at all. -/
theorem stopped_writer (past incidents : List Incident) :
    let session := after past
    let later := session.stopWriter.meetAll incidents
    later.shared.outgoing = session.shared.outgoing ∧
      (later.shared.link.opened = session.shared.link.opened ∨ later.shared.link.opened = []) ∧
      ∀ (n : Nat) (call : Call) (result : Except Failure call.query.Reply),
        session.calls.length ≤ n → later.calls[n]? = some call → call.stage = .ended result →
          ∃ failure, result = .error failure ∧
            (call.query.requests = .error failure ∨ later.shared.Unsendable failure) := by
  intro session later
  have silenced : Silenced session later :=
    (silenced_stopWriter (honest_after past).sound).meetAll incidents
  refine ⟨silenced.outgoing, silenced.opened, ?_⟩
  intro n call result behind found ended
  exact (silenced.late n call behind found).fails result (by rw [ended]; rfl)

end SharedSession

end CodeGateway
