import CodeGateway.Proofs.OpenDocuments
import CodeGateway.Proofs.SessionOperations

namespace CodeGateway

namespace SharedLink

theorem Running.sends {shared : SharedLink} (running : Running shared) {id signal : Nat}
    {text : RequestText} (among : (id, signal, text) ∈ shared.asked) :
    Message.request id text.1 text.2 ∈
      ((shared.move (.register id)).move (.send id)).outgoing := by
  obtain ⟨stage, found⟩ := running.sound.request?_of_mem_asked among
  have registered := running.linked (.register id)
  have later := (continues_linked running (.register id)).outgoing
  have latest := (continues_linked registered (.send id)).outgoing
  have spoken (earlier : Message.request id text.1 text.2 ∈ shared.outgoing) :
      Message.request id text.1 text.2 ∈
        ((shared.move (.register id)).move (.send id)).outgoing := by
    obtain ⟨sent, grown⟩ := later
    obtain ⟨more, grown'⟩ := latest
    have whole : ((shared.move (.register id)).move (.send id)).outgoing =
        shared.outgoing ++ sent ++ more := by
      rw [← grown]
      exact grown'
    rw [whole, List.append_assoc]
    exact List.mem_append_left _ earlier
  cases stage with
  | numbered =>
    have register := move_register_of_standing found rfl running.standing
    have found' : (shared.move (.register id)).request? id =
        some ⟨id, signal, text.1, text.2, .registered⟩ := by
      rw [register]
      exact request?_advance_self found .registered
    rw [move_send_of_heard found' rfl registered.heard]
    exact List.mem_append_right _ (by simp)
  | registered =>
    have idle : shared.move (.register id) = shared := by
      simp [move, proceed, found, Stage.isNumbered]
    rw [idle, move_send_of_heard found rfl running.heard]
    exact List.mem_append_right _ (by simp)
  | sent => exact spoken (running.spoken id _ found (by simp) (by simp))
  | ended outcome => exact spoken (running.spoken id _ found (by simp) (by simp))

end SharedLink

namespace SharedSession

variable {session after : SharedSession} {n : Nat} {call : Call} {disk : Disk}

theorem Does.keeps {event : Event} (does : Does session event after)
    (found : session.calls[n]? = some call) :
    ∃ later, after.calls[n]? = some later ∧ later.query = call.query := by
  cases does with
  | nothing => exact ⟨call, found, rfl⟩
  | linked => exact ⟨call, found, rfl⟩
  | called => exact ⟨call, getElem?_append_of_found found _, rfl⟩
  | @turned m other after event shared holder given turn =>
    dsimp only
    rw [getElem?_set given]
    by_cases same : n = m
    · subst same
      rw [found] at given
      cases given
      refine ⟨after, if_pos rfl, ?_⟩
      cases turn <;> rfl
    · exact ⟨call, by rw [if_neg same, found], rfl⟩

theorem runFrom_keeps (found : session.calls[n]? = some call) (events : List Event) :
    ∃ later, (session.runFrom events).calls[n]? = some later ∧ later.query = call.query := by
  induction events generalizing session call with
  | nil => exact ⟨call, found, rfl⟩
  | cons event events ih =>
    obtain ⟨middle, found', same⟩ := (does_step session event).keeps found
    obtain ⟨later, found'', same'⟩ := ih found'
    exact ⟨later, found'', same'.trans same⟩

/-- Steps that lead from one session to another while the disk is this one. -/
def Reaches (disk : Disk) (session after : SharedSession) : Prop :=
  ∃ events, (∀ n other, .read n other ∈ events → other = disk) ∧ session.runFrom events = after

theorem Reaches.refl (disk : Disk) (session : SharedSession) : Reaches disk session session :=
  ⟨[], by simp, rfl⟩

theorem Reaches.trans {later : SharedSession} (first : Reaches disk session after)
    (second : Reaches disk after later) : Reaches disk session later := by
  obtain ⟨events, reads, rfl⟩ := first
  obtain ⟨more, reads', rfl⟩ := second
  refine ⟨events ++ more, ?_, runFrom_append session events more⟩
  intro n other among
  rcases List.mem_append.mp among with before | later
  · exact reads n other before
  · exact reads' n other later

theorem reaches_runFrom (session : SharedSession) (events : List Event)
    (reads : ∀ n other, .read n other ∈ events → other = disk) :
    Reaches disk session (session.runFrom events) := ⟨events, reads, rfl⟩

theorem reaches_step (session : SharedSession) (event : Event)
    (reads : ∀ n other, event = .read n other → other = disk) :
    Reaches disk session (session.step event) := by
  refine reaches_runFrom session [event] ?_
  intro n other among
  exact reads n other (List.mem_singleton.mp among).symm

theorem Reaches.orderly (reaches : Reaches disk session after) (orderly : Orderly session) :
    Orderly after := by
  obtain ⟨events, -, rfl⟩ := reaches
  exact orderly.runFrom events

theorem Reaches.grown (reaches : Reaches disk session after) (orderly : Orderly session) :
    ∃ sent, after.shared.outgoing = session.shared.outgoing ++ sent := by
  obtain ⟨events, -, rfl⟩ := reaches
  exact orderly.grown_runFrom events

theorem Reaches.keeps (reaches : Reaches disk session after)
    (found : session.calls[n]? = some call) :
    ∃ later, after.calls[n]? = some later ∧ later.query = call.query := by
  obtain ⟨events, -, rfl⟩ := reaches
  exact runFrom_keeps found events

theorem reaches_free (orderly : Orderly session) (disk : Disk) :
    ∃ after, Reaches disk session after ∧ after.holder = none := by
  cases holder : session.holder with
  | none => exact ⟨session, .refl disk session, holder⟩
  | some m =>
    obtain ⟨call, found⟩ := orderly.holder m holder
    have holds := (orderly.holds m call found).mpr holder
    cases stage : call.stage with
    | reading url path =>
      refine ⟨_, reaches_step session (.read m disk) (by simp), ?_⟩
      rw [step, proceed_of_found found]
      simp only [read, stage, orderly.running.heard, Bool.false_eq_true, if_false]
      split <;> rfl
    | closing result =>
      have closed := runFrom_closeDocuments orderly.running.heard found stage
      have found' : (session.runFrom (session.shared.link.opened.map (.close m))).calls[m]? =
          some call := by
        rw [closed]
        exact found
      have released := step_release found' stage (by rw [closed]; rfl)
      refine ⟨_, (reaches_runFrom session (session.shared.link.opened.map (.close m)) ?_).trans
        (reaches_step _ (.release m) (by simp)), ?_⟩
      · intro k other among
        obtain ⟨name, -, same⟩ := List.mem_map.mp among
        cases same
      · rw [released]
    | queued => simp [stage, Stage.holds] at holds
    | asking => simp [stage, Stage.holds] at holds
    | forgotten => simp [stage, Stage.holds] at holds
    | ended => simp [stage, Stage.holds] at holds

theorem reaches_asking (orderly : Orderly session) (found : session.calls[n]? = some call)
    (disk : Disk) :
    ∃ after later, Reaches disk session after ∧ after.calls[n]? = some later ∧
      later.query = call.query ∧ (later.stage = .asking ∨ later.stage.isOver = true) := by
  obtain ⟨free, reaches, nobody⟩ := reaches_free orderly disk
  have orderly' := reaches.orderly orderly
  obtain ⟨middle, found', same⟩ := reaches.keeps found
  have notHolder := orderly'.holds n middle found'
  rw [nobody] at notHolder
  cases stage : middle.stage with
  | queued url =>
    obtain ⟨-, names⟩ := (orderly'.fits n middle found').queued url stage
    have isFile := (Query.isFile_of_file? names).1
    have opened := runFrom_openDocument orderly'.running.heard found' stage isFile nobody disk
    refine ⟨_, { middle with stage := .asking },
      reaches.trans (reaches_runFrom free [.lock n, .read n disk] (by simp)), ?_, same, Or.inl rfl⟩
    rw [opened]
    exact found_update found' _
  | asking => exact ⟨free, middle, reaches, found', same, Or.inl stage⟩
  | forgotten => exact ⟨free, middle, reaches, found', same, Or.inr (by rw [stage]; rfl)⟩
  | ended => exact ⟨free, middle, reaches, found', same, Or.inr (by rw [stage]; rfl)⟩
  | reading => simp [stage, Stage.holds] at notHolder
  | closing => simp [stage, Stage.holds] at notHolder

theorem reaches_made (found : session.calls[n]? = some call) (stage : call.stage = .asking)
    (disk : Disk) :
    ∃ after later, Reaches disk session after ∧ after.calls[n]? = some later ∧
      later.query = call.query ∧ later.left = [] := by
  generalize remaining : call.left = left
  induction left generalizing session call with
  | nil => exact ⟨session, call, .refl disk session, found, rfl, remaining⟩
  | cons request left ih =>
    have asked := step_ask found stage remaining
    have found' : (session.step (.ask n)).calls[n]? = some
        { call with made := call.made ++ [session.shared.link.nextId], left } := by
      rw [asked]
      exact found_update found _
    obtain ⟨after, later, reaches, found'', same, all⟩ := ih found' stage rfl
    have first : Reaches disk session (session.step (.ask n)) := reaches_step session _ (by simp)
    exact ⟨after, later, first.trans reaches, found'', same, all⟩

theorem reaches_sent (orderly : Orderly session) (disk : Disk)
    (entries : List (Nat × Nat × RequestText))
    (made : ∀ entry ∈ entries, entry ∈ session.shared.asked) :
    ∃ after, Reaches disk session after ∧ after.calls = session.calls ∧
      ∀ id signal text, (id, signal, text) ∈ entries →
        Message.request id text.1 text.2 ∈ after.shared.outgoing := by
  induction entries generalizing session with
  | nil => exact ⟨session, .refl disk session, rfl, by simp⟩
  | cons entry entries ih =>
    obtain ⟨id, signal, text⟩ := entry
    have first : Reaches disk session
        (session.runFrom [.link (.register id), .link (.send id)]) :=
      reaches_runFrom session _ (by simp)
    have orderly' := first.orderly orderly
    have later := SharedLink.continues_linked orderly.running (.register id)
    have latest := SharedLink.continues_linked (orderly.running.linked (.register id)) (.send id)
    have made' : ∀ entry ∈ entries,
        entry ∈ (session.runFrom [.link (.register id), .link (.send id)]).shared.asked :=
      fun entry among => latest.asked _ (later.asked _ (made _ (List.mem_cons_of_mem _ among)))
    obtain ⟨after, reaches, calls, sent⟩ := ih orderly' made'
    refine ⟨after, first.trans reaches, calls, ?_⟩
    intro other signal' text' among
    rcases List.mem_cons.mp among with now | among
    · cases now
      obtain ⟨more, grown⟩ := reaches.grown orderly'
      rw [grown]
      exact List.mem_append_left _ (orderly.running.sends (made _ List.mem_cons_self))
    · exact sent other signal' text' among

def HasAsked (session : SharedSession) (n : Nat) (query : Query) : Prop :=
  ∃ call, session.calls[n]? = some call ∧ call.query = query ∧
    List.Forall₂ (fun id text => Message.request id text.1 text.2 ∈ session.shared.outgoing)
      call.made query.wanted

theorem hasAsked_of_isOver (orderly : Orderly session) (found : session.calls[n]? = some call)
    (isOver : call.stage.isOver = true) : HasAsked session n call.query := by
  have fits := orderly.fits n call found
  obtain ⟨all, ended⟩ := fits.finished isOver
  obtain ⟨done, whole, made⟩ := fits.split
  rw [all, List.append_nil] at whole
  rw [← whole] at made
  have both := (List.forall₂_and_left _ _).mpr
    ⟨fun id (among : id ∈ call.made) => among, made⟩
  refine ⟨call, found, rfl, both.imp ?_⟩
  rintro id text ⟨among, asked⟩
  obtain ⟨stage, given⟩ := orderly.running.sound.request?_of_mem_asked asked
  obtain ⟨outcome, hasEnded⟩ := ended id among
  obtain ⟨request, found', isEnded⟩ := SharedLink.outcome?_eq_some_iff.mp hasEnded
  cases given.symm.trans found'
  dsimp only at isEnded
  subst isEnded
  exact orderly.running.spoken id _ given (by simp) (by simp)

theorem reaches_hasAsked (orderly : Orderly session) (found : session.calls[n]? = some call)
    (disk : Disk) : ∃ after, Reaches disk session after ∧ HasAsked after n call.query := by
  obtain ⟨first, asking, reaches, found', same, stage | isOver⟩ := reaches_asking orderly found disk
  · have orderly' := reaches.orderly orderly
    obtain ⟨second, later, reaches', found'', same', all⟩ := reaches_made found' stage disk
    have orderly'' := reaches'.orderly orderly'
    obtain ⟨done, whole, made⟩ := (orderly''.fits n later found'').split
    rw [all, List.append_nil] at whole
    rw [← whole] at made
    obtain ⟨after, reaches'', calls, sent⟩ := reaches_sent orderly'' disk
      second.shared.asked fun _ => id
    have kept : after.calls[n]? = some later := by rw [calls, found'']
    refine ⟨after, (reaches.trans reaches').trans reaches'', later, kept, same'.trans same, ?_⟩
    rw [← same, ← same']
    exact made.imp fun id text asked => sent id later.signal text asked
  · have orderly' := reaches.orderly orderly
    rw [← same]
    exact ⟨first, reaches, hasAsked_of_isOver orderly' found' isOver⟩

end SharedSession

end CodeGateway
