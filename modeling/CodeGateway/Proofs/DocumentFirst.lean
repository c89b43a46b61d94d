import CodeGateway.Proofs.OpenDocuments

namespace CodeGateway

namespace Message

def OpenedSince (earlier : List Json) (name : String) (messages : List Json) : Prop :=
  ∃ later, messages = earlier ++ later ∧ ∃ message ∈ later, opened? message = some name

def Introduced (earlier : List Json) (name : String) (id : Nat) (messages : List Json) : Prop :=
  ∀ front method params back, messages = front ++ request id method params :: back →
    OpenedSince earlier name front

variable {earlier messages : List Json} {name : String} {id : Nat}

theorem OpenedSince.append (opened : OpenedSince earlier name messages) (more : List Json) :
    OpenedSince earlier name (messages ++ more) := by
  obtain ⟨later, rfl, message, among, same⟩ := opened
  exact ⟨later ++ more, List.append_assoc _ _ _, message, List.mem_append_left _ among, same⟩

theorem openedSince_didOpen (begun : ∃ later, messages = earlier ++ later)
    (url language text : String) :
    OpenedSince earlier url (messages ++ [didOpen url language text]) := by
  obtain ⟨later, rfl⟩ := begun
  refine ⟨later ++ [didOpen url language text], List.append_assoc _ _ _, _, ?_,
    opened?_didOpen url language text⟩
  exact List.mem_append_right _ (by simp)

theorem introduced_of_unsent (unsent : ∀ method params, request id method params ∉ messages) :
    Introduced earlier name id messages := by
  intro front method params back split
  refine absurd ?_ (unsent method params)
  rw [split]
  exact List.mem_append_right _ (by simp)

theorem Introduced.append (introduced : Introduced earlier name id messages)
    (opened : OpenedSince earlier name messages) (more : List Json) :
    Introduced earlier name id (messages ++ more) := by
  intro front method params back split
  rcases List.append_eq_append_iff.mp split with ⟨passed, rfl, -⟩ | ⟨rest, whole, remains⟩
  · exact opened.append passed
  · cases rest with
    | nil =>
      rw [List.append_nil] at whole
      rwa [← whole]
    | cons first rest =>
      rw [List.cons_append, List.cons.injEq] at remains
      obtain ⟨rfl, -⟩ := remains
      exact introduced front method params rest whole

end Message

namespace SharedSession

open Message (OpenedSince Introduced)

namespace Stage

def waits {query : Query} : Stage query → Bool
  | queued _ => true
  | reading _ _ => true
  | _ => false

end Stage

/-- The document of a call has no path here, or there was no text to be read when the call came to
    read it. -/
def Unreadable (events : List Event) (n : Nat) (url : Url) : Prop :=
  url.filePath? = none ∨ ∃ before disk after path call,
    events = before ++ .read n disk :: after ∧ (run before).calls[n]? = some call ∧
      call.stage = .reading url path ∧ url.filePath? = some path ∧ disk path = none

theorem Unreadable.append {events : List Event} {n : Nat} {url : Url}
    (unreadable : Unreadable events n url) (more : List Event) :
    Unreadable (events ++ more) n url := by
  rcases unreadable with nowhere | ⟨before, disk, after, path, call, rfl, rest⟩
  · exact Or.inl nowhere
  · exact Or.inr ⟨before, disk, after ++ more, path, call, by simp, rest⟩

/-- The document of a call, unless the call waits for it or could not read it, has been opened since
    and in front of the requests that the call has made. -/
def Sees (earlier : List Json) (events : List Event) (messages : List Json) (n : Nat)
    (call : Call) : Prop :=
  ∀ url, call.query.file? = some url →
    call.stage.waits = true ∨ Unreadable events n url ∨
      OpenedSince earlier url.toString messages ∧
        ∀ id ∈ call.made, Introduced earlier url.toString id messages

theorem Orderly.made_of_waits {session : SharedSession} (orderly : Orderly session) {n : Nat}
    {call : Call} (found : session.calls[n]? = some call) (waits : call.stage.waits = true) :
    call.made = [] := by
  have fits := orderly.fits n call found
  cases stage : call.stage with
  | queued url => exact (fits.queued url stage).1
  | reading url path => exact (fits.reading url path stage).1
  | _ => simp [stage, Stage.waits] at waits

theorem Sees.append {earlier messages : List Json} {events : List Event} {n : Nat} {call : Call}
    (sees : Sees earlier events messages n call) (more : List Event) (sent : List Json) :
    Sees earlier (events ++ more) (messages ++ sent) n call := by
  intro url names
  rcases sees url names with waits | unreadable | ⟨opened, introduced⟩
  · exact Or.inl waits
  · exact Or.inr (Or.inl (unreadable.append more))
  · exact Or.inr (Or.inr ⟨opened.append sent,
      fun id among => (introduced id among).append opened sent⟩)

theorem Sees.goOn {earlier messages : List Json} {events : List Event} {n : Nat} {call : Call}
    (sees : Sees earlier events messages n call) (seen : call.stage.waits = false)
    (event : Event) (stage : Stage call.query) :
    Sees earlier (events ++ [event]) messages n { call with stage } := by
  intro url names
  rcases sees url names with waits | unreadable | behind
  · rw [seen] at waits
    cases waits
  · exact Or.inr (Or.inl (unreadable.append _))
  · exact Or.inr (Or.inr behind)

def Renewed (earlier : List Json) (session : SharedSession) : Prop :=
  (∃ (n : Nat) (call : Call) (result : Except Failure call.query.Reply),
    session.calls[n]? = some call ∧ call.stage = .closing result) ∨
  ∀ name ∈ session.shared.link.opened, OpenedSince earlier name session.shared.outgoing

/-- How a session serves the calls that are concerned, since these earlier messages were sent. -/
structure Serves (earlier : List Json) (concerned : Nat → Prop) (events : List Event) : Prop where
  begun : ∃ later, (run events).shared.outgoing = earlier ++ later
  renewed : Renewed earlier (run events)
  sees : ∀ (n : Nat) (call : Call), concerned n → (run events).calls[n]? = some call →
    Sees earlier events (run events).shared.outgoing n call

section Turn

variable {earlier : List Json} {events : List Event} {n : Nat} {call after : Call} {event : Event}
  {shared : SharedLink} {holder : Option Nat}

theorem Renewed.turned {session : SharedSession} (renewed : Renewed earlier session)
    (running : SharedLink.Running session.shared)
    (begun : ∃ later, session.shared.outgoing = earlier ++ later)
    (found : session.calls[n]? = some call)
    (turn : Turn session n call event shared after holder) :
    Renewed earlier ⟨shared, session.calls.set n after, holder⟩ := by
  rcases renewed with ⟨m, other, result, given, closing⟩ | renewed
  · by_cases same : m = n
    · subst same
      rw [found] at given
      cases given
      cases turn with
      | closes =>
        have kept : (session.calls.set m call)[m]? = some call := by
          rw [set_self found, found]
        exact Or.inl ⟨m, call, result, kept, closing⟩
      | releases stage none =>
        refine Or.inr fun name among => ?_
        rw [none] at among
        cases among
      | abandons => exact Or.inr fun name among => by cases among
      | passes stage | locks stage | fails stage | opens stage | refused stage | asks stage
      | concludes stage | takes stage => cases closing.symm.trans stage
    · have kept : (session.calls.set n after)[m]? = some other := by
        rw [getElem?_set found, if_neg same, given]
      exact Or.inl ⟨m, other, result, kept, closing⟩
  · obtain ⟨sent, grown⟩ := (turn.continues running.heard).outgoing
    refine Or.inr fun name among => ?_
    have before (isOpen : name ∈ session.shared.link.opened) :
        OpenedSince earlier name shared.outgoing := by
      rw [grown]
      exact (renewed name isOpen).append sent
    cases turn with
    | @opens url path disk text =>
      rcases List.mem_append.mp among with isOpen | now
      · exact before isOpen
      · rw [List.mem_singleton.mp now]
        show OpenedSince earlier _ (session.shared.absorb _).outgoing
        rw [SharedLink.outgoing_absorb running.heard]
        exact Message.openedSince_didOpen begun _ _ _
    | closes => exact before (List.mem_of_mem_erase among)
    | abandons => cases among
    | _ => exact before among

theorem Sees.turned (sees : Sees earlier events (run events).shared.outgoing n call)
    (renewed : Renewed earlier (run events))
    (begun : ∃ later, (run events).shared.outgoing = earlier ++ later)
    (found : (run events).calls[n]? = some call)
    (turn : Turn (run events) n call event shared after holder) :
    Sees earlier (events ++ [event]) shared.outgoing n after := by
  have orderly := orderly_run events
  have running := orderly.running
  have fits := orderly.fits n call found
  cases turn with
  | @passes url stage free reason =>
    obtain ⟨made, names⟩ := fits.queued url stage
    intro other names'
    cases names.symm.trans names'
    rcases reason with isOpen | nowhere
    · rcases renewed with ⟨m, closer, result, given, closing⟩ | renewed
      · have holds := (orderly.holds m closer given).mp (by rw [closing]; rfl)
        rw [free] at holds
        cases holds
      · exact Or.inr (Or.inr ⟨renewed _ isOpen, by simp [made]⟩)
    · exact Or.inr (Or.inl (Or.inl nowhere))
  | locks => exact fun _ _ => Or.inl rfl
  | @fails url path disk stage missing =>
    obtain ⟨-, somewhere⟩ := orderly.reads n call url path found stage
    obtain ⟨-, names⟩ := fits.reading url path stage
    intro other names'
    cases names.symm.trans names'
    exact Or.inr (Or.inl (Or.inr
      ⟨events, disk, [], path, call, rfl, found, stage, somewhere, missing⟩))
  | @opens url path disk text stage =>
    obtain ⟨made, names⟩ := fits.reading url path stage
    intro other names'
    cases names.symm.trans names'
    refine Or.inr (Or.inr ⟨?_, by simp [made]⟩)
    rw [SharedLink.outgoing_absorb running.heard]
    exact Message.openedSince_didOpen begun _ _ _
  | refused _ _ muted => cases running.heard.symm.trans muted
  | asks stage =>
    intro url names
    rcases sees url names with waits | unreadable | ⟨opened, introduced⟩
    · rw [stage] at waits
      cases waits
    · exact Or.inr (Or.inl (unreadable.append _))
    · refine Or.inr (Or.inr ⟨opened, ?_⟩)
      intro id among
      rcases List.mem_append.mp among with before | now
      · exact introduced id before
      · -- The number has not been given out before, so nothing has been sent under it.
        refine Message.introduced_of_unsent fun method params sent => ?_
        obtain ⟨signal, asked⟩ := running.made id method params sent
        have given := running.sound.lt_of_mem_asked asked
        rw [List.mem_singleton.mp now] at given
        exact Nat.lt_irrefl _ given
  | concludes stage => exact sees.goOn (by rw [stage]; rfl) _ _
  | takes stage => exact sees.goOn (by rw [stage]; rfl) _ _
  | closes =>
    rw [SharedLink.outgoing_absorb running.heard]
    exact sees.append _ _
  | abandons _ _ muted => cases running.heard.symm.trans muted
  | releases stage => exact sees.goOn (by rw [stage]; rfl) _ _

end Turn

variable {earlier : List Json} {concerned : Nat → Prop} {events : List Event}

theorem Sees.called (earlier : List Json) (events : List Event) (messages : List Json)
    (n signal : Nat) (query : Query) : Sees earlier events messages n (.start signal query) := by
  intro url names
  have asked : query.file? = some url := by
    unfold Call.start at names
    split at names
    · exact names
    · split at names <;> exact names
  unfold Call.start
  split
  · rename_i failure refused
    rw [Query.file?_of_refused refused] at asked
    cases asked
  · rw [asked]
    exact Or.inl rfl

theorem Renewed.does {session after : SharedSession} {event : Event}
    (renewed : Renewed earlier session) (orderly : Orderly session)
    (begun : ∃ later, session.shared.outgoing = earlier ++ later)
    (does : Does session event after) : Renewed earlier after := by
  cases does with
  | nothing => exact renewed
  | called signal query =>
    rcases renewed with ⟨m, call, result, found, closing⟩ | renewed
    · exact Or.inl ⟨m, call, result, getElem?_append_of_found found _, closing⟩
    · exact Or.inr renewed
  | linked step =>
    rcases renewed with closing | renewed
    · exact Or.inl closing
    · obtain ⟨sent, grown, -⟩ := SharedLink.sent_linked orderly.running step
      refine Or.inr fun name isOpen => ?_
      rw [(SharedLink.does_step session.shared step.event).opened] at isOpen
      rw [grown]
      exact (renewed name isOpen).append sent
  | turned found turn => exact renewed.turned orderly.running begun found turn

theorem Serves.snoc (serves : Serves earlier concerned events) (event : Event) :
    Serves earlier concerned (events ++ [event]) := by
  obtain ⟨begun, renewed, sees⟩ := serves
  have orderly := orderly_run events
  have does := does_run events event
  obtain ⟨sent, grown⟩ := orderly.grown does
  constructor
  · obtain ⟨later, whole⟩ := begun
    exact ⟨later ++ sent, by rw [grown, whole, List.append_assoc]⟩
  · exact renewed.does orderly begun does
  · intro n call isConcerned given
    have kept (found : (run events).calls[n]? = some call) :
        Sees earlier (events ++ [event]) (run (events ++ [event])).shared.outgoing n call := by
      rw [grown]
      exact (sees n call isConcerned found).append [event] sent
    generalize run (events ++ [event]) = after at does given kept ⊢
    cases does with
    | nothing => exact kept given
    | linked => exact kept given
    | called signal query =>
      rcases getElem?_snoc given with found | ⟨-, rfl⟩
      · exact kept found
      · exact Sees.called _ _ _ _ _ _
    | @turned m other after event shared holder found turn =>
      rw [getElem?_set found] at given
      split at given
      · rename_i same
        subst same
        cases given
        exact (sees n other isConcerned found).turned renewed begun found turn
      · exact kept given

theorem Serves.append (serves : Serves earlier concerned events) (more : List Event) :
    Serves earlier concerned (events ++ more) := by
  induction more generalizing events with
  | nil => simpa using serves
  | cons event more ih =>
    have rest := ih (serves.snoc event)
    rwa [List.append_assoc, List.singleton_append] at rest

theorem serves_start : Serves [] (fun _ => True) [] := by
  refine ⟨⟨[], rfl⟩, Or.inr ?_, ?_⟩
  · intro name isOpen
    cases isOpen
  · intro n call _ found
    simp [run, runFrom, start] at found

end SharedSession

end CodeGateway
