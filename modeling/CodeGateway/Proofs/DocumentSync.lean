import CodeGateway.Proofs.DocumentFirst
import CodeGateway.Proofs.SessionProgress

namespace CodeGateway.SharedSession

def Event.caller? : Event → Option Nat
  | call _ _ => none
  | lock n => some n
  | read n _ => some n
  | ask n => some n
  | conclude n => some n
  | close n _ => some n
  | release n => some n
  | link _ => none

/-- What agrees after some events: what was sent, what the server is taken to have, and what the
    calls have asked. -/
structure Synchronised (events : List Event) : Prop where
  alternates : ∀ name, Alternates (Message.turns name (run events).shared.outgoing)
  has_iff : ∀ name, name ∈ (run events).shared.link.opened ↔
    (Message.turns name (run events).shared.outgoing).getLast? = some true
  once : ∀ name, (∀ message ∈ (run events).shared.outgoing, Message.closed? message ≠ some name) →
    Message.turns name (run events).shared.outgoing = [] ∨
      Message.turns name (run events).shared.outgoing = [true]
  /-- Only a file is opened, when its text has been read. -/
  opens : ∀ before event after, events = before ++ event :: after →
    ∃ sent, (run (before ++ [event])).shared.outgoing = (run before).shared.outgoing ++ sent ∧
      ∀ message ∈ sent, ∀ name, Message.opened? message = some name →
        ∃ (n : Nat) (disk : Disk) (call : Call) (url : Url) (path : List UInt8)
          (language text : String),
          event = .read n disk ∧ (run before).calls[n]? = some call ∧
            call.query.file? = some url ∧ url.isFile = true ∧ url.toString = name ∧
            url.filePath? = some path ∧ disk path = some text ∧
            message = Message.didOpen name language text
  /-- A request is one that some call wants and has made. -/
  wanted : ∀ id method params,
    Message.request id method params ∈ (run events).shared.outgoing →
      ∃ (n : Nat) (call : Call), (run events).calls[n]? = some call ∧ id ∈ call.made ∧
        (method, params) ∈ call.query.wanted
  /-- A request about a file stands behind its document, if the call could read that. -/
  follows : ∀ (n : Nat) (call : Call) (url : Url), (run events).calls[n]? = some call →
    call.query.file? = some url → ∀ id ∈ call.made, ∀ front method params back,
      (run events).shared.outgoing = front ++ Message.request id method params :: back →
        Unreadable events n url ∨ ∃ message ∈ front, Message.opened? message = some url.toString
  /-- A call that is over has sent all its requests. -/
  asks : ∀ (n : Nat) (call : Call), (run events).calls[n]? = some call →
    call.stage.isOver = true → HasAsked (run events) n call.query
  /-- A call gets to send all its requests, whatever is on the disk. -/
  proceeds : ∀ (n : Nat) (call : Call) (disk : Disk), (run events).calls[n]? = some call →
    ∃ more, (∀ m other, .read m other ∈ more → other = disk) ∧
      HasAsked (run (events ++ more)) n call.query
  /-- Only a symbol at what is no URL is not asked about: the call has failed and does nothing. -/
  refuses : ∀ (n : Nat) (call : Call) (failure : Failure), (run events).calls[n]? = some call →
    call.query.requests = .error failure →
      (∃ request error, call.query = .symbolInfo request ∧ Url.parse request.uri = .error error ∧
        failure = Query.badUri request.uri error) ∧
      call.stage = .ended (.error failure) ∧ call.made = [] ∧
      ∀ event : Event, event.caller? = some n → (run events).step event = run events

section Turn

variable {session : SharedSession} {n : Nat} {call after : Call} {event : Event}
  {shared : SharedLink} {holder : Option Nat}

theorem Turn.caller? (turn : Turn session n call event shared after holder) :
    event.caller? = some n := by
  cases turn <;> rfl

theorem Turn.ne_ended (turn : Turn session n call event shared after holder)
    (result : Except Failure call.query.Reply) : call.stage ≠ .ended result := by
  intro ended
  cases turn with
  | passes stage | locks stage | fails stage | opens stage | refused stage | asks stage
  | concludes stage | takes stage | closes stage | abandons stage | releases stage =>
    cases ended.symm.trans stage

end Turn

theorem Does.eq_of_ended {session after : SharedSession} {event : Event} {n : Nat} {call : Call}
    {result : Except Failure call.query.Reply} (does : Does session event after)
    (found : session.calls[n]? = some call) (ended : call.stage = .ended result)
    (caller : event.caller? = some n) : after = session := by
  cases does with
  | nothing => rfl
  | called => cases caller
  | linked => cases caller
  | turned given turn =>
    cases turn.caller?.symm.trans caller
    cases found.symm.trans given
    exact absurd ended (turn.ne_ended result)

theorem Orderly.wanted {session : SharedSession} (orderly : Orderly session) {id : Nat}
    {method : String} {params : Json}
    (sent : Message.request id method params ∈ session.shared.outgoing) :
    ∃ (n : Nat) (call : Call), session.calls[n]? = some call ∧ id ∈ call.made ∧
      (method, params) ∈ call.query.wanted := by
  obtain ⟨signal, asked⟩ := orderly.running.made id method params sent
  obtain ⟨n, call, found, made⟩ := orderly.owned _ asked
  obtain ⟨done, whole, all⟩ := (orderly.fits n call found).split
  obtain ⟨text, member, asked'⟩ := exists_of_forall₂_of_mem all made
  obtain ⟨stage, request⟩ := orderly.running.sound.request?_of_mem_asked asked
  obtain ⟨stage', request'⟩ := orderly.running.sound.request?_of_mem_asked asked'
  have same : (method, params) = text := by
    cases request.symm.trans request'
    rfl
  refine ⟨n, call, found, made, ?_⟩
  rw [whole, same]
  exact List.mem_append_left _ member

theorem opens_run (events : List Event) (event : Event) :
    ∃ sent, (run (events ++ [event])).shared.outgoing = (run events).shared.outgoing ++ sent ∧
      ∀ message ∈ sent, ∀ name, Message.opened? message = some name →
        ∃ (n : Nat) (disk : Disk) (call : Call) (url : Url) (path : List UInt8)
          (language text : String),
          event = .read n disk ∧ (run events).calls[n]? = some call ∧
            call.query.file? = some url ∧ url.isFile = true ∧ url.toString = name ∧
            url.filePath? = some path ∧ disk path = some text ∧
            message = Message.didOpen name language text := by
  have documents := (orderly_run events).documents (does_run events event)
  cases documents with
  | quiet same grown quiet =>
    refine ⟨_, grown, ?_⟩
    intro message among name opened
    rw [(quiet message among).1] at opened
    cases opened
  | @opens n disk call url path language text found names somewhere readable unopened added grown =>
    refine ⟨_, grown, ?_⟩
    intro message among name opened
    rw [List.mem_singleton.mp among, Message.opened?_didOpen] at opened
    obtain rfl := Option.some.inj opened
    exact ⟨n, disk, call, url, path, language, text, rfl, found, names,
      (Query.isFile_of_file? names).1, rfl, somewhere, readable, List.mem_singleton.mp among⟩
  | closes isOpen taken grown =>
    refine ⟨_, grown, ?_⟩
    intro message among name opened
    rw [List.mem_singleton.mp among, Message.opened?_didClose] at opened
    cases opened

theorem follows_run (events : List Event) {n : Nat} {call : Call} {url : Url}
    (found : (run events).calls[n]? = some call) (names : call.query.file? = some url) {id : Nat}
    (made : id ∈ call.made) {front back : List Json} {method : String} {params : Json}
    (split : (run events).shared.outgoing = front ++ Message.request id method params :: back) :
    Unreadable events n url ∨ ∃ message ∈ front, Message.opened? message = some url.toString := by
  have serves := serves_start.append events
  rcases serves.sees n call trivial found url names with waits | unreadable | ⟨-, introduced⟩
  · -- A call that has still to see to its document has made no request.
    rw [(orderly_run events).made_of_waits found waits] at made
    cases made
  · exact Or.inl unreadable
  · obtain ⟨later, whole, opening⟩ := introduced id made front method params back split
    rw [List.nil_append] at whole
    rw [whole]
    exact Or.inr opening

theorem document_sync (events : List Event) : Synchronised events := by
  have orderly := orderly_run events
  have inStep := inStep_run events
  constructor
  · exact fun name => (inStep name).alternates
  · intro name
    rw [(inStep name).open_iff, (inStep name).alternates.getLast?]
  · intro name notClosed
    refine (inStep name).alternates.eq_of_no_false ?_
    intro closed
    obtain ⟨message, among, turn⟩ := List.mem_filterMap.mp closed
    exact notClosed message among (Message.closed?_of_turn? turn)
  · intro before event after _
    exact opens_run before event
  · exact fun id method params sent => orderly.wanted sent
  · exact fun n call url found names id made front method params back split =>
      follows_run events found names made split
  · exact fun n call found isOver => hasAsked_of_isOver orderly found isOver
  · intro n call disk found
    obtain ⟨_, ⟨more, reads, rfl⟩, asked⟩ := reaches_hasAsked orderly found disk
    rw [← run_append] at asked
    exact ⟨more, reads, asked⟩
  · intro n call failure found refused
    have fits := orderly.fits n call found
    have ended := fits.refused failure refused
    refine ⟨Query.requests_eq_error refused, ended, ?_, ?_⟩
    · obtain ⟨done, whole, made⟩ := fits.split
      rw [Query.wanted_of_error refused, List.nil_eq_append_iff] at whole
      rw [whole.1] at made
      exact List.forall₂_nil_right_iff.mp made
    · intro event caller
      exact (does_step (run events) event).eq_of_ended found ended caller

end CodeGateway.SharedSession
