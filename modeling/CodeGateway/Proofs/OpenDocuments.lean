import CodeGateway.Proofs.SessionCalls

namespace CodeGateway

namespace Message

/-- Whether a message opens the document of this name or closes it; nothing if it does neither. -/
def turn? (name : String) (message : Json) : Option Bool :=
  if opened? message = some name then some true
  else if closed? message = some name then some false
  else none

/-- How the messages open and close the document of this name. -/
def turns (name : String) (messages : List Json) : List Bool :=
  messages.filterMap (turn? name)

theorem closed?_of_turn? {name : String} {message : Json} (turn : turn? name message = some false) :
    closed? message = some name := by
  unfold turn? at turn
  split at turn
  · cases turn
  · split at turn
    · assumption
    · cases turn

theorem turns_append (name : String) (messages more : List Json) :
    turns name (messages ++ more) = turns name messages ++ turns name more :=
  List.filterMap_append

theorem turns_of_quiet (name : String) {messages : List Json}
    (quiet : ∀ message ∈ messages, IsQuiet message) : turns name messages = [] := by
  rw [turns, List.filterMap_eq_nil_iff]
  intro message among
  obtain ⟨notOpened, notClosed⟩ := quiet message among
  simp [turn?, notOpened, notClosed]

theorem turns_didOpen (name url language text : String) :
    turns name [didOpen url language text] = if url = name then [true] else [] := by
  by_cases same : url = name <;> simp [turns, turn?, same]

theorem turns_didClose (name url : String) :
    turns name [didClose url] = if url = name then [false] else [] := by
  by_cases same : url = name <;> simp [turns, turn?, same]

end Message

def Alternates (turns : List Bool) : Prop :=
  ∀ i turn, turns[i]? = some turn → turn = (i % 2 == 0)

theorem Alternates.snoc {turns : List Bool} (alternates : Alternates turns) :
    Alternates (turns ++ [turns.length % 2 == 0]) := by
  intro i turn given
  rw [List.getElem?_append] at given
  split at given
  · exact alternates i turn given
  · obtain ⟨bound, same⟩ := List.getElem?_eq_some_iff.mp given
    have last : i = turns.length := by
      simp only [List.length_singleton] at bound
      omega
    subst last
    simpa using same.symm

theorem Alternates.getLast? {turns : List Bool} (alternates : Alternates turns) :
    turns.getLast? = some true ↔ turns.length % 2 = 1 := by
  rw [List.getLast?_eq_getElem?]
  constructor
  · intro last
    have odd := alternates _ _ last
    obtain ⟨bound, -⟩ := List.getElem?_eq_some_iff.mp last
    simp only [Bool.true_eq, beq_iff_eq] at odd
    omega
  · intro odd
    have bound : turns.length - 1 < turns.length := by omega
    have value := alternates _ _ (List.getElem?_eq_getElem bound)
    rw [List.getElem?_eq_getElem bound, value]
    simp only [Option.some.injEq, beq_iff_eq]
    omega

theorem Alternates.eq_of_no_false {turns : List Bool} (alternates : Alternates turns)
    (noFalse : false ∉ turns) : turns = [] ∨ turns = [true] := by
  match turns with
  | [] => exact Or.inl rfl
  | [turn] =>
    have first : turn = true := alternates 0 turn rfl
    exact Or.inr (by rw [first])
  | first :: second :: rest =>
    have value : second = false := alternates 1 second rfl
    exact absurd (by simp [value]) noFalse

namespace SharedSession

inductive Documents (session : SharedSession) (after : SharedSession) : Event → Prop
  | quiet {event : Event} {sent : List Json}
      (same : after.shared.link.opened = session.shared.link.opened)
      (grown : after.shared.outgoing = session.shared.outgoing ++ sent)
      (quiet : ∀ message ∈ sent, Message.IsQuiet message) : Documents session after event
  | opens {n : Nat} {disk : Disk} {call : Call} {url : Url} {path : List UInt8}
      {language text : String} (found : session.calls[n]? = some call)
      (names : call.query.file? = some url) (somewhere : url.filePath? = some path)
      (readable : disk path = some text) (unopened : url.toString ∉ session.shared.link.opened)
      (added : after.shared.link.opened = session.shared.link.opened ++ [url.toString])
      (grown : after.shared.outgoing =
        session.shared.outgoing ++ [Message.didOpen url.toString language text]) :
    Documents session after (.read n disk)
  | closes {n : Nat} {name : String} (isOpen : name ∈ session.shared.link.opened)
      (taken : after.shared.link.opened = session.shared.link.opened.erase name)
      (grown : after.shared.outgoing = session.shared.outgoing ++ [Message.didClose name]) :
    Documents session after (.close n name)

theorem Orderly.documents {session after : SharedSession} {event : Event}
    (orderly : Orderly session) (does : Does session event after) :
    Documents session after event := by
  have heard := orderly.running.heard
  have nothing : session.shared.outgoing = session.shared.outgoing ++ [] := by simp
  cases does with
  | nothing => exact .quiet rfl nothing (by simp)
  | called => exact .quiet rfl nothing (by simp)
  | linked step =>
    obtain ⟨sent, grown, all⟩ := SharedLink.sent_linked orderly.running step
    exact .quiet (SharedLink.does_step _ _).opened grown fun message among => (all message among).1
  | @turned n call after event shared holder found turn =>
    cases turn with
    | @opens url path disk text stage readable =>
      obtain ⟨unopened, somewhere⟩ := orderly.reads n call url path found stage
      obtain ⟨-, names⟩ := (orderly.fits n call found).reading url path stage
      exact .opens found names somewhere readable unopened rfl (SharedLink.outgoing_absorb heard _)
    | closes stage isOpen => exact .closes isOpen rfl (SharedLink.outgoing_absorb heard _)
    | abandons _ _ muted => cases heard.symm.trans muted
    | _ => exact .quiet rfl nothing (by simp)

theorem Orderly.grown {session after : SharedSession} {event : Event} (orderly : Orderly session)
    (does : Does session event after) :
    ∃ sent, after.shared.outgoing = session.shared.outgoing ++ sent := by
  rcases orderly.documents does with ⟨-, grown, -⟩ | ⟨-, -, -, -, -, -, grown⟩ | ⟨-, -, grown⟩
  all_goals exact ⟨_, grown⟩

theorem Orderly.grown_runFrom {session : SharedSession} (orderly : Orderly session)
    (events : List Event) :
    ∃ sent, (session.runFrom events).shared.outgoing = session.shared.outgoing ++ sent := by
  induction events generalizing session with
  | nil => exact ⟨[], (List.append_nil _).symm⟩
  | cons event events ih =>
    have does := does_step session event
    obtain ⟨first, grown⟩ := orderly.grown does
    obtain ⟨rest, grown'⟩ := ih (orderly.does does)
    refine ⟨first ++ rest, ?_⟩
    rw [← List.append_assoc, ← grown]
    exact grown'

structure InStep (session : SharedSession) (name : String) : Prop where
  alternates : Alternates (Message.turns name session.shared.outgoing)
  open_iff : name ∈ session.shared.link.opened ↔
    (Message.turns name session.shared.outgoing).length % 2 = 1

section InStep

variable {session after : SharedSession} {name : String}

theorem InStep.quiet (inStep : InStep session name)
    (same : after.shared.link.opened = session.shared.link.opened)
    (turns : Message.turns name after.shared.outgoing =
      Message.turns name session.shared.outgoing) : InStep after name :=
  ⟨by rw [turns]; exact inStep.alternates, by rw [turns, same]; exact inStep.open_iff⟩

theorem InStep.opens (inStep : InStep session name) (unopened : name ∉ session.shared.link.opened)
    (isOpen : name ∈ after.shared.link.opened)
    (turns : Message.turns name after.shared.outgoing =
      Message.turns name session.shared.outgoing ++ [true]) : InStep after name := by
  rw [inStep.open_iff] at unopened
  have even : (Message.turns name session.shared.outgoing).length % 2 = 0 := by omega
  refine ⟨?_, ?_⟩
  · have snoc := inStep.alternates.snoc
    rwa [even, beq_self_eq_true, ← turns] at snoc
  · rw [turns, List.length_append, List.length_singleton]
    exact iff_of_true isOpen (by omega)

theorem InStep.closes (inStep : InStep session name) (wasOpen : name ∈ session.shared.link.opened)
    (closed : name ∉ after.shared.link.opened)
    (turns : Message.turns name after.shared.outgoing =
      Message.turns name session.shared.outgoing ++ [false]) : InStep after name := by
  have odd := inStep.open_iff.mp wasOpen
  have other : (1 == 0) = false := rfl
  refine ⟨?_, ?_⟩
  · have snoc := inStep.alternates.snoc
    rwa [odd, other, ← turns] at snoc
  · rw [turns, List.length_append, List.length_singleton]
    exact iff_of_false closed (by omega)

theorem InStep.does {event : Event} (inStep : InStep session name)
    (once : session.shared.link.opened.Nodup) (documents : Documents session after event) :
    InStep after name := by
  cases documents with
  | quiet same grown quiet =>
    refine inStep.quiet same ?_
    rw [grown, Message.turns_append, Message.turns_of_quiet name quiet, List.append_nil]
  | @opens n disk call url path language text found names somewhere readable unopened added grown =>
    have turns : Message.turns name after.shared.outgoing =
        Message.turns name session.shared.outgoing ++
          if url.toString = name then [true] else [] := by
      rw [grown, Message.turns_append, Message.turns_didOpen]
    by_cases same : url.toString = name
    · subst same
      rw [if_pos rfl] at turns
      exact inStep.opens unopened (by simp [added]) turns
    · rw [if_neg same, List.append_nil] at turns
      refine ⟨by rw [turns]; exact inStep.alternates, ?_⟩
      rw [turns, added, List.mem_append, List.mem_singleton]
      simp [inStep.open_iff, Ne.symm same]
  | @closes n closed wasOpen taken grown =>
    have turns : Message.turns name after.shared.outgoing =
        Message.turns name session.shared.outgoing ++ if closed = name then [false] else [] := by
      rw [grown, Message.turns_append, Message.turns_didClose]
    by_cases same : closed = name
    · subst same
      rw [if_pos rfl] at turns
      exact inStep.closes wasOpen (by rw [taken]; exact once.not_mem_erase) turns
    · rw [if_neg same, List.append_nil] at turns
      refine ⟨by rw [turns]; exact inStep.alternates, ?_⟩
      rw [turns, taken, List.mem_erase_of_ne (Ne.symm same)]
      exact inStep.open_iff

end InStep

theorem inStep_start (name : String) : InStep start name :=
  ⟨by simp [Alternates, Message.turns, start, SharedLink.start],
    by simp [Message.turns, start, SharedLink.start, Link.start]⟩

theorem InStep.runFrom {session : SharedSession} {name : String} (inStep : InStep session name)
    (orderly : Orderly session) (events : List Event) : InStep (session.runFrom events) name := by
  induction events generalizing session with
  | nil => exact inStep
  | cons event events ih =>
    have does := does_step session event
    exact ih (inStep.does orderly.once (orderly.documents does)) (orderly.does does)

theorem inStep_run (events : List Event) (name : String) : InStep (run events) name :=
  (inStep_start name).runFrom orderly_start events

end SharedSession

end CodeGateway
