import CodeGateway.Agent.Service
import CodeGateway.Proofs.FrameStream
import CodeGateway.Proofs.InputLines
import CodeGateway.Proofs.ResponseLog

namespace CodeGateway.Agent

namespace Service

inductive Does (service : Service) : Event → List Serving.Event → Service → Prop
  | nothing {event : Event} (quiet : ∀ rest, arrivals (event :: rest) = arrivals rest) :
    Does service event [] service
  | late {bytes : List UInt8} (hungUp : service.hungUp = true) :
    Does service (.arrive bytes) [] service
  | arrive {bytes : List UInt8} (listening : service.hungUp = false) :
    Does service (.arrive bytes) [] { service with unread := service.unread ++ bytes }
  | hangUp : Does service .hangUp [] { service with hungUp := true }
  | line {line rest : List UInt8} {text : List Char} (reading : service.phase = .reading)
      (next : Frame.nextLine service.hungUp service.unread = some (line, rest))
      (decoded : Utf8.decode (withoutEnd line) = .ok text) :
    Does service .read [.line text]
      { service with unread := rest, serving := service.serving.takeLine text }
  | notText {line rest : List UInt8} {invalid : Utf8.Invalid} (reading : service.phase = .reading)
      (next : Frame.nextLine service.hungUp service.unread = some (line, rest))
      (decoded : Utf8.decode (withoutEnd line) = .error invalid) :
    Does service .read []
      { service with unread := rest, phase := .ended (.failed (.notText invalid)) }
  | drain (reading : service.phase = .reading) (hungUp : service.hungUp = true)
      (empty : service.unread = []) : Does service .read [] { service with phase := .draining }
  | broken {reason : String} (reading : service.phase = .reading) :
    Does service (.fail reason) [] { service with phase := .ended (.failed (.broken reason)) }
  | work (work : Work) :
    Does service (.work work) [work.event]
      { service with serving := service.serving.step work.event }
  | flush (draining : service.phase = .draining) (running : service.serving.server.running = [])
      (retired : service.serving.retired = []) :
    Does service .join [] { service with serving := dispose service.serving, phase := .flushing }
  | finish (flushing : service.phase = .flushing) (queued : service.serving.queued = []) :
    Does service .finish [] { service with phase := .ended .finished }
  | drop {ticket : Nat} {fault : ReadFault} (failed : service.phase = .ended (.failed fault)) :
    Does service (.drop ticket) []
      { service with serving :=
        { service.serving with server := (service.serving.server.retire ticket).1 } }

theorem does_read {service : Service} (reading : service.phase = .reading) :
    Does service .read (service.events .read) service.read := by
  cases next : Frame.nextLine service.hungUp service.unread with
  | some parts =>
    obtain ⟨line, rest⟩ := parts
    have events : service.events .read =
        (Utf8.decode (withoutEnd line)).toOption.toList.map .line := by
      simp only [Service.events, reading, next]
    rw [events]
    simp only [read, next, takeLine]
    cases decoded : Utf8.decode (withoutEnd line) with
    | error invalid => exact .notText reading next decoded
    | ok text => exact .line reading next decoded
  | none =>
    have events : service.events .read = [] := by simp only [Service.events, reading, next]
    rw [events]
    simp only [read, next]
    split
    · rename_i hungUp
      rw [hungUp, Frame.nextLine_true_eq_none_iff] at next
      exact .drain reading hungUp next
    · exact .nothing fun _ => rfl

theorem does_step (service : Service) (event : Event) :
    Does service event (service.events event) (service.step event) := by
  cases event with
  | arrive bytes =>
    simp only [step]
    split
    · rename_i hungUp
      exact .late hungUp
    · rename_i listening
      exact .arrive (by simpa using listening)
  | hangUp => exact .hangUp
  | work work => exact .work work
  | read =>
    cases reading : service.phase with
    | reading =>
      simp only [step, reading]
      exact does_read reading
    | _ =>
      simp only [step, Service.events, reading]
      exact .nothing fun _ => rfl
  | fail reason =>
    cases reading : service.phase with
    | reading =>
      simp only [step, reading]
      exact .broken reading
    | _ =>
      simp only [step, reading]
      exact .nothing fun _ => rfl
  | join =>
    cases draining : service.phase with
    | draining =>
      simp only [step, draining]
      split
      · rename_i idle
        simp only [Server.isIdle, Bool.and_eq_true, List.isEmpty_iff] at idle
        exact .flush draining idle.1 idle.2
      · exact .nothing fun _ => rfl
    | _ =>
      simp only [step, draining]
      exact .nothing fun _ => rfl
  | finish =>
    cases flushing : service.phase with
    | flushing =>
      simp only [step, flushing]
      split
      · rename_i empty
        exact .finish flushing (List.isEmpty_iff.mp empty)
      · exact .nothing fun _ => rfl
    | _ =>
      simp only [step, flushing]
      exact .nothing fun _ => rfl
  | drop ticket =>
    cases phase : service.phase with
    | ended ending =>
      cases ending with
      | failed fault =>
        simp only [step, phase]
        exact phase ▸ .drop phase
      | finished =>
        simp only [step, phase]
        exact .nothing fun _ => rfl
    | _ =>
      simp only [step, phase]
      exact .nothing fun _ => rfl

theorem Does.phase_of_ended {service after : Service} {event : Event}
    {events : List Serving.Event} (does : Does service event events after) {ending : Ending}
    (ended : service.phase = .ended ending) : after.phase = .ended ending := by
  cases does with
  | line reading => exact absurd (ended.symm.trans reading) (by simp)
  | notText reading => exact absurd (ended.symm.trans reading) (by simp)
  | drain reading => exact absurd (ended.symm.trans reading) (by simp)
  | broken reading => exact absurd (ended.symm.trans reading) (by simp)
  | flush draining => exact absurd (ended.symm.trans draining) (by simp)
  | finish flushing => exact absurd (ended.symm.trans flushing) (by simp)
  | nothing => exact ended
  | late => exact ended
  | arrive => exact ended
  | hangUp => exact ended
  | work => exact ended
  | drop => exact ended

theorem ended_runFrom {service : Service} {ending : Ending} (ended : service.phase = .ended ending)
    (events : List Event) : (service.runFrom events).phase = .ended ending := by
  induction events generalizing service with
  | nil => exact ended
  | cons event events ih => exact ih ((does_step service event).phase_of_ended ended)

structure Sound (service : Service) : Prop where
  read : service.phase = .draining ∨ service.phase = .flushing ∨ service.phase = .ended .finished →
    service.hungUp = true ∧ service.unread = []
  idle : service.phase = .flushing ∨ service.phase = .ended .finished →
    service.serving.server.running = [] ∧ service.serving.retired = [] ∧
      service.serving.server.catalogue.tools = []
  flushed : service.phase = .ended .finished → service.serving.queued = []

theorem sound_start (catalogue : Catalogue) : Sound (start catalogue) := by
  constructor <;> simp [start]

theorem step_of_idle {serving : Serving} (running : serving.server.running = [])
    (retired : serving.retired = []) (work : Work) :
    serving.step work.event = serving ∨ serving.step work.event = serving.write := by
  cases work with
  | retire ticket result =>
    exact Or.inl (by simp [Work.event, Serving.step, Serving.retire, Server.retire, running])
  | respond ticket => exact Or.inl (by simp [Work.event, Serving.step, Serving.respond, retired])
  | write => exact Or.inr rfl

theorem Sound.work {service : Service} (sound : Sound service) (work : Work) :
    Sound { service with serving := service.serving.step work.event } := by
  constructor
  · exact sound.read
  · intro past
    obtain ⟨running, retired, disposed⟩ := sound.idle past
    rcases step_of_idle running retired work with same | written
    · simp only [same, running, retired, disposed, and_self]
    · simp only [written, Serving.server_write, Serving.retired_write, running, retired, disposed,
        and_self]
  · intro finished
    obtain ⟨running, retired, -⟩ := sound.idle (Or.inr finished)
    have flushed := sound.flushed finished
    rcases step_of_idle running retired work with same | written
    · rw [← flushed]
      exact congrArg Serving.queued same
    · rw [← flushed]
      refine (congrArg Serving.queued written).trans ?_
      simp only [Serving.write, flushed]

theorem Sound.step {service : Service} (sound : Sound service) (event : Event) :
    Sound (service.step event) := by
  have does := does_step service event
  generalize service.events event = events at does
  generalize service.step event = after at does ⊢
  cases does with
  | nothing => exact sound
  | late => exact sound
  | arrive listening =>
    have heard : service.hungUp ≠ true := by simp [listening]
    exact ⟨fun past => absurd (sound.read past).1 heard, sound.idle, sound.flushed⟩
  | hangUp => exact ⟨fun past => ⟨rfl, (sound.read past).2⟩, sound.idle, sound.flushed⟩
  | line reading => constructor <;> simp [reading]
  | notText => constructor <;> simp
  | drain reading hungUp empty => constructor <;> simp [hungUp, empty]
  | broken => constructor <;> simp
  | work work => exact sound.work work
  | flush draining running retired =>
    exact ⟨fun _ => sound.read (Or.inl draining), fun _ => ⟨running, retired, rfl⟩, by simp⟩
  | finish flushing queued =>
    exact ⟨fun _ => sound.read (Or.inr (Or.inl flushing)), fun _ => sound.idle (Or.inl flushing),
      fun _ => queued⟩
  | drop failed => constructor <;> simp [failed]

theorem Sound.runFrom {service : Service} (sound : Sound service) (events : List Event) :
    Sound (service.runFrom events) := by
  induction events generalizing service with
  | nil => exact sound
  | cons event events ih => exact ih (sound.step event)

theorem sound_run (catalogue : Catalogue) (events : List Event) : Sound (run catalogue events) :=
  (sound_start catalogue).runFrom events

def toRead (service : Service) (events : List Event) : List UInt8 :=
  service.unread ++ if service.hungUp then [] else arrivals events

def linesOf (events : List Serving.Event) : List (List Char) :=
  events.filterMap fun
    | .line text => some text
    | _ => none

theorem linesOf_append (events more : List Serving.Event) :
    linesOf (events ++ more) = linesOf events ++ linesOf more := List.filterMap_append

theorem toRead_of_nextLine {service : Service} {line rest : List UInt8}
    (next : Frame.nextLine service.hungUp service.unread = some (line, rest))
    (serving : Serving) (events : List Event) :
    Frame.nextLine true (service.toRead (.read :: events)) =
      some (line, toRead { service with unread := rest, serving } events) := by
  unfold toRead
  cases hungUp : service.hungUp with
  | true =>
    rw [hungUp] at next
    simpa using next
  | false =>
    rw [hungUp] at next
    exact Frame.nextLine_append next (arrivals events)

theorem decodeLines_toRead {service : Service} (sound : Sound service) {events : List Event}
    (finished : (service.runFrom events).phase = .ended .finished) :
    decodeLines (lines true (service.toRead events)).1 =
      (linesOf (service.trace events), none) := by
  induction events generalizing service with
  | nil =>
    obtain ⟨hungUp, empty⟩ := sound.read (Or.inr (Or.inr finished))
    have nothing : lines true [] = ([], []) := rfl
    simp [toRead, hungUp, empty, nothing, decodeLines, trace, linesOf]
  | cons event events ih =>
    have later := ih (sound.step event) finished
    have does := does_step service event
    -- A step that ends the service with a fault does not lead to the end of the input.
    have lost {fault : ReadFault} (failed : (service.step event).phase = .ended (.failed fault)) :
        False := by
      have stays := ended_runFrom failed events
      exact absurd (stays.symm.trans finished) (by simp)
    rw [trace, linesOf_append]
    generalize service.events event = now at does ⊢
    generalize service.step event = after at does later lost ⊢
    cases does with
    | nothing quiet =>
      rw [toRead, quiet]
      exact later
    | late hungUp =>
      simpa [toRead, hungUp, linesOf] using later
    | arrive listening =>
      simpa [toRead, listening, arrivals, linesOf] using later
    | hangUp =>
      have same : service.toRead (.hangUp :: events) =
          toRead { service with hungUp := true } events := by simp [toRead, arrivals]
      rw [same]
      exact later
    | line reading next decoded =>
      rw [decodeLines_of_line (toRead_of_nextLine next _ events) decoded, later]
      rfl
    | notText => exact absurd rfl lost
    | drain => exact later
    | broken => exact absurd rfl lost
    | work work =>
      have noLine : linesOf [work.event] = [] := by cases work <;> rfl
      rw [noLine]
      exact later
    | flush => exact later
    | finish => exact later
    | drop failed => exact absurd failed lost

theorem dispose_work (serving : Serving) (work : Work) :
    (dispose serving).step work.event = dispose (serving.step work.event) := by
  cases work with
  | retire ticket result =>
    simp only [Work.event, Serving.step, Serving.retire, Server.retire, dispose]
    split <;> rfl
  | respond ticket =>
    simp only [Work.event, Serving.step, Serving.respond, dispose]
    split <;> rfl
  | write =>
    simp only [Work.event, Serving.step, Serving.write, dispose]
    split <;> rfl

/-- A service has the server at work that its events make, without tools once it waits for the last
    responses. -/
structure Follows (service : Service) (serving : Serving) : Prop where
  first : service.phase = .reading ∨ service.phase = .draining → service.serving = serving
  last : service.phase = .flushing ∨ service.phase = .ended .finished →
    service.serving = dispose serving

theorem Follows.step {service : Service} {serving : Serving} (follows : Follows service serving)
    (event : Event) : Follows (service.step event) (serving.runFrom (service.events event)) := by
  have does := does_step service event
  generalize service.events event = events at does ⊢
  generalize service.step event = after at does ⊢
  cases does with
  | nothing => exact follows
  | late => exact follows
  | arrive => exact ⟨follows.first, follows.last⟩
  | hangUp => exact ⟨follows.first, follows.last⟩
  | line reading next decoded =>
    have same := follows.first (Or.inl reading)
    exact ⟨fun _ => by rw [same]; rfl, by simp [reading]⟩
  | notText => constructor <;> simp
  | drain reading => exact ⟨fun _ => follows.first (Or.inl reading), by simp⟩
  | broken => constructor <;> simp
  | work work =>
    refine ⟨fun early => ?_, fun late => ?_⟩
    · exact congrArg (·.step work.event) (follows.first early)
    · exact (congrArg (·.step work.event) (follows.last late)).trans (dispose_work serving work)
  | flush draining =>
    exact ⟨by simp, fun _ => congrArg dispose (follows.first (Or.inr draining))⟩
  | finish flushing => exact ⟨by simp, fun _ => follows.last (Or.inl flushing)⟩
  | drop failed => constructor <;> simp [failed]

theorem Follows.runFrom {service : Service} {serving : Serving} (follows : Follows service serving)
    (events : List Event) :
    Follows (service.runFrom events) (serving.runFrom (service.trace events)) := by
  induction events generalizing service serving with
  | nil => exact follows
  | cons event events ih =>
    rw [trace, Serving.runFrom_append]
    exact ih (follows.step event)

theorem follows_run (catalogue : Catalogue) (events : List Event) :
    Follows (run catalogue events) (Serving.run catalogue ((start catalogue).trace events)) :=
  Follows.runFrom ⟨fun _ => rfl, by simp [start]⟩ events

end Service

end CodeGateway.Agent
