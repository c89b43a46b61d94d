import CodeGateway.Proofs.CallFate
import CodeGateway.Proofs.ExactlyOnce
import CodeGateway.Proofs.ServiceStep

namespace CodeGateway.Agent.Service

theorem isDone_of_finished {catalogue : Catalogue} {events : List Event}
    (finished : (run catalogue events).phase = .ended .finished) :
    (Serving.run catalogue ((start catalogue).trace events)).isDone = true := by
  have sound := sound_run catalogue events
  have same := (follows_run catalogue events).last (Or.inr finished)
  obtain ⟨running, retired, -⟩ := sound.idle (Or.inr finished)
  have queued := sound.flushed finished
  rw [same] at running retired queued
  exact Serving.isDone_iff.mpr ⟨running, retired, queued⟩

theorem answersTo_of_isDone {catalogue : Catalogue} {before after : List Serving.Event}
    {line : List Char} {id : Json} (calls : callId? line = some id)
    (done : (Serving.run catalogue (before ++ .line line :: after)).isDone = true) :
    ∃ result, .retire (Serving.ledger before).count result ∈ after ∧
      ((Serving.run catalogue (before ++ [.line line])).TakesBack (Serving.ledger before).count
          after →
        Serving.answersTo (Serving.ledger before).count
          ((Serving.start catalogue).log (before ++ .line line :: after)) = []) ∧
      (¬ (Serving.run catalogue (before ++ [.line line])).TakesBack (Serving.ledger before).count
          after →
        Serving.answersTo (Serving.ledger before).count
          ((Serving.start catalogue).log (before ++ .line line :: after)) =
            [⟨some id, .result result.encode⟩]) := by
  obtain ⟨idle, answered, -⟩ := Serving.isDone_iff.mp done
  obtain ⟨cancelled, taken, fate⟩ :=
    Serving.exists_fate_of_call catalogue before after calls
  obtain ⟨result, ends, responses⟩ := fate.exists_result idle answered
  rw [responses]
  refine ⟨result, ends, fun takes => ?_, fun kept => ?_⟩
  · rw [taken.mpr takes]
    rfl
  · have free : cancelled = false := by
      cases cancelled with
      | false => rfl
      | true => exact absurd (taken.mp rfl) kept
    rw [free]
    rfl

/-- What comes from the service itself, or from the agent as the end of its input. -/
def Event.isOwn : Event → Bool
  | .arrive _ | .fail _ | .drop _ => false
  | _ => true

theorem runFrom_append (service : Service) (events more : List Event) :
    service.runFrom (events ++ more) = (service.runFrom events).runFrom more :=
  List.foldl_append

theorem runFrom_work (service : Service) (works : List Work) :
    service.runFrom (works.map .work) =
      { service with serving := service.serving.runFrom (works.map Work.event) } := by
  induction works generalizing service with
  | nil => rfl
  | cons work works ih => exact ih (service.step (.work work))

theorem exists_works {events : List Serving.Event} (noLines : ∀ line, .line line ∉ events) :
    ∃ works : List Work, events = works.map Work.event := by
  induction events with
  | nil => exact ⟨[], rfl⟩
  | cons event events ih =>
    obtain ⟨works, rfl⟩ := ih fun line among => noLines line (List.mem_cons_of_mem _ among)
    cases event with
    | line line => exact absurd List.mem_cons_self (noLines line)
    | retire ticket result => exact ⟨.retire ticket result :: works, rfl⟩
    | respond ticket => exact ⟨.respond ticket :: works, rfl⟩
    | write => exact ⟨.write :: works, rfl⟩

theorem exists_finished_of_draining {service : Service}
    (waiting : service.phase = .draining ∨ service.phase = .flushing) :
    ∃ rest, rest.all Event.isOwn = true ∧ (service.runFrom rest).phase = .ended .finished := by
  obtain ⟨events, noLines, done⟩ := Serving.exists_isDone service.serving
  obtain ⟨works, rfl⟩ := exists_works noLines
  obtain ⟨running, retired, queued⟩ := Serving.isDone_iff.mp done
  have own : (works.map Event.work).all Event.isOwn = true := by simp [Event.isOwn]
  rcases waiting with draining | flushing
  · refine ⟨works.map .work ++ [.join, .finish], by rw [List.all_append, own]; rfl, ?_⟩
    rw [runFrom_append, runFrom_work]
    simp [runFrom, step, draining, Server.isIdle, running, retired, queued, dispose]
  · refine ⟨works.map .work ++ [.finish], by rw [List.all_append, own]; rfl, ?_⟩
    rw [runFrom_append, runFrom_work]
    simp [runFrom, step, flushing, queued]

theorem exists_finished_of_reading {service : Service} (reading : service.phase = .reading)
    (hungUp : service.hungUp = true)
    (readable : (decodeLines (lines true service.unread).1).2 = none) :
    ∃ rest, rest.all Event.isOwn = true ∧ (service.runFrom rest).phase = .ended .finished := by
  induction count : service.unread.length using Nat.strongRecOn generalizing service with
  | ind count ih =>
    subst count
    have read : service.step .read = service.read := by simp only [step, reading]
    cases next : Frame.nextLine true service.unread with
    | none =>
      have drained : service.step .read = { service with phase := .draining } := by
        simp [read, Service.read, hungUp, next]
      have draining : (service.step .read).phase = .draining := by rw [drained]
      obtain ⟨rest, own, finished⟩ := exists_finished_of_draining (Or.inl draining)
      exact ⟨.read :: rest, own, finished⟩
    | some parts =>
      obtain ⟨line, rest⟩ := parts
      obtain ⟨whole, takes⟩ := Frame.nextLine_eq_some_iff.mp next
      cases decoded : Utf8.decode (withoutEnd line) with
      | error invalid =>
        rw [decodeLines_of_invalid next decoded] at readable
        cases readable
      | ok text =>
        rw [decodeLines_of_line next decoded] at readable
        have taken : service.step .read =
            { service with unread := rest, serving := service.serving.takeLine text } := by
          simp only [read, Service.read, hungUp, next, takeLine, decoded]
        have fewer : rest.length < service.unread.length := by
          have some' := List.length_pos_of_ne_nil takes.ne_nil
          rw [whole, List.length_append]
          omega
        have still : (service.step .read).phase = .reading := by
          rw [taken]
          exact reading
        obtain ⟨events, own, finished⟩ := ih rest.length fewer still
          (by rw [taken]; exact hungUp) (by rw [taken]; exact readable) (by rw [taken])
        exact ⟨.read :: events, own, finished⟩

/-- When the agent hangs up, a service all of whose bytes can be read comes to its end. -/
theorem exists_finished {service : Service}
    (alive : ∀ fault, service.phase ≠ .ended (.failed fault))
    (readable : (decodeLines (lines true service.unread).1).2 = none) :
    ∃ rest, rest.all Event.isOwn = true ∧ (service.runFrom rest).phase = .ended .finished := by
  cases phase : service.phase with
  | reading =>
    have still : ({ service with hungUp := true } : Service).phase = .reading := phase
    obtain ⟨rest, own, finished⟩ := exists_finished_of_reading still rfl readable
    exact ⟨.hangUp :: rest, own, finished⟩
  | draining => exact exists_finished_of_draining (Or.inl phase)
  | flushing => exact exists_finished_of_draining (Or.inr phase)
  | ended ending =>
    cases ending with
    | finished => exact ⟨[], rfl, phase⟩
    | failed fault => exact absurd phase (alive fault)

/-- A service that reads to the end of its input is answerable for every call: it returns when each
    line that came was handled and what was written is all that there is to send, with the tools let
    go of; and each call has been answered once, with its own result, or not at all if the agent
    took it back. Whatever has come, it can return so once the agent hangs up. -/
theorem answered_of_finished (catalogue : Catalogue) (events : List Event) :
    ((∀ fault, (run catalogue events).phase ≠ .ended (.failed fault)) →
      (decodeLines (lines true (run catalogue events).unread).1).2 = none →
      ∃ rest, rest.all Event.isOwn = true ∧
        (run catalogue (events ++ rest)).phase = .ended .finished) ∧
    ((run catalogue events).phase = .ended .finished →
      decodeLines (lines true (arrivals events)).1 =
        (linesOf ((start catalogue).trace events), none) ∧
      (run catalogue events).serving.server.catalogue.isDisposed = true ∧
      (run catalogue events).serving.written =
        ((Serving.start catalogue).log ((start catalogue).trace events)).map Prod.snd ∧
      ∀ before line after id, (start catalogue).trace events = before ++ .line line :: after →
        callId? line = some id →
        ∃ result, .retire (Serving.ledger before).count result ∈ after ∧
          ((Serving.run catalogue (before ++ [.line line])).TakesBack
              (Serving.ledger before).count after →
            Serving.answersTo (Serving.ledger before).count
              ((Serving.start catalogue).log ((start catalogue).trace events)) = []) ∧
          (¬ (Serving.run catalogue (before ++ [.line line])).TakesBack
              (Serving.ledger before).count after →
            Serving.answersTo (Serving.ledger before).count
              ((Serving.start catalogue).log ((start catalogue).trace events)) =
                [⟨some id, .result result.encode⟩])) := by
  have sound := sound_run catalogue events
  refine ⟨fun alive readable => ?_, fun finished => ?_⟩
  · obtain ⟨rest, own, finished⟩ := exists_finished alive readable
    refine ⟨rest, own, ?_⟩
    rw [run, runFrom_append]
    exact finished
  · have done := isDone_of_finished finished
    have same := (follows_run catalogue events).last (Or.inr finished)
    refine ⟨?_, ?_, ?_, ?_⟩
    · have all := decodeLines_toRead (sound_start catalogue) finished
      simpa [toRead, start] using all
    · rw [Catalogue.isDisposed, (sound.idle (Or.inr finished)).2.2]
      rfl
    · have sent := Serving.output_runFrom (Serving.start catalogue) ((start catalogue).trace events)
      rw [← Serving.run, Serving.output, (Serving.isDone_iff.mp done).2.2, List.append_nil] at sent
      rw [same]
      exact sent
    · intro before line after id whole calls
      rw [whole] at done ⊢
      exact answersTo_of_isDone calls done

def requestBytes (method params : String) : List UInt8 :=
  Utf8.encode (Serving.requestLine method params) ++ [0x0A]

/-- Two calls, the second one taken back before it has its result, at the end of the input. -/
def readToEnd : List Event :=
  [.arrive (requestBytes "tools/call" "\"params\":\x7b\"name\":\"a\"\x7d,\"id\":1"), .read,
    .arrive (requestBytes "tools/call" "\"params\":\x7b\"name\":\"a\"\x7d,\"id\":2"),
    .arrive (requestBytes "notifications/cancelled" "\"params\":\x7b\"requestId\":2\x7d"),
    .hangUp, .read, .read, .read, .work (.retire 1 ⟨"b", false⟩), .join,
    .work (.retire 0 ⟨"a", false⟩), .work (.respond 0), .work (.respond 1), .join, .work .write,
    .finish]

theorem answered_of_finished_readToEnd :
    (run ⟨[], .builtIn, []⟩ readToEnd).phase = .ended .finished ∧
      (decodeLines (lines true (arrivals readToEnd)).1).2 = none ∧
      (run ⟨[], .builtIn, []⟩ readToEnd).serving.written.map
        (fun answer => answer.id.map Json.text) = [some "1".toList] := by
  have ends : (run ⟨[], .builtIn, []⟩ readToEnd).phase = .ended .finished ∧
      (run ⟨[], .builtIn, []⟩ readToEnd).serving.written.map
        (fun answer => answer.id.map Json.text) = [some "1".toList] := by decide +kernel
  obtain ⟨all, -, -, -⟩ := (answered_of_finished ⟨[], .builtIn, []⟩ readToEnd).2 ends.1
  exact ⟨ends.1, congrArg Prod.snd all, ends.2⟩

theorem output_of_ended {service : Service} {ending : Ending}
    (ended : service.phase = .ended ending) (running : service.serving.server.running = [])
    (retired : service.serving.retired = []) (events : List Event) :
    (service.runFrom events).serving.output = service.serving.output := by
  induction events generalizing service with
  | nil => rfl
  | cons event events ih =>
    have does := does_step service event
    have ended' := does.phase_of_ended ended
    have kept : (service.step event).serving.server.running = [] ∧
        (service.step event).serving.retired = [] ∧
        (service.step event).serving.output = service.serving.output := by
      generalize service.events event = now at does
      generalize service.step event = after at does ⊢
      cases does with
      | nothing => exact ⟨running, retired, rfl⟩
      | late => exact ⟨running, retired, rfl⟩
      | arrive => exact ⟨running, retired, rfl⟩
      | hangUp => exact ⟨running, retired, rfl⟩
      | line reading => exact absurd (ended.symm.trans reading) (by simp)
      | notText reading => exact absurd (ended.symm.trans reading) (by simp)
      | drain reading => exact absurd (ended.symm.trans reading) (by simp)
      | broken reading => exact absurd (ended.symm.trans reading) (by simp)
      | flush draining => exact absurd (ended.symm.trans draining) (by simp)
      | finish flushing => exact absurd (ended.symm.trans flushing) (by simp)
      | work work =>
        rcases step_of_idle running retired work with same | written
        · simp only [same, running, retired, and_self]
        · simp only [written, Serving.server_write, Serving.retired_write, Serving.output_write,
            running, retired, and_self]
      | drop failed => exact ⟨by simp [Server.retire, running], retired, rfl⟩
    obtain ⟨running', retired', same⟩ := kept
    exact (ih ended' running' retired').trans same

/-- A call is under way when a line comes that is not text. -/
def cutShort : List Event :=
  [.arrive (requestBytes "tools/call" "\"params\":\x7b\"name\":\"a\"\x7d,\"id\":1" ++ [0xFF, 0x0A]),
    .read, .read]

/-- The service ends at once, and the call, which nobody took back, is not answered. -/
theorem unanswered_cutShort :
    (run ⟨[], .builtIn, []⟩ cutShort).phase = .ended (.failed (.notText ⟨0, some 1⟩)) ∧
      (run ⟨[], .builtIn, []⟩ cutShort).serving.server.running.map
        (fun call => (call.ticket, call.id.text, call.cancelled)) = [(0, "1".toList, false)] ∧
      (run ⟨[], .builtIn, []⟩ cutShort).serving.output.length = 0 ∧
      ∀ later, (run ⟨[], .builtIn, []⟩ (cutShort ++ .drop 0 :: later)).serving.output = [] := by
  have cut : (run ⟨[], .builtIn, []⟩ cutShort).phase = .ended (.failed (.notText ⟨0, some 1⟩)) ∧
      (run ⟨[], .builtIn, []⟩ cutShort).serving.server.running.map
        (fun call => (call.ticket, call.id.text, call.cancelled)) = [(0, "1".toList, false)] ∧
      (run ⟨[], .builtIn, []⟩ cutShort).serving.output.length = 0 := by decide +kernel
  refine ⟨cut.1, cut.2.1, cut.2.2, fun later => ?_⟩
  have parts : cutShort ++ .drop 0 :: later = (cutShort ++ [.drop 0]) ++ later := by simp
  obtain ⟨failed, running, retired, nothing⟩ :
      (run ⟨[], .builtIn, []⟩ (cutShort ++ [.drop 0])).phase =
          .ended (.failed (.notText ⟨0, some 1⟩)) ∧
        (run ⟨[], .builtIn, []⟩ (cutShort ++ [.drop 0])).serving.server.running.length = 0 ∧
        (run ⟨[], .builtIn, []⟩ (cutShort ++ [.drop 0])).serving.retired.length = 0 ∧
        (run ⟨[], .builtIn, []⟩ (cutShort ++ [.drop 0])).serving.output.length = 0 := by
    decide +kernel
  have stays := output_of_ended failed (List.length_eq_zero_iff.mp running)
    (List.length_eq_zero_iff.mp retired) later
  rw [parts, run, runFrom_append]
  exact stays.trans (List.length_eq_zero_iff.mp nothing)

end CodeGateway.Agent.Service
