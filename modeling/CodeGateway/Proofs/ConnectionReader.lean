import CodeGateway.Link.Connection
import CodeGateway.Proofs.FrameStream
import CodeGateway.Proofs.SharedRequest
import Mathlib.Data.List.Forall2
import Mathlib.Data.List.Induction

namespace CodeGateway.Connection

def happens (connection : Connection) : Event → List SharedLink.Event
  | .move move => [.move move]
  | .read => connection.next?.toList.map Prod.fst
  | _ => []

def traceFrom : Connection → List Event → List SharedLink.Event
  | _, [] => []
  | connection, event :: events =>
    connection.happens event ++ traceFrom (connection.step event) events

def message? : SharedLink.Event → Option Json
  | .route message => some message
  | _ => none

def routed (events : List Event) : List Json :=
  (traceFrom start events).filterMap message?

def Event.isHangUp : Event → Bool
  | hangUp => true
  | _ => false

def Event.bytes : Event → List UInt8
  | arrive bytes => bytes
  | _ => []

def arrived : List Event → List UInt8
  | [] => []
  | event :: events => if event.isHangUp then [] else event.bytes ++ arrived events

def Stops (ended : Bool) (bytes : List UInt8) (reason : String) : Prop :=
  (∃ wrong rest, Frame.read ended bytes = .fault wrong rest ∧
    reason = s!"read error: {wrong.message}") ∨
  Frame.read ended bytes = .done ∧ reason = "language server closed its output" ∨
  Frame.read ended bytes = .noRoom ∧ reason = "language server reader stopped"

theorem step_shared (connection : Connection) (event : Event) :
    (connection.step event).shared = connection.shared.runFrom (connection.happens event) := by
  cases event with
  | move move => rfl
  | arrive bytes =>
    simp only [step, arrive]
    split <;> rfl
  | hangUp => rfl
  | read =>
    simp only [step, happens]
    cases connection.next? <;> rfl

theorem runFrom_shared (connection : Connection) (events : List Event) :
    (connection.runFrom events).shared =
      connection.shared.runFrom (connection.traceFrom events) := by
  induction events generalizing connection with
  | nil => rfl
  | cons event events ih =>
    have later := ih (connection.step event)
    rw [step_shared] at later
    rw [traceFrom, SharedLink.runFrom, List.foldl_append]
    exact later

theorem sound_runFrom {connection : Connection} (sound : connection.shared.Sound)
    (events : List Event) : (connection.runFrom events).shared.Sound := by
  rw [runFrom_shared]
  exact sound.runFrom _

theorem sound_run (events : List Event) : (run events).shared.Sound :=
  sound_runFrom SharedLink.sound_start events

theorem run_append (events more : List Event) : run (events ++ more) = (run events).runFrom more :=
  List.foldl_append

theorem run_snoc (events : List Event) (event : Event) :
    run (events ++ [event]) = (run events).step event := run_append events [event]

/-- What the reader does next, and in which case. -/
inductive Reads (connection : Connection) : Option (SharedLink.Event × List UInt8) → Prop
  | stopped {reason : String} (closed : connection.shared.link.closed = some reason) :
    Reads connection none
  | waits (standing : connection.shared.link.closed = none)
      (unfinished : Frame.read connection.hungUp connection.unread = .more) : Reads connection none
  | routes {value : Json} {rest : List UInt8} (standing : connection.shared.link.closed = none)
      (found : Frame.read connection.hungUp connection.unread = .message value rest) :
    Reads connection (some (.route value, rest))
  | stops {reason : String} (standing : connection.shared.link.closed = none)
      (stops : Stops connection.hungUp connection.unread reason) :
    Reads connection (some (.stop reason, []))

theorem reads_next? (connection : Connection) : Reads connection connection.next? := by
  unfold next?
  cases closed : connection.shared.link.closed with
  | some reason => exact .stopped closed
  | none =>
    cases found : Frame.read connection.hungUp connection.unread with
    | message value rest => exact .routes closed found
    | fault wrong rest => exact .stops closed (Or.inl ⟨wrong, rest, found, rfl⟩)
    | done => exact .stops closed (Or.inr (Or.inl ⟨found, rfl⟩))
    | more => exact .waits closed found
    | noRoom => exact .stops closed (Or.inr (Or.inr ⟨found, rfl⟩))

theorem Stops.append {ended : Bool} {bytes : List UInt8} {reason : String}
    (stops : Stops false bytes reason) (later : List UInt8) :
    Stops ended (bytes ++ later) reason := by
  rcases stops with ⟨wrong, rest, found, same⟩ | ⟨found, -⟩ | ⟨found, same⟩
  · refine Or.inl ⟨wrong, rest ++ later, ?_, same⟩
    rw [Frame.read_append (by simp [found]), found]
    rfl
  · exact absurd found Frame.read_false_ne_done
  · refine Or.inr (Or.inr ⟨?_, same⟩)
    rw [Frame.read_append (by simp [found]), found]
    rfl

theorem closed_move (shared : SharedLink) (move : SharedLink.Move) :
    (shared.move move).link.closed = shared.link.closed := by
  have does := SharedLink.does_move shared move
  generalize shared.move move = after at does ⊢
  cases does <;> rfl

theorem closed_route (shared : SharedLink) (message : Json) :
    (shared.step (.route message)).link.closed = shared.link.closed := by
  have does := SharedLink.does_step shared (.route message)
  generalize shared.step (.route message) = after at does ⊢
  cases does <;> rfl

theorem step_stop {shared : SharedLink} (standing : shared.link.closed = none) (reason : String) :
    shared.step (.stop reason) = shared.absorb (shared.link.close reason) := by
  simp [SharedLink.step, standing]

def StandsAt (connection : Connection) (left : List UInt8) : Prop :=
  (connection.shared.link.closed = none → connection.unread = left) ∧
    ∀ reason, connection.shared.link.closed = some reason → Stops connection.hungUp left reason

theorem StandsAt.move {connection : Connection} {left : List UInt8}
    (stands : connection.StandsAt left) (move : SharedLink.Move) :
    (connection.step (.move move)).StandsAt left := by
  have same : (connection.step (.move move)).shared.link.closed = connection.shared.link.closed :=
    closed_move _ move
  constructor
  · intro closed
    exact stands.1 (same.symm.trans closed)
  · intro reason closed
    exact stands.2 reason (same.symm.trans closed)

theorem StandsAt.hangUp {connection : Connection} {left : List UInt8}
    (stands : connection.StandsAt left) : (connection.step .hangUp).StandsAt left := by
  refine ⟨stands.1, fun reason closed => ?_⟩
  have stops := stands.2 reason closed
  cases hungUp : connection.hungUp with
  | true =>
    rw [hungUp] at stops
    exact stops
  | false =>
    rw [hungUp] at stops
    have longer : Stops true (left ++ []) reason := stops.append []
    rwa [List.append_nil] at longer

theorem StandsAt.arrive {connection : Connection} {left : List UInt8}
    (stands : connection.StandsAt left) (bytes : List UInt8) :
    (connection.step (.arrive bytes)).StandsAt
      (left ++ if connection.hungUp then [] else bytes) := by
  simp only [Connection.step, Connection.arrive]
  cases hungUp : connection.hungUp with
  | true => simpa using stands
  | false =>
    cases closed : connection.shared.link.closed with
    | none =>
      refine ⟨fun _ => by simp [stands.1 closed], ?_⟩
      intro reason closed'
      exact absurd closed' (by simp [closed])
    | some reason =>
      refine ⟨fun closed' => absurd closed' (by simp [closed]), ?_⟩
      intro reason' closed'
      have stops := stands.2 reason' (by simpa using closed')
      rw [hungUp] at stops
      exact stops.append bytes

theorem StandsAt.read {connection : Connection} {left : List UInt8}
    (stands : connection.StandsAt left) :
    ∃ frames rest, left = frames.flatten ++ rest ∧
      List.Forall₂ Frame.IsReadable frames ((connection.happens .read).filterMap message?) ∧
      (connection.step .read).StandsAt rest := by
  have view := reads_next? connection
  simp only [Connection.step, happens]
  generalize connection.next? = next at view ⊢
  cases view with
  | stopped closed => exact ⟨[], left, rfl, .nil, stands⟩
  | waits closed => exact ⟨[], left, rfl, .nil, stands⟩
  | @routes value rest closed found =>
    obtain ⟨frame, unread, readable⟩ := Frame.isReadable_of_read found
    refine ⟨[frame], rest, ?_, .cons readable .nil, fun _ => rfl, ?_⟩
    · rw [← stands.1 closed, unread]
      simp
    · intro reason closed'
      exact absurd ((closed_route _ value).symm.trans closed') (by simp [closed])
  | @stops reason closed stops =>
    rw [stands.1 closed] at stops
    refine ⟨[], left, rfl, .nil, ?_, ?_⟩
    · intro closed'
      exact absurd closed'
        (by simp [step_stop closed, SharedLink.absorb, SharedLink.hand, Link.close])
    · intro reason' closed'
      simp only [step_stop closed] at closed'
      cases closed'
      exact stops

theorem StandsAt.step {connection : Connection} {left : List UInt8}
    (stands : connection.StandsAt left) (event : Event) :
    ∃ frames rest, (left ++ if connection.hungUp then [] else event.bytes) =
        frames.flatten ++ rest ∧
      List.Forall₂ Frame.IsReadable frames ((connection.happens event).filterMap message?) ∧
      (connection.step event).StandsAt rest := by
  cases event with
  | move move => exact ⟨[], left, by simp [Event.bytes], .nil, stands.move move⟩
  | hangUp => exact ⟨[], left, by simp [Event.bytes], .nil, stands.hangUp⟩
  | arrive bytes => exact ⟨[], _, rfl, .nil, stands.arrive bytes⟩
  | read =>
    obtain ⟨frames, rest, whole, all, stands'⟩ := stands.read
    exact ⟨frames, rest, by simp [Event.bytes, whole], all, stands'⟩

end CodeGateway.Connection
