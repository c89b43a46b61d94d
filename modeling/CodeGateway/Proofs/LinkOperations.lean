import CodeGateway.Proofs.ConnectionClose

namespace CodeGateway

namespace SharedLink

theorem absorb_nothing (shared : SharedLink) : shared.absorb (shared.link, .none) = shared := by
  simp [absorb, hand, Effects.none]

theorem absorb_absorb (shared : SharedLink) (first second : Link × Effects) :
    (shared.absorb first).absorb second =
      shared.absorb (second.1, first.2.append second.2) := by
  cases muted : shared.muted <;> simp [absorb, hand, Effects.append, muted]

end SharedLink

namespace Link

theorem route_unread (link : Link) (message : Json) (unread : List UInt8) :
    ({ link with unread } : Link).route message =
      ({ (link.route message).1 with unread }, (link.route message).2) := by
  unfold route
  cases Message.kind message with
  | request id => rfl
  | other => rfl
  | reply id =>
    simp only
    cases link.waiting.find? fun (waiting : Nat) => (waiting : Int) == id <;> rfl

theorem routeAll_unread (link : Link) (messages : List Json) (unread : List UInt8) :
    ({ link with unread } : Link).routeAll messages =
      ({ (link.routeAll messages).1 with unread }, (link.routeAll messages).2) := by
  induction messages generalizing link with
  | nil => rfl
  | cons message messages ih => simp only [routeAll, route_unread, ih]

theorem read_of_standing {link : Link} (standing : link.closed = none) (ended : Bool)
    (bytes : List UInt8) :
    link.read ended bytes =
      ({ link with unread := (Frame.readAll ended (link.unread ++ bytes)).2.2 },
        (Frame.readAll ended (link.unread ++ bytes)).1,
        closeReason? (Frame.readAll ended (link.unread ++ bytes)).2.1) := by
  unfold read
  split
  · rename_i closed
    exact absurd standing (by simp [closed])
  · rfl

end Link

namespace Frame

theorem readAllFrom_done (ended : Bool) (fuel : Nat) (done : List Json) (input : List UInt8) :
    readAllFrom ended fuel done input =
      (done.reverse ++ (readAllFrom ended fuel [] input).1,
        (readAllFrom ended fuel [] input).2) := by
  induction fuel generalizing done input with
  | zero => simp [readAllFrom]
  | succ fuel ih =>
    unfold readAllFrom
    cases read ended input with
    | message value rest =>
      simp only
      rw [ih (value :: done), ih [value]]
      simp
    | _ => simp

end Frame

namespace Connection

theorem runFrom_reads_of_next? {connection : Connection} (nothing : connection.next? = none)
    (count : Nat) : connection.runFrom (List.replicate count .read) = connection := by
  induction count with
  | zero => rfl
  | succ count ih =>
    have still : connection.step .read = connection := by simp only [step, nothing]
    rw [List.replicate_succ, runFrom, List.foldl_cons, still]
    exact ih

theorem next?_of_closed {connection : Connection} {reason : String}
    (closed : connection.shared.link.closed = some reason) : connection.next? = none := by
  simp [next?, closed]

theorem step_route {shared : SharedLink} (standing : shared.link.closed = none) (message : Json) :
    shared.step (.route message) = shared.absorb (shared.link.route message) := by
  simp [SharedLink.step, standing]

theorem runFrom_reads {connection : Connection} (standing : connection.shared.link.closed = none)
    (count : Nat) :
    let found := Frame.readAllFrom connection.hungUp count [] connection.unread
    let routed := connection.shared.absorb (connection.shared.link.routeAll found.1)
    let after := connection.runFrom (List.replicate count .read)
    match Link.closeReason? found.2.1 with
    | none => after.shared = routed ∧ after.unread = found.2.2
    | some reason =>
      after.shared = routed.absorb (routed.link.close reason) ∧ after.unread = [] := by
  induction count generalizing connection with
  | zero => exact ⟨(SharedLink.absorb_nothing connection.shared).symm, rfl⟩
  | succ count ih =>
    have unfolded : connection.runFrom (List.replicate (count + 1) .read) =
        (connection.step .read).runFrom (List.replicate count .read) := rfl
    have stopped {reason : String} (next : connection.next? = some (.stop reason, [])) :
        (connection.runFrom (List.replicate (count + 1) .read)).shared =
          connection.shared.absorb (connection.shared.link.close reason) ∧
        (connection.runFrom (List.replicate (count + 1) .read)).unread = [] := by
      have first : connection.step .read =
          ⟨connection.shared.absorb (connection.shared.link.close reason), [],
            connection.hungUp⟩ := by
        simp only [step, next, step_stop standing]
      rw [unfolded, first, runFrom_reads_of_next? (next?_of_closed rfl)]
      exact ⟨rfl, rfl⟩
    cases found : Frame.read connection.hungUp connection.unread with
    | message value rest =>
      have first : connection.step .read =
          ⟨connection.shared.absorb (connection.shared.link.route value), rest,
            connection.hungUp⟩ := by
        simp [step, next?, standing, found, step_route standing]
      have standing' : (connection.step .read).shared.link.closed = none := by
        rw [first, ← step_route standing]
        exact (closed_route _ value).trans standing
      have split (messages : List Json) :
          connection.shared.absorb (connection.shared.link.routeAll (value :: messages)) =
            (connection.shared.absorb (connection.shared.link.route value)).absorb
              ((connection.shared.link.route value).1.routeAll messages) :=
        (SharedLink.absorb_absorb _ _ _).symm
      have later := ih standing'
      rw [first] at later
      rw [unfolded, first]
      simp only [Frame.readAllFrom, found]
      rw [Frame.readAllFrom_done _ _ [value], List.reverse_singleton, List.singleton_append, split]
      exact later
    | fault wrong rest =>
      have next : connection.next? = some (.stop s!"read error: {wrong.message}", []) := by
        simp [next?, standing, found, Link.closeReason?]
      simp only [Frame.readAllFrom, found, Link.closeReason?, List.reverse_nil, Link.routeAll,
        SharedLink.absorb_nothing]
      exact stopped next
    | done =>
      have next : connection.next? = some (.stop "language server closed its output", []) := by
        simp [next?, standing, found, Link.closeReason?]
      simp only [Frame.readAllFrom, found, Link.closeReason?, List.reverse_nil, Link.routeAll,
        SharedLink.absorb_nothing]
      exact stopped next
    | noRoom =>
      have next : connection.next? = some (.stop "language server reader stopped", []) := by
        simp [next?, standing, found, Link.closeReason?]
      simp only [Frame.readAllFrom, found, Link.closeReason?, List.reverse_nil, Link.routeAll,
        SharedLink.absorb_nothing]
      exact stopped next
    | more =>
      have next : connection.next? = none := by simp [next?, standing, found]
      simp only [Frame.readAllFrom, found, Link.closeReason?, List.reverse_nil, Link.routeAll,
        SharedLink.absorb_nothing, runFrom_reads_of_next? next]
      exact ⟨trivial, trivial⟩

def deliver (ended : Bool) (bytes : List UInt8) (count : Nat) : List Event :=
  .arrive bytes :: (if ended then [.hangUp] else []) ++ List.replicate count .read

theorem runFrom_deliver_eq {connection : Connection} (hungUp : connection.hungUp = false)
    (ended : Bool) (bytes : List UInt8) (count : Nat) :
    connection.runFrom (deliver ended bytes count) =
      ({ connection.arrive bytes with hungUp := ended } : Connection).runFrom
        (List.replicate count .read) := by
  cases ended with
  | true => rfl
  | false =>
    have kept : (connection.arrive bytes).hungUp = false := by
      unfold arrive
      split <;> exact hungUp
    have same : ({ connection.arrive bytes with hungUp := false } : Connection) =
        connection.arrive bytes := by rw [← kept]
    rw [same]
    rfl

/-- Bytes that are taken in without a break. The link keeps what it has not read, the connection
    keeps it by the link. -/
theorem runFrom_deliver {connection : Connection} {link : Link}
    (same : connection.shared.link = { link with unread := [] })
    (unread : connection.unread = link.unread) (hungUp : connection.hungUp = false) (ended : Bool)
    (bytes : List UInt8) :
    let after := connection.runFrom (deliver ended bytes ((link.unread ++ bytes).length + 1))
    let (link', effects) := link.receive ended bytes
    after.shared = connection.shared.absorb ({ link' with unread := [] }, effects) ∧
      after.unread = link'.unread := by
  have closed' : connection.shared.link.closed = link.closed := by rw [same]
  rw [runFrom_deliver_eq hungUp]
  cases closed : link.closed with
  | some reason =>
    have kept : connection.arrive bytes = connection := by
      simp [arrive, closed'.trans closed]
    have next : ({ connection with hungUp := ended } : Connection).next? = none :=
      next?_of_closed (closed'.trans closed)
    have received : link.receive ended bytes = (link, .none) := by
      simp [Link.receive, Link.read, closed, Link.routeAll]
    rw [kept, runFrom_reads_of_next? next, received]
    refine ⟨?_, unread⟩
    simp only [← same, SharedLink.absorb_nothing]
  | none =>
    have taken : connection.arrive bytes =
        { connection with unread := connection.unread ++ bytes } := by
      simp [arrive, closed'.trans closed, hungUp]
    have standing : ({ connection with
        unread := connection.unread ++ bytes, hungUp := ended } : Connection).shared.link.closed =
          none := closed'.trans closed
    have later := runFrom_reads standing ((link.unread ++ bytes).length + 1)
    rw [taken]
    simp only [unread, same] at later ⊢
    simp only [Link.receive, Link.read_of_standing closed, Frame.readAll]
    generalize Frame.readAllFrom ended _ [] (link.unread ++ bytes) = found at later ⊢
    obtain ⟨messages, stop, rest⟩ := found
    simp only [Link.routeAll_unread] at later ⊢
    cases reason : Link.closeReason? stop with
    | none =>
      simp only [reason] at later ⊢
      exact later
    | some reason =>
      simp only [reason, SharedLink.absorb_absorb] at later ⊢
      exact later

end Connection

end CodeGateway
