import CodeGateway.Link.Shared

namespace CodeGateway

structure Connection where
  shared : SharedLink
  unread : List UInt8
  hungUp : Bool

namespace Connection

inductive Event where
  | move (move : SharedLink.Move)
  | arrive (bytes : List UInt8)
  | hangUp
  | read

def start : Connection := ⟨.start, [], false⟩

/-- What the reader does with the bytes that have come, and what it leaves of them. It waits while
    they are no whole frame, and does nothing any more once it has stopped. -/
def next? (connection : Connection) : Option (SharedLink.Event × List UInt8) :=
  if connection.shared.link.closed.isSome then none
  else
    match Frame.read connection.hungUp connection.unread with
    | .message value rest => some (.route value, rest)
    | .fault fault _ => (Link.closeReason? (.fault fault)).map fun reason => (.stop reason, [])
    | .done => (Link.closeReason? .done).map fun reason => (.stop reason, [])
    | .noRoom => (Link.closeReason? .noRoom).map fun reason => (.stop reason, [])
    | .more => none

def arrive (connection : Connection) (bytes : List UInt8) : Connection :=
  if connection.hungUp || connection.shared.link.closed.isSome then connection
  else { connection with unread := connection.unread ++ bytes }

def step (connection : Connection) : Event → Connection
  | .move move => { connection with shared := connection.shared.move move }
  | .arrive bytes => connection.arrive bytes
  | .hangUp => { connection with hungUp := true }
  | .read =>
    match connection.next? with
    | some (event, rest) =>
      { connection with shared := connection.shared.step event, unread := rest }
    | none => connection

def runFrom (connection : Connection) (events : List Event) : Connection :=
  events.foldl step connection

def run (events : List Event) : Connection :=
  start.runFrom events

end Connection

end CodeGateway
