import CodeGateway.Agent.Lines
import CodeGateway.Agent.Serving

/-!
The service of an agent from the first byte to the end. While it reads, calls run and responses are
written. At the end of the input it waits for the calls that are under way, lets go of the tools and
waits until every response is written. When reading fails it ends on the spot.
-/

namespace CodeGateway.Agent

inductive ReadFault where
  | notText (invalid : Utf8.Invalid)
  | broken (reason : String)
  deriving DecidableEq

inductive Ending where
  | finished
  | failed (fault : ReadFault)
  deriving DecidableEq

inductive Phase where
  | reading
  | draining
  | flushing
  | ended (ending : Ending)
  deriving DecidableEq

structure Service where
  serving : Serving
  unread : List UInt8
  hungUp : Bool
  phase : Phase

namespace Service

inductive Work where
  | retire (ticket : Nat) (result : ToolResult)
  | respond (ticket : Nat)
  | write

def Work.event : Work → Serving.Event
  | .retire ticket result => .retire ticket result
  | .respond ticket => .respond ticket
  | .write => .write

inductive Event where
  | arrive (bytes : List UInt8)
  | hangUp
  | read
  | fail (reason : String)
  | work (work : Work)
  | join
  | finish
  | drop (ticket : Nat)

def start (catalogue : Catalogue) : Service := ⟨.start catalogue, [], false, .reading⟩

def takeLine (service : Service) (line rest : List UInt8) : Service :=
  match Utf8.decode line with
  | .error invalid =>
    { service with unread := rest, phase := .ended (.failed (.notText invalid)) }
  | .ok text => { service with unread := rest, serving := service.serving.takeLine text }

def read (service : Service) : Service :=
  match Frame.nextLine service.hungUp service.unread with
  | some (line, rest) => service.takeLine (withoutEnd line) rest
  | none => if service.hungUp then { service with phase := .draining } else service

def dispose (serving : Serving) : Serving :=
  { serving with server :=
    { serving.server with catalogue := serving.server.catalogue.dispose } }

def step (service : Service) (event : Event) : Service :=
  match event, service.phase with
  | .arrive bytes, _ =>
    if service.hungUp then service else { service with unread := service.unread ++ bytes }
  | .hangUp, _ => { service with hungUp := true }
  | .read, .reading => service.read
  | .fail reason, .reading => { service with phase := .ended (.failed (.broken reason)) }
  | .work work, _ => { service with serving := service.serving.step work.event }
  | .join, .draining =>
    if service.serving.server.isIdle && service.serving.retired.isEmpty then
      { service with serving := dispose service.serving, phase := .flushing }
    else service
  | .finish, .flushing =>
    if service.serving.queued.isEmpty then { service with phase := .ended .finished } else service
  | .drop ticket, .ended (.failed _) =>
    { service with serving :=
      { service.serving with server := (service.serving.server.retire ticket).1 } }
  | _, _ => service

def runFrom (service : Service) (events : List Event) : Service :=
  events.foldl step service

def run (catalogue : Catalogue) (events : List Event) : Service :=
  (start catalogue).runFrom events

def arrivals : List Event → List UInt8
  | [] => []
  | .arrive bytes :: rest => bytes ++ arrivals rest
  | .hangUp :: _ => []
  | _ :: rest => arrivals rest

def events (service : Service) : Event → List Serving.Event
  | .read =>
    match service.phase, Frame.nextLine service.hungUp service.unread with
    | .reading, some (line, _) => (Utf8.decode (withoutEnd line)).toOption.toList.map .line
    | _, _ => []
  | .work work => [work.event]
  | _ => []

def trace : Service → List Event → List Serving.Event
  | _, [] => []
  | service, event :: rest => service.events event ++ trace (service.step event) rest

end Service

end CodeGateway.Agent
