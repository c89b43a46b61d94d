import CodeGateway.Session.Shared

namespace CodeGateway.SharedSession

/-- Whether a step is the session's own. The others are a new call, a signal or a message. -/
def Event.isWork : Event → Bool
  | .call _ _ => false
  | .link (.fire _) => false
  | .link (.route _) => false
  | _ => true

def AtRest (session : SharedSession) : Prop :=
  ∀ event : Event, event.isWork = true → session.step event = session

inductive Incident where
  | step (event : Event)
  | stop (reason : String)

def meet (session : SharedSession) : Incident → SharedSession
  | .step event => session.step event
  | .stop reason => { session with shared := session.shared.step (.stop reason) }

def meetAll (session : SharedSession) (incidents : List Incident) : SharedSession :=
  incidents.foldl meet session

def after (incidents : List Incident) : SharedSession :=
  start.meetAll incidents

def stopWriter (session : SharedSession) : SharedSession :=
  { session with shared := session.shared.move .stopWriter }

def Call.isResting (shared : SharedLink) (call : Call) : Bool :=
  match call.stage with
  | .ended _ => true
  | .asking => call.left.isEmpty && call.made.any fun id => (shared.outcome? id).isNone
  | _ => false

end SharedSession

/-- Whether a request has ended, or was sent and was neither answered nor taken back. -/
def SharedLink.Request.isResting (shared : SharedLink) (request : Request) : Bool :=
  match request.stage with
  | .ended _ => true
  | .sent =>
    shared.link.waiting.contains request.id && (shared.posted.lookup request.id).isNone &&
      !shared.fired.contains request.signal
  | _ => false

namespace SharedSession

def isAtRest (session : SharedSession) : Bool :=
  session.calls.all (Call.isResting session.shared) &&
    session.shared.requests.all (SharedLink.Request.isResting session.shared)

end SharedSession

end CodeGateway
