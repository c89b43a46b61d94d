import CodeGateway.Session.Basic

namespace CodeGateway

inductive LaunchError where
  | notStarted (command reason : String)
  | handshake (failure : Failure)

def LaunchError.message : LaunchError → String
  | notStarted command reason => s!"Failed to start language server `{command}`: {reason}"
  | handshake failure => s!"Language server handshake failed: {failure.message}"

namespace Session

def handshakeEnd? (ticket : Nat) (finished : List Finished) : Option (Except LaunchError Unit) :=
  finished.findSome? fun finished =>
    match finished with
    | ⟨other, .handshake, result⟩ =>
      if other = ticket then some (result.mapError .handshake) else none
    | _ => none

end Session

end CodeGateway
