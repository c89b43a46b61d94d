import CodeGateway.Json.Fault

namespace CodeGateway

inductive Failure where
  /-- The engine answered with an error. Data that is null counts as data. -/
  | remote (code : Int) (message : String) (data : Option Json)
  | cancelled
  | closed (reason : String)
  | noResult (command : String)
  | badReply (error : Decode.Error)
  | badText (error : Json.TextError)
  | transport (reason : String)

namespace Failure

def message : Failure → String
  | remote _ message _ => message
  | cancelled => "Request cancelled"
  | closed reason => s!"Language server is not running: {reason}"
  | noResult command => s!"Language server returned no result for {command}"
  | badReply error => s!"Invalid response from language server: {error.message}"
  | badText error => s!"Invalid response from language server: {error.message}"
  | transport reason => s!"Transport error: {reason}"

def kind? : Failure → Option String
  | remote _ _ (some data) => (data.member? "kind").bind Json.string?
  | _ => none

end Failure

end CodeGateway
