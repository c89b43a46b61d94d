import CodeGateway.Json.Printer

namespace CodeGateway.Agent

inductive Answer where
  | result (json : Json)
  | error (code : Int) (message : String)

structure Response where
  id : Option Json
  answer : Answer

def Answer.members : Answer → List (String × Json)
  | result json => [("result", json)]
  | error code message =>
    [("error", .object [("code", .int code), ("message", .string message)])]

def Response.members (response : Response) : List (String × Json) :=
  [("jsonrpc", .string "2.0")] ++ (response.id.map fun id => ("id", id)).toList ++
    response.answer.members

def Response.encode (response : Response) : Json :=
  .ofMembers response.members

def Response.text (response : Response) : List UInt8 :=
  Utf8.encode ('\x7b' :: Json.membersText response.members)

def Response.line (response : Response) : List UInt8 :=
  response.text ++ [0x0A]

def parseErrorCode : Int := -32700
def unknownMethodCode : Int := -32601
def invalidParamsCode : Int := -32602

end CodeGateway.Agent
