import CodeGateway.Session.Exchange

namespace CodeGateway.Message

def documentOf? (method : String) (message : Json) : Option String :=
  if (message.member? "method").bind Json.string? = some method then
    (((message.member? "params").bind (Json.member? "textDocument")).bind
      (Json.member? "uri")).bind Json.string?
  else none

def opened? : Json → Option String := documentOf? "textDocument/didOpen"

def closed? : Json → Option String := documentOf? "textDocument/didClose"

/-- The document that the parameters of a request name: by themselves or, those of a command, in its
    argument. -/
def named? (params : Json) : Option String :=
  match params.member? "textDocument", params.member? "arguments" with
  | some document, _ => (document.member? "uri").bind Json.string?
  | none, some (.array (argument :: _)) => (argument.member? "uri").bind Json.string?
  | none, _ => none

/-- The document that a request asks about. Without an identifier a message is no request. -/
def subject? (message : Json) : Option String :=
  (message.member? "id").bind fun _ => (message.member? "params").bind named?

@[simp] theorem member?_method_notification (method : String) (params : Json) :
    (notification method params).member? "method" = some (.string method) := by
  simp [notification, Json.member?, Json.lookup]

@[simp] theorem member?_params_notification (method : String) (params : Json) :
    (notification method params).member? "params" = some params := by
  simp [notification, Json.member?, Json.lookup]

@[simp] theorem member?_id_notification (method : String) (params : Json) :
    (notification method params).member? "id" = none := by
  simp [notification, Json.member?, Json.lookup]

@[simp] theorem member?_method_request (id : Nat) (method : String) (params : Json) :
    (request id method params).member? "method" = some (.string method) := by
  simp [request, Json.member?, Json.lookup]

@[simp] theorem member?_params_request (id : Nat) (method : String) (params : Json) :
    (request id method params).member? "params" = some params := by
  simp [request, Json.member?, Json.lookup]

@[simp] theorem member?_id_request (id : Nat) (method : String) (params : Json) :
    (request id method params).member? "id" = some (.int id) := by
  simp [request, Json.member?, Json.lookup]

@[simp] theorem member?_method_answer (id : Json) : (answer id).member? "method" = none := by
  simp [answer, Json.member?, Json.lookup]

theorem documentOf?_notification_of_ne {method other : String} (different : other ≠ method)
    (params : Json) : documentOf? method (notification other params) = none := by
  simp [documentOf?, Json.string?, different]

theorem documentOf?_request_of_ne {method other : String} (different : other ≠ method) (id : Nat)
    (params : Json) : documentOf? method (request id other params) = none := by
  simp [documentOf?, Json.string?, different]

@[simp] theorem documentOf?_answer (method : String) (id : Json) :
    documentOf? method (answer id) = none := by
  simp [documentOf?]

@[simp] theorem opened?_didOpen (url language text : String) :
    opened? (didOpen url language text) = some url := by
  simp [opened?, documentOf?, didOpen, Json.string?, Json.member?, Json.lookup, notification]

@[simp] theorem closed?_didOpen (url language text : String) :
    closed? (didOpen url language text) = none :=
  documentOf?_notification_of_ne (by decide) _

@[simp] theorem opened?_didClose (url : String) : opened? (didClose url) = none :=
  documentOf?_notification_of_ne (by decide) _

@[simp] theorem closed?_didClose (url : String) : closed? (didClose url) = some url := by
  simp [closed?, documentOf?, didClose, Json.string?, Json.member?, Json.lookup, notification]

@[simp] theorem subject?_notification (method : String) (params : Json) :
    subject? (notification method params) = none := by
  simp [subject?]

@[simp] theorem subject?_request (id : Nat) (method : String) (params : Json) :
    subject? (request id method params) = named? params := by
  simp [subject?]

theorem named?_executeCommand (command : String) (argument : Json) (more : List Json) :
    named? (executeCommand command (argument :: more)).2 =
      (argument.member? "uri").bind Json.string? := by
  have noDocument :
      (executeCommand command (argument :: more)).2.member? "textDocument" = none := by
    simp [executeCommand, Json.member?, Json.lookup]
  have arguments : (executeCommand command (argument :: more)).2.member? "arguments" =
      some (.array (argument :: more)) := by
    simp [executeCommand, Json.member?, Json.lookup]
  simp only [named?, noDocument, arguments]

end CodeGateway.Message
