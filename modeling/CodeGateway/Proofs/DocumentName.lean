import CodeGateway.Proofs.DocumentMessage
import CodeGateway.Proofs.FileUrl
import CodeGateway.Session.Basic

namespace CodeGateway

namespace Query

def isSymbol : Query → Bool
  | symbolInfo _ => true
  | _ => false

theorem requests_cases {query : Query} {requests : List RequestText}
    (asked : query.requests = .ok requests) :
    (∃ wanted url, query = symbolInfo wanted ∧ Url.parse wanted.uri = .ok url ∧
      requests = symbolRequests url wanted.position) ∨
    (query.isSymbol = false ∧ ∃ arguments, requests = [executeCommand query.command arguments] ∧
      ∀ uri, query.uri? = some uri →
        ∃ argument, arguments = [argument] ∧ argument.member? "uri" = some (.string uri)) := by
  have command {arguments : List Json} (notSymbol : query.isSymbol = false)
      (made : query.requests = .ok [executeCommand query.command arguments])
      (names : ∀ uri, query.uri? = some uri →
        ∃ argument, arguments = [argument] ∧ argument.member? "uri" = some (.string uri)) :
      query.isSymbol = false ∧ ∃ arguments, requests = [executeCommand query.command arguments] ∧
        ∀ uri, query.uri? = some uri →
          ∃ argument, arguments = [argument] ∧ argument.member? "uri" = some (.string uri) := by
    rw [asked] at made
    exact ⟨notSymbol, arguments, Except.ok.inj made, names⟩
  cases query with
  | symbolInfo wanted =>
    refine Or.inl ⟨wanted, ?_⟩
    simp only [Query.requests] at asked
    split at asked
    · rename_i url parsed
      exact ⟨url, rfl, parsed, (Except.ok.inj asked).symm⟩
    · cases asked
  | reindex => exact Or.inr (command rfl rfl (by simp [uri?]))
  | parserMetrics => exact Or.inr (command rfl rfl (by simp [uri?]))
  | _ =>
    refine Or.inr (command rfl rfl ?_)
    intro uri about
    cases about
    exact ⟨_, rfl, rfl⟩

theorem named?_of_requests {query : Query} {uri : String} (about : query.uri? = some uri)
    {url : Url} (parsed : Url.parse uri = .ok url) {requests : List RequestText}
    (asked : query.requests = .ok requests) {request : RequestText} (among : request ∈ requests) :
    Message.named? request.2 = some (if query.isSymbol then url.toString else uri) := by
  rcases requests_cases asked with
    ⟨wanted, url', rfl, parsed', rfl⟩ | ⟨notSymbol, arguments, rfl, names⟩
  · cases about
    obtain rfl := Except.ok.inj (parsed.symm.trans parsed')
    simp only [symbolRequests, List.mem_cons, List.not_mem_nil, or_false] at among
    rcases among with rfl | rfl | rfl <;>
      simp [Message.named?, positionParams, isSymbol, Json.member?, Json.lookup, Json.string?]
  · obtain ⟨argument, rfl, uriMember⟩ := names uri about
    rw [List.mem_singleton.mp among, Message.named?_executeCommand, uriMember, notSymbol]
    rfl

theorem requests_ne_nil {query : Query} {requests : List RequestText}
    (asked : query.requests = .ok requests) : requests ≠ [] := by
  rcases requests_cases asked with ⟨wanted, url, -, -, rfl⟩ | ⟨-, arguments, rfl, -⟩
  · simp [symbolRequests]
  · simp

theorem method_of_requests {query : Query} {requests : List RequestText}
    (asked : query.requests = .ok requests) {request : RequestText} (among : request ∈ requests) :
    request.1 ≠ "textDocument/didOpen" ∧ request.1 ≠ "textDocument/didClose" := by
  rcases requests_cases asked with ⟨wanted, url, -, -, rfl⟩ | ⟨-, arguments, rfl, -⟩
  · simp only [symbolRequests, List.mem_cons, List.not_mem_nil, or_false] at among
    rcases among with rfl | rfl | rfl <;> simp
  · rw [List.mem_singleton.mp among]
    simp [executeCommand]

end Query

namespace Link

theorem sent_request (link : Link) (method : String) (params : Json) :
    (link.request method params).2.1 =
      if link.closed = none then [Message.request link.nextId method params] else [] := by
  simp only [request, takeNumber, register]
  cases link.closed <;> rfl

theorem sent_cancel {link : Link} {id : Nat} {message : Json}
    (among : message ∈ (link.cancel id).2.sent) : message = Message.cancel id := by
  unfold cancel at among
  split at among
  · exact List.mem_singleton.mp among
  · cases among

theorem opened?_openDocument {link : Link} {disk : Disk} {url : Url} {message : Json}
    (among : message ∈ (link.openDocument disk url).2) :
    Message.opened? message = some url.toString ∧ Message.subject? message = none := by
  unfold openDocument at among
  split at among
  · cases among
  · split at among
    · cases among
    · split at among
      · cases among
      · rw [List.mem_singleton.mp among]
        exact ⟨Message.opened?_didOpen _ _ _, Message.subject?_notification _ _⟩

theorem closed_openDocument (link : Link) (disk : Disk) (url : Url) :
    (link.openDocument disk url).1.closed = link.closed := by
  unfold openDocument
  split
  · rfl
  · split
    · rfl
    · split <;> rfl

end Link

namespace Session

def IsAside (message : Json) : Prop :=
  Message.opened? message = none ∧ Message.subject? message = none

theorem isAside_notification {method : String} (different : method ≠ "textDocument/didOpen")
    (params : Json) : IsAside (Message.notification method params) :=
  ⟨Message.documentOf?_notification_of_ne different params,
    Message.subject?_notification method params⟩

theorem isAside_wrapUp {link : Link} {goal : Goal} {result : Except Failure goal.Result}
    {message : Json} (among : message ∈ (goal.wrapUp link result).2) : IsAside message := by
  unfold Goal.wrapUp at among
  split at among
  · rw [List.mem_singleton.mp among]
    exact isAside_notification (by decide) _
  · rw [List.mem_singleton.mp among]
    exact isAside_notification (by decide) _
  · obtain ⟨url, -, rfl⟩ := List.mem_map.mp among
    exact isAside_notification (by decide) _
  · cases among

theorem isAside_settle {session : Session} {ids : List Nat} {message : Json}
    (among : message ∈ (session.settle ids).2.sent) : IsAside message := by
  induction ids generalizing session with
  | nil => cases among
  | cons id ids ih =>
    simp only [settle, Effects.append, List.mem_append] at among
    rcases among with here | later
    · unfold settleCall at here
      split at here
      · cases here
      · split at here
        · cases here
        · exact isAside_wrapUp here
    · exact ih later

theorem mem_startRequests {takenBack : Bool} {link : Link} {requests : List RequestText}
    {message : Json} (among : message ∈ (startRequests takenBack link requests).2.1) :
    IsAside message ∨
      ∃ id, ∃ request ∈ requests, message = Message.request id request.1 request.2 := by
  induction requests generalizing link with
  | nil => cases among
  | cons request requests ih =>
    simp only [startRequests, List.mem_append] at among
    rcases among with (sent | takenBack') | later
    · rw [Link.sent_request] at sent
      split at sent
      · exact Or.inr ⟨_, request, by simp, List.mem_singleton.mp sent⟩
      · cases sent
    · split at takenBack'
      · rw [Link.sent_cancel takenBack']
        exact Or.inl (isAside_notification (by decide) _)
      · cases takenBack'
    · rcases ih later with aside | ⟨id, other, within, same⟩
      · exact Or.inl aside
      · exact Or.inr ⟨id, other, by simp [within], same⟩

theorem request_mem_startRequests {link : Link} (standing : link.closed = none)
    (request : RequestText) (requests : List RequestText) (takenBack : Bool) :
    Message.request link.nextId request.1 request.2 ∈
      (startRequests takenBack link (request :: requests)).2.1 := by
  simp only [startRequests, List.mem_append, Link.sent_request, standing, if_true]
  exact Or.inl (Or.inl (by simp))

theorem mem_ask {session : Session} {disk : Disk} {ticket : Nat} {query : Query} {takenBack : Bool}
    {message : Json} (among : message ∈ (session.ask disk ticket query takenBack).2.sent) :
    ∃ requests, query.requests = .ok requests ∧
      (message ∈ (session.openDocument disk query.uri?).2 ∨ IsAside message ∨
        ∃ id, ∃ request ∈ requests, message = Message.request id request.1 request.2) := by
  cases asked : query.requests with
  | error failure =>
    simp only [ask, asked] at among
    cases among
  | ok requests =>
    refine ⟨requests, rfl, ?_⟩
    simp only [ask, asked, begin, List.mem_append] at among
    rcases among with opened | started | settled
    · exact Or.inl opened
    · exact Or.inr (mem_startRequests started)
    · exact Or.inr (Or.inl (isAside_settle settled))

theorem opened?_of_mem_openDocument {session : Session} {disk : Disk} {uri : Option String}
    {message : Json} (among : message ∈ (session.openDocument disk uri).2) :
    ∃ url, uri.map Url.parse = some (.ok url) ∧ Message.opened? message = some url.toString ∧
      Message.subject? message = none := by
  unfold openDocument at among
  split at among
  · rename_i url parsed
    exact ⟨url, parsed, Link.opened?_openDocument among⟩
  · cases among

theorem closed_openDocument (session : Session) (disk : Disk) (uri : Option String) :
    (session.openDocument disk uri).1.link.closed = session.link.closed := by
  unfold openDocument
  split
  · exact Link.closed_openDocument _ _ _
  · rfl

theorem names_of_ask {session : Session} {disk : Disk} {ticket : Nat} {query : Query}
    {takenBack : Bool} {uri : String} (about : query.uri? = some uri) {name : String}
    (opens : name ∈ (session.ask disk ticket query takenBack).2.sent.filterMap Message.opened?) :
    ∃ url, Url.parse uri = .ok url ∧ name = url.toString ∧
      ∀ subject ∈ (session.ask disk ticket query takenBack).2.sent.filterMap Message.subject?,
        subject = if query.isSymbol then name else uri := by
  obtain ⟨message, among, opened⟩ := List.mem_filterMap.mp opens
  obtain ⟨requests, asked, sent⟩ := mem_ask among
  have apart {id : Nat} {request : RequestText} (within : request ∈ requests) :
      Message.opened? (Message.request id request.1 request.2) = none :=
    Message.documentOf?_request_of_ne (Query.method_of_requests asked within).1 _ _
  obtain ⟨url, parsed, named⟩ : ∃ url, Url.parse uri = .ok url ∧ name = url.toString := by
    rcases sent with first | aside | ⟨id, request, within, rfl⟩
    · obtain ⟨url, parsed, opened', -⟩ := opened?_of_mem_openDocument first
      rw [about, Option.map_some, Option.some.injEq] at parsed
      rw [opened, Option.some.injEq] at opened'
      exact ⟨url, parsed, opened'⟩
    · rw [aside.1] at opened
      cases opened
    · rw [apart within] at opened
      cases opened
  refine ⟨url, parsed, named, ?_⟩
  intro subject given
  obtain ⟨other, among', subject'⟩ := List.mem_filterMap.mp given
  obtain ⟨requests', asked', sent'⟩ := mem_ask among'
  rcases sent' with first | aside | ⟨id, request, within, rfl⟩
  · obtain ⟨-, -, -, none⟩ := opened?_of_mem_openDocument first
    rw [none] at subject'
    cases subject'
  · rw [aside.2] at subject'
    cases subject'
  · rw [Message.subject?_request, Query.named?_of_requests about parsed asked' within] at subject'
    rw [named]
    exact (Option.some.inj subject').symm

theorem exists_subject {session : Session} (standing : session.link.closed = none) (disk : Disk)
    (ticket : Nat) (takenBack : Bool) {query : Query} {uri : String} {url : Url}
    (about : query.uri? = some uri) (parsed : Url.parse uri = .ok url)
    {requests : List RequestText} (asked : query.requests = .ok requests) :
    ∃ subject, subject ∈
      (session.ask disk ticket query takenBack).2.sent.filterMap Message.subject? := by
  obtain ⟨request, more, rfl⟩ := List.exists_cons_of_ne_nil (Query.requests_ne_nil asked)
  have stillStanding : (session.openDocument disk query.uri?).1.link.closed = none :=
    (closed_openDocument _ _ _).trans standing
  have started := request_mem_startRequests stillStanding request more takenBack
  have among : Message.request (session.openDocument disk query.uri?).1.link.nextId request.1
      request.2 ∈ (session.ask disk ticket query takenBack).2.sent := by
    simp only [ask, asked, begin, List.mem_append]
    exact Or.inr (Or.inl started)
  have named := Query.named?_of_requests about parsed asked List.mem_cons_self
  exact ⟨_, List.mem_filterMap.mpr ⟨_, among, (Message.subject?_request _ _ _).trans named⟩⟩

/-- A query whose document is sent asks about it under the name that it is sent under just when the
    query is for a symbol, which is asked about by its URL, or when the URI is the text of the URL
    that it is read as. The URI made of a path is, just when no segment of the path goes up. -/
theorem document_name (session : Session) (disk : Disk) (ticket : Nat) (query : Query)
    (takenBack : Bool) {uri name : String} (about : query.uri? = some uri)
    (standing : session.link.closed = none)
    (opens : name ∈ (session.ask disk ticket query takenBack).2.sent.filterMap Message.opened?) :
    ((∀ subject ∈ (session.ask disk ticket query takenBack).2.sent.filterMap Message.subject?,
      subject = name) ↔ query.isSymbol = true ∨ Url.IsCanonical uri) ∧
    ∀ raw root, documentUri? raw root = some uri →
      Text.occursIn [':', '/', '/'] (Text.trim raw).toList = true ∧ uri = Text.trim raw ∨
      (Url.IsCanonical uri ↔
        ['.', '.'] ∉ Url.pathSegments (Path.join root (Text.trim raw).toList)) := by
  obtain ⟨url, parsed, named, subjects⟩ := names_of_ask about opens
  constructor
  · constructor
    · intro alike
      cases symbol : query.isSymbol with
      | true => exact Or.inl rfl
      | false =>
        obtain ⟨message, among, -⟩ := List.mem_filterMap.mp opens
        obtain ⟨requests, asked, -⟩ := mem_ask among
        obtain ⟨subject, given⟩ :=
          exists_subject standing disk ticket takenBack about parsed asked
        have same := subjects subject given
        rw [symbol, alike subject given] at same
        exact Or.inr ⟨url, parsed, named.symm.trans same⟩
    · intro given subject among
      have same := subjects subject among
      rcases given with symbol | ⟨url', parsed', printed⟩
      · rwa [symbol, if_pos rfl] at same
      · obtain rfl := Except.ok.inj (parsed.symm.trans parsed')
        rw [named, printed] at same ⊢
        rwa [ite_self] at same
  · intro raw root made
    unfold documentUri? at made
    dsimp only at made
    split at made
    · cases made
    · split at made
      · rename_i hasScheme
        exact Or.inl ⟨hasScheme, (Option.some.inj made).symm⟩
      · obtain ⟨file, names, rfl⟩ := Option.map_eq_some_iff.mp made
        exact Or.inr (Url.isCanonical_ofFilePath names)

/-- What is sent when the dependencies of a document are asked for, on a disk with one file. -/
def sentAbout (uri path : String) : List Json :=
  let disk : Disk := fun asked => if asked = Utf8.bytes path then some "text" else none
  (start.ask disk 1 (.dependencyGraph ⟨uri, 3, false, .both⟩) false).2.sent

theorem document_name_of_path :
    "file:///ws/src/a.rs" ∈
        (sentAbout "file:///ws/src/a.rs" "/ws/src/a.rs").filterMap Message.opened? ∧
      ∀ subject ∈ (sentAbout "file:///ws/src/a.rs" "/ws/src/a.rs").filterMap Message.subject?,
        subject = "file:///ws/src/a.rs" := by
  have opens : "file:///ws/src/a.rs" ∈
      (sentAbout "file:///ws/src/a.rs" "/ws/src/a.rs").filterMap Message.opened? := by
    decide +kernel
  obtain ⟨alike, made⟩ := document_name start _ 1 _ false rfl rfl opens
  have goesNowhere := made "src/a.rs" "/ws".toList (by decide +kernel)
  refine ⟨opens, alike.mpr (Or.inr ?_)⟩
  rcases goesNowhere with ⟨hasScheme, -⟩ | canonical
  · exact absurd hasScheme (by decide +kernel)
  · exact canonical.mpr (by decide +kernel)

/-- The document of a path that goes up, and that of a URI with a space in it, is sent under one
    name and asked about under another. -/
theorem document_names_differ :
    documentUri? "sub/../a.rs" "/ws".toList = some "file:///ws/sub/../a.rs" ∧
    (sentAbout "file:///ws/sub/../a.rs" "/ws/a.rs").filterMap Message.opened? =
      ["file:///ws/a.rs"] ∧
    (sentAbout "file:///ws/sub/../a.rs" "/ws/a.rs").filterMap Message.subject? =
      ["file:///ws/sub/../a.rs"] ∧
    (sentAbout "file:///ws/a b.rs" "/ws/a b.rs").filterMap Message.opened? =
      ["file:///ws/a%20b.rs"] ∧
    (sentAbout "file:///ws/a b.rs" "/ws/a b.rs").filterMap Message.subject? =
      ["file:///ws/a b.rs"] := by
  decide +kernel

end Session

end CodeGateway
