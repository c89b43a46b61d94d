import CodeGateway.Proofs.CallCompletion
import CodeGateway.Proofs.SessionProgress

namespace CodeGateway

namespace Query

/-- What a reply of the protocol comes to. Null is nothing; any other value has to be readable. -/
inductive Reads {α : Type} (decode : Json → Except Decode.Error α) :
    Outcome → Except Failure (Option α) → Prop
  | absent : Reads decode (.ok .null) (.ok none)
  | present {json : Json} {value : α} (given : json ≠ .null) (readable : decode json = .ok value) :
    Reads decode (.ok json) (.ok (some value))
  | unreadable {json : Json} {error : Decode.Error} (given : json ≠ .null)
      (undecoded : decode json = .error error) : Reads decode (.ok json) (.error (.badReply error))
  | failed (failure : Failure) : Reads decode (.error failure) (.error failure)

theorem reads_iff {α : Type} {decode : Json → Except Decode.Error α} {outcome : Outcome}
    {reading : Except Failure (Option α)} :
    Reads decode outcome reading ↔ protocolReply decode outcome = reading := by
  have given {json : Json} (given : json ≠ .null) :
      protocolReply decode (.ok json) = ((decode json).map some).mapError .badReply := by
    cases json <;> first | rfl | exact absurd rfl given
  constructor
  · intro reads
    cases reads with
    | absent => rfl
    | present notNull readable =>
      rw [given notNull, readable]
      rfl
    | unreadable notNull undecoded =>
      rw [given notNull, undecoded]
      rfl
    | failed failure => rfl
  · rintro rfl
    cases outcome with
    | error failure => exact .failed failure
    | ok json =>
      by_cases null : json = .null
      · subst null
        exact .absent
      · rw [given null]
        cases decoded : decode json with
        | ok value => exact .present null decoded
        | error error => exact .unreadable null decoded

/-- What is known of a symbol from three replies: all that they say, or the first failure among
    them, in the order of the requests. -/
inductive Joins (hover definition references : Outcome) : Except Failure SymbolInfo → Prop
  | known {text : Option Hover} {target : Option Definition} {uses : Option (List Location)}
      (first : Reads Hover.decode hover (.ok text))
      (second : Reads Definition.decode definition (.ok target))
      (third : Reads (Decode.list Location.decodeWithUrl) references (.ok uses)) :
    Joins hover definition references (.ok (.assemble text target uses))
  | hoverFails {failure : Failure} (first : Reads Hover.decode hover (.error failure)) :
    Joins hover definition references (.error failure)
  | definitionFails {text : Option Hover} {failure : Failure}
      (first : Reads Hover.decode hover (.ok text))
      (second : Reads Definition.decode definition (.error failure)) :
    Joins hover definition references (.error failure)
  | referencesFail {text : Option Hover} {target : Option Definition} {failure : Failure}
      (first : Reads Hover.decode hover (.ok text))
      (second : Reads Definition.decode definition (.ok target))
      (third : Reads (Decode.list Location.decodeWithUrl) references (.error failure)) :
    Joins hover definition references (.error failure)

theorem joins_iff {hover definition references : Outcome} {result : Except Failure SymbolInfo} :
    Joins hover definition references result ↔
      symbolReply hover definition references = result := by
  constructor
  · intro joins
    cases joins with
    | known first second third =>
      simp only [symbolReply, reads_iff.mp first, reads_iff.mp second, reads_iff.mp third]
      rfl
    | hoverFails first =>
      simp only [symbolReply, reads_iff.mp first]
      rfl
    | definitionFails first second =>
      simp only [symbolReply, reads_iff.mp first, reads_iff.mp second]
      rfl
    | referencesFail first second third =>
      simp only [symbolReply, reads_iff.mp first, reads_iff.mp second, reads_iff.mp third]
      rfl
  · rintro rfl
    unfold symbolReply
    cases first : protocolReply Hover.decode hover with
    | error failure => exact .hoverFails (reads_iff.mpr first)
    | ok text =>
      cases second : protocolReply Definition.decode definition with
      | error failure => exact .definitionFails (reads_iff.mpr first) (reads_iff.mpr second)
      | ok target =>
        cases third : protocolReply (Decode.list Location.decodeWithUrl) references with
        | error failure =>
          exact .referencesFail (reads_iff.mpr first) (reads_iff.mpr second) (reads_iff.mpr third)
        | ok uses => exact .known (reads_iff.mpr first) (reads_iff.mpr second) (reads_iff.mpr third)

end Query

namespace SharedSession

def Call.symbol? : Call → Option (Except Failure SymbolInfo)
  | ⟨_, .symbolInfo _, .ended result, _, _⟩ => some result
  | _ => none

/-- What is told of a call about a symbol from all that has happened to its session. -/
structure LooksUp (incidents : List Incident) (n : Nat) (request : SymbolRequest) (url : Url)
    (call : Call) : Prop where
  /-- As long as the connection stands the call gets to send its three requests. -/
  asks : (after incidents).shared.link.closed = none → ∀ disk, ∃ later, ∃ asker : Call,
    Reaches disk (after incidents) later ∧ later.calls[n]? = some asker ∧
      asker.made.Pairwise (· < ·) ∧
      List.Forall₂ (fun id text => Message.request id text.1 text.2 ∈ later.shared.outgoing)
        asker.made (Query.symbolRequests url request.position)
  /-- When it has ended, all three have, and the result is what their ends come to. -/
  joins : ∀ result, call.symbol? = some result → call.made.Pairwise (· < ·) ∧
    List.Forall₂ (Went (after incidents).shared) call.made
      (Query.symbolRequests url request.position) ∧
    ∃ hover definition references, List.Forall₂ (fun id outcome =>
        (after incidents).shared.outcome? id = some outcome ∧
          EndsBy incidents call.signal id outcome) call.made [hover, definition, references] ∧
      Query.Joins hover definition references result
  /-- Replies to all three that have come in whatever order are what the result is made of, unless
      the call was taken back or the connection has ended. -/
  replied : ∀ result hover definition references, call.symbol? = some result →
    List.Forall₂ (fun id message => Answers incidents message id) call.made
      [hover, definition, references] →
    .step (.link (.fire call.signal)) ∉ incidents → (∀ reason, .stop reason ∉ incidents) →
      Query.Joins (Message.outcome hover) (Message.outcome definition)
        (Message.outcome references) result
  /-- A call for the same in any other history has the same result if its requests, one by one,
      have the same ends. -/
  agrees : ∀ (others : List Incident) (m : Nat) (other : Call) result result',
    (after others).calls[m]? = some other → other.query = .symbolInfo request →
    call.symbol? = some result → other.symbol? = some result' →
    call.made.map (after incidents).shared.outcome? =
      other.made.map (after others).shared.outcome? → result = result'
  /-- Once all three requests are decided, the call gets to its end. -/
  completes : call.stage = .asking → call.left = [] →
    (∀ id ∈ call.made, Decided incidents call.signal id) →
    ∃ works : List Event, (∀ event ∈ works, event.isWork = true) ∧ ∃ ended : Call,
      (after (incidents ++ works.map .step)).calls[n]? = some ended ∧
        ended.query = .symbolInfo request ∧ ∃ result, ended.symbol? = some result

section Symbol

variable {incidents : List Incident} {n : Nat} {call : Call} {request : SymbolRequest} {url : Url}
  {result : Except Failure SymbolInfo}

theorem EndsBy.eq_of_answers {signal id : Nat} {outcome : Outcome} {message : Json}
    (ends : EndsBy incidents signal id outcome) (answers : Answers incidents message id)
    (unfired : .step (.link (.fire signal)) ∉ incidents)
    (standing : ∀ reason, .stop reason ∉ incidents) : outcome = Message.outcome message := by
  cases ends with
  | answered answers' => exact Option.some.inj (answers'.handed.symm.trans answers.handed)
  | cancelled fired => exact absurd fired unfired
  | closed stopped => exact absurd stopped (standing _)

theorem requests_of_parsed (parsed : Url.parse request.uri = .ok url) :
    (Query.symbolInfo request).requests = .ok (Query.symbolRequests url request.position) := by
  simp only [Query.requests, parsed]

theorem symbol_after (parsed : Url.parse request.uri = .ok url)
    (found : (after incidents).calls[n]? = some call) (isQuery : call.query = .symbolInfo request)
    (has : call.symbol? = some result) :
    List.Forall₂ (Went (after incidents).shared) call.made
        (Query.symbolRequests url request.position) ∧
      ∃ hover definition references, List.Forall₂ (fun id outcome =>
          (after incidents).shared.outcome? id = some outcome ∧
            EndsBy incidents call.signal id outcome) call.made [hover, definition, references] ∧
        Query.symbolReply hover definition references = result := by
  obtain ⟨signal, query, stage, made, left⟩ := call
  dsimp only at isQuery
  subst isQuery
  cases stage with
  | ended result' =>
    cases has
    obtain ⟨-, went, outcomes, ends, same⟩ := result_after found (requests_of_parsed parsed) rfl
    have three : outcomes.length = 3 := ends.length_eq.symm.trans went.length_eq
    obtain ⟨hover, definition, references, rfl⟩ := List.length_eq_three.mp three
    exact ⟨went, hover, definition, references, ends, same.symm⟩
  | _ => cases has

theorem map_eq_of_forall₂ {α β : Type} {f : α → Option β} {P : α → β → Prop} {xs : List α}
    {ys : List β} (all : List.Forall₂ (fun x y => f x = some y ∧ P x y) xs ys) :
    xs.map f = ys.map some := by
  rw [← List.forall₂_eq_eq_eq, List.forall₂_map_left_iff, List.forall₂_map_right_iff]
  exact all.imp fun _ _ both => both.1

theorem eq_map_of_forall₂ {α β γ : Type} {P : α → β → Prop} {Q : α → γ → Prop} {f : γ → β}
    (same : ∀ x y z, P x y → Q x z → y = f z) {xs : List α} {ys : List β} {zs : List γ}
    (first : List.Forall₂ P xs ys) (second : List.Forall₂ Q xs zs) : ys = zs.map f := by
  induction first generalizing zs with
  | nil =>
    cases second
    rfl
  | cons holds _ ih =>
    obtain ⟨z, zs, holds', rest, rfl⟩ := List.forall₂_cons_left_iff.mp second
    rw [List.map_cons, ← same _ _ _ holds holds', ← ih rest]

theorem asks_symbol (parsed : Url.parse request.uri = .ok url)
    (found : (after incidents).calls[n]? = some call) (isQuery : call.query = .symbolInfo request)
    (standing : (after incidents).shared.link.closed = none) (disk : Disk) :
    ∃ later, ∃ asker : Call, Reaches disk (after incidents) later ∧
      later.calls[n]? = some asker ∧ asker.made.Pairwise (· < ·) ∧
      List.Forall₂ (fun id text => Message.request id text.1 text.2 ∈ later.shared.outgoing)
        asker.made (Query.symbolRequests url request.position) := by
  obtain ⟨later, reaches, asker, found', isQuery', sent⟩ :=
    reaches_hasAsked (orderly_of_standing standing) found disk
  refine ⟨later, asker, reaches, found', ?_, ?_⟩
  · obtain ⟨events, -, rfl⟩ := reaches
    rw [runFrom_eq_meetAll, after, ← meetAll_append] at found'
    exact (accounted_after _ n asker found').rising
  · rw [isQuery, Query.wanted, requests_of_parsed parsed] at sent
    exact sent

theorem completes_symbol (found : (after incidents).calls[n]? = some call)
    (isQuery : call.query = .symbolInfo request) (stage : call.stage = .asking)
    (all : call.left = []) (decided : ∀ id ∈ call.made, Decided incidents call.signal id) :
    ∃ works : List Event, (∀ event ∈ works, event.isWork = true) ∧ ∃ ended : Call,
      (after (incidents ++ works.map .step)).calls[n]? = some ended ∧
        ended.query = .symbolInfo request ∧ ∃ result, ended.symbol? = some result := by
  obtain ⟨works, own, outcomes, concluded⟩ := gets_over found stage all decided
  obtain ⟨signal, query, stage, made, left⟩ := call
  dsimp only at isQuery
  subst isQuery
  exact ⟨works, own, _, concluded, rfl, _, rfl⟩

end Symbol

/-- A symbol is looked up with three requests that get to be sent. The call ends once all three have
    ended, and as they have: in which order, and what has come in between, makes no difference. -/
theorem symbol_replies {request : SymbolRequest} {url : Url}
    (parsed : Url.parse request.uri = .ok url) {incidents : List Incident} {n : Nat} {call : Call}
    (found : (after incidents).calls[n]? = some call)
    (isQuery : call.query = .symbolInfo request) : LooksUp incidents n request url call := by
  constructor
  · exact asks_symbol parsed found isQuery
  · intro result has
    obtain ⟨went, hover, definition, references, ends, same⟩ :=
      symbol_after parsed found isQuery has
    exact ⟨(accounted_after incidents n call found).rising, went, hover, definition, references,
      ends, Query.joins_iff.mpr same⟩
  · intro result hover definition references has answers unfired standing
    obtain ⟨-, first, second, third, ends, same⟩ := symbol_after parsed found isQuery has
    -- Neither a signal nor a close has come, so each request has ended with its reply.
    have ended : [first, second, third] = [hover, definition, references].map Message.outcome :=
      eq_map_of_forall₂ (fun id outcome message given answered =>
        given.2.eq_of_answers answered unfired standing) ends answers
    simp only [List.map_cons, List.map_nil, List.cons.injEq, and_true] at ended
    obtain ⟨rfl, rfl, rfl⟩ := ended
    exact Query.joins_iff.mpr same
  · intro others m other result result' found' isQuery' has has' same
    obtain ⟨-, hover, definition, references, ends, rfl⟩ := symbol_after parsed found isQuery has
    obtain ⟨-, hover', definition', references', ends', rfl⟩ :=
      symbol_after parsed found' isQuery' has'
    rw [map_eq_of_forall₂ ends, map_eq_of_forall₂ ends'] at same
    simp only [List.map_cons, List.cons.injEq, Option.some.injEq] at same
    obtain ⟨rfl, rfl, rfl, -⟩ := same
    rfl
  · exact completes_symbol found isQuery

/-- The references come first, then the documentation and the definition at last; in between the
    server says something of its own and asks for something. -/
def outOfOrder : List Event :=
  [.call 1 (.symbolInfo ⟨"untitled:a", ⟨0, 0⟩⟩), .ask 0, .ask 0, .link (.register 1), .ask 0,
    .link (.register 3), .link (.send 3), .link (.send 1), .link (.register 2), .link (.send 2),
    .link (.route (.object [("id", .int 3), ("jsonrpc", .string "2.0"),
      ("result", .array [.object [("range", (Range.mk ⟨4, 0⟩ ⟨4, 1⟩).encode),
        ("uri", .string "untitled:b")]])])),
    .link (.route (Message.notification "window/logMessage" .null)),
    .link (.route (.object [("id", .int 1), ("jsonrpc", .string "2.0"),
      ("result", .object [("contents", .string " fn a() ")])])),
    .link (.collect 1),
    .link (.route (Message.request 2 "workspace/configuration" .null)),
    .link (.route (.object [("id", .int 2), ("jsonrpc", .string "2.0"), ("result", .null)])),
    .link (.collect 3), .link (.collect 2), .conclude 0]

theorem symbol_replies_outOfOrder : ∃ url call,
    Url.parse "untitled:a" = .ok url ∧ (after (outOfOrder.map .step)).calls[0]? = some call ∧
      call.query = .symbolInfo ⟨"untitled:a", ⟨0, 0⟩⟩ ∧ call.made = [1, 2, 3] ∧
      call.symbol? = some (.ok ⟨some "fn a()", [], [⟨"untitled:b", ⟨4, 0⟩, ⟨4, 1⟩⟩]⟩) ∧
      LooksUp (outOfOrder.map .step) 0 ⟨"untitled:a", ⟨0, 0⟩⟩ url call := by
  have seen : ((after (outOfOrder.map .step)).calls[0]?.map fun call =>
      (call.query, call.made, call.symbol?.map Except.toOption)) =
        some (.symbolInfo ⟨"untitled:a", ⟨0, 0⟩⟩, [1, 2, 3],
          some (some ⟨some "fn a()", [], [⟨"untitled:b", ⟨4, 0⟩, ⟨4, 1⟩⟩]⟩)) := by
    decide +kernel
  have isUrl : (Url.parse "untitled:a").toOption.isSome = true := by decide +kernel
  obtain ⟨call, found, same⟩ := Option.map_eq_some_iff.mp seen
  simp only [Prod.mk.injEq, Option.map_eq_some_iff] at same
  obtain ⟨isQuery, made, result, has, known⟩ := same
  cases parsed : Url.parse "untitled:a" with
  | error error =>
    rw [parsed] at isUrl
    cases isUrl
  | ok url =>
    refine ⟨url, call, rfl, found, isQuery, made, ?_, symbol_replies parsed found isQuery⟩
    cases result with
    | error failure => cases known
    | ok info =>
      cases known
      exact has

end SharedSession

end CodeGateway
