import CodeGateway.Proofs.DocumentFirst
import CodeGateway.Proofs.SessionProgress

namespace CodeGateway.SharedSession

namespace Stage

/-- Whether a call that succeeded has come to take the documents back, if it is a reindex. -/
def hasTaken {query : Query} : Stage query → Bool
  | closing _ => true
  | ended (.ok _) => true
  | _ => false

theorem hasTaken_conclude {query : Query} (reindex : query = .reindex)
    (result : Except Failure query.Reply) : (conclude query result).hasTaken = false := by
  subst reindex
  cases result <;> rfl

end Stage

theorem hasTaken_start (signal : Nat) (query : Query) :
    (Call.start signal query).stage.hasTaken = false := by
  unfold Call.start
  split
  · rfl
  · dsimp only
    split <;> rfl

/-- The moment at which a reindex took the documents: it had its reply, and nobody had them. -/
structure Takes (before : List Event) (n : Nat) (taker : Call) : Prop where
  found : (run before).calls[n]? = some taker
  forgotten : ∃ result, taker.stage = .forgotten result
  free : (run before).holder = none

theorem exists_takes (events : List Event) {n : Nat} {call : Call}
    (found : (run events).calls[n]? = some call) (reindex : call.query = .reindex)
    (taken : call.stage.hasTaken = true) :
    ∃ before later taker, events = before ++ .lock n :: later ∧ Takes before n taker ∧
      taker.query = .reindex ∧ ∀ id ∈ taker.made, id ∈ call.made := by
  induction events using List.reverseRecOn generalizing call with
  | nil => simp [run, runFrom, start] at found
  | append_singleton events event ih =>
    have does := does_run events event
    have kept {earlier : Call} (found : (run events).calls[n]? = some earlier)
        (reindex : earlier.query = .reindex) (taken : earlier.stage.hasTaken = true)
        (made : ∀ id ∈ earlier.made, id ∈ call.made) :
        ∃ before later taker, events ++ [event] = before ++ .lock n :: later ∧
          Takes before n taker ∧ taker.query = .reindex ∧ ∀ id ∈ taker.made, id ∈ call.made := by
      obtain ⟨before, later, taker, rfl, takes, same, made'⟩ := ih found reindex taken
      exact ⟨before, later ++ [event], taker, by simp, takes, same,
        fun id among => made id (made' id among)⟩
    generalize run (events ++ [event]) = after at does found
    cases does with
    | nothing => exact kept found reindex taken fun _ => id
    | linked => exact kept found reindex taken fun _ => id
    | called signal query =>
      rcases getElem?_snoc found with found | ⟨-, rfl⟩
      · exact kept found reindex taken fun _ => id
      · rw [hasTaken_start] at taken
        cases taken
    | @turned m other after event shared holder given turn =>
      rw [getElem?_set given] at found
      split at found
      · rename_i same
        subst same
        cases found
        cases turn with
        | takes stage free =>
          exact ⟨events, [], other, rfl, ⟨given, ⟨_, stage⟩, free⟩, reindex, fun _ => id⟩
        | closes => exact kept given reindex taken fun _ => id
        | releases stage => exact kept given reindex (by rw [stage]; rfl) fun _ => id
        | concludes =>
          rw [Stage.hasTaken_conclude reindex] at taken
          cases taken
        | asks stage => simp [stage, Stage.hasTaken] at taken
        | _ => cases taken
      · exact kept found reindex taken fun _ => id

theorem Takes.serves {before : List Event} {n : Nat} {taker : Call} (takes : Takes before n taker) :
    Serves (run before).shared.outgoing
      (fun m => ∀ call, (run before).calls[m]? = some call → call.stage.waits = true)
      (before ++ [.lock n]) := by
  obtain ⟨found, ⟨result, stage⟩, free⟩ := takes
  have locked : run (before ++ [.lock n]) =
      { (run before).update n { taker with stage := .closing result } with holder := some n } := by
    rw [run_snoc, step_lock_of_forgotten found stage free]
  refine ⟨⟨[], by rw [locked, List.append_nil]; rfl⟩, ?_, ?_⟩
  · rw [locked]
    exact Or.inl ⟨n, { taker with stage := .closing result }, result, found_update found _, rfl⟩
  · intro m call waiting given url names
    rw [locked] at given
    have seen := getElem?_set found { taker with stage := .closing result } m
    have there := seen.symm.trans given
    split at there
    · rename_i same
      subst same
      have waits := waiting taker found
      rw [stage] at waits
      cases waits
    · exact Or.inl (waiting call there)

def command (id : Nat) : Json :=
  Message.request id (executeCommand Query.reindex.command []).1
    (executeCommand Query.reindex.command []).2

/-- The document of this name is opened behind the command to reindex with this number. -/
def OpenedAfter (id : Nat) (name : String) (messages : List Json) : Prop :=
  ∃ early late, messages = early ++ command id :: late ∧
    ∃ message ∈ late, Message.opened? message = some name

theorem openedAfter_of_openedSince {id : Nat} {name : String} {earlier messages : List Json}
    (commanded : command id ∈ earlier) (opened : Message.OpenedSince earlier name messages) :
    OpenedAfter id name messages := by
  obtain ⟨since, rfl, message, member, opening⟩ := opened
  obtain ⟨early, late, rfl⟩ := List.append_of_mem commanded
  refine ⟨early, late ++ since, ?_, message, List.mem_append_right _ member, opening⟩
  rw [List.append_assoc, List.cons_append]

theorem Takes.commanded {before : List Event} {n : Nat} {taker : Call}
    (takes : Takes before n taker) (reindex : taker.query = .reindex) :
    ∃ id ∈ taker.made, command id ∈ (run before).shared.outgoing := by
  obtain ⟨found, ⟨result, stage⟩, -⟩ := takes
  obtain ⟨call, found', -, all⟩ :=
    hasAsked_of_isOver (orderly_run before) found (by rw [stage]; rfl)
  cases found.symm.trans found'
  have wanted : taker.query.wanted = [executeCommand Query.reindex.command []] := by
    rw [reindex]
    rfl
  rw [wanted] at all
  obtain ⟨id, rest, sent, -, made⟩ := List.forall₂_cons_right_iff.mp all
  exact ⟨id, by rw [made]; exact List.mem_cons_self, sent⟩

/-- What holds after some events because a reindex took the documents before them, having sent its
    command under this number. -/
structure Renewal (before events : List Event) (id : Nat) : Prop where
  /-- Unless documents are being taken back, those that the server has were opened after the
      command. -/
  has : (∀ (m : Nat) (call : Call) (result : Except Failure call.query.Reply),
      (run events).calls[m]? = some call → call.stage ≠ .closing result) →
    ∀ name ∈ (run events).shared.link.opened, OpenedAfter id name (run events).shared.outgoing
  /-- A call that was made later, or had still to see to its document then, asks about a file that
      can be read only behind a document that was opened after the command. -/
  follows : ∀ (m : Nat) (call : Call) (url : Url),
    (∀ earlier, (run before).calls[m]? = some earlier → earlier.stage.waits = true) →
    (run events).calls[m]? = some call → call.query.file? = some url →
    ∀ asked ∈ call.made, ∀ front method params back,
      (run events).shared.outgoing = front ++ Message.request asked method params :: back →
        Unreadable events m url ∨ OpenedAfter id url.toString front

/-- A reindex that succeeded has sent its command and then taken the documents, and since then every
    document is sent again. -/
theorem reindex_renews (events : List Event) {n : Nat} {call : Call}
    (found : (run events).calls[n]? = some call) (reindex : call.query = .reindex)
    (succeeded : call.stage.hasTaken = true) :
    ∃ before later, events = before ++ .lock n :: later ∧
      ∃ id ∈ call.made, Renewal before events id := by
  obtain ⟨before, later, taker, rfl, takes, same, made⟩ :=
    exists_takes events found reindex succeeded
  obtain ⟨id, among, commanded⟩ := takes.commanded same
  have serves := takes.serves.append later
  rw [List.append_assoc, List.singleton_append] at serves
  refine ⟨before, later, rfl, id, made id among, ?_, ?_⟩
  · intro nobody name isOpen
    rcases serves.renewed with ⟨m, other, result, given, closing⟩ | renewed
    · exact absurd closing (nobody m other result given)
    · exact openedAfter_of_openedSince commanded (renewed name isOpen)
  · intro m other url waiting given names asked among' front method params back split
    rcases serves.sees m other waiting given url names with waits | unreadable | ⟨-, introduced⟩
    · rw [(orderly_run _).made_of_waits given waits] at among'
      cases among'
    · exact Or.inl unreadable
    · have opened := introduced asked among' front method params back split
      exact Or.inr (openedAfter_of_openedSince commanded opened)

def oneFile : Disk := fun path => if path = Utf8.bytes "/ws/a.rs" then some "text" else none

def aboutFile : Query := .dependencyGraph ⟨"file:///ws/a.rs", 3, false, .both⟩

def sends (n id : Nat) : List Event := [.ask n, .link (.register id), .link (.send id)]

/-- A document is sent and asked about, and then a command to reindex is sent. -/
def upToCommand : List Event :=
  [.call 0 aboutFile, .lock 0, .read 0 oneFile] ++ sends 0 1 ++ .call 1 .reindex :: sends 1 2

def success : Json := .object [("id", .int 2), ("jsonrpc", .string "2.0"), ("result", .null)]

def asksAgain : List Event := [.call 2 aboutFile, .lock 2, .read 2 oneFile] ++ sends 2 3

def succeeds : List Event :=
  upToCommand ++ [.link (.route success), .link (.collect 2), .conclude 1, .lock 1,
    .close 1 "file:///ws/a.rs", .release 1] ++ asksAgain

theorem reindex_renews_document :
    (∃ before later, succeeds = before ++ .lock 1 :: later ∧ ∃ id, Renewal before succeeds id) ∧
    (run succeeds).shared.outgoing.map Message.opened? =
      [some "file:///ws/a.rs", none, none, none, some "file:///ws/a.rs", none] := by
  refine ⟨?_, by decide +kernel⟩
  have done : (run succeeds).calls[1]?.map
      (fun call => (decide (call.query = .reindex), call.stage.hasTaken)) = some (true, true) := by
    decide +kernel
  obtain ⟨call, found, both⟩ := Option.map_eq_some_iff.mp done
  obtain ⟨reindex, taken⟩ := Prod.mk.inj both
  obtain ⟨before, later, split, id, -, renewal⟩ :=
    reindex_renews succeeds found (of_decide_eq_true reindex) taken
  exact ⟨before, later, split, id, renewal⟩

/-- The caller takes the reindex back before the engine says that it has reindexed. -/
def takenBack : List Event :=
  upToCommand ++ [.link (.fire 1), .link (.withdraw 2), .conclude 1, .link (.route success)] ++
    asksAgain

/-- The next call comes before the reindex has gone on with its reply. -/
def overtaken : List Event := upToCommand ++ [.link (.route success)] ++ asksAgain

/-- The engine has forgotten the document, and is asked about it all the same. -/
theorem documents_not_renewed :
    Message.kind success = .reply 2 ∧
    (run takenBack).shared.outgoing.map Message.opened? =
      [some "file:///ws/a.rs", none, none, none, none] ∧
    (run takenBack).shared.outgoing.map Message.subject? =
      [none, some "file:///ws/a.rs", none, none, some "file:///ws/a.rs"] ∧
    (run takenBack).shared.outgoing[2]? = some (command 2) ∧
    (run overtaken).shared.outgoing.map Message.opened? =
      [some "file:///ws/a.rs", none, none, none] ∧
    (run overtaken).shared.outgoing.map Message.subject? =
      [none, some "file:///ws/a.rs", none, some "file:///ws/a.rs"] ∧
    (run overtaken).shared.outgoing[2]? = some (command 2) := by
  refine ⟨by rfl, by decide +kernel, by decide +kernel, by rfl, by decide +kernel,
    by decide +kernel, by rfl⟩

end CodeGateway.SharedSession
