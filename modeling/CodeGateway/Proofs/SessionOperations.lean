import CodeGateway.Proofs.LinkOperations
import CodeGateway.Proofs.SessionCalls
import CodeGateway.Session.Basic

namespace CodeGateway

theorem SharedLink.fired_runFrom {shared : SharedLink} {signal : Nat}
    (fired : signal ∈ shared.fired) (events : List Event) :
    signal ∈ (shared.runFrom events).fired := by
  induction events generalizing shared with
  | nil => exact fired
  | cons event events ih => exact ih ((does_step shared event).fired_mem fired)

namespace Link

variable {link : Link} {disk : Disk} {url : Url}

theorem openDocument_of_opened (isOpen : link.opened.contains url.toString = true) (disk : Disk) :
    link.openDocument disk url = (link, []) := by
  simp only [openDocument, isOpen, Bool.or_true, if_true]

theorem openDocument_of_nowhere (nowhere : url.filePath? = none) (link : Link) (disk : Disk) :
    link.openDocument disk url = (link, []) := by
  simp [openDocument, nowhere]

theorem openDocument_of_unreadable {path : List UInt8} (somewhere : url.filePath? = some path)
    (missing : disk path = none) (link : Link) : link.openDocument disk url = (link, []) := by
  simp [openDocument, somewhere, missing]

theorem openDocument_of_readable {path : List UInt8} {text : String} (isFile : url.isFile = true)
    (unopened : link.opened.contains url.toString = false) (somewhere : url.filePath? = some path)
    (readable : disk path = some text) :
    link.openDocument disk url =
      ((link.sendDocument url path text).1, (link.sendDocument url path text).2.sent) := by
  simp only [openDocument, sendDocument, Effects.send, isFile, unopened, somewhere, readable,
    Bool.not_true, Bool.or_false, Bool.false_eq_true, if_false]

end Link

namespace SharedSession

variable {session : SharedSession} {n : Nat} {call : Call}

theorem proceed_of_found (found : session.calls[n]? = some call) (act : Call → SharedSession) :
    session.proceed n act = act call := by
  simp only [proceed, found]

theorem found_update (found : session.calls[n]? = some call) (after : Call) :
    (session.update n after).calls[n]? = some after := by
  rw [update, getElem?_set found, if_pos rfl]

theorem runFrom_append (session : SharedSession) (events more : List Event) :
    session.runFrom (events ++ more) = (session.runFrom events).runFrom more :=
  List.foldl_append

theorem runFrom_openDocument (heard : session.shared.muted = false)
    (found : session.calls[n]? = some call) {url : Url}
    (stage : call.stage = .queued url) (isFile : url.isFile = true) (free : session.holder = none)
    (disk : Disk) :
    session.runFrom [.lock n, .read n disk] =
      { session.update n { call with stage := .asking } with
        shared := session.shared.absorb
          ((session.shared.link.openDocument disk url).1,
            ⟨(session.shared.link.openDocument disk url).2, []⟩) } := by
  have steps : session.runFrom [.lock n, .read n disk] =
      (session.lock n call).step (.read n disk) := by
    rw [← proceed_of_found found (session.lock n)]
    rfl
  have unsent : session.shared.absorb (session.shared.link, ⟨[], []⟩) = session.shared :=
    SharedLink.absorb_nothing session.shared
  -- A call that has not come to read its document reads nothing.
  have idle : (session.update n { call with stage := .asking }).step (.read n disk) =
      session.update n { call with stage := .asking } := by
    rw [step, proceed_of_found (found_update found _)]
    rfl
  cases isOpen : session.shared.link.opened.contains url.toString with
  | true =>
    simp only [steps, lock, free, stage, isOpen, if_true, idle, Link.openDocument_of_opened isOpen,
      unsent]
    rfl
  | false =>
    cases somewhere : url.filePath? with
    | none =>
      simp only [steps, lock, free, stage, isOpen, Bool.false_eq_true, if_false, somewhere, idle,
        Link.openDocument_of_nowhere somewhere, unsent]
      rfl
    | some path =>
      have locked : session.lock n call =
          { session.update n { call with stage := .reading url path } with holder := some n } := by
        simp only [lock, free, stage, isOpen, Bool.false_eq_true, if_false, somewhere]
      have reading : (session.lock n call).calls[n]? =
          some { call with stage := .reading url path } := by
        rw [locked]
        exact found_update found _
      rw [steps, step, proceed_of_found reading, locked]
      cases readable : disk path with
      | none =>
        simp only [read, readable, Link.openDocument_of_unreadable somewhere readable, unsent,
          update, List.set_set, free]
      | some text =>
        simp only [read, readable, Link.openDocument_of_readable isFile isOpen somewhere readable,
          update, List.set_set, free, heard, Bool.false_eq_true, if_false]
        rfl

theorem runFrom_closeDocuments (heard : session.shared.muted = false)
    (found : session.calls[n]? = some call)
    {result : Except Failure call.query.Reply} (stage : call.stage = .closing result) :
    session.runFrom (session.shared.link.opened.map (.close n)) =
      { session with
        shared := session.shared.absorb
          (session.shared.link.closeDocuments.1, ⟨session.shared.link.closeDocuments.2, []⟩) } := by
  generalize opened : session.shared.link.opened = names
  induction names generalizing session with
  | nil =>
    have same : session.shared.link.closeDocuments = (session.shared.link, []) := by
      simp only [Link.closeDocuments, opened, List.map_nil]
      rw [← opened]
    rw [same]
    exact congrArg (fun shared => { session with shared })
      (SharedLink.absorb_nothing session.shared).symm
  | cons name names ih =>
    have first : session.step (.close n name) =
        { session with
          shared := session.shared.absorb (session.shared.link.closeDocument name) } := by
      rw [step, proceed_of_found found]
      simp [close, stage, opened, heard]
    have rest : (session.step (.close n name)).shared.link.opened = names := by
      rw [first]
      simp [Link.closeDocument, SharedLink.absorb, SharedLink.hand, opened]
    have steps : session.runFrom ((name :: names).map (.close n)) =
        (session.step (.close n name)).runFrom (names.map (.close n)) := rfl
    have found' : (session.step (.close n name)).calls[n]? = some call := by
      rw [first]
      exact found
    have heard' : (session.step (.close n name)).shared.muted = false := by
      rw [first]
      exact heard
    have closed : (session.shared.link.closeDocument name).1.closeDocuments =
        (session.shared.link.closeDocuments.1, names.map Message.didClose) := by
      simp [Link.closeDocuments, Link.closeDocument, opened]
    have both : (Effects.send (Message.didClose name)).append ⟨names.map Message.didClose, []⟩ =
        ⟨session.shared.link.closeDocuments.2, []⟩ := by
      simp [Link.closeDocuments, Effects.append, Effects.send, opened]
    have shared : (session.shared.absorb (session.shared.link.closeDocument name)).absorb
        ((session.shared.link.closeDocument name).1.closeDocuments.1,
          ⟨(session.shared.link.closeDocument name).1.closeDocuments.2, []⟩) =
        session.shared.absorb
          (session.shared.link.closeDocuments.1, ⟨session.shared.link.closeDocuments.2, []⟩) := by
      rw [closed, SharedLink.absorb_absorb, ← both]
      rfl
    rw [steps, ih heard' found' rest, first]
    exact congrArg (fun shared => { session with shared }) shared

theorem step_lock_of_forgotten (found : session.calls[n]? = some call)
    {result : Except Failure call.query.Reply} (stage : call.stage = .forgotten result)
    (free : session.holder = none) :
    session.step (.lock n) =
      { session.update n { call with stage := .closing result } with holder := some n } := by
  rw [step, proceed_of_found found]
  simp only [lock, free, stage]

theorem step_release (found : session.calls[n]? = some call)
    {result : Except Failure call.query.Reply} (stage : call.stage = .closing result)
    (none : session.shared.link.opened = []) :
    session.step (.release n) =
      { session.update n { call with stage := .ended result } with holder := .none } := by
  rw [step, proceed_of_found found]
  simp [release, stage, none]

theorem runFrom_takeBack (heard : session.shared.muted = false)
    (found : session.calls[n]? = some call)
    {result : Except Failure call.query.Reply} (stage : call.stage = .forgotten result)
    (free : session.holder = none) :
    session.runFrom (.lock n :: (session.shared.link.opened.map (.close n) ++ [.release n])) =
      { session.update n { call with stage := .ended result } with
        shared := session.shared.absorb
          (session.shared.link.closeDocuments.1, ⟨session.shared.link.closeDocuments.2, []⟩) } := by
  obtain ⟨taken, locked⟩ : ∃ taken, session.step (.lock n) = taken := ⟨_, rfl⟩
  have steps : session.runFrom
      (.lock n :: (session.shared.link.opened.map (.close n) ++ [.release n])) =
        (taken.runFrom (session.shared.link.opened.map (.close n))).step (.release n) := by
    rw [← locked, ← List.singleton_append, runFrom_append, runFrom_append]
    rfl
  rw [step_lock_of_forgotten found stage free] at locked
  have shared : taken.shared = session.shared := by rw [← locked]; rfl
  have closing : taken.calls[n]? = some { call with stage := .closing result } := by
    rw [← locked]
    exact found_update found _
  have closed := runFrom_closeDocuments (by rw [shared]; exact heard) closing rfl
  rw [shared] at closed
  have closing' : (taken.runFrom (session.shared.link.opened.map (.close n))).calls[n]? =
      some { call with stage := .closing result } := by
    rw [closed]
    exact closing
  rw [steps, step_release closing' rfl (by rw [closed]; rfl), closed, ← locked]
  simp [update, free]

theorem step_ask (found : session.calls[n]? = some call) (stage : call.stage = .asking)
    {method : String} {params : Json} {left : List RequestText}
    (next : call.left = (method, params) :: left) :
    session.step (.ask n) =
      { session.update n
          { call with made := call.made ++ [session.shared.link.nextId], left } with
        shared := session.shared.begin call.signal method params } := by
  rw [step, proceed_of_found found]
  simp only [ask, stage, next]

end SharedSession

end CodeGateway
