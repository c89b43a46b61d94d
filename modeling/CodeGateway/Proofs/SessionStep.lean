import CodeGateway.Session.Shared

namespace CodeGateway.SharedSession

/-- What a step of one call leaves: the link, the call, and who has the documents. -/
inductive Turn (session : SharedSession) (n : Nat) (call : Call) :
    Event → SharedLink → Call → Option Nat → Prop
  | passes {url : Url} (stage : call.stage = .queued url) (free : session.holder = none)
      (reason : url.toString ∈ session.shared.link.opened ∨ url.filePath? = none) :
    Turn session n call (.lock n) session.shared { call with stage := .asking } session.holder
  | locks {url : Url} {path : List UInt8} (stage : call.stage = .queued url)
      (free : session.holder = none) (unopened : url.toString ∉ session.shared.link.opened)
      (found : url.filePath? = some path) :
    Turn session n call (.lock n) session.shared { call with stage := .reading url path } (some n)
  | fails {url : Url} {path : List UInt8} {disk : Disk} (stage : call.stage = .reading url path)
      (missing : disk path = none) :
    Turn session n call (.read n disk) session.shared { call with stage := .asking } none
  | opens {url : Url} {path : List UInt8} {disk : Disk} {text : String}
      (stage : call.stage = .reading url path) (readable : disk path = some text)
      (heard : session.shared.muted = false) :
    Turn session n call (.read n disk)
      (session.shared.absorb (session.shared.link.sendDocument url path text))
      { call with stage := .asking } none
  | refused {url : Url} {path : List UInt8} {disk : Disk} {text : String}
      (stage : call.stage = .reading url path) (readable : disk path = some text)
      (muted : session.shared.muted = true) :
    Turn session n call (.read n disk) session.shared
      { call with stage := .ended (.error (.closed "writer stopped")) } none
  | asks {method : String} {params : Json} {left : List RequestText}
      (stage : call.stage = .asking) (next : call.left = (method, params) :: left) :
    Turn session n call (.ask n) (session.shared.begin call.signal method params)
      { call with made := call.made ++ [session.shared.link.nextId], left } session.holder
  | concludes {outcomes : List Outcome} (stage : call.stage = .asking) (all : call.left = [])
      (ended : call.made.mapM session.shared.outcome? = some outcomes) :
    Turn session n call (.conclude n) session.shared
      { call with stage := .conclude call.query (call.query.conclude outcomes) } session.holder
  | takes {result : Except Failure call.query.Reply} (stage : call.stage = .forgotten result)
      (free : session.holder = none) :
    Turn session n call (.lock n) session.shared { call with stage := .closing result } (some n)
  | closes {result : Except Failure call.query.Reply} {name : String}
      (stage : call.stage = .closing result) (isOpen : name ∈ session.shared.link.opened)
      (heard : session.shared.muted = false) :
    Turn session n call (.close n name)
      (session.shared.absorb (session.shared.link.closeDocument name)) call session.holder
  | abandons {result : Except Failure call.query.Reply} {name : String}
      (stage : call.stage = .closing result) (isOpen : name ∈ session.shared.link.opened)
      (muted : session.shared.muted = true) :
    Turn session n call (.close n name)
      { session.shared with link := session.shared.link.closeDocuments.1 }
      { call with stage := .ended (.error (.closed "writer stopped")) } none
  | releases {result : Except Failure call.query.Reply} (stage : call.stage = .closing result)
      (none : session.shared.link.opened = []) :
    Turn session n call (.release n) session.shared { call with stage := .ended result } .none

inductive Does (session : SharedSession) : Event → SharedSession → Prop
  | nothing {event : Event} : Does session event session
  | called (signal : Nat) (query : Query) :
    Does session (.call signal query)
      { session with calls := session.calls ++ [.start signal query] }
  | turned {n : Nat} {call after : Call} {event : Event} {shared : SharedLink} {holder : Option Nat}
      (found : session.calls[n]? = some call)
      (turn : Turn session n call event shared after holder) :
    Does session event ⟨shared, session.calls.set n after, holder⟩
  | linked (step : LinkStep) :
    Does session (.link step) { session with shared := session.shared.step step.event }

theorem does_proceed {session : SharedSession} {n : Nat} {act : Call → SharedSession}
    {event : Event}
    (does : ∀ call, session.calls[n]? = some call → Does session event (act call)) :
    Does session event (session.proceed n act) := by
  unfold proceed
  cases found : session.calls[n]? with
  | none => exact .nothing
  | some call => exact does call found

theorem does_lock {session : SharedSession} {n : Nat} {call : Call}
    (found : session.calls[n]? = some call) : Does session (.lock n) (session.lock n call) := by
  unfold lock
  split
  · rename_i url free stage
    split
    · rename_i isOpen
      exact .turned found (.passes stage free (Or.inl (List.contains_iff_mem.mp isOpen)))
    · rename_i unopened
      split
      · rename_i nowhere
        exact .turned found (.passes stage free (Or.inr nowhere))
      · rename_i path somewhere
        rw [List.contains_iff_mem] at unopened
        exact .turned found (.locks stage free unopened somewhere)
  · rename_i result free stage
    exact .turned found (.takes stage free)
  · exact .nothing

theorem does_read {session : SharedSession} {n : Nat} {call : Call}
    (found : session.calls[n]? = some call) (disk : Disk) :
    Does session (.read n disk) (session.read disk n call) := by
  unfold read
  split
  · rename_i url path stage
    dsimp only
    split
    · rename_i missing
      exact .turned found (.fails stage missing)
    · rename_i text readable
      split
      · rename_i muted
        exact .turned found (.refused stage readable muted)
      · rename_i heard
        exact .turned found (.opens stage readable (Bool.eq_false_iff.mpr heard))
  · exact .nothing

theorem does_ask {session : SharedSession} {n : Nat} {call : Call}
    (found : session.calls[n]? = some call) : Does session (.ask n) (session.ask n call) := by
  unfold ask
  split
  · rename_i method params left stage next
    exact .turned found (.asks stage next)
  · exact .nothing

theorem does_conclude {session : SharedSession} {n : Nat} {call : Call}
    (found : session.calls[n]? = some call) :
    Does session (.conclude n) (session.conclude n call) := by
  unfold conclude
  split
  · rename_i outcomes stage all ended
    exact .turned found (.concludes stage all ended)
  · exact .nothing

theorem set_self {calls : List Call} {n : Nat} {call : Call} (found : calls[n]? = some call) :
    calls.set n call = calls := by
  obtain ⟨bound, same⟩ := List.getElem?_eq_some_iff.mp found
  subst same
  exact List.set_getElem_self bound

theorem does_close {session : SharedSession} {n : Nat} {call : Call}
    (found : session.calls[n]? = some call) (name : String) :
    Does session (.close n name) (session.close n name call) := by
  unfold close
  split
  · rename_i result stage
    split
    · rename_i isOpen
      rw [List.contains_iff_mem] at isOpen
      split
      · rename_i muted
        exact .turned found (.abandons stage isOpen muted)
      · rename_i heard
        have does := Does.turned found (.closes stage isOpen (Bool.eq_false_iff.mpr heard))
        rwa [set_self found] at does
    · exact .nothing
  · exact .nothing

theorem does_release {session : SharedSession} {n : Nat} {call : Call}
    (found : session.calls[n]? = some call) :
    Does session (.release n) (session.release n call) := by
  unfold release
  split
  · rename_i result stage
    split
    · rename_i empty
      exact .turned found (.releases stage (List.isEmpty_iff.mp empty))
    · exact .nothing
  · exact .nothing

theorem does_step (session : SharedSession) (event : Event) :
    Does session event (session.step event) := by
  cases event with
  | call signal query => exact .called signal query
  | lock n => exact does_proceed fun _ found => does_lock found
  | read n disk => exact does_proceed fun _ found => does_read found disk
  | ask n => exact does_proceed fun _ found => does_ask found
  | conclude n => exact does_proceed fun _ found => does_conclude found
  | close n name => exact does_proceed fun _ found => does_close found name
  | release n => exact does_proceed fun _ found => does_release found
  | link step => exact .linked step

theorem run_append (events more : List Event) : run (events ++ more) = (run events).runFrom more :=
  List.foldl_append

theorem run_snoc (events : List Event) (event : Event) :
    run (events ++ [event]) = (run events).step event := run_append events [event]

theorem does_run (events : List Event) (event : Event) :
    Does (run events) event (run (events ++ [event])) := by
  rw [run_snoc]
  exact does_step (run events) event

end CodeGateway.SharedSession
