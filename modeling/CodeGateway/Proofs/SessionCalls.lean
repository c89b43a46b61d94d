import CodeGateway.Proofs.DocumentName
import CodeGateway.Proofs.SessionLink
import Mathlib.Data.List.Forall2

namespace CodeGateway

namespace Query

/-- The requests that a query makes; none if it cannot be asked. -/
def wanted (query : Query) : List RequestText :=
  match query.requests with
  | .ok requests => requests
  | .error _ => []

theorem wanted_of_ok {query : Query} {requests : List RequestText}
    (asked : query.requests = .ok requests) : query.wanted = requests := by
  rw [wanted, asked]

theorem wanted_of_error {query : Query} {failure : Failure}
    (refused : query.requests = .error failure) : query.wanted = [] := by
  rw [wanted, refused]

theorem isFile_of_file? {query : Query} {url : Url} (names : query.file? = some url) :
    url.isFile = true ∧ query.uri?.map Url.parse = some (.ok url) := by
  unfold file? at names
  split at names
  · rename_i parsed
    split at names
    · rename_i isFile
      cases names
      exact ⟨isFile, parsed⟩
    · cases names
  · cases names

theorem requests_eq_error {query : Query} {failure : Failure}
    (refused : query.requests = .error failure) :
    ∃ request error, query = .symbolInfo request ∧ Url.parse request.uri = .error error ∧
      failure = badUri request.uri error := by
  unfold requests at refused
  split at refused
  · rename_i request
    split at refused
    · cases refused
    · rename_i error unparsed
      cases refused
      exact ⟨request, error, rfl, unparsed, rfl⟩
  · cases refused
  · cases refused

theorem file?_of_refused {query : Query} {failure : Failure}
    (refused : query.requests = .error failure) : query.file? = none := by
  obtain ⟨request, error, rfl, unparsed, -⟩ := requests_eq_error refused
  simp only [file?, uri?, Option.map_some, unparsed]

theorem ordinary_of_mem_wanted {query : Query} {request : RequestText}
    (among : request ∈ query.wanted) : Message.IsOrdinary request.1 := by
  unfold wanted at among
  split at among
  · rename_i requests asked
    exact method_of_requests asked among
  · cases among

end Query

namespace SharedSession

open SharedLink (Running Continues)

namespace Stage

variable {query : Query}

def holds : Stage query → Bool
  | reading _ _ => true
  | closing _ => true
  | _ => false

def isOver : Stage query → Bool
  | forgotten _ => true
  | closing _ => true
  | ended _ => true
  | _ => false

theorem holds_conclude (result : Except Failure query.Reply) :
    (conclude query result).holds = false := by
  unfold conclude
  split <;> rfl

theorem conclude_ne_reading (result : Except Failure query.Reply) (url : Url)
    (path : List UInt8) : conclude query result ≠ .reading url path := by
  intro same
  have holds := holds_conclude result
  rw [same] at holds
  cases holds

theorem conclude_ne_queued (result : Except Failure query.Reply) (url : Url) :
    conclude query result ≠ .queued url := by
  unfold conclude
  split <;> simp

end Stage

/-- What a call has made is what it wants in front of what it has still to make, and it has made
    nothing before it has seen to its document. -/
structure Call.Fits (shared : SharedLink) (call : Call) : Prop where
  split : ∃ done, call.query.wanted = done ++ call.left ∧
    List.Forall₂ (fun id text => (id, call.signal, text) ∈ shared.asked) call.made done
  queued : ∀ url, call.stage = .queued url → call.made = [] ∧ call.query.file? = some url
  reading : ∀ url path, call.stage = .reading url path →
    call.made = [] ∧ call.query.file? = some url
  finished : call.stage.isOver = true →
    call.left = [] ∧ ∀ id ∈ call.made, ∃ outcome, shared.outcome? id = some outcome
  refused : ∀ failure, call.query.requests = .error failure →
    call.stage = .ended (.error failure)

theorem Call.Fits.later {shared after : SharedLink} {call : Call} (fits : call.Fits shared)
    (continues : Continues shared after) : call.Fits after := by
  obtain ⟨⟨done, whole, made⟩, queued, reading, finished, refused⟩ := fits
  refine ⟨⟨done, whole, ?_⟩, queued, reading, ?_, refused⟩
  · exact made.imp fun _ _ among => continues.asked _ among
  · intro isOver
    obtain ⟨all, ended⟩ := finished isOver
    refine ⟨all, ?_⟩
    intro id among
    obtain ⟨outcome, given⟩ := ended id among
    exact ⟨outcome, continues.ended id outcome given⟩

theorem fits_start (shared : SharedLink) (signal : Nat) (query : Query) :
    (Call.start signal query).Fits shared := by
  unfold Call.start
  split
  · rename_i failure asked
    have nothing := Query.wanted_of_error asked
    exact ⟨⟨[], nothing, .nil⟩, by simp, by simp, fun _ => ⟨rfl, by simp⟩, by simp [asked]⟩
  · rename_i requests asked
    have all := Query.wanted_of_ok asked
    split
    · rename_i url names
      refine ⟨⟨[], all, .nil⟩, ?_, by simp, by simp [Stage.isOver], by simp [asked]⟩
      intro other stage
      cases stage
      exact ⟨rfl, names⟩
    · exact ⟨⟨[], all, .nil⟩, by simp, by simp, by simp [Stage.isOver], by simp [asked]⟩

theorem Call.Fits.goOn {shared : SharedLink} {call : Call} (fits : call.Fits shared)
    (notEnded : ∀ result, call.stage ≠ .ended result) {stage : Stage call.query}
    (queued : ∀ url, stage ≠ .queued url)
    (reading : ∀ url path, stage = .reading url path →
      call.made = [] ∧ call.query.file? = some url)
    (finished : stage.isOver = true →
      call.left = [] ∧ ∀ id ∈ call.made, ∃ outcome, shared.outcome? id = some outcome) :
    Call.Fits shared { call with stage } := by
  refine ⟨fits.split, fun url same => absurd same (queued url), reading, finished, ?_⟩
  intro failure asked
  exact absurd (fits.refused failure asked) (notEnded _)

theorem Call.Fits.goOn_asking {shared : SharedLink} {call : Call} (fits : call.Fits shared)
    (notEnded : ∀ result, call.stage ≠ .ended result) :
    Call.Fits shared { call with stage := .asking } :=
  fits.goOn notEnded (by simp) (by simp) (by simp [Stage.isOver])

/-- What holds of a shared session: its calls fit the link and have made its requests, the one that
    has the documents is the holder, and a document that is being read has not been sent. -/
structure Orderly (session : SharedSession) : Prop where
  running : Running session.shared
  fits : ∀ (n : Nat) (call : Call), session.calls[n]? = some call → call.Fits session.shared
  holds : ∀ (n : Nat) (call : Call), session.calls[n]? = some call →
    (call.stage.holds = true ↔ session.holder = some n)
  holder : ∀ n, session.holder = some n → ∃ call, session.calls[n]? = some call
  reads : ∀ (n : Nat) (call : Call) (url : Url) (path : List UInt8),
    session.calls[n]? = some call → call.stage = .reading url path →
      url.toString ∉ session.shared.link.opened ∧ url.filePath? = some path
  once : session.shared.link.opened.Nodup
  owned : ∀ entry ∈ session.shared.asked, ∃ (n : Nat) (call : Call),
    session.calls[n]? = some call ∧ entry.1 ∈ call.made

theorem getElem?_set {calls : List Call} {n : Nat} {call : Call} (found : calls[n]? = some call)
    (after : Call) (m : Nat) :
    (calls.set n after)[m]? = if m = n then some after else calls[m]? := by
  obtain ⟨bound, -⟩ := List.getElem?_eq_some_iff.mp found
  rw [List.getElem?_set]
  by_cases same : m = n
  · subst same
    simp [bound]
  · simp [same, Ne.symm same]

theorem mem_of_mapM {α β : Type} {f : α → Option β} {xs : List α} {ys : List β}
    (all : xs.mapM f = some ys) {x : α} (among : x ∈ xs) : ∃ y, f x = some y := by
  induction xs generalizing ys with
  | nil => cases among
  | cons first xs ih =>
    rw [List.mapM_cons] at all
    cases here : f first with
    | none => simp [here] at all
    | some y =>
      cases later : xs.mapM f with
      | none => simp [here, later] at all
      | some ys =>
        rcases List.mem_cons.mp among with rfl | among
        · exact ⟨y, here⟩
        · exact ih later among

theorem exists_mapM {α β : Type} {f : α → Option β} {xs : List α}
    (all : ∀ x ∈ xs, ∃ y, f x = some y) : ∃ ys, xs.mapM f = some ys := by
  induction xs with
  | nil => exact ⟨[], rfl⟩
  | cons first xs ih =>
    obtain ⟨y, here⟩ := all first List.mem_cons_self
    obtain ⟨ys, later⟩ := ih fun x among => all x (List.mem_cons_of_mem first among)
    exact ⟨y :: ys, by simp [List.mapM_cons, here, later]⟩

theorem mapM_mono {α β : Type} {f g : α → Option β} (more : ∀ x y, f x = some y → g x = some y)
    {xs : List α} {ys : List β} (all : xs.mapM f = some ys) : xs.mapM g = some ys := by
  induction xs generalizing ys with
  | nil => exact all
  | cons first xs ih =>
    rw [List.mapM_cons] at all ⊢
    cases here : f first with
    | none => simp [here] at all
    | some y =>
      cases later : xs.mapM f with
      | none => simp [here, later] at all
      | some ys =>
        rw [more first y here, ih later]
        rwa [here, later] at all

theorem exists_of_forall₂_of_mem {α β : Type} {R : α → β → Prop} {xs : List α} {ys : List β}
    (all : List.Forall₂ R xs ys) {x : α} (among : x ∈ xs) : ∃ y ∈ ys, R x y := by
  induction all with
  | nil => cases among
  | cons first _ ih =>
    rcases List.mem_cons.mp among with rfl | among
    · exact ⟨_, List.mem_cons_self, first⟩
    · obtain ⟨y, member, related⟩ := ih among
      exact ⟨y, List.mem_cons_of_mem _ member, related⟩

section Turn

variable {session : SharedSession} {n : Nat} {call after : Call} {event : Event}
  {shared : SharedLink} {holder : Option Nat}

theorem Turn.continues (heard : session.shared.muted = false)
    (turn : Turn session n call event shared after holder) : Continues session.shared shared := by
  cases turn with
  | opens => exact SharedLink.continues_document heard _ _
  | closes => exact SharedLink.continues_document heard _ _
  | asks => exact SharedLink.continues_begin _ _ _
  | abandons _ _ muted => cases heard.symm.trans muted
  | _ => exact .refl _

theorem ordinary_of_left (fits : call.Fits session.shared) {request : RequestText}
    (among : request ∈ call.left) : Message.IsOrdinary request.1 := by
  obtain ⟨done, whole, -⟩ := fits.split
  have wanted : request ∈ call.query.wanted := by
    rw [whole]
    exact List.mem_append_right _ among
  exact Query.ordinary_of_mem_wanted wanted

theorem Turn.running (running : Running session.shared) (fits : call.Fits session.shared)
    (turn : Turn session n call event shared after holder) : Running shared := by
  cases turn with
  | opens => exact running.document _ _ _
  | closes => exact running.document _ _ _
  | @asks method params left stage next =>
    have first : (method, params) ∈ call.left := by simp [next]
    exact running.begin call.signal (ordinary_of_left fits first) params
  | abandons _ _ muted => cases running.heard.symm.trans muted
  | _ => exact running

theorem Turn.fits (heard : session.shared.muted = false) (fits : call.Fits session.shared)
    (turn : Turn session n call event shared after holder) : after.Fits shared := by
  have continues := turn.continues heard
  cases turn with
  | passes stage => exact fits.goOn_asking (by simp [stage])
  | @locks url path stage =>
    refine fits.goOn (by simp [stage]) (by simp) ?_ (by simp [Stage.isOver])
    intro other path' same
    cases same
    exact fits.queued url stage
  | fails stage => exact fits.goOn_asking (by simp [stage])
  | opens stage => exact (fits.goOn_asking (by simp [stage])).later continues
  | @asks method params left stage next =>
    have later := fits.later continues
    obtain ⟨done, whole, made⟩ := later.split
    refine ⟨⟨done ++ [(method, params)], ?_, ?_⟩, by simp [stage], by simp [stage],
      by simp [stage, Stage.isOver], later.refused⟩
    · rw [whole, next]
      simp
    · refine List.rel_append made (.cons ?_ .nil)
      rw [SharedLink.asked_begin]
      exact List.mem_append_right _ (by simp)
  | @concludes outcomes stage all ended =>
    refine fits.goOn (by simp [stage]) (Stage.conclude_ne_queued _) ?_ ?_
    · exact fun url path same => absurd same (Stage.conclude_ne_reading _ url path)
    · intro _
      exact ⟨all, fun id among => mem_of_mapM ended among⟩
  | takes stage =>
    refine fits.goOn (by simp [stage]) (by simp) (by simp) ?_
    exact fun _ => fits.finished (by rw [stage]; rfl)
  | closes => exact fits.later continues
  | refused _ _ muted => cases heard.symm.trans muted
  | abandons _ _ muted => cases heard.symm.trans muted
  | releases stage =>
    refine fits.goOn (by simp [stage]) (by simp) (by simp) ?_
    exact fun _ => fits.finished (by rw [stage]; rfl)

theorem Turn.added (held : call.stage.holds = true ↔ session.holder = some n)
    (turn : Turn session n call event shared after holder) :
    ∀ name ∈ shared.link.opened,
      name ∈ session.shared.link.opened ∨ session.holder = some n := by
  intro name among
  cases turn with
  | opens stage => exact Or.inr (held.mp (by rw [stage]; rfl))
  | closes => exact Or.inl (List.mem_of_mem_erase among)
  | abandons => cases among
  | _ => exact Or.inl among

theorem Turn.once (once : session.shared.link.opened.Nodup)
    (reads : ∀ url path, call.stage = .reading url path →
      url.toString ∉ session.shared.link.opened)
    (turn : Turn session n call event shared after holder) : shared.link.opened.Nodup := by
  cases turn with
  | @opens url path disk text stage =>
    have unopened := reads url path stage
    show (session.shared.link.opened ++ [url.toString]).Nodup
    rw [List.nodup_append]
    refine ⟨once, by simp, ?_⟩
    intro first among second single same
    rw [List.mem_singleton.mp single] at same
    exact unopened (same ▸ among)
  | closes => exact once.erase _
  | abandons => exact List.nodup_nil
  | _ => exact once

theorem Turn.reads {url : Url} {path : List UInt8}
    (turn : Turn session n call event shared after holder)
    (stage' : after.stage = .reading url path) :
    url.toString ∉ shared.link.opened ∧ url.filePath? = some path := by
  cases turn with
  | locks stage free unopened somewhere =>
    cases stage'
    exact ⟨unopened, somewhere⟩
  | asks stage => exact absurd (stage.symm.trans stage') (by simp)
  | closes stage => exact absurd (stage.symm.trans stage') (by simp)
  | concludes => exact absurd stage' (Stage.conclude_ne_reading _ _ _)
  | _ => cases stage'

theorem Turn.made (turn : Turn session n call event shared after holder) :
    ∀ id ∈ call.made, id ∈ after.made := by
  intro id among
  cases turn with
  | asks => exact List.mem_append_left _ among
  | _ => exact among

theorem Turn.owned (turn : Turn session n call event shared after holder) :
    ∀ entry ∈ shared.asked, entry ∈ session.shared.asked ∨ entry.1 ∈ after.made := by
  intro entry among
  cases turn with
  | asks =>
    rw [SharedLink.asked_begin] at among
    rcases List.mem_append.mp among with before | now
    · exact Or.inl before
    · rw [List.mem_singleton.mp now]
      exact Or.inr (List.mem_append_right _ (by simp))
  | _ => exact Or.inl among

theorem Turn.held (held : call.stage.holds = true ↔ session.holder = some n)
    (turn : Turn session n call event shared after holder) :
    after.stage.holds = true ↔ holder = some n := by
  cases turn with
  | passes stage free => simp [free, Stage.holds]
  | concludes stage =>
    rw [stage] at held
    rw [Stage.holds_conclude]
    exact held
  | asks => exact held
  | closes => exact held
  | _ => simp [Stage.holds]

theorem Turn.others (held : call.stage.holds = true ↔ session.holder = some n)
    (turn : Turn session n call event shared after holder) {m : Nat} (different : m ≠ n) :
    holder = some m ↔ session.holder = some m := by
  have has (holds : call.stage.holds = true) : session.holder = some m ↔ False := by
    rw [held.mp holds]
    simp [Ne.symm different]
  cases turn with
  | locks stage free => simp [free, Ne.symm different]
  | takes stage free => simp [free, Ne.symm different]
  | fails stage => simp [has (by rw [stage]; rfl)]
  | opens stage => simp [has (by rw [stage]; rfl)]
  | refused stage => simp [has (by rw [stage]; rfl)]
  | abandons stage => simp [has (by rw [stage]; rfl)]
  | releases stage => simp [has (by rw [stage]; rfl)]
  | _ => exact Iff.rfl

end Turn

theorem Orderly.turned {session : SharedSession} (orderly : Orderly session) {n : Nat}
    {call after : Call} {event : Event} {shared : SharedLink} {holder : Option Nat}
    (found : session.calls[n]? = some call)
    (turn : Turn session n call event shared after holder) :
    Orderly ⟨shared, session.calls.set n after, holder⟩ := by
  have seen := getElem?_set found after
  have fits := orderly.fits n call found
  have held := orderly.holds n call found
  have others {m : Nat} (different : m ≠ n) := turn.others held different
  constructor
  · exact turn.running orderly.running fits
  · intro m other given
    rw [seen] at given
    split at given
    · cases given
      exact turn.fits orderly.running.heard fits
    · exact (orderly.fits m other given).later (turn.continues orderly.running.heard)
  · intro m other given
    rw [seen] at given
    split at given
    · rename_i same
      cases given
      rw [same]
      exact turn.held held
    · rename_i different
      exact (orderly.holds m other given).trans (others different).symm
  · intro m has
    show ∃ call, (session.calls.set n after)[m]? = some call
    rw [seen]
    by_cases same : m = n
    · exact ⟨after, if_pos same⟩
    · rw [if_neg same]
      exact orderly.holder m ((others same).mp has)
  · intro m other url path given stage
    rw [seen] at given
    split at given
    · cases given
      exact turn.reads stage
    · rename_i different
      obtain ⟨unopened, somewhere⟩ := orderly.reads m other url path given stage
      refine ⟨?_, somewhere⟩
      intro isOpen
      have has : session.holder = some m := by
        rw [← orderly.holds m other given, stage]
        rfl
      rcases turn.added held _ isOpen with before | holds
      · exact unopened before
      · rw [has] at holds
        exact different (Option.some.inj holds)
  · exact turn.once orderly.once fun url path stage => (orderly.reads n call url path found stage).1
  · intro entry among
    rcases turn.owned entry among with before | now
    · obtain ⟨m, other, given, made⟩ := orderly.owned entry before
      by_cases same : m = n
      · subst same
        cases found.symm.trans given
        exact ⟨m, after, by rw [seen, if_pos rfl], turn.made _ made⟩
      · exact ⟨m, other, by rw [seen, if_neg same, given], made⟩
    · exact ⟨n, after, by rw [seen, if_pos rfl], now⟩

theorem getElem?_append_of_found {calls : List Call} {n : Nat} {call : Call}
    (found : calls[n]? = some call) (more : List Call) : (calls ++ more)[n]? = some call := by
  obtain ⟨bound, -⟩ := List.getElem?_eq_some_iff.mp found
  rw [List.getElem?_append_left bound, found]

theorem getElem?_snoc {calls : List Call} {new call : Call} {m : Nat}
    (given : (calls ++ [new])[m]? = some call) :
    calls[m]? = some call ∨ m = calls.length ∧ call = new := by
  rw [List.getElem?_append] at given
  split at given
  · exact Or.inl given
  · obtain ⟨bound, same⟩ := List.getElem?_eq_some_iff.mp given
    simp only [List.length_singleton] at bound
    exact Or.inr ⟨by omega, by simpa using same.symm⟩

theorem holds_start (signal : Nat) (query : Query) :
    (Call.start signal query).stage.holds = false := by
  unfold Call.start
  split
  · rfl
  · dsimp only
    split <;> rfl

theorem Orderly.called {session : SharedSession} (orderly : Orderly session) (signal : Nat)
    (query : Query) : Orderly { session with calls := session.calls ++ [.start signal query] } := by
  have free := holds_start signal query
  have notHolder : session.holder ≠ some session.calls.length := by
    intro holds
    obtain ⟨call, found⟩ := orderly.holder _ holds
    obtain ⟨bound, -⟩ := List.getElem?_eq_some_iff.mp found
    omega
  constructor
  · exact orderly.running
  · intro m call given
    rcases getElem?_snoc given with found | ⟨-, rfl⟩
    · exact orderly.fits m call found
    · exact fits_start _ signal query
  · intro m call given
    rcases getElem?_snoc given with found | ⟨rfl, rfl⟩
    · exact orderly.holds m call found
    · simp [free, notHolder]
  · intro m holds
    obtain ⟨call, found⟩ := orderly.holder m holds
    exact ⟨call, getElem?_append_of_found found _⟩
  · intro m call url path given stage
    rcases getElem?_snoc given with found | ⟨-, rfl⟩
    · exact orderly.reads m call url path found stage
    · rw [stage] at free
      cases free
  · exact orderly.once
  · intro entry among
    obtain ⟨n, call, found, made⟩ := orderly.owned entry among
    exact ⟨n, call, getElem?_append_of_found found _, made⟩

theorem Orderly.linked {session : SharedSession} (orderly : Orderly session) (step : LinkStep) :
    Orderly { session with shared := session.shared.step step.event } := by
  have opened := (SharedLink.does_step session.shared step.event).opened
  have continues := SharedLink.continues_linked orderly.running step
  constructor
  · exact orderly.running.linked step
  · exact fun m call found => (orderly.fits m call found).later continues
  · exact orderly.holds
  · exact orderly.holder
  · simp only [opened]
    exact orderly.reads
  · simp only [opened]
    exact orderly.once
  · rw [(SharedLink.does_step session.shared step.event).asked step.event_ne_begin]
    exact orderly.owned

theorem Orderly.does {session after : SharedSession} {event : Event} (orderly : Orderly session)
    (does : Does session event after) : Orderly after := by
  cases does with
  | nothing => exact orderly
  | called signal query => exact orderly.called signal query
  | linked step => exact orderly.linked step
  | turned found turn => exact orderly.turned found turn

theorem running_start : Running SharedLink.start := by
  constructor
  · exact SharedLink.sound_start
  · rfl
  · rfl
  · simp [SharedLink.asked, SharedLink.start]
  · simp [SharedLink.start]
  · simp [SharedLink.start, SharedLink.request?]

theorem orderly_start : Orderly start := by
  constructor
  · exact running_start
  · simp [start]
  · simp [start]
  · simp [start]
  · simp [start]
  · exact List.nodup_nil
  · simp [start, SharedLink.asked, SharedLink.start]

theorem Orderly.runFrom {session : SharedSession} (orderly : Orderly session)
    (events : List Event) : Orderly (session.runFrom events) := by
  induction events generalizing session with
  | nil => exact orderly
  | cons event events ih => exact ih (orderly.does (does_step session event))

theorem orderly_run (events : List Event) : Orderly (run events) := orderly_start.runFrom events

end SharedSession

end CodeGateway
