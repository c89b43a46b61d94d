import CodeGateway.Proofs.SharedStep

namespace CodeGateway.SharedLink

/-- A request is open while it waits for an answer or has not taken it. -/
def Request.IsOpen (request : Request) : Prop :=
  request.stage = .registered ∨ request.stage = .sent

structure Sound (shared : SharedLink) : Prop where
  distinct : (shared.requests.map Request.id).Nodup
  counted : ∀ id ∈ shared.requests.map Request.id, id < shared.link.nextId
  once : shared.link.waiting.Nodup
  waits : ∀ id, id ∈ shared.link.waiting ↔
    (∃ request, shared.request? id = some request ∧ request.IsOpen) ∧
      shared.posted.lookup id = none
  handed : ∀ id, shared.posted.lookup id ≠ none →
    ∃ request, shared.request? id = some request ∧ request.stage ≠ .numbered
  closed : shared.link.closed ≠ none → shared.link.waiting = []

theorem Request.IsOpen.ne_numbered {request : Request} (isOpen : request.IsOpen) :
    request.stage ≠ .numbered := by
  intro numbered
  rcases isOpen with isOpen | isOpen
  · cases numbered.symm.trans isOpen
  · cases numbered.symm.trans isOpen

theorem Request.IsOpen.ne_ended {request : Request} (isOpen : request.IsOpen) (outcome : Outcome) :
    request.stage ≠ .ended outcome := by
  intro ended
  rcases isOpen with isOpen | isOpen
  · cases ended.symm.trans isOpen
  · cases ended.symm.trans isOpen

theorem find?_of_mem {requests : List Request} (distinct : (requests.map Request.id).Nodup)
    {request : Request} (member : request ∈ requests) :
    requests.find? (fun other => other.id == request.id) = some request := by
  induction requests with
  | nil => cases member
  | cons first requests ih =>
    rw [List.map_cons, List.nodup_cons] at distinct
    rcases List.mem_cons.mp member with rfl | member
    · simp
    · have different : first.id ≠ request.id := by
        intro same
        exact distinct.1 (same ▸ List.mem_map_of_mem member)
      rw [List.find?_cons_of_neg (by simpa using different)]
      exact ih distinct.2 member

theorem Sound.request?_of_mem {shared : SharedLink} (sound : Sound shared) {request : Request}
    (member : request ∈ shared.requests) : shared.request? request.id = some request :=
  find?_of_mem sound.distinct member

theorem ids_advance (shared : SharedLink) (id : Nat) (stage : Stage) :
    (shared.advance id stage).requests.map Request.id = shared.requests.map Request.id := by
  simp only [advance, List.map_map]
  congr 1
  funext request
  simp only [Function.comp]
  split <;> rfl

theorem Sound.request?_of_nextId_le {shared : SharedLink} (sound : Sound shared) {id : Nat}
    (new : shared.link.nextId ≤ id) : shared.request? id = none := by
  cases found : shared.request? id with
  | none => rfl
  | some request =>
    have bound := sound.counted _ (List.mem_map_of_mem (List.mem_of_find?_eq_some found))
    rw [request?_id found] at bound
    omega

theorem Sound.request?_nextId {shared : SharedLink} (sound : Sound shared) :
    shared.request? shared.link.nextId = none := sound.request?_of_nextId_le (Nat.le_refl _)

theorem Sound.not_waiting_of_numbered {shared : SharedLink} (sound : Sound shared) {id : Nat}
    {request : Request} (found : shared.request? id = some request)
    (stage : request.stage = .numbered) : id ∉ shared.link.waiting := by
  intro member
  obtain ⟨⟨other, found', isOpen⟩, -⟩ := (sound.waits id).mp member
  rw [found] at found'
  cases found'
  exact isOpen.ne_numbered stage

theorem Sound.unhanded_of_numbered {shared : SharedLink} (sound : Sound shared) {id : Nat}
    {request : Request} (found : shared.request? id = some request)
    (stage : request.stage = .numbered) : shared.posted.lookup id = none := by
  cases handed : shared.posted.lookup id with
  | none => rfl
  | some outcome =>
    obtain ⟨other, found', notNumbered⟩ := sound.handed id (by simp [handed])
    rw [found] at found'
    cases found'
    exact absurd stage notNumbered

theorem Sound.of_eq {shared other : SharedLink} (sound : Sound shared)
    (link : other.link = shared.link) (requests : other.requests = shared.requests)
    (posted : other.posted = shared.posted) : Sound other := by
  have seen (id : Nat) : other.request? id = shared.request? id := by
    simp only [request?, requests]
  constructor
  · rw [requests]
    exact sound.distinct
  · rw [requests, link]
    exact sound.counted
  · rw [link]
    exact sound.once
  · simp only [link, seen, posted]
    exact sound.waits
  · simp only [seen, posted]
    exact sound.handed
  · rw [link]
    exact sound.closed

theorem Sound.advance {shared : SharedLink} (sound : Sound shared) {id : Nat} {request : Request}
    (found : shared.request? id = some request) {stage : Stage} {waiting : List Nat}
    (once : waiting.Nodup) (others : ∀ other ≠ id, other ∈ waiting ↔ other ∈ shared.link.waiting)
    (waits : id ∈ waiting ↔
      (stage = .registered ∨ stage = .sent) ∧ shared.posted.lookup id = none)
    (left : stage ≠ .numbered) (closed : shared.link.closed ≠ none → waiting = []) :
    Sound ({ shared with link := { shared.link with waiting } }.advance id stage) := by
  have self : ({ shared with link := { shared.link with waiting } }.advance id stage).request? id =
      some { request with stage } := request?_advance_self found stage
  have apart {other : Nat} (different : other ≠ id) :
      ({ shared with link := { shared.link with waiting } }.advance id stage).request? other =
        shared.request? other := request?_advance_of_ne _ different stage
  constructor
  · rw [ids_advance]
    exact sound.distinct
  · rw [ids_advance]
    exact sound.counted
  · exact once
  · intro other
    by_cases same : other = id
    · subst same
      refine waits.trans (and_congr_left fun _ => ?_)
      simp only [self, Option.some.injEq, exists_eq_left', Request.IsOpen]
    · rw [apart same]
      exact (others other same).trans (sound.waits other)
  · intro other handed
    by_cases same : other = id
    · subst same
      exact ⟨_, self, left⟩
    · rw [apart same]
      exact sound.handed other handed
  · exact closed

theorem Sound.begin {shared : SharedLink} (sound : Sound shared) (signal : Nat) (method : String)
    (params : Json) : Sound (shared.begin signal method params) := by
  have fresh : shared.link.nextId ∉ shared.requests.map Request.id := by
    intro member
    have bound := sound.counted _ member
    omega
  have kept {id : Nat} {request : Request} (found : shared.request? id = some request) :
      (shared.begin signal method params).request? id = some request := by
    rw [request?_begin, found, Option.some_or]
  constructor
  · have ids : (shared.begin signal method params).requests.map Request.id =
        shared.requests.map Request.id ++ [shared.link.nextId] := by
      simp [SharedLink.begin, Link.takeNumber]
    rw [ids, List.nodup_append]
    refine ⟨sound.distinct, by simp, ?_⟩
    intro first member second single equal
    subst equal
    rw [List.mem_singleton] at single
    rw [single] at member
    exact fresh member
  · intro id member
    simp only [SharedLink.begin, Link.takeNumber, List.map_append, List.mem_append] at member ⊢
    rcases member with member | member
    · have bound := sound.counted id member
      omega
    · simp only [List.map_cons, List.map_nil, List.mem_singleton] at member
      omega
  · exact sound.once
  · intro id
    refine (sound.waits id).trans (and_congr_left fun _ => ?_)
    rw [request?_begin]
    cases found : shared.request? id with
    | some request => rfl
    | none =>
      simp only [reduceCtorEq, false_and, exists_false, Option.none_or, false_iff]
      intro given
      obtain ⟨request, new, isOpen⟩ := given
      obtain ⟨-, new⟩ := Option.ite_none_right_eq_some.mp new
      cases new
      exact isOpen.ne_numbered rfl
  · intro id handed
    obtain ⟨request, found, stage⟩ := sound.handed id handed
    exact ⟨request, kept found, stage⟩
  · exact sound.closed

theorem not_mem_erase {waiting : List Nat} (once : waiting.Nodup) (id : Nat) :
    id ∉ waiting.erase id := fun member => ((List.Nodup.mem_erase_iff once).mp member).1 rfl

theorem lookup_cons (id first : Nat) (outcome : Outcome) (posted : List (Nat × Outcome)) :
    ((first, outcome) :: posted).lookup id =
      if id = first then some outcome else posted.lookup id := by
  by_cases same : id = first
  · simp [same]
  · simp [List.lookup_cons, same, beq_false_of_ne same]

theorem lookup_map (waiting : List Nat) (outcome : Outcome) (id : Nat) :
    (waiting.map fun id => (id, outcome)).lookup id =
      if id ∈ waiting then some outcome else none := by
  induction waiting with
  | nil => rfl
  | cons first waiting ih =>
    rw [List.map_cons, lookup_cons, ih]
    by_cases same : id = first <;> simp [same]

theorem lookup_post (shared : SharedLink) (link : Link) (sent : List Json) (id other : Nat)
    (outcome : Outcome) :
    (shared.absorb (link, ⟨sent, [(id, outcome)]⟩)).posted.lookup other =
      (shared.posted.lookup other).or (if other = id then some outcome else none) := by
  have single := lookup_cons other id outcome []
  rw [List.lookup_nil] at single
  rw [← single, ← List.lookup_append]
  rfl

theorem lookup_close (shared : SharedLink) (reason : String) (id : Nat) :
    (shared.absorb (shared.link.close reason)).posted.lookup id =
      (shared.posted.lookup id).or
        (if id ∈ shared.link.waiting then some (.error (.closed reason)) else none) := by
  rw [← lookup_map, ← List.lookup_append]
  rfl

theorem Sound.post {shared : SharedLink} (sound : Sound shared) {id : Nat}
    (waits : id ∈ shared.link.waiting) (outcome : Outcome) (sent : List Json) :
    Sound (shared.absorb (shared.link.forget id, ⟨sent, [(id, outcome)]⟩)) := by
  obtain ⟨⟨request, found, isOpen⟩, unhanded⟩ := (sound.waits id).mp waits
  constructor
  · exact sound.distinct
  · exact sound.counted
  · exact sound.once.erase id
  · intro other
    rw [lookup_post]
    show other ∈ shared.link.waiting.erase id ↔
      (∃ request, shared.request? other = some request ∧ request.IsOpen) ∧ _
    by_cases same : other = id
    · subst same
      simp [not_mem_erase sound.once, unhanded]
    · rw [List.mem_erase_of_ne same, if_neg same, Option.or_none]
      exact sound.waits other
  · intro other handed
    by_cases same : other = id
    · subst same
      refine ⟨request, found, ?_⟩
      exact isOpen.ne_numbered
    · apply sound.handed other
      rwa [lookup_post, if_neg same, Option.or_none] at handed
  · intro closed
    show shared.link.waiting.erase id = []
    rw [sound.closed closed]
    rfl

theorem Sound.close {shared : SharedLink} (sound : Sound shared) (reason : String) :
    Sound (shared.absorb (shared.link.close reason)) := by
  constructor
  · exact sound.distinct
  · exact sound.counted
  · exact List.nodup_nil
  · intro id
    rw [lookup_close]
    show id ∈ [] ↔ (∃ request, shared.request? id = some request ∧ request.IsOpen) ∧ _
    simp only [List.not_mem_nil, false_iff, not_and, Option.or_eq_none_iff]
    intro isOpen unhanded
    simp [(sound.waits id).mpr ⟨isOpen, unhanded⟩]
  · intro id handed
    rw [lookup_close] at handed
    by_cases waits : id ∈ shared.link.waiting
    · obtain ⟨⟨request, found, isOpen⟩, -⟩ := (sound.waits id).mp waits
      refine ⟨request, found, ?_⟩
      exact isOpen.ne_numbered
    · rw [if_neg waits, Option.or_none] at handed
      exact sound.handed id handed
  · intro _
    rfl

theorem sound_start : Sound start := by
  constructor <;> simp [start, Link.start, request?]

theorem Sound.forget {shared : SharedLink} (sound : Sound shared) {id : Nat} {request : Request}
    (found : shared.request? id = some request) (outcome : Outcome) :
    Sound ({ shared with link := shared.link.forget id }.advance id (.ended outcome)) := by
  refine sound.advance found (sound.once.erase id) ?_ ?_ (by simp) ?_
  · intro other different
    exact List.mem_erase_of_ne different
  · simp [not_mem_erase sound.once]
  · intro closed
    rw [sound.closed closed]
    rfl

theorem Sound.finish {shared : SharedLink} (sound : Sound shared) {id : Nat} {request : Request}
    (found : shared.request? id = some request) (gone : id ∉ shared.link.waiting)
    (outcome : Outcome) : Sound (shared.advance id (.ended outcome)) := by
  have kept := sound.forget found outcome
  rwa [Link.forget_of_not_mem gone] at kept

theorem Sound.does {shared after : SharedLink} {event : Event} (sound : Sound shared)
    (does : Does shared event after) : Sound after := by
  cases does with
  | nothing => exact sound
  | began signal method params => exact sound.begin signal method params
  | @registered request found stage standing =>
    have gone := sound.not_waiting_of_numbered found stage
    refine sound.advance found ?_ ?_ ?_ (by simp) (fun closed => absurd standing closed)
    · rw [List.nodup_append]
      refine ⟨sound.once, by simp, ?_⟩
      intro first member second single equal
      subst equal
      rw [List.mem_singleton] at single
      rw [single] at member
      exact gone member
    · intro other different
      simp [different]
    · simp [sound.unhanded_of_numbered found stage]
  | refused found stage =>
    exact sound.finish found (sound.not_waiting_of_numbered found stage) _
  | @sent request found stage =>
    have kept : Sound (shared.hand [Message.request request.id request.method request.params]) :=
      sound.of_eq rfl rfl rfl
    refine kept.advance found sound.once (fun _ _ => Iff.rfl) ?_ (by simp) sound.closed
    refine (sound.waits request.id).trans (and_congr_left fun _ => ?_)
    simp [found, Request.IsOpen, stage]
  | unsent found => exact sound.forget found _
  | fired => exact sound.of_eq rfl rfl rfl
  | @collected request outcome found stage handed =>
    refine sound.finish found ?_ outcome
    intro waits
    obtain ⟨-, unhanded⟩ := (sound.waits request.id).mp waits
    rw [handed] at unhanded
    cases unhanded
  | dropped found stage unhanded gone => exact sound.finish found gone _
  | withdrawn found => exact (sound.forget found (.error .cancelled)).of_eq rfl rfl rfl
  | muted => exact sound.of_eq rfl rfl rfl
  | replied reply waits => exact sound.post waits _ []
  | answered strange sent =>
    exact sound.of_eq rfl rfl (List.append_nil shared.posted)
  | stopped => exact sound.close _

theorem Sound.runFrom {shared : SharedLink} (sound : Sound shared) (events : List Event) :
    Sound (shared.runFrom events) := by
  induction events generalizing shared with
  | nil => exact sound
  | cons event events ih => exact ih (sound.does (does_step shared event))

theorem sound_run (events : List Event) : Sound (run events) := sound_start.runFrom events

end CodeGateway.SharedLink
