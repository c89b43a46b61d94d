import CodeGateway.Agent.Serving
import CodeGateway.Proofs.HandledLine
import Mathlib.Data.List.Nodup

namespace CodeGateway.Agent.Serving

structure Ledger where
  count : Nat
  calls : List (Nat × Json)

def Ledger.step (ledger : Ledger) : Event → Ledger
  | .line line =>
    match callId? line with
    | some id => ⟨ledger.count + 1, ledger.calls ++ [(ledger.count, id)]⟩
    | none => ledger
  | .retire ticket _ => { ledger with calls := ledger.calls.filter fun call => call.1 != ticket }
  | _ => ledger

def ledger (events : List Event) : Ledger :=
  events.foldl Ledger.step ⟨0, []⟩

/-- Whether a call that an event makes, if it does, shares no identifier with one that has no result
    yet. Identifiers are told apart by their texts. -/
def Ledger.isApart (ledger : Ledger) : Event → Bool
  | .line line =>
    (callId? line).all fun id => ledger.calls.all fun call => call.2.text != id.text
  | _ => true

/-- Whether no two calls of these events are under way at one time and share an identifier. -/
def Ledger.areApart : Ledger → List Event → Bool
  | _, [] => true
  | ledger, event :: events => ledger.isApart event && areApart (ledger.step event) events

structure Keeps (server : Server) (ledger : Ledger) : Prop where
  calls : server.running.map (fun call => (call.ticket, call.id)) = ledger.calls
  count : server.nextTicket = ledger.count
  named : server.named = (server.running.map fun call => (call.id.text, call.ticket)).reverse
  before : ∀ call ∈ server.running, call.ticket < server.nextTicket
  tickets : (server.running.map RunningCall.ticket).Nodup
  texts : (server.running.map fun call => call.id.text).Nodup

theorem Keeps.launch {server : Server} {ledger : Ledger} (keeps : Keeps server ledger) {id : Json}
    (apart : ∀ call ∈ ledger.calls, call.2.text ≠ id.text) (prepared : Catalogue.Prepared) :
    Keeps (server.launch id prepared).1
      ⟨ledger.count + 1, ledger.calls ++ [(ledger.count, id)]⟩ := by
  have fresh : ∀ call ∈ server.running, call.id.text ≠ id.text := by
    intro call member
    apply apart (call.ticket, call.id)
    rw [← keeps.calls]
    exact List.mem_map.mpr ⟨call, member, rfl⟩
  have kept : (server.named.filter fun entry => entry.1 != id.text) = server.named := by
    rw [keeps.named, List.filter_eq_self]
    intro entry member
    obtain ⟨call, among, rfl⟩ := List.mem_map.mp (List.mem_reverse.mp member)
    simpa using fresh call among
  constructor
  · simp [Server.launch, Server.forget, keeps.calls, keeps.count]
  · simp [Server.launch, Server.forget, keeps.count]
  · simp only [Server.launch, Server.forget, kept]
    rw [keeps.named]
    simp
  · intro call member
    simp only [Server.launch, Server.forget, List.mem_append, List.mem_singleton] at member ⊢
    rcases member with member | rfl
    · have bound := keeps.before call member
      omega
    · exact Nat.lt_succ_self _
  · simp only [Server.launch, Server.forget, List.map_append, List.map_cons, List.map_nil]
    rw [List.nodup_append]
    refine ⟨keeps.tickets, by simp, ?_⟩
    intro ticket member other single equal
    subst equal
    rw [List.mem_singleton] at single
    obtain ⟨call, among, rfl⟩ := List.mem_map.mp member
    have bound := keeps.before call among
    omega
  · simp only [Server.launch, Server.forget, List.map_append, List.map_cons, List.map_nil]
    rw [List.nodup_append]
    refine ⟨keeps.texts, by simp, ?_⟩
    intro text member other single equal
    subst equal
    rw [List.mem_singleton] at single
    obtain ⟨call, among, rfl⟩ := List.mem_map.mp member
    exact fresh call among single

theorem find?_ticket {server : Server} {ticket : Nat} {call : RunningCall}
    (found : server.running.find? (fun call => call.ticket == ticket) = some call) :
    call ∈ server.running ∧ call.ticket = ticket := by
  refine ⟨List.mem_of_find?_eq_some found, ?_⟩
  simpa using List.find?_some found

theorem Keeps.same_call {server : Server} {ledger : Ledger} (keeps : Keeps server ledger)
    {first second : RunningCall} (among : first ∈ server.running)
    (among' : second ∈ server.running) :
    first.id.text = second.id.text ↔ first.ticket = second.ticket := by
  constructor
  · intro same
    rw [List.inj_on_of_nodup_map keeps.texts among among' same]
  · intro same
    rw [List.inj_on_of_nodup_map keeps.tickets among among' same]

theorem Keeps.retire {server : Server} {ledger : Ledger} (keeps : Keeps server ledger)
    (ticket : Nat) : Keeps (server.retire ticket).1
      { ledger with calls := ledger.calls.filter fun call => call.1 != ticket } := by
  unfold Server.retire
  cases found : server.running.find? fun call => call.ticket == ticket with
  | none =>
    have kept : (ledger.calls.filter fun call => call.1 != ticket) = ledger.calls := by
      rw [← keeps.calls, List.filter_eq_self]
      intro entry member
      obtain ⟨call, among, rfl⟩ := List.mem_map.mp member
      simpa using List.find?_eq_none.mp found call among
    rw [kept]
    exact keeps
  | some call =>
    obtain ⟨among, rfl⟩ := find?_ticket found
    have sublist : (server.running.filter fun other => other.ticket != call.ticket).Sublist
        server.running := List.filter_sublist
    constructor
    · rw [← keeps.calls, List.filter_map]
      rfl
    · exact keeps.count
    · simp only [Server.forget]
      rw [keeps.named, List.filter_reverse, List.filter_map]
      congr 2
      refine List.filter_congr fun other among' => ?_
      have same := keeps.same_call among' among
      by_cases ticket : other.ticket = call.ticket
      · simp [ticket, same.mpr ticket]
      · have text : other.id.text ≠ call.id.text := fun text => ticket (same.mp text)
        exact (bne_iff_ne.mpr text).trans (bne_iff_ne.mpr ticket).symm
    · intro other member
      exact keeps.before other (sublist.subset member)
    · exact keeps.tickets.sublist (sublist.map _)
    · exact keeps.texts.sublist (sublist.map _)

def marked (ticket : Nat) (calls : List RunningCall) : List RunningCall :=
  calls.map fun call => if call.ticket == ticket then { call with cancelled := true } else call

theorem map_marked {α : Type} (ticket : Nat) (calls : List RunningCall) {view : RunningCall → α}
    (blind : ∀ call : RunningCall, view { call with cancelled := true } = view call) :
    (marked ticket calls).map view = calls.map view := by
  rw [marked, List.map_map]
  refine List.map_congr_left fun call _ => ?_
  simp only [Function.comp]
  split
  · exact blind call
  · rfl

theorem Keeps.mark {server : Server} {ledger : Ledger} (keeps : Keeps server ledger)
    (ticket : Nat) : Keeps { server with running := marked ticket server.running } ledger := by
  constructor
  · exact (map_marked ticket _ fun _ => rfl).trans keeps.calls
  · exact keeps.count
  · exact keeps.named.trans (congrArg List.reverse (map_marked ticket _ fun _ => rfl).symm)
  · intro call member
    obtain ⟨other, among, rfl⟩ := List.mem_map.mp member
    have bound := keeps.before other among
    split <;> exact bound
  · rw [map_marked ticket server.running fun _ => rfl]
    exact keeps.tickets
  · rw [map_marked ticket server.running fun _ => rfl]
    exact keeps.texts

theorem Keeps.handles {server : Server} {ledger : Ledger} (keeps : Keeps server ledger)
    {line : List Char} {after : Server × Reaction} (handles : Handles server line after)
    (apart : ledger.isApart (.line line) = true) : Keeps after.1 (ledger.step (.line line)) := by
  cases handles with
  | call calls =>
    simp only [Ledger.isApart, calls, Option.all_some, List.all_eq_true, bne_iff_ne] at apart
    simp only [Ledger.step, calls]
    exact keeps.launch apart _
  | unknown calls =>
    simp only [Ledger.step, calls]
    exact keeps
  | cancellation calls =>
    simp only [Ledger.step, calls]
    exact keeps.mark _
  | other calls =>
    simp only [Ledger.step, calls]
    exact keeps

theorem Keeps.step {serving : Serving} {ledger : Ledger} (keeps : Keeps serving.server ledger)
    {event : Event} (apart : ledger.isApart event = true) :
    Keeps (serving.step event).server (ledger.step event) := by
  cases event with
  | line line => exact keeps.handles (handles_handleLine serving.server line) apart
  | retire ticket result => exact keeps.retire ticket
  | respond ticket =>
    simp only [Serving.step, respond]
    split <;> exact keeps
  | write =>
    simp only [Serving.step, write]
    split <;> exact keeps

theorem keeps_start (catalogue : Catalogue) : Keeps (start catalogue).server ⟨0, []⟩ := by
  constructor <;> simp [start, Server.start]

theorem keeps_runFrom {serving : Serving} {ledger : Ledger} (keeps : Keeps serving.server ledger)
    {events : List Event} (apart : ledger.areApart events = true) :
    Keeps (serving.runFrom events).server (events.foldl Ledger.step ledger) := by
  induction events generalizing serving ledger with
  | nil => exact keeps
  | cons event events ih =>
    obtain ⟨now, later⟩ := Bool.and_eq_true_iff.mp apart
    exact ih (keeps.step now) later

end CodeGateway.Agent.Serving
