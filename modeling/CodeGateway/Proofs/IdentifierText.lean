import CodeGateway.Proofs.ExactlyOnce
import CodeGateway.Proofs.CallFate
import CodeGateway.Proofs.ReadValues

namespace CodeGateway

namespace Json

theorem Plain.mono {depth deeper : Nat} {value : Json} (plain : Plain depth value)
    (atMost : depth ≤ deeper) : Plain deeper value := by
  induction plain generalizing deeper with
  | null => exact .null
  | bool b => exact .bool b
  | int fits => exact .int fits
  | string s => exact .string s
  | array _ ih =>
    cases deeper with
    | zero => exact absurd atMost (Nat.not_succ_le_zero _)
    | succ deeper => exact .array fun item among => ih item among (Nat.le_of_succ_le_succ atMost)
  | object rising _ ih =>
    cases deeper with
    | zero => exact absurd atMost (Nat.not_succ_le_zero _)
    | succ deeper =>
      exact .object rising fun member among => ih member among (Nat.le_of_succ_le_succ atMost)

/-- What is read from the text is the value, so the text tells which value it is. -/
theorem IsPlain.text_inj {first second : Json} (isFirst : first.IsPlain)
    (isSecond : second.IsPlain) : first.text = second.text ↔ first = second := by
  constructor
  · intro same
    obtain ⟨depth, plain⟩ := isFirst
    obtain ⟨depth', plain'⟩ := isSecond
    have read := value_text (plain.mono (Nat.le_max_left depth depth')) follows_nil
    have read' := value_text (plain'.mono (Nat.le_max_right depth depth')) follows_nil
    rw [same, read'] at read
    cases read
    rfl
  · intro same
    rw [same]

end Json

namespace Agent

def cancelledId? (line : List Char) : Option Json :=
  (request? line).bind fun request =>
    if request.method = "notifications/cancelled" then
      (Cancellation.decode request.params).toOption.map Cancellation.id
    else none

theorem cancelledKey?_eq (line : List Char) :
    cancelledKey? line = (cancelledId? line).map Json.text := by
  unfold cancelledKey? cancelledId?
  cases request? line with
  | none => rfl
  | some request =>
    rw [Option.bind_some, Option.bind_some]
    split
    · rw [Option.map_map]
      rfl
    · rfl

theorem isProper_of_request? {line : List Char} {request : Request}
    (isRequest : request? line = some request) : request.IsProper := by
  unfold request? at isRequest
  split at isRequest
  · cases isRequest
  · exact (Request.parse_proper _).toOption isRequest

theorem isProper_of_callId? {line : List Char} {id : Json} (calls : callId? line = some id) :
    id.IsProper := by
  obtain ⟨request, isRequest, has⟩ := Option.bind_eq_some_iff.mp (id_of_callId? calls)
  exact (isProper_of_request? isRequest).id id has

theorem isProper_of_cancelledId? {line : List Char} {id : Json}
    (cancels : cancelledId? line = some id) : id.IsProper := by
  obtain ⟨request, isRequest, cancels⟩ := Option.bind_eq_some_iff.mp cancels
  have proper := (isProper_of_request? isRequest).params
  split at cancels
  · obtain ⟨cancellation, decoded, rfl⟩ := Option.map_eq_some_iff.mp cancels
    exact (Cancellation.decode_proper proper).toOption decoded
  · cases cancels

namespace Serving

theorem Numbered.id_eq {serving : Serving} (numbered : Numbered serving) {call : RunningCall}
    (among : call ∈ serving.server.running) (plain : call.id.IsPlain) {id : Json}
    (isPlain : id.IsPlain) (means : serving.server.named.lookup id.text = some call.ticket) :
    id = call.id := by
  obtain ⟨other, running, same, text⟩ := numbered.lookup means
  obtain rfl := List.inj_on_of_nodup_map numbered.running_tickets running among same
  exact ((plain.text_inj isPlain).mp text).symm

theorem Numbered.takeLine_running {serving : Serving} (numbered : Numbered serving)
    {call : RunningCall} (among : call ∈ serving.server.running) (plain : call.id.IsPlain)
    {line : List Char} {id : Json} (isPlain : id.IsPlain) (cancels : cancelledId? line = some id) :
    ∃ cancelled, { call with cancelled } ∈ (serving.takeLine line).server.running ∧
      (cancelled = true ↔ call.cancelled = true ∨
        id = call.id ∧ serving.server.named.lookup id.text = some call.ticket) := by
  have key : cancelledKey? line = some id.text := by
    rw [cancelledKey?_eq, cancels]
    rfl
  obtain ⟨cancelled, running, taken⟩ :=
    @running_step serving call among (.line line) fun result => nofun
  refine ⟨cancelled, running, taken.trans (or_congr_right ?_)⟩
  constructor
  · rintro ⟨_, _, ⟨⟩, cancels', means⟩
    obtain rfl := Option.some.inj (cancels'.symm.trans key)
    exact ⟨numbered.id_eq among plain isPlain means, means⟩
  · rintro ⟨-, means⟩
    exact ⟨line, _, rfl, key, means⟩

theorem Numbered.not_takesBack_of_others {serving : Serving} (numbered : Numbered serving)
    {call : RunningCall} (among : call ∈ serving.server.running) (plain : call.id.IsPlain)
    {events : List Event}
    (others : ∀ line, .line line ∈ events → ∀ id, cancelledId? line = some id →
      id.IsPlain ∧ id ≠ call.id) : ¬ serving.TakesBack call.ticket events := by
  intro takes
  obtain ⟨line, inside, cancels⟩ := takes.exists_line numbered among
  rw [cancelledKey?_eq, Option.map_eq_some_iff] at cancels
  obtain ⟨id, named, text⟩ := cancels
  obtain ⟨isPlain, other⟩ := others line inside id named
  exact other ((isPlain.text_inj plain).mp text)

theorem isProper_step {serving : Serving}
    (proper : ∀ call ∈ serving.server.running, call.id.IsProper) (event : Event) :
    ∀ call ∈ (serving.step event).server.running, call.id.IsProper := by
  intro call among
  rcases origin_of_running among with ⟨old, running, -, same⟩ | ⟨-, line, -, calls⟩
  · exact same ▸ proper old running
  · exact isProper_of_callId? calls

theorem isProper_runFrom {serving : Serving}
    (proper : ∀ call ∈ serving.server.running, call.id.IsProper) (events : List Event) :
    ∀ call ∈ (serving.runFrom events).server.running, call.id.IsProper := by
  induction events generalizing serving with
  | nil => exact proper
  | cons event events ih => exact ih (isProper_step proper event)

/-- Identifiers without doubles are the same value when they have the same text. So at every moment
    of every run, a call goes by no identifier but its own, a line that takes an identifier back
    takes back no call of another one, and a call is left to its answer by all lines that take
    others back. -/
theorem identifiers_apart :
    (∀ first second : Json, first.IsPlain → second.IsPlain →
      (first.text = second.text ↔ first = second)) ∧
    ∀ catalogue events, ∀ call ∈ (run catalogue events).server.running, ¬ call.id.HoldsDouble →
      (∀ id : Json, id.IsPlain →
        (run catalogue events).server.named.lookup id.text = some call.ticket → id = call.id) ∧
      (∀ line id, cancelledId? line = some id → ¬ id.HoldsDouble →
        ∃ cancelled,
          { call with cancelled } ∈ ((run catalogue events).takeLine line).server.running ∧
          (cancelled = true ↔ call.cancelled = true ∨ id = call.id ∧
            (run catalogue events).server.named.lookup id.text = some call.ticket)) ∧
      ∀ later, (∀ line, .line line ∈ later → ∀ id, cancelledId? line = some id →
          ¬ id.HoldsDouble ∧ id ≠ call.id) →
        Fate later ((run catalogue events).runFrom later) call
          (answersTo call.ticket ((run catalogue events).log later)) := by
  refine ⟨fun first second isFirst isSecond => isFirst.text_inj isSecond, ?_⟩
  intro catalogue events call among free
  have numbered := numbered_run catalogue events
  have proper : call.id.IsProper :=
    @isProper_runFrom (start catalogue) nofun events call among
  have plain := proper.isPlain free
  refine ⟨fun id isPlain => ?_, fun line id cancels noDouble => ?_, fun later others => ?_⟩
  · exact numbered.id_eq among plain isPlain
  · have isPlain := (isProper_of_cancelledId? cancels).isPlain noDouble
    exact numbered.takeLine_running among plain isPlain cancels
  · have free := numbered.not_takesBack_of_others among plain fun line inside id cancels =>
      ⟨(isProper_of_cancelledId? cancels).isPlain (others line inside id cancels).1,
        (others line inside id cancels).2⟩
    obtain ⟨cancelled, taken, fate⟩ := numbered.exists_fate among later
    have same : cancelled = call.cancelled := by
      rw [Bool.eq_iff_iff, taken, or_iff_left free]
    rwa [same] at fate

def isNumberAndText : List RunningCall → Bool
  | [⟨0, .int 1, false⟩, ⟨1, .string text, false⟩] => text == "1"
  | _ => false

theorem eq_of_isNumberAndText {calls : List RunningCall} (isIt : isNumberAndText calls = true) :
    calls = [⟨0, .int 1, false⟩, ⟨1, .string "1", false⟩] := by
  unfold isNumberAndText at isIt
  split at isIt
  · rw [beq_iff_eq] at isIt
    subst isIt
    rfl
  · cases isIt

def isNumberOne : Option Json → Bool
  | some (.int 1) => true
  | _ => false

theorem eq_of_isNumberOne {id : Option Json} (isIt : isNumberOne id = true) :
    id = some (.int 1) := by
  unfold isNumberOne at isIt
  split at isIt
  · rfl
  · cases isIt

theorem identifiers_apart_overlap :
    (Json.int 1).text ≠ (Json.string "1").text ∧
      (Json.string "\n").text ≠ (Json.string "\\n").text ∧
      (∃ line, .line line ∈ overlap.drop 2 ∧ ⟨0, .int 1, true⟩ ∈
        ((run ⟨[], .builtIn, []⟩ (overlap.take 2)).takeLine line).server.running) ∧
      Fate (overlap.drop 2)
        ((run ⟨[], .builtIn, []⟩ (overlap.take 2)).runFrom (overlap.drop 2))
        ⟨1, .string "1", false⟩
        (answersTo 1 ((run ⟨[], .builtIn, []⟩ (overlap.take 2)).log (overlap.drop 2))) := by
  obtain ⟨apart, whole⟩ := identifiers_apart
  have running : (run ⟨[], .builtIn, []⟩ (overlap.take 2)).server.running =
      [⟨0, .int 1, false⟩, ⟨1, .string "1", false⟩] :=
    eq_of_isNumberAndText (by decide +kernel)
  have cancels : cancelledId? (requestLine "notifications/cancelled"
      "\"params\":\x7b\"requestId\":1\x7d") = some (.int 1) :=
    eq_of_isNumberOne (by decide +kernel)
  have inside : .line (requestLine "notifications/cancelled"
      "\"params\":\x7b\"requestId\":1\x7d") ∈ overlap.drop 2 :=
    List.mem_cons_of_mem _ (List.mem_cons_of_mem _ List.mem_cons_self)
  refine ⟨?numberAndText, ?lineEnd, ⟨_, inside, ?taken⟩, ?left⟩
  case numberAndText =>
    intro same
    cases (apart _ _ ⟨0, .int rfl⟩ ⟨0, .string _⟩).mp same
  case lineEnd =>
    intro same
    have text := Json.string.inj ((apart _ _ ⟨0, .string _⟩ ⟨0, .string _⟩).mp same)
    exact absurd text (by decide)
  case taken =>
    have means : (run ⟨[], .builtIn, []⟩ (overlap.take 2)).server.named.lookup (Json.int 1).text =
        some 0 := by
      decide +kernel
    have free : ¬ (Json.int 1).HoldsDouble := nofun
    obtain ⟨cancelled, among, taken⟩ := (whole ⟨[], .builtIn, []⟩ (overlap.take 2)
      ⟨0, .int 1, false⟩ (by rw [running]; exact List.mem_cons_self) free).2.1 _ _ cancels free
    obtain rfl : cancelled = true := taken.mpr (.inr ⟨rfl, means⟩)
    exact among
  case left =>
    have free : ¬ (Json.string "1").HoldsDouble := nofun
    refine (whole ⟨[], .builtIn, []⟩ (overlap.take 2) ⟨1, .string "1", false⟩
      (by rw [running]; exact List.mem_cons_of_mem _ List.mem_cons_self) free).2.2 _
        fun line among id isId => ?_
    simp only [overlap, List.drop_succ_cons, List.drop_zero, List.mem_cons, Event.line.injEq,
      reduceCtorEq, List.not_mem_nil, false_or, or_false] at among
    rcases among with rfl | rfl
    · have none : (cancelledId? (requestLine "ping" "\"id\":3")).isNone := by decide +kernel
      rw [isId] at none
      cases none
    · obtain rfl := Option.some.inj (isId.symm.trans cancels)
      exact ⟨nofun, nofun⟩

end Serving

end Agent

end CodeGateway
