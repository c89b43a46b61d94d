import CodeGateway.Proofs.PrintedJson
import CodeGateway.Proofs.RecordMembers
import CodeGateway.Agent.Server

namespace CodeGateway

def Yields {ε α : Type} (P : α → Prop) (result : Except ε α) : Prop :=
  ∀ a, result = .ok a → P a

section Yields

variable {ε α β : Type} {P : α → Prop} {Q : β → Prop}

theorem yields_ok {a : α} (holds : P a) : Yields P (.ok a : Except ε α) := by
  rintro _ ⟨⟩
  exact holds

theorem yields_error (error : ε) : Yields P (.error error) :=
  nofun

theorem Yields.bind {first : Except ε α} {next : α → Except ε β} (yields : Yields P first)
    (then' : ∀ a, P a → Yields Q (next a)) : Yields Q (first >>= next) := by
  intro b result
  obtain ⟨a, read, made⟩ := Decode.bind_eq_ok_iff.mp result
  exact then' a (yields a read) b made

theorem yields_bind {first : Except ε α} {next : α → Except ε β}
    (then' : ∀ a, Yields Q (next a)) : Yields Q (first >>= next) := by
  intro b result
  obtain ⟨a, -, made⟩ := Decode.bind_eq_ok_iff.mp result
  exact then' a b made

theorem Yields.map {given : Except ε α} {f : α → β} (yields : Yields P given)
    (image : ∀ a, P a → Q (f a)) : Yields Q (given.map f) := by
  intro b result
  obtain ⟨a, read, rfl⟩ := Decode.map_eq_ok_iff.mp result
  exact image a (yields a read)

theorem yields_map {given : Except ε α} {f : α → β} (image : ∀ a, Q (f a)) :
    Yields Q (given.map f) := by
  intro b result
  obtain ⟨a, -, rfl⟩ := Decode.map_eq_ok_iff.mp result
  exact image a

theorem Yields.toOption {result : Except ε α} (yields : Yields P result) {a : α}
    (given : result.toOption = some a) : P a := by
  cases result with
  | error error => cases given
  | ok b =>
    cases given
    exact yields a rfl

end Yields

namespace Json

theorem yields_faultAt {α : Type} {P : α → Prop} (cause : Cause) (rest : List UInt8) :
    Yields P (faultAt cause rest) :=
  yields_error _

theorem yields_faultAfter {α : Type} {P : α → Prop} (cause : Cause) (rest : List UInt8) :
    Yields P (faultAfter cause rest) :=
  yields_error _

/-- A value whose arrays and objects nest at most `depth` deep. Its integers fit in 64 bits, and the
    members of its objects rise by their keys. -/
inductive Proper : (depth : Nat) → Json → Prop
  | null {depth : Nat} : Proper depth .null
  | bool {depth : Nat} (b : Bool) : Proper depth (.bool b)
  | int {depth : Nat} {i : Int} (fits : isWord i = true) : Proper depth (.int i)
  | float {depth : Nat} (x : Float) : Proper depth (.float x)
  | string {depth : Nat} (s : String) : Proper depth (.string s)
  | array {depth : Nat} {items : List Json} (proper : ∀ item ∈ items, Proper depth item) :
    Proper (depth + 1) (.array items)
  | object {depth : Nat} {members : List (String × Json)}
      (rising : members.Pairwise fun first second => first.1 < second.1)
      (proper : ∀ member ∈ members, Proper depth member.2) : Proper (depth + 1) (.object members)

inductive HoldsDouble : Json → Prop
  | float (x : Float) : HoldsDouble (.float x)
  | array {items : List Json} {item : Json} (among : item ∈ items) (holds : HoldsDouble item) :
    HoldsDouble (.array items)
  | object {members : List (String × Json)} {member : String × Json} (among : member ∈ members)
    (holds : HoldsDouble member.2) : HoldsDouble (.object members)

theorem Proper.plain {depth : Nat} {value : Json} (proper : Proper depth value)
    (free : ¬ HoldsDouble value) : Plain depth value := by
  induction proper with
  | null => exact .null
  | bool b => exact .bool b
  | int fits => exact .int fits
  | float x => exact absurd (.float x) free
  | string s => exact .string s
  | array _ ih =>
    exact .array fun item among => ih item among fun holds => free (.array among holds)
  | object rising _ ih =>
    exact .object rising fun member among =>
      ih member among fun holds => free (.object among holds)

section Numbers

variable {depth : Nat} {negative : Bool} {number : Nat} {power : Int} {input : List UInt8}

theorem signedFloat_proper :
    Yields (fun read => Proper depth read.1) (signedFloat negative number power input) := by
  unfold signedFloat
  split
  · exact yields_ok (.float _)
  · exact yields_faultAt _ _

theorem exponent_proper :
    Yields (fun read => Proper depth read.1) (exponent negative number power input) := by
  unfold exponent
  split
  split
  · exact yields_faultAt _ _
  · split
    · exact yields_faultAt _ _
    · dsimp only
      split
      · split
        · exact signedFloat_proper
        · split
          · exact yields_faultAt _ _
          · exact yields_ok (.float _)
      · exact signedFloat_proper

theorem exponentOrEnd_proper :
    Yields (fun read => Proper depth read.1) (exponentOrEnd negative number power input) := by
  unfold exponentOrEnd
  split
  · split
    · exact exponent_proper
    · exact signedFloat_proper
  · exact signedFloat_proper

theorem decimals_proper :
    Yields (fun read => Proper depth read.1) (decimals negative number power input) := by
  unfold decimals
  dsimp only
  split
  · exact exponentOrEnd_proper
  · split
    · exact yields_faultAfter _ _
    · exact exponentOrEnd_proper

theorem afterLongInteger_proper :
    Yields (fun read => Proper depth read.1) (afterLongInteger negative number input) := by
  unfold afterLongInteger
  dsimp only
  split
  · exact decimals_proper
  · exact exponentOrEnd_proper

theorem afterInteger_proper (fits : number < 0x10000000000000000) :
    Yields (fun read => Proper depth read.1) (afterInteger negative number input) := by
  have whole : Proper depth (if !negative then .int number
      else if number == 0 || 0x8000000000000000 < number then
        .float (-(UInt64.ofNat number).toFloat)
      else .int (-number)) := by
    split
    · exact .int (by simp [isWord]; omega)
    · split
      · exact .float _
      · rename_i small
        refine .int ?_
        simp at small
        simp [isWord]
        omega
  unfold afterInteger
  dsimp only
  split
  · split
    · exact decimals_proper
    · split
      · exact exponent_proper
      · exact yields_ok whole
  · exact yields_ok whole

theorem digitsBelow_lt {bound count : Nat} (below : number < bound) :
    (digitsBelow bound input number count).1 < bound := by
  induction input generalizing number count with
  | nil => exact below
  | cons byte rest ih =>
    unfold digitsBelow
    split
    · split
      · rename_i next
        exact ih next
      · exact below
    · exact below

theorem number_proper :
    Yields (fun read => Proper depth read.1) (Json.number negative input) := by
  unfold Json.number
  split
  · exact yields_faultAt _ _
  · split
    · split
      · exact yields_faultAfter _ _
      · exact afterInteger_proper (by decide)
    · split
      · dsimp only
        split
        · exact afterLongInteger_proper
        · exact afterInteger_proper (digitsBelow_lt (by decide))
      · exact yields_faultAt _ _

end Numbers

theorem mem_of_mem_insertMember {key : String} {value : Json} {members : List (String × Json)}
    {member : String × Json} (among : member ∈ insertMember key value members) :
    member = (key, value) ∨ member ∈ members := by
  induction members with
  | nil => exact .inl (List.mem_singleton.mp among)
  | cons first rest ih =>
    obtain ⟨other, old⟩ := first
    unfold insertMember at among
    split at among
    · exact List.mem_cons.mp among
    · split at among
      · exact (List.mem_cons.mp among).imp_right (List.mem_cons_of_mem _)
      · rcases List.mem_cons.mp among with rfl | among
        · exact .inr List.mem_cons_self
        · exact (ih among).imp_right (List.mem_cons_of_mem _)

theorem rising_insertMember {key : String} {value : Json} {members : List (String × Json)}
    (rising : members.Pairwise fun first second => first.1 < second.1) :
    (insertMember key value members).Pairwise fun first second => first.1 < second.1 := by
  induction members with
  | nil => exact List.pairwise_singleton _ _
  | cons first rest ih =>
    obtain ⟨other, old⟩ := first
    obtain ⟨above, restRising⟩ := List.pairwise_cons.mp rising
    unfold insertMember
    split
    · rename_i before
      refine List.pairwise_cons.mpr ⟨fun member among => ?_, rising⟩
      rcases List.mem_cons.mp among with rfl | among
      · exact before
      · exact lt_trans before (above member among)
    · rename_i notBefore
      split
      · rename_i same
        subst same
        exact List.pairwise_cons.mpr ⟨above, restRising⟩
      · rename_i different
        refine List.pairwise_cons.mpr ⟨fun member among => ?_, ih restRising⟩
        rcases mem_of_mem_insertMember among with rfl | among
        · exact lt_of_le_of_ne (not_lt.mp notBefore) (Ne.symm different)
        · exact above member among

theorem ofMembers_proper {depth : Nat} {members : List (String × Json)}
    (proper : ∀ member ∈ members, Proper depth member.2) :
    Proper (depth + 1) (ofMembers members) := by
  have kept : ∀ sorted : List (String × Json),
      (sorted.Pairwise fun first second => first.1 < second.1) →
      (∀ member ∈ sorted, Proper depth member.2) →
      Proper (depth + 1)
        (.object (members.foldl (fun sorted member => insertMember member.1 member.2 sorted)
          sorted)) := by
    induction members with
    | nil => exact fun sorted rising each => .object rising each
    | cons first rest ih =>
      intro sorted rising each
      rw [List.foldl_cons]
      refine ih (fun member among => proper member (List.mem_cons_of_mem _ among)) _
        (rising_insertMember rising) fun member among => ?_
      rcases mem_of_mem_insertMember among with rfl | among
      · exact proper first List.mem_cons_self
      · exact each member among
  exact kept [] .nil nofun

section Readers

variable {P : Json → Prop} {item : List UInt8 → Reading Json}

theorem itemsWith_yields (each : ∀ input, Yields (fun read => P read.1) (item input))
    {fuel : Nat} {done : List Json} (before : ∀ value ∈ done, P value) (input : List UInt8) :
    Yields (fun read => ∀ value ∈ read.1, P value) (itemsWith item fuel done input) := by
  induction fuel generalizing done input with
  | zero => exact yields_faultAt _ _
  | succ fuel ih =>
    refine yields_bind fun ⟨more, input⟩ => ?_
    dsimp only
    split
    · refine (each input).bind fun ⟨value, input⟩ isValue => ?_
      exact ih (List.forall_mem_cons.mpr ⟨isValue, before⟩) input
    · exact yields_ok fun value among => before value (List.mem_reverse.mp among)

theorem membersWith_yields (each : ∀ input, Yields (fun read => P read.1) (item input))
    {fuel : Nat} {done : List (String × Json)} (before : ∀ member ∈ done, P member.2)
    (input : List UInt8) :
    Yields (fun read => ∀ member ∈ read.1, P member.2) (membersWith item fuel done input) := by
  induction fuel generalizing done input with
  | zero => exact yields_faultAt _ _
  | succ fuel ih =>
    refine yields_bind fun ⟨more, input⟩ => ?_
    dsimp only
    split
    · refine yields_bind fun ⟨key, input⟩ => yields_bind fun ⟨_, input⟩ => ?_
      refine (each input).bind fun ⟨value, input⟩ isValue => ?_
      exact ih (List.forall_mem_cons.mpr ⟨isValue, before⟩) input
    · exact yields_ok fun member among => before member (List.mem_reverse.mp among)

end Readers

theorem word_yields {P : Json → Prop} {value : Json} (holds : P value) (letters : List UInt8)
    (input : List UInt8) : Yields (fun read => P read.1) (word value letters input) := by
  induction letters generalizing input with
  | nil => exact yields_ok holds
  | cons letter letters ih =>
    cases input with
    | nil => exact yields_faultAt _ _
    | cons byte rest =>
      unfold word
      split
      · exact ih rest
      · exact yields_faultAt _ _

theorem scalar_proper (depth : Nat) (byte : UInt8) (rest : List UInt8) :
    Yields (fun read => Proper depth read.1) (scalar byte rest) := by
  unfold scalar
  split
  · exact word_yields .null _ _
  split
  · exact word_yields (.bool true) _ _
  split
  · exact word_yields (.bool false) _ _
  split
  · exact number_proper
  split
  · exact number_proper
  split
  · exact yields_map fun read => .string read.1
  · exact yields_faultAfter _ _

theorem value_proper (depth : Nat) (input : List UInt8) :
    Yields (fun read => Proper depth read.1) (value depth input) := by
  induction depth generalizing input with
  | zero =>
    unfold value
    split
    · exact yields_faultAfter _ _
    split
    · exact yields_faultAfter _ _
    split
    · exact yields_faultAfter _ _
    · exact scalar_proper 0 _ _
  | succ depth ih =>
    unfold value
    split
    · exact yields_faultAfter _ _
    split
    · exact (itemsWith_yields ih (List.forall_mem_nil _) _).map fun _ => .array
    split
    · exact (membersWith_yields ih (List.forall_mem_nil _) _).map fun _ => ofMembers_proper
    · exact scalar_proper (depth + 1) _ _

theorem yields_whole {α : Type} {P : α → Prop} {result : Reading α}
    (yields : Yields (fun read => P read.1) result) (bytes : List UInt8) :
    Yields P ((result.bind atEnd).mapError (·.locate bytes)) := by
  intro a whole
  cases result with
  | error fault => cases whole
  | ok read =>
    have isRead := yields read rfl
    simp only [Except.bind, atEnd] at whole
    split at whole
    · cases whole
      exact isRead
    · cases whole

def IsProper (value : Json) : Prop :=
  ∃ depth, Proper depth value

def IsPlain (value : Json) : Prop :=
  ∃ depth, Plain depth value

theorem IsProper.isPlain {value : Json} (proper : value.IsProper) (free : ¬ value.HoldsDouble) :
    value.IsPlain := by
  obtain ⟨depth, proper⟩ := proper
  exact ⟨depth, proper.plain free⟩

theorem IsProper.lookup {json : Json} (proper : json.IsProper) {names : List String} {least : Nat}
    {members : List (String × Json)} (has : json.membersOf names least = some members)
    {name : String} {value : Json} (found : Json.lookup name members = some value) :
    value.IsProper := by
  have among := mem_of_lookup found
  obtain ⟨depth, proper⟩ := proper
  cases proper with
  | object rising each =>
    cases has
    exact ⟨_, each _ among⟩
  | array each =>
    simp only [membersOf, Option.ite_none_right_eq_some, Option.some.injEq] at has
    obtain ⟨-, rfl⟩ := has
    exact ⟨_, each value (List.of_mem_zip among).2⟩
  | _ => cases has

end Json

namespace Agent

open Json

structure Request.IsProper (request : Request) : Prop where
  id : ∀ id, request.id = some id → id.IsProper
  params : request.params.IsProper

namespace Request

structure Draft.IsProper (draft : Draft) : Prop where
  id : ∀ id, draft.id = some (some id) → id.IsProper
  params : ∀ params, draft.params = some params → params.IsProper

theorem idValue_proper (input : List UInt8) :
    Yields (fun read => ∀ id, read.1 = some id → id.IsProper) (idValue input) := by
  refine (value_proper memberDepth input).map fun ⟨json, rest⟩ proper => ?_
  dsimp only at proper ⊢
  split
  · exact nofun
  · rintro _ ⟨⟩
    exact ⟨_, proper⟩

theorem Draft.read_proper {draft : Draft} (proper : draft.IsProper) (member : Member)
    (input : List UInt8) : Yields (fun read => read.1.IsProper) (draft.read member input) := by
  cases member with
  | version => exact yields_map fun _ => ⟨proper.id, proper.params⟩
  | method => exact yields_map fun _ => ⟨proper.id, proper.params⟩
  | id =>
    refine (idValue_proper input).map fun read isProper => ⟨fun id same => ?_, proper.params⟩
    exact isProper id (Option.some.inj same)
  | params =>
    refine (value_proper memberDepth input).map fun read isProper =>
      ⟨proper.id, fun params same => ?_⟩
    cases same
    exact ⟨_, isProper⟩

theorem draftOfMembers_proper {fuel : Nat} {first : Bool} {draft : Draft} (proper : draft.IsProper)
    (input : List UInt8) :
    Yields (fun read => read.1.IsProper) (draftOfMembers fuel first draft input) := by
  induction fuel generalizing first draft input with
  | zero => exact yields_faultAt _ _
  | succ fuel ih =>
    refine yields_bind fun ⟨more, input⟩ => ?_
    dsimp only
    split
    · refine yields_bind fun ⟨name, input⟩ => ?_
      dsimp only
      split
      · exact yields_bind fun ⟨_, input⟩ => yields_bind fun input => ih proper input
      · rename_i member _
        split
        · unfold faultInRecord
          split
          · split <;> exact yields_faultAt _ _
          · exact yields_faultAt _ _
        · refine yields_bind fun ⟨_, input⟩ => ?_
          exact (draft.read_proper proper member input).bind fun ⟨_, input⟩ proper =>
            ih proper input
    · exact yields_ok proper

theorem ofObject_proper (input : List UInt8) :
    Yields (fun read => read.1.IsProper) (ofObject input) := by
  have empty : Draft.IsProper ⟨none, none, none, none⟩ := ⟨nofun, nofun⟩
  refine (draftOfMembers_proper empty input).bind fun ⟨draft, input⟩ proper => ?_
  dsimp only at proper ⊢
  split
  · exact yields_faultAt _ _
  · exact yields_faultAt _ _
  · refine yields_ok ⟨fun id same => ?_, ?_⟩
    · cases given : draft.id with
      | none =>
        rw [given] at same
        cases same
      | some given' =>
        rw [given] at same
        exact proper.id id (given.trans (congrArg some same))
    · cases given : draft.params with
      | none => exact ⟨0, .null⟩
      | some params => exact proper.params params given

theorem requiredItem_yields {α : Type} {P : α × List UInt8 → Prop} {index : Nat}
    {read : List UInt8 → Reading α} (each : ∀ input, Yields P (read input)) (input : List UInt8) :
    Yields P (requiredItem index read input) := by
  refine yields_bind fun ⟨more, input⟩ => ?_
  dsimp only
  split
  · exact each input
  · exact yields_faultAt _ _

theorem ofItems_proper (input : List UInt8) :
    Yields (fun read => read.1.IsProper) (ofItems input) := by
  refine yields_bind fun ⟨_, input⟩ => ?_
  refine (requiredItem_yields idValue_proper input).bind fun ⟨id, input⟩ isProper => ?_
  refine yields_bind fun ⟨method, input⟩ => yields_bind fun ⟨more, input⟩ => ?_
  dsimp only at isProper ⊢
  split
  · refine (value_proper memberDepth input).bind fun ⟨params, input⟩ proper => ?_
    exact yields_bind fun input => yields_ok ⟨isProper, _, proper⟩
  · exact yields_ok ⟨isProper, 0, .null⟩

theorem wrongKind_yields {α : Type} {P : α → Prop} (expected : String) (byte : UInt8)
    (rest : List UInt8) : Yields P (wrongKind expected byte rest) := by
  unfold wrongKind
  split
  · exact yields_faultAt _ _
  split
  · exact yields_faultAt _ _
  split
  · exact yields_faultAt _ _
  · exact yields_error _

theorem read_proper (input : List UInt8) : Yields (fun read => read.1.IsProper) (read input) := by
  unfold read
  split
  · exact yields_faultAfter _ _
  split
  · exact ofItems_proper _
  split
  · exact ofObject_proper _
  · exact wrongKind_yields _ _ _

theorem parse_proper (bytes : List UInt8) : Yields IsProper (parse bytes) :=
  yields_whole (read_proper bytes) bytes

end Request

theorem Cancellation.decode_proper {params : Json} (proper : params.IsProper) :
    Yields (fun cancellation => cancellation.id.IsProper) (Cancellation.decode params) := by
  intro cancellation read
  have named := (Decode.Record.Named.of Cancellation.mk)
    |>.takeNeeded (Decode.required "requestId" anyJson) (by decide) rfl
    |>.takeDefaulted (Decode.omissible "reason" Decode.string) (by decide) rfl
  obtain ⟨members, has, made⟩ := named.decode_eq_ok_iff.mp read
  obtain ⟨withReason, reason, others, -, rfl⟩ := Decode.Record.ofObject_take.mp made
  obtain ⟨_, id, ⟨⟩, isId, rfl⟩ := Decode.Record.ofObject_take.mp others
  obtain ⟨json, found, ⟨⟩⟩ := Decode.required_eq_ok_iff.mp isId
  exact proper.lookup has found

end Agent

end CodeGateway
