import CodeGateway.Proofs.RecordMembers

namespace CodeGateway.Decode

open Json

attribute [simp] lookup_cons lookup_append lookup_memberIf

@[simp] theorem string_string (s : String) : string (.string s) = .ok s := rfl

@[simp] theorem bool_bool (b : Bool) : bool (.bool b) = .ok b := rfl

@[simp] theorem float_float (x : Float) : float (.float x) = .ok x := rfl

theorem natBelow_ofNat {bound n : Nat} (below : n < bound) (expected : String) :
    natBelow bound expected (.int n) = .ok n := by
  have inRange : 0 ≤ (n : Int) ∧ (n : Int) < bound := by omega
  simp [natBelow, inRange]

@[simp] theorem uint32_ofUInt32 (n : UInt32) : uint32 (.ofUInt32 n) = .ok n := by
  unfold uint32 ofUInt32
  rw [natBelow_ofNat n.toNat_lt]
  simp [Except.map]

@[simp] theorem uint64_ofUInt64 (n : UInt64) : uint64 (.ofUInt64 n) = .ok n := by
  unfold uint64 ofUInt64
  rw [natBelow_ofNat n.toNat_lt]
  simp [Except.map]

section Items

variable {α : Type} {item : Json → Except Error α} {encode : α → Json}

theorem list_ofList_of_mem {all : List α} (law : ∀ a ∈ all, item (encode a) = .ok a) :
    list item (ofList encode all) = .ok all := by
  unfold list ofList
  dsimp only
  induction all with
  | nil => rfl
  | cons a rest ih =>
    have first := law a (by simp)
    have others := ih fun b among => law b (List.mem_cons_of_mem a among)
    simp [items, first, others, Except.map]

@[simp] theorem list_ofList (law : ∀ a, item (encode a) = .ok a) (all : List α) :
    list item (ofList encode all) = .ok all :=
  list_ofList_of_mem fun a _ => law a

def ifGiven (name : String) (item : Json → Except Error α) (given : Option Json) :
    Except Failure (Option α) :=
  match given with
  | some json => (option item json).mapError fun error => ⟨some (name, error), none⟩
  | none => .ok none

@[simp] theorem ifGiven_none (name : String) : ifGiven name item none = .ok none := (rfl)

@[simp] theorem ifGiven_null (name : String) : ifGiven name item (some .null) = .ok none := (rfl)

theorem ifGiven_map (law : ∀ a, item (encode a) = .ok a) (notNull : ∀ a, encode a ≠ .null)
    (name : String) (given : Option α) : ifGiven name item (given.map encode) = .ok given := by
  cases given with
  | none => rfl
  | some a =>
    have read : option item (encode a) = .ok (some a) :=
      option_eq_ok_iff.mpr (.inr ⟨notNull a, a, law a, rfl⟩)
    simp [ifGiven, read]

variable {name : String} {members : List (String × Json)}

@[simp] theorem ofObject_required : (required name item).ofObject members =
    match lookup name members with
    | some json => (item json).mapError fun error => ⟨some (name, error), none⟩
    | none => .error ⟨none, some name⟩ := by
  unfold Member.ofObject required
  dsimp only
  cases lookup name members with
  | none => rfl
  | some json => cases read : item json <;> simp [read]

@[simp] theorem ofObject_defaulted {default : α} : (defaulted name item default).ofObject members =
    match lookup name members with
    | some json => (item json).mapError fun error => ⟨some (name, error), none⟩
    | none => .ok default := by
  unfold Member.ofObject defaulted
  dsimp only
  cases lookup name members with
  | none => rfl
  | some json => cases read : item json <;> simp [read]

@[simp] theorem ofObject_omissible : (omissible name item).ofObject members =
    ifGiven name item (lookup name members) :=
  ofObject_defaulted

@[simp] theorem ofObject_optional : (optional name item).ofObject members =
    ifGiven name item (lookup name members) :=
  ofObject_defaulted

end Items

-- These equations hold by computation. The brackets make `simp` rewrite with them all the same;
-- left to the kernel, the computation would run into the bounds of the numbers.

@[simp] theorem Record.ofObject_of {α : Type} (a : α) (members : List (String × Json)) :
    (Record.of a).ofObject members = .ok a := rfl

@[simp] theorem Record.ofObject_take_eq {α β : Type} (record : Record (α → β)) (member : Member α)
    (members : List (String × Json)) : (record.take member).ofObject members =
      match record.ofObject members, member.ofObject members with
      | .ok f, .ok a => .ok (f a)
      | .error first, .error second => .error (first.merge second)
      | .error failure, .ok _ => .error failure
      | .ok _, .error failure => .error failure :=
  (rfl)

@[simp] theorem Record.decode_object {α : Type} (label : String) (record : Record α)
    (members : List (String × Json)) :
    record.decode label (.object members) = (record.ofObject members).mapError Failure.error :=
  (rfl)

end CodeGateway.Decode
