import CodeGateway.Decode.Record
import CodeGateway.Reply.Location
import Mathlib.Data.List.Forall2

namespace CodeGateway

namespace Json

@[simp] theorem lookup_nil (key : String) : lookup key [] = none := rfl

theorem lookup_cons (key other : String) (value : Json) (rest : List (String × Json)) :
    lookup key ((other, value) :: rest) = if other = key then some value else lookup key rest :=
  (rfl)

theorem lookup_append (key : String) (members others : List (String × Json)) :
    lookup key (members ++ others) = (lookup key members).or (lookup key others) := by
  induction members with
  | nil => rfl
  | cons member rest ih =>
    obtain ⟨other, value⟩ := member
    rw [List.cons_append, lookup_cons, lookup_cons, ih]
    split <;> simp

theorem lookup_memberIf {α : Type} (key other : String) (encode : α → Json) (given : Option α) :
    lookup key (memberIf other encode given) = if other = key then given.map encode else none := by
  cases given with
  | none => simp [memberIf]
  | some a => simp [memberIf, lookup_cons]

theorem lookup_eq_none_iff {key : String} {members : List (String × Json)} :
    lookup key members = none ↔ ∀ member ∈ members, member.1 ≠ key := by
  induction members with
  | nil => simp
  | cons member rest ih =>
    obtain ⟨other, value⟩ := member
    rw [lookup_cons, List.forall_mem_cons, ← ih]
    split <;> simp_all

theorem mem_of_lookup {key : String} {value : Json} {members : List (String × Json)}
    (found : lookup key members = some value) : (key, value) ∈ members := by
  induction members with
  | nil => cases found
  | cons first rest ih =>
    obtain ⟨name, held⟩ := first
    rw [lookup_cons] at found
    split at found
    · rename_i same
      obtain rfl := Option.some.inj found
      exact same ▸ List.mem_cons_self
    · exact List.mem_cons_of_mem _ (ih found)

theorem lookup_filter_self (key : String) (members : List (String × Json)) :
    lookup key (members.filter fun member => member.1 != key) = none := by
  rw [lookup_eq_none_iff]
  intro member among
  simpa using (List.mem_filter.mp among).2

/-- The members that a record is read from, when its members have these names in this order: those
    of an object, or the items of an array that is neither too short nor too long. -/
def membersOf (names : List String) (least : Nat) : Json → Option (List (String × Json))
  | .object members => some members
  | .array items =>
    if least ≤ items.length ∧ items.length ≤ names.length then some (names.zip items) else none
  | _ => none

end Json

namespace Decode

open Json

theorem Member.ofObject_eq_ok_iff {α : Type} {member : Member α}
    {members : List (String × Json)} {a : α} :
    member.ofObject members = .ok a ↔
      match lookup member.name members with
      | some json => member.decode json = .ok a
      | none => member.ifAbsent = some a := by
  unfold Member.ofObject
  cases lookup member.name members with
  | some json =>
    dsimp only
    cases member.decode json <;> simp
  | none =>
    dsimp only
    cases member.ifAbsent <;> simp

theorem required_eq_ok_iff {α : Type} {name : String} {decode : Json → Except Error α}
    {members : List (String × Json)} {a : α} :
    (required name decode).ofObject members = .ok a ↔
      ∃ json, lookup name members = some json ∧ decode json = .ok a := by
  rw [Member.ofObject_eq_ok_iff]
  unfold required
  dsimp only
  cases lookup name members <;> simp

theorem option_eq_ok_iff {α : Type} {item : Json → Except Error α} {json : Json} {a : Option α} :
    option item json = .ok a ↔
      (json = .null ∧ a = none) ∨ (json ≠ .null ∧ ∃ b, item json = .ok b ∧ a = some b) := by
  cases json with
  | null => simp [option, eq_comm]
  | _ =>
    simp only [option, reduceCtorEq, false_and, ne_eq, not_false_eq_true, true_and, false_or]
    cases item _ <;> simp [Except.map, eq_comm]

theorem optional_eq_ok_iff {α : Type} {name : String} {item : Json → Except Error α}
    {members : List (String × Json)} {a : Option α} :
    (optional name item).ofObject members = .ok a ↔
      ((lookup name members = none ∨ lookup name members = some .null) ∧ a = none) ∨
      ∃ json, lookup name members = some json ∧ json ≠ .null ∧
        ∃ b, item json = .ok b ∧ a = some b := by
  rw [Member.ofObject_eq_ok_iff]
  unfold optional
  dsimp only
  cases lookup name members with
  | none => simp [eq_comm]
  | some json =>
    dsimp only
    rw [option_eq_ok_iff]
    simp

theorem exists_optional {α : Type} {name : String} {item : Json → Except Error α}
    {members : List (String × Json)}
    (readable : ∀ json, lookup name members = some json → json ≠ .null →
      ∃ a, item json = .ok a) : ∃ a, (optional name item).ofObject members = .ok a := by
  simp only [optional_eq_ok_iff]
  cases given : lookup name members with
  | none => exact ⟨none, .inl ⟨.inl rfl, rfl⟩⟩
  | some json =>
    by_cases null : json = .null
    · subst null
      exact ⟨none, .inl ⟨.inr rfl, rfl⟩⟩
    · obtain ⟨a, read⟩ := readable json given null
      exact ⟨some a, .inr ⟨json, rfl, null, a, read, rfl⟩⟩

theorem Record.ofObject_take {α β : Type} {record : Record (α → β)} {member : Member α}
    {members : List (String × Json)} {b : β} :
    (record.take member).ofObject members = .ok b ↔
      ∃ f a, record.ofObject members = .ok f ∧ member.ofObject members = .ok a ∧ f a = b := by
  unfold Record.take
  dsimp only
  cases record.ofObject members <;> cases member.ofObject members <;> simp

theorem Record.exists_ofObject_take {α β : Type} {record : Record (α → β)} {member : Member α}
    {members : List (String × Json)} {P : β → Prop} :
    (∃ b, (record.take member).ofObject members = .ok b ∧ P b) ↔
      ∃ f, record.ofObject members = .ok f ∧ ∃ a, member.ofObject members = .ok a ∧ P (f a) := by
  simp only [Record.ofObject_take]
  constructor
  · rintro ⟨_, ⟨f, a, others, last, rfl⟩, holds⟩
    exact ⟨f, others, a, last, holds⟩
  · rintro ⟨f, others, a, last, holds⟩
    exact ⟨f a, ⟨f, a, others, last, rfl⟩, holds⟩

theorem Record.exists_ofObject_of {α : Type} {a : α} {members : List (String × Json)}
    {P : α → Prop} : (∃ b, (Record.of a).ofObject members = .ok b ∧ P b) ↔ P a := by
  simp [Record.of]

/-- The record has members of these names, and is read from an array of at least so many items as it
    is from the object that gives the items these names. -/
structure Record.Named {α : Type} (record : Record α) (names : List String) (least : Nat) :
    Prop where
  enough : least ≤ names.length
  size : record.size = names.length
  congr : ∀ {members others}, (∀ name ∈ names, lookup name members = lookup name others) →
    record.ofObject members = record.ofObject others
  ofArray : ∀ {items a rest}, record.ofArray items = .ok (a, rest) ↔
    least ≤ items.length ∧ rest = items.drop names.length ∧
      record.ofObject (names.zip items) = .ok a

theorem Member.congr {α : Type} (member : Member α) {members others : List (String × Json)}
    (alike : lookup member.name members = lookup member.name others) :
    member.ofObject members = member.ofObject others := by
  unfold Member.ofObject
  rw [alike]

theorem Record.Named.of {α : Type} (a : α) : (Record.of a).Named [] 0 where
  enough := Nat.le_refl 0
  size := rfl
  congr _ := rfl
  ofArray {items b rest} := by simp [Record.of, eq_comm, and_comm]

theorem lookup_zip_of_not_mem {name : String} {names : List String} (fresh : name ∉ names)
    (items : List Json) : lookup name (names.zip items) = none := by
  rw [lookup_eq_none_iff]
  rintro ⟨other, item⟩ among rfl
  exact fresh (List.of_mem_zip among).1

section Take

variable {α β : Type} {record : Record (α → β)} {names : List String} {least : Nat}
  {member : Member α}

theorem Record.Named.congr_take (named : record.Named names least)
    {members others : List (String × Json)}
    (alike : ∀ name ∈ names ++ [member.name], lookup name members = lookup name others) :
    (record.take member).ofObject members = (record.take member).ofObject others := by
  have before := named.congr fun name among => alike name (List.mem_append_left _ among)
  have last := member.congr (alike member.name (by simp))
  unfold Record.take
  dsimp only
  rw [before, last]

theorem Record.Named.ofArray_take_short (named : record.Named names least)
    {items : List Json} (short : items.drop names.length = [])
    {b : β} {rest : List Json} :
    (record.take member).ofArray items = .ok (b, rest) ↔
      least ≤ items.length ∧ rest = [] ∧ ∃ f a, record.ofObject (names.zip items) = .ok f ∧
        member.ifShort = some a ∧ f a = b := by
  unfold Record.take
  dsimp only
  cases read : record.ofArray items with
  | error failure =>
    have unread {f} : ¬ (least ≤ items.length ∧ record.ofObject (names.zip items) = .ok f) := by
      rintro ⟨enough, given⟩
      have := named.ofArray.mpr ⟨enough, rfl, given⟩
      rw [read] at this
      cases this
    simp only [reduceCtorEq, false_iff]
    rintro ⟨enough, -, f, a, given, -⟩
    exact unread ⟨enough, given⟩
  | ok pair =>
    obtain ⟨f, left⟩ := pair
    obtain ⟨enough, rfl, given⟩ := named.ofArray.mp read
    rw [short]
    unfold Member.ofArray
    cases member.ifShort <;> simp [enough, given, eq_comm, and_comm]

theorem Record.Named.ofArray_take_long (named : record.Named names least)
    {items back : List Json} {item : Json} (long : items.drop names.length = item :: back)
    {b : β} {rest : List Json} :
    (record.take member).ofArray items = .ok (b, rest) ↔
      rest = back ∧ ∃ f a, record.ofObject (names.zip items) = .ok f ∧
        member.decode item = .ok a ∧ f a = b := by
  have enough : least ≤ items.length := by
    have := congrArg List.length long
    rw [List.length_drop, List.length_cons] at this
    have := named.enough
    omega
  unfold Record.take
  dsimp only
  cases read : record.ofArray items with
  | error failure =>
    simp only [reduceCtorEq, false_iff]
    rintro ⟨-, f, a, given, -⟩
    have := named.ofArray.mpr ⟨enough, rfl, given⟩
    rw [read] at this
    cases this
  | ok pair =>
    obtain ⟨f, left⟩ := pair
    obtain ⟨-, rfl, given⟩ := named.ofArray.mp read
    rw [long]
    unfold Member.ofArray
    dsimp only
    cases member.decode item <;> simp [given, eq_comm, and_comm]

theorem zip_snoc_of_short {name : String} {items : List Json}
    (short : items.drop names.length = []) : (names ++ [name]).zip items = names.zip items := by
  induction names generalizing items with
  | nil =>
    obtain rfl : items = [] := short
    rfl
  | cons first names ih =>
    cases items with
    | nil => rfl
    | cons item items => rw [List.cons_append, List.zip_cons_cons, List.zip_cons_cons, ih short]

theorem zip_snoc_of_long {name : String} {items back : List Json} {item : Json}
    (long : items.drop names.length = item :: back) :
    (names ++ [name]).zip items = names.zip items ++ [(name, item)] := by
  induction names generalizing items with
  | nil =>
    obtain rfl : items = item :: back := long
    rfl
  | cons first names ih =>
    cases items with
    | nil => cases long
    | cons item items =>
      rw [List.cons_append, List.zip_cons_cons, List.zip_cons_cons, ih long, List.cons_append]

theorem Record.Named.take (named : record.Named names least) (fresh : member.name ∉ names)
    {enough : Nat}
    (short : member.ifShort = none ∧ enough = names.length + 1 ∨
      member.ifShort = member.ifAbsent ∧ enough = least) :
    (record.take member).Named (names ++ [member.name]) enough where
  enough := by
    have := named.enough
    rw [List.length_append, List.length_singleton]
    rcases short with ⟨-, rfl⟩ | ⟨-, rfl⟩ <;> omega
  size := by
    rw [List.length_append, List.length_singleton, ← named.size]
    rfl
  congr alike := named.congr_take alike
  ofArray {items b rest} := by
    rw [Record.ofObject_take, List.length_append, List.length_singleton, ← List.drop_drop]
    cases left : items.drop names.length with
    | nil =>
      have bound := List.drop_eq_nil_iff.mp left
      rw [named.ofArray_take_short left, zip_snoc_of_short left]
      simp only [Member.ofObject_eq_ok_iff, lookup_zip_of_not_mem fresh, List.drop_nil]
      rcases short with ⟨none, rfl⟩ | ⟨same, rfl⟩
      · simp only [none, reduceCtorEq, false_and, and_false, exists_false, false_iff]
        omega
      · rw [same]
    | cons item back =>
      have long := congrArg List.length left
      rw [List.length_drop, List.length_cons] at long
      have enough : enough ≤ items.length := by
        have := named.enough
        rcases short with ⟨-, rfl⟩ | ⟨-, rfl⟩ <;> omega
      have others : record.ofObject (names.zip items ++ [(member.name, item)]) =
          record.ofObject (names.zip items) := by
        apply named.congr
        intro name among
        have other : member.name ≠ name := fun same => fresh (same ▸ among)
        simp [lookup_append, lookup_cons, other]
      rw [named.ofArray_take_long left, zip_snoc_of_long left, others]
      simp [Member.ofObject_eq_ok_iff, lookup_append, lookup_cons, lookup_zip_of_not_mem fresh,
        enough]

theorem Record.Named.takeNeeded (named : record.Named names least) (member : Member α)
    (fresh : member.name ∉ names) (needed : member.ifShort = none) :
    (record.take member).Named (names ++ [member.name]) (names.length + 1) :=
  named.take fresh (.inl ⟨needed, rfl⟩)

theorem Record.Named.takeDefaulted (named : record.Named names least) (member : Member α)
    (fresh : member.name ∉ names) (same : member.ifShort = member.ifAbsent) :
    (record.take member).Named (names ++ [member.name]) least :=
  named.take fresh (.inr ⟨same, rfl⟩)

end Take

@[simp] theorem mapError_ok {ε δ α : Type} (f : ε → δ) (a : α) :
    (Except.ok a).mapError f = .ok a :=
  (rfl)

@[simp] theorem mapError_error {ε δ α : Type} (f : ε → δ) (e : ε) :
    (Except.error e : Except ε α).mapError f = .error (f e) :=
  (rfl)

theorem map_eq_ok_iff {ε α β : Type} {f : α → β} {given : Except ε α} {b : β} :
    given.map f = .ok b ↔ ∃ a, given = .ok a ∧ f a = b := by
  cases given <;> simp [Except.map]

theorem bind_eq_ok_iff {ε α β : Type} {first : Except ε α} {next : α → Except ε β} {b : β} :
    (first >>= next) = .ok b ↔ ∃ a, first = .ok a ∧ next a = .ok b := by
  cases first <;> simp [bind, Except.bind]

theorem Record.Named.decode_eq_ok_iff {α : Type} {record : Record α} {names : List String}
    {least : Nat} (named : record.Named names least) {label : String} {json : Json} {a : α} :
    record.decode label json = .ok a ↔
      ∃ members, json.membersOf names least = some members ∧ record.ofObject members = .ok a := by
  cases json with
  | object members =>
    cases given : record.ofObject members <;>
      simp [Record.decode, membersOf, given]
  | array items =>
    have bound : items.drop names.length = [] ↔ items.length ≤ names.length :=
      List.drop_eq_nil_iff
    simp only [Record.decode, membersOf, Option.ite_none_right_eq_some, Option.some.injEq]
    cases read : record.ofArray items with
    | error failure =>
      have unread : ¬ (least ≤ items.length ∧ record.ofObject (names.zip items) = .ok a) := by
        rintro ⟨enough, given⟩
        have := named.ofArray.mpr ⟨enough, rfl, given⟩
        rw [read] at this
        cases this
      cases failure <;> grind
    | ok pair =>
      obtain ⟨b, rest⟩ := pair
      obtain ⟨enough, left, given⟩ := named.ofArray.mp read
      cases rest <;> grind
  | _ => simp [Record.decode, membersOf]

/-- The record has members of these names, in this order, and this holds of the members of an object
    and of what is read of them. -/
structure Record.Makes {α : Type} (record : Record α) (names : List String)
    (P : List (String × Json) → α → Prop) : Prop where
  named : names.Nodup → ∃ least, record.Named names least
  holds : ∀ {members a}, record.ofObject members = .ok a → P members a

theorem Record.Makes.of {α : Type} {a : α} {P : List (String × Json) → α → Prop}
    (holds : ∀ members, P members a) : (Record.of a).Makes [] P where
  named _ := ⟨0, .of a⟩
  holds read := Except.ok.inj read ▸ holds _

theorem Record.Makes.take {α β : Type} {record : Record (α → β)} {names : List String}
    {member : Member α} {P : List (String × Json) → β → Prop}
    (before : record.Makes names fun members f =>
      ∀ a, member.ofObject members = .ok a → P members (f a)) :
    (record.take member).Makes (names ++ [member.name]) P where
  named distinct := by
    obtain ⟨others, -, apart⟩ := List.nodup_append.mp distinct
    obtain ⟨least, named⟩ := before.named others
    have fresh := fun among => apart _ among _ (List.mem_singleton_self _) rfl
    rcases member.short with needed | same
    · exact ⟨_, named.takeNeeded member fresh needed⟩
    · exact ⟨_, named.takeDefaulted member fresh same⟩
  holds {members b} read := by
    obtain ⟨f, a, others, last, rfl⟩ := Record.ofObject_take.mp read
    exact before.holds others a last

theorem items_eq_ok_iff {α : Type} {item : Json → Except Error α} {jsons : List Json}
    {as : List α} :
    items item jsons = .ok as ↔ List.Forall₂ (fun json a => item json = .ok a) jsons as := by
  induction jsons generalizing as with
  | nil => simp [items, eq_comm]
  | cons json rest ih =>
    rw [List.forall₂_cons_left_iff, items]
    cases item json with
    | error error => simp
    | ok a =>
      simp only [Except.ok.injEq, exists_and_left, exists_eq_left', map_eq_ok_iff, ih]
      simp only [eq_comm]

theorem exists_of_mem_list {α : Type} {item : Json → Except Error α} {json : Json} {as : List α}
    (read : list item json = .ok as) {a : α} (among : a ∈ as) : ∃ given, item given = .ok a := by
  cases json with
  | array jsons =>
    have pairs := items_eq_ok_iff.mp read
    clear read
    induction pairs with
    | nil => cases among
    | cons first _ ih =>
      rcases List.mem_cons.mp among with rfl | among
      · exact ⟨_, first⟩
      · exact ih among
  | _ => cases read

theorem exists_list_of_forall₂ {α β : Type} {item : Json → Except Error α} {f : α → β}
    {R : Json → β → Prop} {jsons : List Json} {bs : List β} (all : List.Forall₂ R jsons bs)
    (each : ∀ {json b}, R json b → ∃ a, item json = .ok a ∧ f a = b) :
    ∃ as, list item (.array jsons) = .ok as ∧ as.map f = bs := by
  have read : ∃ as, List.Forall₂ (fun json a => item json = .ok a) jsons as ∧ as.map f = bs := by
    induction all with
    | nil => exact ⟨[], .nil, rfl⟩
    | cons holds _ ih =>
      obtain ⟨a, first, rfl⟩ := each holds
      obtain ⟨rest, others, rfl⟩ := ih
      exact ⟨a :: rest, .cons first others, rfl⟩
  obtain ⟨as, read, same⟩ := read
  exact ⟨as, items_eq_ok_iff.mpr read, same⟩

end Decode

end CodeGateway
