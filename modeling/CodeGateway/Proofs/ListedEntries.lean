import Mathlib.Data.List.Forall2
import CodeGateway.Report.Basic

namespace CodeGateway

/-- One line for each item that is wanted, in the order of the items, and no other line. -/
inductive Report.Lists {α : Type} (Wanted : α → Prop) (Line : α → String → Prop) :
    List α → Report → Prop
  | nil : Lists Wanted Line [] []
  | keep {item : α} {line : String} {items : List α} {lines : Report} (wanted : Wanted item)
      (shown : Line item line) (rest : Lists Wanted Line items lines) :
    Lists Wanted Line (item :: items) (line :: lines)
  | skip {item : α} {items : List α} {lines : Report} (unwanted : ¬ Wanted item)
      (rest : Lists Wanted Line items lines) : Lists Wanted Line (item :: items) lines

section Lists

variable {α β : Type} {Wanted : α → Prop} {Line : α → String → Prop}

theorem Report.lists_of_forall₂ {R : α → β → Prop} {p : β → Bool} {line : β → String}
    {items : List α} {read : List β} (all : List.Forall₂ R items read)
    (wanted : ∀ {item b}, R item b → (Wanted item ↔ p b = true))
    (shown : ∀ {item b}, R item b → p b = true → Line item (line b)) :
    Lists Wanted Line items ((read.filter p).map line) := by
  induction all with
  | nil => exact .nil
  | @cons item b items read holds _ ih =>
    by_cases isWanted : p b = true
    · rw [List.filter_cons_of_pos isWanted, List.map_cons]
      exact .keep ((wanted holds).mpr isWanted) (shown holds isWanted) ih
    · rw [List.filter_cons_of_neg isWanted]
      exact .skip (mt (wanted holds).mp isWanted) ih

theorem Report.lists_filter {p : α → Bool} {line : α → String} {items : List α}
    (wanted : ∀ item, Wanted item ↔ p item = true) (shown : ∀ item, Line item (line item)) :
    Lists Wanted Line items ((items.filter p).map line) := by
  have all : List.Forall₂ Eq items items := List.forall₂_same.mpr fun _ _ => rfl
  apply Report.lists_of_forall₂ all
  · rintro item _ rfl
    exact wanted item
  · rintro item _ rfl _
    exact shown item

end Lists

/-- The first of the items that has this id, if there is one. -/
inductive First {α : Type} (idOf : α → String) (items : List α) (id : String) : Option α → Prop
  | found {before after : List α} {item : α} (place : items = before ++ item :: after)
      (own : idOf item = id) (fresh : ∀ other ∈ before, idOf other ≠ id) :
    First idOf items id (some item)
  | missing (absent : ∀ item ∈ items, idOf item ≠ id) : First idOf items id none

section First

variable {α : Type} {idOf : α → String} {items others : List α} {id : String}

theorem first_find? (idOf : α → String) (items : List α) (id : String) :
    First idOf items id (items.find? fun item => idOf item == id) := by
  cases search : items.find? fun item => idOf item == id with
  | none =>
    apply First.missing
    simpa using List.find?_eq_none.mp search
  | some item =>
    obtain ⟨own, before, after, place, fresh⟩ := List.find?_eq_some_iff_append.mp search
    exact .found place (eq_of_beq own) (by simpa using fresh)

theorem find?_id_of_perm (perm : others.Perm items) (distinct : (items.map idOf).Nodup)
    (id : String) :
    (others.find? fun item => idOf item == id) = items.find? fun item => idOf item == id := by
  induction perm with
  | nil => rfl
  | cons item _ ih =>
    rw [List.map_cons, List.nodup_cons] at distinct
    rw [List.find?_cons, List.find?_cons, ih distinct.2]
  | swap first second rest =>
    have apart : idOf first ≠ idOf second := by
      intro same
      simp [same] at distinct
    rw [List.find?_cons, List.find?_cons, List.find?_cons, List.find?_cons]
    by_cases isFirst : idOf first = id
    · have other : (idOf second == id) = false := beq_eq_false_iff_ne.mpr (isFirst ▸ apart.symm)
      rw [other]
    · rw [beq_eq_false_iff_ne.mpr isFirst]
  | trans _ second ih ih' =>
    rw [ih ((second.map idOf).nodup_iff.mpr distinct), ih' distinct]

theorem find?_id_of_filter {counts : String → Bool}
    (same : others.filter (fun item => counts (idOf item)) =
      items.filter fun item => counts (idOf item)) (isCounted : counts id = true) :
    (others.find? fun item => idOf item == id) = items.find? fun item => idOf item == id := by
  have within (list : List α) : (list.find? fun item => idOf item == id) =
      (list.filter fun item => counts (idOf item)).find? fun item => idOf item == id := by
    rw [List.find?_filter]
    congr 1
    funext item
    by_cases own : idOf item = id
    · simp [own, isCounted]
    · simp [own]
  rw [within others, same, ← within items]

end First

end CodeGateway
