import CodeGateway.Text.Blank
import Mathlib.Data.List.TakeWhile

namespace CodeGateway.Text

/-- The text is `core` with blanks in front of it and behind it. -/
def Padded (core text : List Char) : Prop :=
  ∃ left right, text = left ++ core ++ right ∧
    (∀ c ∈ left, isBlank c = true) ∧ ∀ c ∈ right, isBlank c = true

def Trimmed (core : List Char) : Prop :=
  (∀ c ∈ core.head?, isBlank c = false) ∧ ∀ c ∈ core.getLast?, isBlank c = false

theorem exists_blanks_dropBlanks (text : List Char) :
    ∃ left, text = left ++ dropBlanks text ∧ ∀ c ∈ left, isBlank c = true := by
  refine ⟨text.takeWhile isBlank, ?_, ?_⟩
  · exact (List.takeWhile_append_dropWhile).symm
  · intro c member
    exact List.mem_takeWhile_imp member

theorem dropBlanks_append {left rest : List Char} (blank : ∀ c ∈ left, isBlank c = true) :
    dropBlanks (left ++ rest) = dropBlanks rest :=
  List.dropWhile_append_of_pos blank

theorem dropBlanks_eq_self {text : List Char} (head : ∀ c ∈ text.head?, isBlank c = false) :
    dropBlanks text = text := by
  cases text with
  | nil => rfl
  | cons c text =>
    have first := head c (by simp)
    simp [dropBlanks, first]

theorem trimChars_of_padded {core text : List Char} (padded : Padded core text)
    (trimmed : Trimmed core) : trimChars text = core := by
  obtain ⟨left, right, rfl, blankLeft, blankRight⟩ := padded
  unfold trimChars
  rw [List.append_assoc, dropBlanks_append blankLeft]
  cases core with
  | nil =>
    have none : dropBlanks ([] ++ right) = [] := List.dropWhile_eq_nil_iff.mpr blankRight
    rw [none]
    rfl
  | cons first core =>
    have kept : dropBlanks (first :: core ++ right) = first :: core ++ right :=
      dropBlanks_eq_self (by simpa using trimmed.1)
    have blankReverse : ∀ c ∈ right.reverse, isBlank c = true := by simpa using blankRight
    have keptReverse : dropBlanks (first :: core).reverse = (first :: core).reverse :=
      dropBlanks_eq_self (by simpa only [List.head?_reverse] using trimmed.2)
    rw [kept, List.reverse_append, dropBlanks_append blankReverse, keptReverse,
      List.reverse_reverse]

theorem exists_blanks_trimChars (text : List Char) :
    ∃ right, dropBlanks text = trimChars text ++ right ∧ ∀ c ∈ right, isBlank c = true := by
  obtain ⟨right, back, blank⟩ := exists_blanks_dropBlanks (dropBlanks text).reverse
  have reversed := congrArg List.reverse back
  rw [List.reverse_reverse, List.reverse_append] at reversed
  exact ⟨right.reverse, reversed, by simpa using blank⟩

theorem trimChars_padded (text : List Char) : Padded (trimChars text) text := by
  obtain ⟨left, front, blankLeft⟩ := exists_blanks_dropBlanks text
  obtain ⟨right, middle, blankRight⟩ := exists_blanks_trimChars text
  refine ⟨left, right, ?_, blankLeft, blankRight⟩
  rw [List.append_assoc, ← middle]
  exact front

theorem trimmed_trimChars (text : List Char) : Trimmed (trimChars text) := by
  obtain ⟨right, middle, -⟩ := exists_blanks_trimChars text
  constructor
  · intro c first
    obtain ⟨rest, same⟩ := List.head?_eq_some_iff.mp first
    rw [same, List.cons_append] at middle
    exact dropBlanks_head middle
  · intro c last
    rw [trimChars, List.getLast?_reverse] at last
    obtain ⟨rest, same⟩ := List.head?_eq_some_iff.mp last
    exact dropBlanks_head same

theorem trimChars_of_trimmed {text : List Char} (trimmed : Trimmed text) : trimChars text = text :=
  trimChars_of_padded ⟨[], [], by simp, by simp, by simp⟩ trimmed

theorem trim_trim (text : String) : trim (trim text) = trim text := by
  rw [trim, trim, String.toList_ofList, trimChars_of_trimmed (trimmed_trimChars _)]

theorem trimChars_eq_nil_iff {text : List Char} :
    trimChars text = [] ↔ text.all isBlank = true := by
  obtain ⟨left, right, padded, blankLeft, blankRight⟩ := trimChars_padded text
  rw [List.all_eq_true]
  constructor
  · intro none
    rw [none, List.append_nil] at padded
    intro c among
    rw [padded] at among
    exact (List.mem_append.mp among).elim (blankLeft c) (blankRight c)
  · intro blank
    have dropped : dropBlanks text = [] := List.dropWhile_eq_nil_iff.mpr blank
    rw [trimChars, dropped]
    rfl

theorem trimChars_append_blanks {text ends : List Char} (blank : ∀ c ∈ ends, isBlank c = true) :
    trimChars (text ++ ends) = trimChars text := by
  unfold trimChars dropBlanks
  rw [List.dropWhile_append]
  split
  · rename_i empty
    have none : ends.dropWhile isBlank = [] := List.dropWhile_eq_nil_iff.mpr blank
    rw [none, List.isEmpty_iff.mp empty]
  · rw [List.reverse_append, List.dropWhile_append_of_pos (by simpa using blank)]

end CodeGateway.Text
