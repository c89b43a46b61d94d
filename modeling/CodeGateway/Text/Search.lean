namespace CodeGateway.Text

def occursIn (part : List Char) : List Char → Bool
  | [] => part.isEmpty
  | c :: rest => part.isPrefixOf (c :: rest) || occursIn part rest

theorem occursIn_iff {part text : List Char} :
    occursIn part text = true ↔ ∃ before after, text = before ++ part ++ after := by
  induction text with
  | nil =>
    simp only [occursIn, List.isEmpty_iff]
    constructor
    · intro equal
      subst equal
      exact ⟨[], [], rfl⟩
    · intro given
      obtain ⟨before, after, h⟩ := given
      simp_all
  | cons c rest ih =>
    simp only [occursIn, Bool.or_eq_true, List.isPrefixOf_iff_prefix, ih]
    constructor
    · intro given
      rcases given with ⟨after, h⟩ | ⟨before, after, h⟩
      · exact ⟨[], after, by simp [h]⟩
      · exact ⟨c :: before, after, by simp [h]⟩
    · intro given
      obtain ⟨before, after, h⟩ := given
      cases before with
      | nil => exact .inl ⟨after, by simpa using h.symm⟩
      | cons d before =>
        simp only [List.cons_append, List.cons.injEq] at h
        exact .inr ⟨before, after, h.2⟩

theorem occursIn_iff_isInfix {part text : List Char} :
    occursIn part text = true ↔ part <:+: text := by
  rw [occursIn_iff]
  exact exists_congr fun before => exists_congr fun after => eq_comm

end CodeGateway.Text
