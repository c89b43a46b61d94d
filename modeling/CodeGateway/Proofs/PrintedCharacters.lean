import CodeGateway.Proofs.PrintedScalar

namespace CodeGateway

def NoControl (text : List Char) : Prop := ∀ c ∈ text, 0x20 ≤ c.toNat

-- Only the characters of the text are tried, and not all that there are.
instance (text : List Char) : Decidable (NoControl text) :=
  List.decidableBAll (fun (c : Char) => 0x20 ≤ c.toNat) text

theorem NoControl.append {front back : List Char} (first : NoControl front)
    (second : NoControl back) : NoControl (front ++ back) := by
  intro c member
  rcases List.mem_append.mp member with member | member
  · exact first c member
  · exact second c member

theorem NoControl.cons {c : Char} {text : List Char} (printed : 0x20 ≤ c.toNat)
    (rest : NoControl text) : NoControl (c :: text) := by
  intro other member
  rcases List.mem_cons.mp member with rfl | member
  · exact printed
  · exact rest other member

theorem NoControl.of_subset {part whole : List Char} (free : NoControl whole)
    (subset : part ⊆ whole) : NoControl part := fun c member => free c (subset member)

theorem NoControl.encode {text : List Char} (free : NoControl text) :
    ∀ byte ∈ Utf8.encode text, 0x20 ≤ byte.toNat := by
  intro byte member
  obtain ⟨c, among, within⟩ := List.mem_flatMap.mp member
  by_cases small : byte.toNat < 0x80
  · rw [← Utf8.toNat_eq_of_mem_encodeChar within small]
    exact free c among
  · omega

namespace Decimal

theorem noControl_digitText (n : Nat) : NoControl (digitText n) := by
  intro c member
  have bounds := Char.isDigit_iff_toNat.mp (Json.isDigit_of_mem_digitText member)
  have zero : '0'.toNat = 48 := rfl
  omega

theorem noControl_zeros (count : Nat) : NoControl (List.replicate count '0') := by
  intro c member
  rw [List.eq_of_mem_replicate member]
  decide

theorem noControl_layout (d : Scaled) : NoControl d.layout := by
  have digits := noControl_digitText d.digits
  unfold Scaled.layout
  dsimp only
  split
  · exact (digits.append (noControl_zeros _)).append (by decide)
  split
  · exact (digits.of_subset (List.take_subset _ _)).append
      (.cons (by decide) (digits.of_subset (List.drop_subset _ _)))
  split
  · exact (NoControl.append (by decide) (noControl_zeros _)).append digits
  · refine NoControl.append ?_ (.cons (by decide) (.cons ?_ (noControl_digitText _)))
    · generalize digitText d.digits = text at digits ⊢
      match text with
      | [] => decide
      | [digit] => exact digits
      | digit :: more :: rest =>
        exact .cons (digits digit (by simp))
          (.cons (by decide) fun c member => digits c (List.mem_cons_of_mem _ member))
    · split <;> decide

theorem noControl_floatText (x : Float) : NoControl (floatText x) := by
  have size : NoControl (if (Binary.ofFloat x).mantissa == 0 then ['0', '.', '0']
      else (shortest (Binary.ofFloat x)).layout) := by
    split
    · decide
    · exact noControl_layout _
  unfold floatText
  dsimp only
  split
  · exact .cons (by decide) size
  · exact size

end Decimal

namespace Json

theorem noControl_hexDigit {n : Nat} (small : n < 16) : 0x20 ≤ (hexDigit n).toNat := by
  have all : ∀ n < 16, 0x20 ≤ (hexDigit n).toNat := by decide
  exact all n small

theorem noControl_escapeChar (c : Char) : NoControl (escapeChar c) := by
  unfold escapeChar
  split
  · decide
  split
  · decide
  split
  · rename_i printed
    exact .cons printed (by decide)
  rename_i control
  split
  · decide
  split
  · decide
  split
  · decide
  split
  · decide
  split
  · decide
  · have high := noControl_hexDigit (n := c.toNat / 16) (by omega)
    have low := noControl_hexDigit (n := c.toNat % 16) (by omega)
    have start : NoControl ['\\', 'u', '0', '0'] := by decide
    exact start.append (.cons high (.cons low (by decide)))

theorem noControl_stringText (s : String) : NoControl (stringText s) := by
  have inside : NoControl (s.toList.flatMap escapeChar) := by
    intro c member
    obtain ⟨original, -, within⟩ := List.mem_flatMap.mp member
    exact noControl_escapeChar original c within
  exact NoControl.append (.cons (by decide) inside) (by decide)

theorem noControl_intText (i : Int) : NoControl (intText i) := by
  unfold intText
  split
  · exact .cons (by decide) (Decimal.noControl_digitText _)
  · exact Decimal.noControl_digitText _

theorem noControl_itemsText {items : List Json} (each : ∀ item ∈ items, NoControl item.text) :
    NoControl (itemsText items) := by
  induction items with
  | nil => decide
  | cons item rest ih =>
    obtain ⟨first, others⟩ := List.forall_mem_cons.mp each
    cases rest with
    | nil => exact first.append (by decide)
    | cons next rest => exact first.append (.cons (by decide) (ih others))

theorem noControl_membersText {members : List (String × Json)}
    (each : ∀ member ∈ members, NoControl member.2.text) : NoControl (membersText members) := by
  induction members with
  | nil => decide
  | cons member rest ih =>
    obtain ⟨key, value⟩ := member
    obtain ⟨first, others⟩ := List.forall_mem_cons.mp each
    have key := noControl_stringText key
    cases rest with
    | nil => exact key.append (.cons (by decide) (first.append (by decide)))
    | cons next rest =>
      exact key.append (.cons (by decide) (first.append (.cons (by decide) (ih others))))

theorem noControl_text : (value : Json) → NoControl value.text
  | .null => by decide
  | .bool true => by decide
  | .bool false => by decide
  | .int i => noControl_intText i
  | .float x => by
    rw [text]
    split
    · exact Decimal.noControl_floatText x
    · decide
  | .string s => noControl_stringText s
  | .array items => .cons (by decide) (noControl_itemsText fun item _ => noControl_text item)
  | .object members =>
    .cons (by decide) (noControl_membersText fun member among =>
      have : sizeOf member.2 < sizeOf members :=
        Nat.lt_trans (by cases member; simp +arith) (List.sizeOf_lt_of_mem among)
      noControl_text member.2)

end Json

end CodeGateway
