import CodeGateway.Proofs.HeaderLine

namespace CodeGateway.Frame

/-- Lines of a header, none of which says badly how long the body is. -/
def HeaderLines (lines : List (List UInt8)) : Prop :=
  ∀ line ∈ lines, IsHeaderLine line ∧ (IsLengthLine line → ∃ said, GivesLength line said)

/-- The last of the lines that say a length says this one. -/
def LastSays (lines : List (List UInt8)) (length : Nat) : Prop :=
  ∃ front line back, lines = front ++ line :: back ∧ GivesLength line length ∧
    ∀ later ∈ back, ¬ IsLengthLine later

def TakesLine (ended : Bool) (line rest : List UInt8) : Prop :=
  IsLine line ∨ ended = true ∧ line ≠ [] ∧ 0x0A ∉ line ∧ rest = []

theorem IsLine.ne_nil {line : List UInt8} (isLine : IsLine line) : line ≠ [] := by
  obtain ⟨front, rfl, -⟩ := isLine
  simp

theorem TakesLine.ne_nil {ended : Bool} {line rest : List UInt8}
    (takes : TakesLine ended line rest) : line ≠ [] := by
  rcases takes with isLine | ⟨-, some, -⟩
  · exact isLine.ne_nil
  · exact some

theorem TakesLine.isLine {ended : Bool} {line rest : List UInt8}
    (takes : TakesLine ended line rest) (more : rest ≠ []) : IsLine line := by
  rcases takes with isLine | ⟨-, -, -, none⟩
  · exact isLine
  · exact absurd none more

theorem nextLine_eq_some_iff {ended : Bool} {input line rest : List UInt8} :
    nextLine ended input = some (line, rest) ↔
      input = line ++ rest ∧ TakesLine ended line rest := by
  unfold nextLine TakesLine
  cases found : splitLine input with
  | some parts =>
    obtain ⟨line', rest'⟩ := parts
    obtain ⟨isLine, whole⟩ := splitLine_eq_some_iff.mp found
    constructor
    · intro h
      cases h
      exact ⟨whole, Or.inl isLine⟩
    · intro given
      rcases given with ⟨rfl, isLine' | ⟨-, -, clean, rfl⟩⟩
      · rw [splitLine_eq_some_iff.mpr ⟨isLine', rfl⟩] at found
        exact found.symm
      · rw [List.append_nil, splitLine_eq_none_iff.mpr clean] at found
        cases found
  | none =>
    have clean := splitLine_eq_none_iff.mp found
    constructor
    · intro h
      obtain ⟨last, parts⟩ := Option.ite_none_right_eq_some.mp h
      simp only [Bool.and_eq_true, Bool.not_eq_true', List.isEmpty_eq_false_iff] at last
      cases parts
      exact ⟨by simp, Or.inr ⟨last.1, last.2, clean, rfl⟩⟩
    · intro given
      rcases given with ⟨rfl, isLine | ⟨rfl, some, -, rfl⟩⟩
      · rw [splitLine_eq_some_iff.mpr ⟨isLine, rfl⟩] at found
        cases found
      · simp [some]

theorem nextLine_true_eq_none_iff {input : List UInt8} :
    nextLine true input = none ↔ input = [] := by
  unfold nextLine
  cases input with
  | nil => simp [splitLine]
  | cons byte rest => cases splitLine (byte :: rest) <;> simp

theorem exists_text_of_onlyLineEnds {bytes : List UInt8} (only : OnlyLineEnds bytes) :
    ∃ text, bytes = Utf8.encode text := by
  induction bytes with
  | nil => exact ⟨[], rfl⟩
  | cons byte bytes ih =>
    obtain ⟨text, rfl⟩ := ih fun other member => only other (by simp [member])
    rcases only byte (by simp) with rfl | rfl
    · exact ⟨'\r' :: text, rfl⟩
    · exact ⟨'\n' :: text, rfl⟩

inductive Counts : Option Nat → List (List UInt8) → Option Nat → Prop
  | nil {before : Option Nat} : Counts before [] before
  | other {before after : Option Nat} {line : List UInt8} {lines : List (List UInt8)}
      (isHeader : IsHeaderLine line) (notLength : ¬ IsLengthLine line)
      (rest : Counts before lines after) : Counts before (line :: lines) after
  | length {before after : Option Nat} {said : Nat} {line : List UInt8}
      {lines : List (List UInt8)} (isHeader : IsHeaderLine line) (gives : GivesLength line said)
      (rest : Counts (some said) lines after) : Counts before (line :: lines) after

theorem GivesLength.isLengthLine {line : List UInt8} {length : Nat}
    (gives : GivesLength line length) : IsLengthLine line := by
  obtain ⟨text, name, value, bytes, parts, named, -⟩ := gives
  exact ⟨text, name, value, bytes, parts, named⟩

theorem GivesLength.unique {line : List UInt8} {first second : Nat}
    (gives : GivesLength line first) (gives' : GivesLength line second) : first = second := by
  obtain ⟨text, name, value, rfl, parts, -, read⟩ := gives
  obtain ⟨text', name', value', same, parts', -, read'⟩ := gives'
  rw [← Utf8.encode_injective same] at parts'
  obtain ⟨rfl, rfl⟩ := parts.unique parts'
  have value := isLengthValue_iff.mp read
  rw [isLengthValue_iff.mp read'] at value
  exact (Option.some.inj value).symm

theorem LastSays.cons {lines : List (List UInt8)} {length : Nat} (last : LastSays lines length)
    (line : List UInt8) : LastSays (line :: lines) length := by
  obtain ⟨front, last, back, rfl, gives, clean⟩ := last
  exact ⟨line :: front, last, back, rfl, gives, clean⟩

theorem LastSays.of_cons {line : List UInt8} {lines : List (List UInt8)} {length : Nat}
    (last : LastSays (line :: lines) length) :
    LastSays lines length ∨ GivesLength line length ∧ ∀ other ∈ lines, ¬ IsLengthLine other := by
  obtain ⟨front, last, back, parts, gives, clean⟩ := last
  cases front with
  | nil =>
    obtain ⟨rfl, rfl⟩ := List.cons.inj parts
    exact Or.inr ⟨gives, clean⟩
  | cons first front =>
    obtain ⟨rfl, rfl⟩ := List.cons.inj parts
    exact Or.inl ⟨front, last, back, rfl, gives, clean⟩

theorem last_of_counts {before : Option Nat} {lines : List (List UInt8)} {length : Nat}
    (counts : Counts before lines (some length)) : HeaderLines lines ∧
      (LastSays lines length ∨ before = some length ∧ ∀ line ∈ lines, ¬ IsLengthLine line) := by
  generalize afterEq : some length = after at counts
  induction counts with
  | nil =>
    subst afterEq
    exact ⟨by simp [HeaderLines], Or.inr ⟨rfl, by simp⟩⟩
  | @other before after line lines isHeader notLength rest ih =>
    obtain ⟨all, last⟩ := ih afterEq
    have here : IsHeaderLine line ∧ (IsLengthLine line → ∃ said, GivesLength line said) :=
      ⟨isHeader, fun isLength => absurd isLength notLength⟩
    refine ⟨List.forall_mem_cons.mpr ⟨here, all⟩, ?_⟩
    rcases last with last | ⟨same, clean⟩
    · exact Or.inl (last.cons line)
    · exact Or.inr ⟨same, List.forall_mem_cons.mpr ⟨notLength, clean⟩⟩
  | @length before after said line lines isHeader gives rest ih =>
    obtain ⟨all, last⟩ := ih afterEq
    refine ⟨List.forall_mem_cons.mpr ⟨⟨isHeader, fun _ => ⟨said, gives⟩⟩, all⟩, ?_⟩
    rcases last with last | ⟨same, clean⟩
    · exact Or.inl (last.cons line)
    · rw [Option.some.inj (same.trans afterEq.symm)] at gives
      exact Or.inl ⟨[], line, lines, rfl, gives, clean⟩

theorem counts_of_last {before : Option Nat} {lines : List (List UInt8)} {length : Nat}
    (all : HeaderLines lines)
    (last : LastSays lines length ∨ before = some length ∧ ∀ line ∈ lines, ¬ IsLengthLine line) :
    Counts before lines (some length) := by
  induction lines generalizing before with
  | nil =>
    rcases last with ⟨front, line, back, parts, -⟩ | ⟨rfl, -⟩
    · simp at parts
    · exact .nil
  | cons line lines ih =>
    obtain ⟨⟨isHeader, said⟩, tail⟩ := List.forall_mem_cons.mp all
    by_cases isLength : IsLengthLine line
    · obtain ⟨said, gives⟩ := said isLength
      refine .length isHeader gives (ih tail ?_)
      rcases last with last | ⟨-, clean⟩
      · rcases last.of_cons with later | ⟨givesLast, clean⟩
        · exact Or.inl later
        · exact Or.inr ⟨congrArg some (gives.unique givesLast), clean⟩
      · exact absurd isLength (clean line (by simp))
    · refine .other isHeader isLength (ih tail ?_)
      rcases last with last | ⟨rfl, clean⟩
      · rcases last.of_cons with later | ⟨givesLast, -⟩
        · exact Or.inl later
        · exact absurd givesLast.isLengthLine isLength
      · exact Or.inr ⟨rfl, fun other member => clean other (by simp [member])⟩

theorem counts_iff {before : Option Nat} {lines : List (List UInt8)} {length : Nat} :
    Counts before lines (some length) ↔ HeaderLines lines ∧
      (LastSays lines length ∨ before = some length ∧ ∀ line ∈ lines, ¬ IsLengthLine line) :=
  ⟨last_of_counts, fun given => counts_of_last given.1 given.2⟩

def HeaderShape (ended started : Bool) (before : Option Nat) (input : List UInt8) (length : Nat)
    (rest : List UInt8) : Prop :=
  ∃ (blanks lines : List (List UInt8)) (blank : List UInt8),
    input = blanks.flatten ++ lines.flatten ++ blank ++ rest ∧
    (∀ line ∈ blanks, IsBlankLine line) ∧ (started = true → blanks = []) ∧
    (started = false → lines ≠ []) ∧ Counts before lines (some length) ∧
    OnlyLineEnds blank ∧ TakesLine ended blank rest

theorem HeaderShape.ne_nil {ended started : Bool} {before : Option Nat} {input rest : List UInt8}
    {length : Nat} (shape : HeaderShape ended started before input length rest) : input ≠ [] := by
  obtain ⟨blanks, lines, blank, rfl, -, -, -, -, -, takes⟩ := shape
  simp [takes.ne_nil]

theorem HeaderShape.blank {ended : Bool} {before : Option Nat} {line input rest : List UInt8}
    {length : Nat} (shape : HeaderShape ended false before input length rest)
    (isBlank : IsBlankLine line) : HeaderShape ended false before (line ++ input) length rest := by
  obtain ⟨blanks, lines, blank, rfl, allBlank, -, some, counts, only, takes⟩ := shape
  refine ⟨line :: blanks, lines, blank, by simp, ?_, by simp, some, counts, only, takes⟩
  intro other member
  rcases List.mem_cons.mp member with rfl | member
  · exact isBlank
  · exact allBlank other member

theorem HeaderShape.other {ended started : Bool} {before : Option Nat}
    {line input rest : List UInt8} {length : Nat}
    (shape : HeaderShape ended true before input length rest)
    (isHeader : IsHeaderLine line) (notLength : ¬ IsLengthLine line) :
    HeaderShape ended started before (line ++ input) length rest := by
  obtain ⟨blanks, lines, blank, rfl, -, none, -, counts, only, takes⟩ := shape
  rw [none rfl]
  exact ⟨[], line :: lines, blank, by simp, by simp, by simp, by simp,
    .other isHeader notLength counts, only, takes⟩

theorem HeaderShape.length {ended started : Bool} {before : Option Nat}
    {line input rest : List UInt8} {said length : Nat}
    (shape : HeaderShape ended true (some said) input length rest)
    (isHeader : IsHeaderLine line) (gives : GivesLength line said) :
    HeaderShape ended started before (line ++ input) length rest := by
  obtain ⟨blanks, lines, blank, rfl, -, none, -, counts, only, takes⟩ := shape
  rw [none rfl]
  exact ⟨[], line :: lines, blank, by simp, by simp, by simp, by simp,
    .length isHeader gives counts, only, takes⟩

theorem headerShape_of_readHeader {ended : Bool} {fuel : Nat} {started : Bool}
    {before : Option Nat} {input rest : List UInt8} {length : Nat}
    (read : readHeader ended fuel started before input = .body length rest) :
    HeaderShape ended started before input length rest := by
  induction fuel generalizing started before input with
  | zero => cases read
  | succ fuel ih =>
    unfold readHeader at read
    cases next : nextLine ended input with
    | none => cases ended <;> cases started <;> simp [next] at read
    | some parts =>
      obtain ⟨line, input'⟩ := parts
      obtain ⟨rfl, takes⟩ := nextLine_eq_some_iff.mp next
      simp only [next] at read
      cases decoded : Utf8.decode line with
      | error invalid => simp [decoded] at read
      | ok text =>
        obtain rfl := Utf8.decode_eq_ok_iff.mp decoded
        simp only [decoded] at read
        have isLine {started' before'}
            (shape : HeaderShape ended started' before' input' length rest) :
            IsLine (Utf8.encode text) := takes.isLine shape.ne_nil
        generalize found : readLine text = what at read
        have view := readLine_readsAs text
        rw [found] at view
        cases view with
        | blank only =>
          cases started with
          | false =>
            have shape := ih read
            exact shape.blank ⟨isLine shape, only⟩
          | true =>
            cases before with
            | none => cases read
            | some said =>
              cases read
              exact ⟨[], [], Utf8.encode text, by simp, by simp, by simp, by simp, .nil, only,
                takes⟩
        | other notBlank notLength =>
          have shape := ih read
          exact shape.other ⟨isLine shape, notBlank, text, rfl⟩ notLength
        | length notBlank gives =>
          have shape := ih read
          exact shape.length ⟨isLine shape, notBlank, text, rfl⟩ gives
        | badLength => cases read

theorem readHeader_line {ended : Bool} {fuel : Nat} {started : Bool} {before : Option Nat}
    {text : List Char} {rest : List UInt8} (takes : TakesLine ended (Utf8.encode text) rest) :
    readHeader ended (fuel + 1) started before (Utf8.encode text ++ rest) =
      match readLine text with
      | .blank =>
        if !started then readHeader ended fuel false before rest
        else
          match before with
          | some length => .body length rest
          | none => .fault .noLength rest
      | .other => readHeader ended fuel true before rest
      | .length value => readHeader ended fuel true (some value) rest
      | .badLength value => .fault (.badLength value) rest := by
  rw [readHeader, nextLine_eq_some_iff.mpr ⟨rfl, takes⟩]
  cases found : readLine text with
  | blank => cases before <;> simp only [Utf8.decode_encode, found]
  | _ => simp only [Utf8.decode_encode, found]

theorem readLine_blank {text : List Char} (only : OnlyLineEnds (Utf8.encode text)) :
    readLine text = .blank := by
  have view := readLine_readsAs text
  generalize readLine text = what at view
  cases view with
  | blank => rfl
  | other notBlank => exact absurd only notBlank
  | length notBlank => exact absurd only notBlank
  | badLength notBlank => exact absurd only notBlank

theorem readLine_other {text : List Char} (notBlank : ¬ OnlyLineEnds (Utf8.encode text))
    (notLength : ¬ IsLengthLine (Utf8.encode text)) : readLine text = .other := by
  have view := readLine_readsAs text
  generalize readLine text = what at view
  cases view with
  | blank only => exact absurd only notBlank
  | other => rfl
  | length _ gives => exact absurd gives.isLengthLine notLength
  | badLength _ isLength => exact absurd isLength notLength

theorem readLine_length {text : List Char} {length : Nat}
    (notBlank : ¬ OnlyLineEnds (Utf8.encode text)) (gives : GivesLength (Utf8.encode text) length) :
    readLine text = .length length := by
  have view := readLine_readsAs text
  generalize readLine text = what at view
  cases view with
  | blank only => exact absurd only notBlank
  | other _ notLength => exact absurd gives.isLengthLine notLength
  | length _ gives' => rw [gives'.unique gives]
  | badLength _ _ bad => exact absurd gives (bad length)

theorem readHeader_of_counts {ended : Bool} {fuel : Nat} {before : Option Nat}
    {lines : List (List UInt8)} {blank rest : List UInt8} {length : Nat}
    (counts : Counts before lines (some length)) (only : OnlyLineEnds blank)
    (takes : TakesLine ended blank rest)
    (enough : (lines.flatten ++ blank ++ rest).length < fuel) {started : Bool}
    (some : started = false → lines ≠ []) :
    readHeader ended fuel started before (lines.flatten ++ blank ++ rest) = .body length rest := by
  generalize afterEq : Option.some length = after at counts
  induction counts generalizing fuel started with
  | nil =>
    subst afterEq
    cases fuel with
    | zero => simp at enough
    | succ fuel =>
      obtain ⟨text, rfl⟩ := exists_text_of_onlyLineEnds only
      cases started with
      | false => exact absurd rfl (some rfl)
      | true =>
        rw [List.flatten_nil, List.nil_append, readHeader_line takes, readLine_blank only]
        rfl
  | @other before after line lines isHeader notLength counts ih =>
    cases fuel with
    | zero => simp at enough
    | succ fuel =>
      obtain ⟨isLine, notBlank, text, rfl⟩ := isHeader
      have positive := List.length_pos_iff.mpr isLine.ne_nil
      rw [List.flatten_cons, List.append_assoc, List.append_assoc, readHeader_line (Or.inl isLine),
        readLine_other notBlank notLength, ← List.append_assoc]
      exact ih (by simp at enough ⊢; omega) (by simp) afterEq
  | @length before after said line lines isHeader gives counts ih =>
    cases fuel with
    | zero => simp at enough
    | succ fuel =>
      obtain ⟨isLine, notBlank, text, rfl⟩ := isHeader
      have positive := List.length_pos_iff.mpr isLine.ne_nil
      rw [List.flatten_cons, List.append_assoc, List.append_assoc, readHeader_line (Or.inl isLine),
        readLine_length notBlank gives, ← List.append_assoc]
      exact ih (by simp at enough ⊢; omega) (by simp) afterEq

theorem readHeader_of_headerShape {ended : Bool} {fuel : Nat} {started : Bool}
    {before : Option Nat} {input rest : List UInt8} {length : Nat}
    (shape : HeaderShape ended started before input length rest) (enough : input.length < fuel) :
    readHeader ended fuel started before input = .body length rest := by
  obtain ⟨blanks, lines, blank, rfl, allBlank, none, some, counts, only, takes⟩ := shape
  induction blanks generalizing fuel with
  | nil => exact readHeader_of_counts counts only takes enough some
  | cons line blanks ih =>
    cases started with
    | true => simp at none
    | false =>
      cases fuel with
      | zero => simp at enough
      | succ fuel =>
        obtain ⟨isLine, onlyLine⟩ := allBlank line (by simp)
        obtain ⟨text, rfl⟩ := exists_text_of_onlyLineEnds onlyLine
        have positive := List.length_pos_iff.mpr isLine.ne_nil
        rw [List.flatten_cons, List.append_assoc, List.append_assoc, List.append_assoc,
          readHeader_line (Or.inl isLine), readLine_blank onlyLine, ← List.append_assoc,
          ← List.append_assoc]
        exact ih (by simp at enough ⊢; omega)
          (fun other member => allBlank other (by simp [member])) (by simp)

end CodeGateway.Frame
