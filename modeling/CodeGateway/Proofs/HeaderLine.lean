import CodeGateway.Link.Frame
import CodeGateway.Proofs.Trimming
import CodeGateway.Proofs.Utf8
import Mathlib.Data.List.DropRight

namespace CodeGateway.Frame

def IsLine (line : List UInt8) : Prop := ∃ front, line = front ++ [0x0A] ∧ 0x0A ∉ front

def OnlyLineEnds (bytes : List UInt8) : Prop := ∀ byte ∈ bytes, byte = 0x0D ∨ byte = 0x0A

def IsBlankLine (line : List UInt8) : Prop := IsLine line ∧ OnlyLineEnds line

def IsHeaderLine (line : List UInt8) : Prop :=
  IsLine line ∧ ¬ OnlyLineEnds line ∧ ∃ text, line = Utf8.encode text

def Splits (text name value : List Char) : Prop := text = name ++ ':' :: value ∧ ':' ∉ name

/-- The name of the length, in letters of either case and between blanks. -/
def IsLengthName (name : List Char) : Prop :=
  ∃ core, Text.Padded core name ∧ core.map Char.toLower = lengthName

/-- A number of 64 bits in decimal digits, between blanks and perhaps behind a plus sign. -/
def IsLengthValue (value : List Char) (length : Nat) : Prop :=
  ∃ sign digits, Text.Padded (sign ++ digits) value ∧ (sign = [] ∨ sign = ['+']) ∧ digits ≠ [] ∧
    (∀ c ∈ digits, c.isDigit = true) ∧ Nat.ofDigitChars 10 digits 0 = length ∧
      length < 0x10000000000000000

/-- A line that says how long the body is, be it well or badly. -/
def IsLengthLine (line : List UInt8) : Prop :=
  ∃ text name value, line = Utf8.encode text ∧ Splits text name value ∧ IsLengthName name

def GivesLength (line : List UInt8) (length : Nat) : Prop :=
  ∃ text name value, line = Utf8.encode text ∧ Splits text name value ∧ IsLengthName name ∧
    IsLengthValue value length

theorem splitLine_eq_some_iff {input line rest : List UInt8} :
    splitLine input = some (line, rest) ↔ IsLine line ∧ input = line ++ rest := by
  induction input generalizing line with
  | nil =>
    constructor
    · intro h
      cases h
    · intro given
      obtain ⟨⟨front, rfl, -⟩, h⟩ := given
      simp at h
  | cons byte input ih =>
    by_cases feed : byte = 0x0A
    · subst feed
      constructor
      · intro h
        cases h
        exact ⟨⟨[], rfl, by simp⟩, rfl⟩
      · intro given
        obtain ⟨⟨front, rfl, clean⟩, h⟩ := given
        cases front with
        | nil => simp_all [splitLine]
        | cons first front =>
          simp only [List.cons_append, List.cons.injEq] at h
          simp [← h.1] at clean
    · have step : splitLine (byte :: input) =
          (splitLine input).map fun parts => (byte :: parts.1, parts.2) := by
        simp [splitLine, feed]
      rw [step]
      constructor
      · intro h
        obtain ⟨⟨tail, rest'⟩, found, parts⟩ := Option.map_eq_some_iff.mp h
        cases parts
        obtain ⟨⟨front, rfl, clean⟩, rfl⟩ := ih.mp found
        exact ⟨⟨byte :: front, rfl, by simp [clean, Ne.symm feed]⟩, rfl⟩
      · intro given
        obtain ⟨⟨front, rfl, clean⟩, h⟩ := given
        cases front with
        | nil => simp_all
        | cons first front =>
          simp only [List.cons_append, List.cons.injEq] at h
          obtain ⟨rfl, rfl⟩ := h
          have tail : IsLine (front ++ [0x0A]) := ⟨front, rfl, fun h => clean (by simp [h])⟩
          rw [ih.mpr ⟨tail, rfl⟩]
          rfl

theorem splitLine_eq_none_iff {input : List UInt8} :
    splitLine input = none ↔ 0x0A ∉ input := by
  induction input with
  | nil => simp [splitLine]
  | cons byte input ih =>
    by_cases feed : byte = 0x0A
    · simp [splitLine, feed]
    · simp [splitLine, feed, ih, Ne.symm feed]

theorem isBlank_of_isLineEnd {c : Char} (h : isLineEnd c = true) : Text.isBlank c = true := by
  simp only [isLineEnd, Bool.or_eq_true, beq_iff_eq] at h
  rcases h with rfl | rfl <;> decide

theorem exists_lineEnds (text : List Char) :
    ∃ ends, text = trimLineEnd text ++ ends ∧ ∀ c ∈ ends, isLineEnd c = true := by
  refine ⟨text.rtakeWhile isLineEnd, ?_, fun c member => List.mem_rtakeWhile_imp member⟩
  exact (List.rdropWhile_append_rtakeWhile).symm

theorem trimLineEnd_eq_nil_iff {text : List Char} :
    trimLineEnd text = [] ↔ ∀ c ∈ text, isLineEnd c = true :=
  List.rdropWhile_eq_nil_iff

theorem trimChars_trimLineEnd (text : List Char) :
    Text.trimChars (trimLineEnd text) = Text.trimChars text := by
  obtain ⟨ends, parts, lineEnds⟩ := exists_lineEnds text
  have blank : ∀ c ∈ ends, Text.isBlank c = true := fun c member =>
    isBlank_of_isLineEnd (lineEnds c member)
  conv_rhs => rw [parts, Text.trimChars_append_blanks blank]

theorem trimLineEnd_append_colon (name value : List Char) :
    trimLineEnd (name ++ ':' :: value) = name ++ ':' :: trimLineEnd value := by
  have colon : isLineEnd ':' = false := by decide
  simp only [trimLineEnd, List.reverse_append, List.reverse_cons, List.append_assoc,
    List.singleton_append, List.dropWhile_append]
  split
  · rename_i empty
    rw [List.isEmpty_iff.mp empty]
    simp [colon]
  · simp

theorem onlyLineEnds_encodeChar {c : Char} :
    OnlyLineEnds (Utf8.encodeChar c) ↔ isLineEnd c = true := by
  constructor
  · intro only
    obtain ⟨byte, rest, bytes⟩ := List.exists_cons_of_ne_nil (Utf8.encodeChar_ne_nil c)
    have member : byte ∈ Utf8.encodeChar c := by simp [bytes]
    have back : Char.ofNat c.toNat = c := Char.ofNat_toNat c
    rcases only byte member with rfl | rfl
    · rw [Utf8.toNat_eq_of_mem_encodeChar member (by decide)] at back
      rw [← back]
      decide
    · rw [Utf8.toNat_eq_of_mem_encodeChar member (by decide)] at back
      rw [← back]
      decide
  · intro h
    simp only [isLineEnd, Bool.or_eq_true, beq_iff_eq] at h
    have carriage : Utf8.encodeChar '\r' = [0x0D] := by decide
    have feed : Utf8.encodeChar '\n' = [0x0A] := by decide
    rcases h with rfl | rfl
    · intro byte member
      rw [carriage, List.mem_singleton] at member
      exact Or.inl member
    · intro byte member
      rw [feed, List.mem_singleton] at member
      exact Or.inr member

theorem onlyLineEnds_encode {text : List Char} :
    OnlyLineEnds (Utf8.encode text) ↔ ∀ c ∈ text, isLineEnd c = true := by
  simp only [OnlyLineEnds, Utf8.encode, List.mem_flatMap, ← onlyLineEnds_encodeChar]
  constructor
  · intro only c member byte inside
    exact only byte ⟨c, member, inside⟩
  · intro only byte given
    obtain ⟨c, member, inside⟩ := given
    exact only c member byte inside

theorem splitColon_eq_some_iff {text name value : List Char} :
    splitColon text = some (name, value) ↔ Splits text name value := by
  constructor
  · intro h
    have parts := List.takeWhile_append_dropWhile (p := (· != ':')) (l := text)
    have clean : ':' ∉ text.takeWhile (· != ':') := fun member => by
      simpa using List.mem_takeWhile_imp member
    unfold splitColon at h
    cases found : text.dropWhile (· != ':') with
    | nil => simp [found] at h
    | cons first rest =>
      have colon : first = ':' := by
        have stop := List.head_dropWhile_not (p := (· != ':')) (l := text) (by simp [found])
        simpa [found] using stop
      simp only [found, Option.some.injEq, Prod.mk.injEq] at h
      obtain ⟨rfl, rfl⟩ := h
      rw [found, colon] at parts
      exact ⟨parts.symm, clean⟩
  · intro given
    obtain ⟨rfl, clean⟩ := given
    have keep : ∀ c ∈ name, (c != ':') = true := by
      intro c member
      simpa using fun h : c = ':' => clean (h ▸ member)
    simp only [splitColon, List.dropWhile_append_of_pos keep, List.takeWhile_append_of_pos keep]
    simp

theorem splitColon_eq_none_iff {text : List Char} : splitColon text = none ↔ ':' ∉ text := by
  constructor
  · intro h member
    obtain ⟨name, value, parts, clean⟩ := List.eq_append_cons_of_mem member
    have found := splitColon_eq_some_iff.mpr ⟨parts, clean⟩
    simp [h] at found
  · intro clean
    cases found : splitColon text with
    | none => rfl
    | some parts =>
      obtain ⟨rfl, -⟩ := splitColon_eq_some_iff.mp found
      simp at clean

theorem not_isBlank_of_upper {c : Char} (low : 65 ≤ c.toNat) (high : c.toNat ≤ 90) :
    Text.isBlank c = false := by
  simp only [Text.isBlank, Bool.or_eq_false_iff, Bool.and_eq_false_iff, decide_eq_false_iff_not,
    beq_eq_false_iff_ne]
  omega

theorem not_isBlank_of_toLower {c d : Char} (lower : c.toLower = d)
    (notBlank : Text.isBlank d = false) : Text.isBlank c = false := by
  by_cases upper : c.val ≥ 'A'.val ∧ c.val ≤ 'Z'.val
  · exact not_isBlank_of_upper upper.1 upper.2
  · have same : c.toLower = c := dif_neg upper
    rw [← same, lower]
    exact notBlank

theorem isLengthName_iff {name : List Char} :
    IsLengthName name ↔ (Text.trimChars name).map Char.toLower = lengthName := by
  constructor
  · intro given
    obtain ⟨core, padded, lower⟩ := given
    have trimmed : Text.Trimmed core := by
      constructor
      · intro c member
        have first : (core.map Char.toLower).head? = some 'c' := by rw [lower]; rfl
        rw [List.head?_map, member] at first
        exact not_isBlank_of_toLower (Option.some.inj first) (by decide)
      · intro c member
        have last : (core.map Char.toLower).getLast? = some 'h' := by rw [lower]; rfl
        rw [List.getLast?_map, member] at last
        exact not_isBlank_of_toLower (Option.some.inj last) (by decide)
    rwa [Text.trimChars_of_padded padded trimmed]
  · intro lower
    exact ⟨Text.trimChars name, Text.trimChars_padded name, lower⟩

theorem foldl_digits (digits : List Char) :
    digits.foldl (fun n c => n * 10 + (c.toNat - 0x30)) 0 = Nat.ofDigitChars 10 digits 0 := by
  rw [Nat.ofDigitChars_eq_foldl]
  congr 1
  funext n c
  rw [Nat.mul_comm]
  rfl

theorem isDigit_bounds {c : Char} (digit : c.isDigit = true) : 48 ≤ c.toNat ∧ c.toNat ≤ 57 :=
  Char.isDigit_iff_toNat.mp digit

theorem not_isBlank_of_isDigit {c : Char} (digit : c.isDigit = true) : Text.isBlank c = false := by
  have bounds := isDigit_bounds digit
  simp only [Text.isBlank, Bool.or_eq_false_iff, Bool.and_eq_false_iff, decide_eq_false_iff_not,
    beq_eq_false_iff_ne]
  omega

theorem readDigits_eq_some_iff {digits : List Char} {number : Nat} :
    readDigits digits = some number ↔ digits ≠ [] ∧ (∀ c ∈ digits, c.isDigit = true) ∧
      Nat.ofDigitChars 10 digits 0 = number ∧ number < 0x10000000000000000 := by
  unfold readDigits
  rw [foldl_digits]
  split
  · rename_i bad
    simp only [Bool.or_eq_true, List.isEmpty_iff, Bool.not_eq_true', List.all_eq_false] at bad
    constructor
    · intro h
      cases h
    · intro given
      obtain ⟨some, all, -⟩ := given
      rcases bad with none | ⟨c, member, notDigit⟩
      · exact absurd none some
      · exact absurd (all c member) notDigit
  · rename_i good
    simp only [Bool.or_eq_true, List.isEmpty_iff, Bool.not_eq_true', not_or, Bool.not_eq_false,
      List.all_eq_true] at good
    constructor
    · intro h
      obtain ⟨bound, value⟩ := Option.ite_none_right_eq_some.mp h
      cases value
      exact ⟨good.1, good.2, rfl, bound⟩
    · intro given
      obtain ⟨-, -, rfl, bound⟩ := given
      exact if_pos bound

theorem readLength_eq_some_iff {text : List Char} {length : Nat} :
    readLength text = some length ↔ ∃ sign digits, text = sign ++ digits ∧
      (sign = [] ∨ sign = ['+']) ∧ readDigits digits = some length := by
  constructor
  · intro h
    unfold readLength at h
    split at h
    · rename_i digits
      exact ⟨['+'], digits, rfl, Or.inr rfl, h⟩
    · exact ⟨[], text, rfl, Or.inl rfl, h⟩
  · intro given
    rcases given with ⟨sign, digits, rfl, rfl | rfl, read⟩
    · obtain ⟨some, all, -⟩ := readDigits_eq_some_iff.mp read
      cases digits with
      | nil => exact absurd rfl some
      | cons first rest =>
        have notPlus : first ≠ '+' := by
          intro equal
          subst equal
          exact absurd (all '+' (by simp)) (by decide)
        simpa [readLength, notPlus] using read
    · simpa [readLength] using read

theorem trimmed_of_length {sign digits : List Char} (signs : sign = [] ∨ sign = ['+'])
    (some : digits ≠ []) (all : ∀ c ∈ digits, c.isDigit = true) :
    Text.Trimmed (sign ++ digits) := by
  constructor
  · intro c member
    rcases signs with rfl | rfl
    · exact not_isBlank_of_isDigit (all c (List.mem_of_mem_head? member))
    · simp only [List.singleton_append, List.head?_cons, Option.mem_def, Option.some.injEq]
        at member
      subst member
      decide
  · intro c member
    rw [List.getLast?_append_of_ne_nil sign some] at member
    exact not_isBlank_of_isDigit (all c (List.mem_of_getLast? member))

theorem isLengthValue_iff {value : List Char} {length : Nat} :
    IsLengthValue value length ↔ readLength (Text.trimChars value) = some length := by
  rw [readLength_eq_some_iff]
  constructor
  · intro given
    obtain ⟨sign, digits, padded, signs, some, all, number, bound⟩ := given
    rw [Text.trimChars_of_padded padded (trimmed_of_length signs some all)]
    exact ⟨sign, digits, rfl, signs, readDigits_eq_some_iff.mpr ⟨some, all, number, bound⟩⟩
  · intro given
    obtain ⟨sign, digits, trimmed, signs, read⟩ := given
    have padded := Text.trimChars_padded value
    rw [trimmed] at padded
    exact ⟨sign, digits, padded, signs, readDigits_eq_some_iff.mp read⟩

theorem Splits.unique {text name value name' value' : List Char} (first : Splits text name value)
    (second : Splits text name' value') : name = name' ∧ value = value' := by
  have same := splitColon_eq_some_iff.mpr first
  rw [splitColon_eq_some_iff.mpr second] at same
  cases same
  exact ⟨rfl, rfl⟩

inductive ReadsAs (text : List Char) : Line → Prop
  | blank (only : OnlyLineEnds (Utf8.encode text)) : ReadsAs text .blank
  | other (notBlank : ¬ OnlyLineEnds (Utf8.encode text))
      (notLength : ¬ IsLengthLine (Utf8.encode text)) : ReadsAs text .other
  | length {length : Nat} (notBlank : ¬ OnlyLineEnds (Utf8.encode text))
      (gives : GivesLength (Utf8.encode text) length) : ReadsAs text (.length length)
  | badLength {shown : String} (notBlank : ¬ OnlyLineEnds (Utf8.encode text))
      (isLength : IsLengthLine (Utf8.encode text))
      (bad : ∀ length, ¬ GivesLength (Utf8.encode text) length) : ReadsAs text (.badLength shown)

theorem readsAs_of_splits {text name value : List Char} (parts : Splits text name value) :
    ReadsAs text
      (if (Text.trimChars name).map Char.toLower == lengthName then
        match readLength (Text.trimChars value) with
        | some length => .length length
        | none => .badLength (String.ofList (Text.trimChars value))
      else .other) := by
  have notBlank : ¬ OnlyLineEnds (Utf8.encode text) := by
    intro only
    have colon := onlyLineEnds_encode.mp only ':' (by simp [parts.1])
    exact absurd colon (by decide)
  split
  · rename_i named
    have isName := isLengthName_iff.mpr (beq_iff_eq.mp named)
    split
    · rename_i length read
      exact .length notBlank ⟨text, name, value, rfl, parts, isName, isLengthValue_iff.mpr read⟩
    · rename_i read
      refine .badLength notBlank ⟨text, name, value, rfl, parts, isName⟩ ?_
      intro length given
      obtain ⟨other, name', value', same, parts', -, gives⟩ := given
      rw [← Utf8.encode_injective same] at parts'
      obtain ⟨rfl, rfl⟩ := parts.unique parts'
      rw [isLengthValue_iff.mp gives] at read
      cases read
  · rename_i named
    refine .other notBlank ?_
    intro given
    obtain ⟨other, name', value', same, parts', isName⟩ := given
    rw [← Utf8.encode_injective same] at parts'
    obtain ⟨rfl, rfl⟩ := parts.unique parts'
    exact named (beq_iff_eq.mpr (isLengthName_iff.mp isName))

theorem readLine_readsAs (text : List Char) : ReadsAs text (readLine text) := by
  obtain ⟨ends, parts, lineEnds⟩ := exists_lineEnds text
  cases empty : (trimLineEnd text).isEmpty with
  | true =>
    have nil := List.isEmpty_iff.mp empty
    simp only [readLine, empty, ↓reduceIte]
    exact .blank (onlyLineEnds_encode.mpr (trimLineEnd_eq_nil_iff.mp nil))
  | false =>
    cases found : splitColon text with
    | none =>
      have clean := splitColon_eq_none_iff.mp found
      have none : splitColon (trimLineEnd text) = none := by
        rw [splitColon_eq_none_iff]
        intro member
        exact clean (parts ▸ List.mem_append_left ends member)
      simp only [readLine, empty, none, Bool.false_eq_true, ↓reduceIte]
      refine .other ?_ ?_
      · intro only
        simp [trimLineEnd_eq_nil_iff.mpr (onlyLineEnds_encode.mp only)] at empty
      · intro given
        obtain ⟨other, name, value, same, ⟨split, -⟩, -⟩ := given
        rw [← Utf8.encode_injective same] at split
        exact clean (by simp [split])
    | some nameValue =>
      obtain ⟨name, value⟩ := nameValue
      have splits := splitColon_eq_some_iff.mp found
      have kept : splitColon (trimLineEnd text) = some (name, trimLineEnd value) := by
        rw [splitColon_eq_some_iff, splits.1, trimLineEnd_append_colon]
        exact ⟨rfl, splits.2⟩
      simp only [readLine, empty, kept, trimChars_trimLineEnd, Bool.false_eq_true, ↓reduceIte]
      exact readsAs_of_splits splits

end CodeGateway.Frame
