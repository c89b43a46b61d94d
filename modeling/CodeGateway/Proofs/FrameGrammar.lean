import CodeGateway.Proofs.FrameHeader

namespace CodeGateway.Frame

/-- Blank lines, a header, a blank line, and as many bytes of JSON text as the header says. -/
def IsFrame (frame : List UInt8) (value : Json) : Prop :=
  ∃ (blanks lines : List (List UInt8)) (blank body : List UInt8),
    frame = blanks.flatten ++ lines.flatten ++ blank ++ body ∧
    (∀ line ∈ blanks, IsBlankLine line) ∧ HeaderLines lines ∧ LastSays lines body.length ∧
    IsBlankLine blank ∧ Json.parse body = .ok value

/-- Blank lines, a header and the blank line that ends it, where the header says that the body is
    longer than memory has room for. -/
def AsksTooMuch (ended : Bool) (input : List UInt8) : Prop :=
  ∃ (blanks lines : List (List UInt8)) (blank rest : List UInt8) (length : Nat),
    input = blanks.flatten ++ lines.flatten ++ blank ++ rest ∧
    (∀ line ∈ blanks, IsBlankLine line) ∧ HeaderLines lines ∧ LastSays lines length ∧
    OnlyLineEnds blank ∧ TakesLine ended blank rest ∧ maxBody < length

def IsReadable (frame : List UInt8) (value : Json) : Prop :=
  IsFrame frame value ∧ ¬ AsksTooMuch true frame

theorem readHeader_eq_done_iff {fuel : Nat} {started : Bool} {before : Option Nat}
    {input : List UInt8} (enough : input.length < fuel) :
    readHeader true fuel started before input = .done ↔ started = false ∧ OnlyLineEnds input := by
  induction fuel generalizing started before input with
  | zero => simp at enough
  | succ fuel ih =>
    cases next : nextLine true input with
    | none =>
      rw [readHeader, next]
      rw [nextLine_true_eq_none_iff.mp next]
      cases started <;> simp [OnlyLineEnds]
    | some parts =>
      obtain ⟨line, rest⟩ := parts
      obtain ⟨rfl, takes⟩ := nextLine_eq_some_iff.mp next
      have positive := List.length_pos_iff.mpr takes.ne_nil
      have fewer : rest.length < fuel := by
        simp only [List.length_append] at enough
        omega
      have split : OnlyLineEnds (line ++ rest) ↔ OnlyLineEnds line ∧ OnlyLineEnds rest := by
        simp [OnlyLineEnds, or_imp, forall_and]
      cases decoded : Utf8.decode line with
      | error invalid =>
        rw [readHeader, next]
        simp only [decoded, reduceCtorEq, false_iff, not_and, split]
        intro _ only
        obtain ⟨text, rfl⟩ := exists_text_of_onlyLineEnds only
        rw [Utf8.decode_encode] at decoded
        cases decoded
      | ok text =>
        obtain rfl := Utf8.decode_eq_ok_iff.mp decoded
        rw [readHeader_line takes, split]
        have view := readLine_readsAs text
        generalize readLine text = what at view
        cases view with
        | blank only =>
          cases started with
          | false => simp [ih fewer, only]
          | true => cases before <;> simp
        | other notBlank => simp [ih fewer, notBlank]
        | length notBlank => simp [ih fewer, notBlank]
        | badLength notBlank => simp [notBlank]

theorem parse_nil_ne_ok (value : Json) : Json.parse [] ≠ .ok value := by
  simp [Json.parse, Json.value, Json.skipSpace, Json.faultAfter, Except.bind, Except.mapError]

theorem LastSays.ne_nil {lines : List (List UInt8)} {length : Nat} (last : LastSays lines length) :
    lines ≠ [] := by
  obtain ⟨front, line, back, rfl, -⟩ := last
  simp

theorem headerShape_start_iff {ended : Bool} {input rest : List UInt8} {length : Nat} :
    HeaderShape ended false none input length rest ↔
      ∃ (blanks lines : List (List UInt8)) (blank : List UInt8),
        input = blanks.flatten ++ lines.flatten ++ blank ++ rest ∧
        (∀ line ∈ blanks, IsBlankLine line) ∧ HeaderLines lines ∧ LastSays lines length ∧
        OnlyLineEnds blank ∧ TakesLine ended blank rest := by
  constructor
  · intro shape
    obtain ⟨blanks, lines, blank, whole, allBlank, -, some, counts, only, takes⟩ := shape
    obtain ⟨headerLines, last | ⟨none, -⟩⟩ := counts_iff.mp counts
    · exact ⟨blanks, lines, blank, whole, allBlank, headerLines, last, only, takes⟩
    · cases none
  · intro given
    obtain ⟨blanks, lines, blank, whole, allBlank, headerLines, last, only, takes⟩ := given
    exact ⟨blanks, lines, blank, whole, allBlank, by simp, fun _ => last.ne_nil,
      counts_iff.mpr ⟨headerLines, Or.inl last⟩, only, takes⟩

theorem readHeader_eq_body_iff {ended : Bool} {input rest : List UInt8} {length : Nat} :
    readHeader ended (input.length + 1) false none input = .body length rest ↔
      HeaderShape ended false none input length rest :=
  ⟨headerShape_of_readHeader, fun shape => readHeader_of_headerShape shape (Nat.lt_succ_self _)⟩

theorem asksTooMuch_iff {ended : Bool} {input : List UInt8} :
    AsksTooMuch ended input ↔ ∃ length rest,
      readHeader ended (input.length + 1) false none input = .body length rest ∧
        maxBody < length := by
  simp only [readHeader_eq_body_iff, headerShape_start_iff]
  constructor
  · intro asks
    obtain ⟨blanks, lines, blank, rest, length, whole, allBlank, all, last, only, takes, long⟩ :=
      asks
    exact ⟨length, rest, ⟨blanks, lines, blank, whole, allBlank, all, last, only, takes⟩, long⟩
  · intro given
    obtain ⟨length, rest, ⟨blanks, lines, blank, whole, allBlank, all, last, only, takes⟩, long⟩ :=
      given
    exact ⟨blanks, lines, blank, rest, length, whole, allBlank, all, last, only, takes, long⟩

theorem read_of_body {ended : Bool} {input rest : List UInt8} {length : Nat}
    (header : readHeader ended (input.length + 1) false none input = .body length rest) :
    read ended input =
      if maxBody < length then .noRoom
      else if rest.length < length then (if ended then .fault .endInBody [] else .more)
      else
        match Json.parse (rest.take length) with
        | .ok value => .message value (rest.drop length)
        | .error error => .fault (.badBody error) (rest.drop length) := by
  have short : (rest.take length).length < length ↔ rest.length < length := by
    rw [List.length_take]
    omega
  by_cases cut : rest.length < length
  · simp only [read, header, short, if_pos cut]
  · cases parsed : Json.parse (rest.take length) with
    | ok value => simp only [read, header, short, if_neg cut, parsed]
    | error error => simp only [read, header, short, if_neg cut, parsed]

theorem read_eq_noRoom_iff {ended : Bool} {input : List UInt8} :
    read ended input = .noRoom ↔ AsksTooMuch ended input := by
  rw [asksTooMuch_iff]
  cases header : readHeader ended (input.length + 1) false none input with
  | done => simp [read, header]
  | more => simp [read, header]
  | fault => simp [read, header]
  | body length rest =>
    rw [read_of_body header]
    constructor
    · intro noRoom
      by_cases long : maxBody < length
      · exact ⟨length, rest, rfl, long⟩
      · rw [if_neg long] at noRoom
        split at noRoom
        · split at noRoom <;> cases noRoom
        · split at noRoom <;> cases noRoom
    · intro given
      obtain ⟨length', rest', same, long⟩ := given
      cases same
      rw [if_pos long]

theorem readHeader_of_parts {blanks lines : List (List UInt8)} {blank body : List UInt8}
    (allBlank : ∀ line ∈ blanks, IsBlankLine line) (headerLines : HeaderLines lines)
    (last : LastSays lines body.length) (isBlank : IsBlankLine blank) (ended : Bool)
    (rest : List UInt8) :
    readHeader ended ((blanks.flatten ++ lines.flatten ++ blank ++ body ++ rest).length + 1) false
        none (blanks.flatten ++ lines.flatten ++ blank ++ body ++ rest) =
      .body body.length (body ++ rest) :=
  readHeader_eq_body_iff.mpr (headerShape_start_iff.mpr ⟨blanks, lines, blank, by simp, allBlank,
    headerLines, last, isBlank.2, Or.inl isBlank.1⟩)

theorem IsFrame.readHeader {frame : List UInt8} {value : Json} (isFrame : IsFrame frame value) :
    ∃ body, Json.parse body = .ok value ∧ ∀ ended rest,
      readHeader ended ((frame ++ rest).length + 1) false none (frame ++ rest) =
        .body body.length (body ++ rest) := by
  obtain ⟨blanks, lines, blank, body, rfl, allBlank, headerLines, last, isBlank, parsed⟩ := isFrame
  exact ⟨body, parsed, readHeader_of_parts allBlank headerLines last isBlank⟩

theorem isReadable_of_parts {blanks lines : List (List UInt8)} {blank body : List UInt8}
    {value : Json} (allBlank : ∀ line ∈ blanks, IsBlankLine line)
    (headerLines : HeaderLines lines) (last : LastSays lines body.length)
    (isBlank : IsBlankLine blank) (parsed : Json.parse body = .ok value)
    (fits : body.length ≤ maxBody) :
    IsReadable (blanks.flatten ++ lines.flatten ++ blank ++ body) value := by
  refine ⟨⟨blanks, lines, blank, body, rfl, allBlank, headerLines, last, isBlank, parsed⟩, ?_⟩
  have header := readHeader_of_parts allBlank headerLines last isBlank true []
  rw [List.append_nil, List.append_nil] at header
  rw [asksTooMuch_iff, header]
  intro asks
  obtain ⟨length, rest, same, long⟩ := asks
  cases same
  exact absurd fits (Nat.not_le_of_lt long)

theorem IsFrame.asksTooMuch_append {frame : List UInt8} {value : Json}
    (isFrame : IsFrame frame value) (ended : Bool) (rest : List UInt8) :
    AsksTooMuch ended (frame ++ rest) ↔ AsksTooMuch true frame := by
  obtain ⟨body, -, header⟩ := isFrame.readHeader
  have alone := header true []
  rw [List.append_nil, List.append_nil] at alone
  rw [asksTooMuch_iff, asksTooMuch_iff, header ended rest, alone]
  constructor
  · intro given
    obtain ⟨length, left, same, long⟩ := given
    cases same
    exact ⟨_, _, rfl, long⟩
  · intro given
    obtain ⟨length, left, same, long⟩ := given
    cases same
    exact ⟨_, _, rfl, long⟩

theorem isFrame_of_read {ended : Bool} {input rest : List UInt8} {value : Json}
    (message : read ended input = .message value rest) :
    ∃ frame, input = frame ++ rest ∧ IsFrame frame value := by
  cases header : readHeader ended (input.length + 1) false none input with
  | done => simp [read, header] at message
  | more => simp [read, header] at message
  | fault => simp [read, header] at message
  | body length body =>
    rw [read_of_body header] at message
    split at message
    · cases message
    split at message
    · split at message <;> cases message
    rename_i long
    cases parsed : Json.parse (body.take length) with
    | error => simp [parsed] at message
    | ok found =>
      simp only [parsed, Reading.message.injEq] at message
      obtain ⟨rfl, rfl⟩ := message
      obtain ⟨blanks, lines, blank, rfl, allBlank, headerLines, last, only, takes⟩ :=
        headerShape_start_iff.mp (readHeader_eq_body_iff.mp header)
      have notEmpty : body ≠ [] := by
        intro equal
        subst equal
        exact parse_nil_ne_ok found (by simpa using parsed)
      have size : (body.take length).length = length := by
        rw [List.length_take]
        omega
      refine ⟨blanks.flatten ++ lines.flatten ++ blank ++ body.take length, by simp, blanks,
        lines, blank, body.take length, rfl, allBlank, headerLines, ?_,
        ⟨takes.isLine notEmpty, only⟩, parsed⟩
      rwa [size]

theorem isReadable_of_read {ended : Bool} {input rest : List UInt8} {value : Json}
    (message : read ended input = .message value rest) :
    ∃ frame, input = frame ++ rest ∧ IsReadable frame value := by
  obtain ⟨frame, rfl, isFrame⟩ := isFrame_of_read message
  refine ⟨frame, rfl, isFrame, fun asks => ?_⟩
  rw [read_eq_noRoom_iff.mpr ((isFrame.asksTooMuch_append ended rest).mpr asks)] at message
  cases message

theorem read_of_isFrame {ended : Bool} {frame rest : List UInt8} {value : Json}
    (isFrame : IsFrame frame value) (room : ¬ AsksTooMuch ended (frame ++ rest)) :
    read ended (frame ++ rest) = .message value rest := by
  obtain ⟨body, parsed, header⟩ := isFrame.readHeader
  have fits : ¬ maxBody < body.length := fun long =>
    room (asksTooMuch_iff.mpr ⟨_, _, header ended rest, long⟩)
  have long : ¬ (body ++ rest).length < body.length := by simp
  rw [read_of_body (header ended rest), if_neg fits, if_neg long]
  simp [parsed]

theorem IsReadable.read {ended : Bool} {frame rest : List UInt8} {value : Json}
    (readable : IsReadable frame value) : read ended (frame ++ rest) = .message value rest :=
  read_of_isFrame readable.1 fun asks =>
    readable.2 ((readable.1.asksTooMuch_append ended rest).mp asks)

theorem IsFrame.ne_nil {frame : List UInt8} {value : Json} (isFrame : IsFrame frame value) :
    frame ≠ [] := by
  obtain ⟨blanks, lines, blank, body, rfl, -, -, -, isBlank, -⟩ := isFrame
  simp [isBlank.1.ne_nil]

theorem read_eq_done_iff {input : List UInt8} : read true input = .done ↔ OnlyLineEnds input := by
  have header : readHeader true (input.length + 1) false none input = .done ↔
      false = false ∧ OnlyLineEnds input :=
    readHeader_eq_done_iff (Nat.lt_succ_self input.length)
  simp only [true_and] at header
  rw [← header]
  cases found : readHeader true (input.length + 1) false none input with
  | done => simp [read, found]
  | more => simp [read, found]
  | fault => simp [read, found]
  | body length rest =>
    rw [read_of_body found]
    constructor
    · intro done
      split at done
      · cases done
      split at done
      · cases done
      · split at done <;> cases done
    · intro done
      cases done

end CodeGateway.Frame
