import CodeGateway.Proofs.FrameGrammar
import CodeGateway.Proofs.PrintedJson

namespace CodeGateway.Frame

/-- A message that can be written and read again: memory has room for its text, which nests no
    deeper than is read. -/
structure Sendable (message : Json) : Prop where
  plain : Json.Plain Json.maxDepth message
  fits : message.renderBytes.length ≤ maxBody

def blankLines (count : Nat) : List UInt8 :=
  (List.replicate count [0x0D, 0x0A]).flatten

/-- Messages, each behind as many blank lines as the number in front of it says. -/
def stream (messages : List (Nat × Json)) : List UInt8 :=
  messages.flatMap fun message => blankLines message.1 ++ encode message.2

def lengthLine (length : Nat) : List Char :=
  "Content-Length: ".toList ++ Decimal.digitText length ++ ['\r', '\n']

theorem header_eq (length : Nat) : header length = lengthLine length ++ ['\r', '\n'] := by
  unfold header lengthLine Decimal.digitText
  generalize "Content-Length: ".toList = label
  simp

theorem encode_eq (message : Json) :
    encode message = Utf8.encode (lengthLine message.renderBytes.length) ++ [0x0D, 0x0A] ++
      message.renderBytes := by
  have ends : Utf8.encode ['\r', '\n'] = [0x0D, 0x0A] := by decide
  rw [encode, header_eq, Json.encode_append, ends]

theorem feed_not_mem_encode {text : List Char} (clean : '\n' ∉ text) : 0x0A ∉ Utf8.encode text := by
  intro among
  obtain ⟨c, inside, byte⟩ := List.mem_flatMap.mp among
  have code : c.toNat = 0x0A := Utf8.toNat_eq_of_mem_encodeChar byte (by decide)
  have feed : c = '\n' := by
    rw [← Char.ofNat_toNat c, code]
  exact clean (feed ▸ inside)

theorem ne_of_isDigit {c other : Char} (digit : c.isDigit = true)
    (notDigit : other.isDigit = false) : c ≠ other := by
  intro equal
  subst equal
  rw [notDigit] at digit
  cases digit

theorem isLine_lengthLine (length : Nat) : IsLine (Utf8.encode (lengthLine length)) := by
  have split : lengthLine length =
      ("Content-Length: ".toList ++ Decimal.digitText length ++ ['\r']) ++ ['\n'] := by
    rw [List.append_assoc (_ ++ _)]
    rfl
  have feed : Utf8.encode ['\n'] = [0x0A] := by decide
  refine ⟨Utf8.encode ("Content-Length: ".toList ++ Decimal.digitText length ++ ['\r']),
    by rw [split, Json.encode_append, feed], feed_not_mem_encode ?_⟩
  have inLabel : '\n' ∉ "Content-Length: ".toList := by decide
  have inDigits : '\n' ∉ Decimal.digitText length := fun among =>
    ne_of_isDigit (Json.isDigit_of_mem_digitText among) (by decide) rfl
  have inEnd : '\n' ∉ ['\r'] := by decide
  rw [List.mem_append, List.mem_append, not_or, not_or]
  exact ⟨⟨inLabel, inDigits⟩, inEnd⟩

theorem label_eq : "Content-Length: ".toList = "Content-Length".toList ++ [':', ' '] := by
  decide

theorem lengthLine_eq (length : Nat) :
    lengthLine length =
      "Content-Length".toList ++ ':' :: ' ' :: (Decimal.digitText length ++ ['\r', '\n']) := by
  unfold lengthLine
  rw [label_eq]
  generalize "Content-Length".toList = name
  simp

theorem splits_lengthLine (length : Nat) :
    Splits (lengthLine length) "Content-Length".toList
      (' ' :: (Decimal.digitText length ++ ['\r', '\n'])) :=
  ⟨lengthLine_eq length, by decide⟩

theorem map_toLower_label : "Content-Length".toList.map Char.toLower = lengthName := by
  decide +kernel

theorem isLengthName_label : IsLengthName "Content-Length".toList := by
  refine ⟨_, ⟨[], [], ?_, by simp, by simp⟩, map_toLower_label⟩
  rw [List.nil_append, List.append_nil]

theorem givesLength_lengthLine {length : Nat} (fits : length < 0x10000000000000000) :
    GivesLength (Utf8.encode (lengthLine length)) length := by
  refine ⟨_, _, _, rfl, splits_lengthLine length, isLengthName_label, ?_⟩
  have value : Nat.ofDigitChars 10 (Decimal.digitText length) 0 = length :=
    Nat.ofDigitChars_ten_toDigits
  have padded : Text.Padded ([] ++ Decimal.digitText length)
      (' ' :: (Decimal.digitText length ++ ['\r', '\n'])) :=
    ⟨[' '], ['\r', '\n'], by simp, by simp [Text.isBlank], by simp [Text.isBlank]⟩
  exact ⟨[], Decimal.digitText length, padded, Or.inl rfl, Nat.toDigits_ne_nil,
    fun c => Json.isDigit_of_mem_digitText, value, fits⟩

theorem GivesLength.notBlank {line : List UInt8} {length : Nat} (gives : GivesLength line length) :
    ¬ OnlyLineEnds line := by
  intro only
  obtain ⟨text, name, value, rfl, parts, -⟩ := gives
  have colon := onlyLineEnds_encode.mp only ':' (by simp [parts.1])
  exact absurd colon (by decide)

theorem isBlankLine_crlf : IsBlankLine [0x0D, 0x0A] :=
  ⟨⟨[0x0D], rfl, by decide⟩, by simp [OnlyLineEnds]⟩

theorem isReadable_encode {message : Json} (sendable : Sendable message) (blanks : Nat) :
    IsReadable (blankLines blanks ++ encode message) message := by
  have gives := givesLength_lengthLine (Nat.lt_of_le_of_lt sendable.fits (by decide))
  have parts : blankLines blanks ++ encode message =
      (List.replicate blanks [0x0D, 0x0A]).flatten ++
        [Utf8.encode (lengthLine message.renderBytes.length)].flatten ++ [0x0D, 0x0A] ++
          message.renderBytes := by
    rw [encode_eq]
    simp [blankLines]
  rw [parts]
  refine isReadable_of_parts ?_ ?_ ?_ isBlankLine_crlf (Json.parse_renderBytes sendable.plain)
    sendable.fits
  · intro line among
    rw [(List.mem_replicate.mp among).2]
    exact isBlankLine_crlf
  · intro line among
    rw [List.mem_singleton.mp among]
    exact ⟨⟨isLine_lengthLine _, gives.notBlank, _, rfl⟩, fun _ => ⟨_, gives⟩⟩
  · exact ⟨[], _, [], rfl, gives, by simp⟩

theorem onlyLineEnds_blankLines (count : Nat) : OnlyLineEnds (blankLines count) := by
  intro byte among
  obtain ⟨line, inside, among⟩ := List.mem_flatten.mp among
  rw [(List.mem_replicate.mp inside).2] at among
  simpa using among

theorem stream_cons (blanks : Nat) (message : Json) (messages : List (Nat × Json)) :
    stream ((blanks, message) :: messages) =
      (blankLines blanks ++ encode message) ++ stream messages := by
  simp [stream]

theorem readAllFrom_stream {messages : List (Nat × Json)}
    (sendable : ∀ message ∈ messages, Sendable message.2) (after : Nat) (done : List Json)
    {fuel : Nat} (enough : (stream messages ++ blankLines after).length < fuel) :
    readAllFrom true fuel done (stream messages ++ blankLines after) =
      (done.reverse ++ messages.map Prod.snd, .done, []) := by
  induction messages generalizing fuel done with
  | nil =>
    obtain ⟨fuel, rfl⟩ := Nat.exists_eq_succ_of_ne_zero (Nat.ne_of_gt (Nat.zero_lt_of_lt enough))
    have nothing : read true (stream [] ++ blankLines after) = .done :=
      read_eq_done_iff.mpr (onlyLineEnds_blankLines after)
    rw [readAllFrom, nothing]
    simp
  | cons first messages ih =>
    obtain ⟨blanks, message⟩ := first
    obtain ⟨fuel, rfl⟩ := Nat.exists_eq_succ_of_ne_zero (Nat.ne_of_gt (Nat.zero_lt_of_lt enough))
    have readable := isReadable_encode (sendable (blanks, message) (by simp)) blanks
    have positive := List.length_pos_iff.mpr readable.1.ne_nil
    rw [stream_cons, List.append_assoc] at enough ⊢
    rw [readAllFrom, readable.read]
    rw [List.length_append] at enough
    have fewer : (stream messages ++ blankLines after).length < fuel := by
      simp only at positive
      omega
    have later := ih (fun other among => sendable other (by simp [among])) (message :: done) fewer
    simpa using later

/-- What was written is read: every message once, in the order of writing, whatever blank lines
    stand in front of the frames and behind the last of them. Then the bytes are at their end. -/
theorem readAll_stream {messages : List (Nat × Json)}
    (sendable : ∀ message ∈ messages, Sendable message.2) (after : Nat) :
    readAll true (stream messages ++ blankLines after) = (messages.map Prod.snd, .done, []) :=
  readAllFrom_stream sendable after [] (Nat.lt_succ_self _)

/-- A text that looks like a header, with line ends, quotes, a control character and characters of
    two to four bytes, and the least and the greatest of the numbers. -/
def awkward : Json :=
  .object [("Content-Length: 2\r\n\r\n\x7b\x7d", .string "\"\\\r\n\u0001é日😀"),
    ("numbers", .array [.int (-0x8000000000000000), .int 0xFFFFFFFFFFFFFFFF, .null, .bool true])]

theorem plain_awkward : Json.Plain Json.maxDepth awkward := by
  refine .object (by decide) ?_
  intro member among
  rcases List.mem_cons.mp among with rfl | among
  · exact .string _
  · rw [List.mem_singleton.mp among]
    refine .array ?_
    intro item inside
    simp only [List.mem_cons, List.not_mem_nil, or_false] at inside
    rcases inside with rfl | rfl | rfl | rfl
    · exact .int (by decide)
    · exact .int (by decide)
    · exact .null
    · exact .bool true

theorem readAll_stream_awkward :
    Sendable awkward ∧ Sendable .null ∧
      readAll true (stream [(1, awkward), (0, .null), (3, awkward)] ++ blankLines 2) =
        ([awkward, .null, awkward], .done, []) := by
  have first : Sendable awkward := ⟨plain_awkward, by decide +kernel⟩
  have second : Sendable .null := ⟨.null, by decide +kernel⟩
  refine ⟨first, second, readAll_stream ?_ 2⟩
  intro message among
  simp only [List.mem_cons, List.not_mem_nil, or_false] at among
  rcases among with rfl | rfl | rfl
  · exact first
  · exact second
  · exact first

end CodeGateway.Frame
