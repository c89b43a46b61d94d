import CodeGateway.Proofs.Utf8
import CodeGateway.Url.PathText

namespace CodeGateway.Url

theorem hexValue?_upperHexDigit : ∀ n < 16, hexValue? (upperHexDigit n) = some n := by
  decide

theorem percentDecode_percentByte (byte : UInt8) (rest : List Char) :
    percentDecode (percentByte byte ++ rest) = byte :: percentDecode rest := by
  have bound := byte.toNat_lt
  have high := hexValue?_upperHexDigit (byte.toNat / 16) (by omega)
  have low := hexValue?_upperHexDigit (byte.toNat % 16) (by omega)
  have whole : byte.toNat / 16 * 16 + byte.toNat % 16 = byte.toNat := by omega
  simp only [percentByte, List.cons_append, List.nil_append, percentDecode, high, low, whole,
    UInt8.ofNat_toNat]

theorem percentDecode_flatMap (bytes : List UInt8) (rest : List Char) :
    percentDecode (bytes.flatMap percentByte ++ rest) = bytes ++ percentDecode rest := by
  induction bytes with
  | nil => rfl
  | cons byte bytes ih =>
    rw [List.flatMap_cons, List.append_assoc, percentDecode_percentByte, ih, List.cons_append]

theorem percentDecode_cons {c : Char} (notPercent : c ≠ '%') (rest : List Char) :
    percentDecode (c :: rest) = Utf8.encodeChar c ++ percentDecode rest := by
  rw [percentDecode]
  intro high low more same
  exact absurd same notPercent

theorem percentDecode_percentEncode_append {set : EncodeSet} (percent : isEncoded set '%' = true)
    (text rest : List Char) :
    percentDecode (percentEncode set text ++ rest) = Utf8.encode text ++ percentDecode rest := by
  induction text with
  | nil => rfl
  | cons c text ih =>
    rw [percentEncode, List.flatMap_cons, ← percentEncode, Utf8.encode, List.flatMap_cons,
      ← Utf8.encode, List.append_assoc, List.append_assoc, encodeChar]
    split
    · rw [percentDecode_flatMap, ih]
    · rename_i plain
      have notPercent : c ≠ '%' := by
        intro same
        subst same
        exact plain percent
      rw [List.singleton_append, percentDecode_cons notPercent, ih]

theorem percentDecode_percentEncode {set : EncodeSet} (percent : isEncoded set '%' = true)
    (text : List Char) : percentDecode (percentEncode set text) = Utf8.encode text := by
  have read := percentDecode_percentEncode_append percent text []
  rwa [List.append_nil, percentDecode, List.append_nil] at read

/-- A character that a path keeps and that parts nothing. -/
structure Settled (c : Char) : Prop where
  kept : isEncoded pathSet c = false
  notSlash : c ≠ '/'
  notBackslash : c ≠ '\\'

theorem settled_upperHexDigit : ∀ n < 16, isEncoded pathSet (upperHexDigit n) = false ∧
    upperHexDigit n ≠ '/' ∧ upperHexDigit n ≠ '\\' := by
  decide

theorem settled_of_not_encoded {c : Char} (plain : isEncoded segmentSet c = false) : Settled c := by
  simp only [isEncoded, segmentSet, Bool.or_eq_false_iff, List.contains_eq_mem,
    decide_eq_false_iff_not, List.mem_append, not_or, List.mem_cons, List.not_mem_nil,
    not_false_eq_true,
    and_true] at plain
  obtain ⟨⟨low, high⟩, notPath, notSlash, -, notBackslash⟩ := plain
  refine ⟨?_, notSlash, notBackslash⟩
  simp only [isEncoded, Bool.or_eq_false_iff, List.contains_eq_mem, decide_eq_false_iff_not]
  exact ⟨⟨low, high⟩, notPath⟩

theorem settled_of_mem_percentEncode {c : Char} {segment : List Char}
    (among : c ∈ percentEncode segmentSet segment) : Settled c := by
  obtain ⟨plain, -, among⟩ := List.mem_flatMap.mp among
  unfold encodeChar at among
  split at among
  · obtain ⟨byte, -, among⟩ := List.mem_flatMap.mp among
    have bound := byte.toNat_lt
    simp only [percentByte, List.mem_cons, List.not_mem_nil, or_false] at among
    rcases among with rfl | rfl | rfl
    · exact ⟨by decide, by decide, by decide⟩
    · obtain ⟨kept, notSlash, notBackslash⟩ := settled_upperHexDigit (byte.toNat / 16) (by omega)
      exact ⟨kept, notSlash, notBackslash⟩
    · obtain ⟨kept, notSlash, notBackslash⟩ := settled_upperHexDigit (byte.toNat % 16) (by omega)
      exact ⟨kept, notSlash, notBackslash⟩
  · rename_i notEncoded
    rw [List.mem_singleton.mp among]
    exact settled_of_not_encoded (Bool.not_eq_true _ ▸ notEncoded)

theorem Settled.bounds {c : Char} (settled : Settled c) : 0x20 < c.toNat ∧ c.toNat < 0x7F := by
  have kept := settled.kept
  simp only [isEncoded, Bool.or_eq_false_iff, List.contains_eq_mem, decide_eq_false_iff_not] at kept
  obtain ⟨⟨low, high⟩, notIn⟩ := kept
  have notSpace : c.toNat ≠ 0x20 := by
    intro same
    have space : c = ' ' := by
      rw [← Char.ofNat_toNat c, same]
    exact notIn (by rw [space]; decide)
  omega

theorem Settled.ne_of_encoded {c other : Char} (settled : Settled c)
    (encoded : isEncoded pathSet other = true) : c ≠ other := by
  intro same
  subst same
  rw [settled.kept] at encoded
  cases encoded

theorem percentEncode_of_settled {text : List Char} (settled : ∀ c ∈ text, Settled c) :
    percentEncode pathSet text = text := by
  induction text with
  | nil => rfl
  | cons c text ih =>
    have kept := (settled c (by simp)).kept
    have rest := ih fun other among => settled other (by simp [among])
    rw [percentEncode, List.flatMap_cons, ← percentEncode, rest, encodeChar, kept]
    rfl

theorem toLower_cases (c : Char) :
    c.toLower = c ∨ 65 ≤ c.toNat ∧ c.toNat ≤ 90 ∧ c.toLower.toNat = c.toNat + 32 := by
  have letters : ∀ n < 91, 65 ≤ n → (Char.ofNat n).toLower.toNat = n + 32 := by decide
  by_cases upper : c.val ≥ 'A'.val ∧ c.val ≤ 'Z'.val
  · have low : 65 ≤ c.toNat := upper.1
    have high : c.toNat ≤ 90 := upper.2
    have lower := letters c.toNat (by omega) low
    rw [Char.ofNat_toNat] at lower
    exact Or.inr ⟨low, high, lower⟩
  · exact Or.inl (dif_neg upper)

theorem eq_of_toLower {c d : Char} (lower : c.toLower = d) (notLetter : d.toNat < 97) : c = d := by
  rcases toLower_cases c with same | ⟨low, -, sum⟩
  · exact same.symm.trans lower
  · rw [lower] at sum
    omega

theorem hexValue?_of_toLower {c : Char} (lower : c.toLower = 'e') : hexValue? c = some 0xE := by
  rcases toLower_cases c with same | ⟨-, -, sum⟩
  · rw [same.symm.trans lower]
    decide
  · have code : c.toNat = 69 := by
      rw [lower] at sum
      have value : 'e'.toNat = 101 := rfl
      omega
    rw [← Char.ofNat_toNat c, code]
    decide

theorem exists_percentDecode_dot {segment more : List Char}
    (lower : segment.map Char.toLower = '.' :: more ∨
      segment.map Char.toLower = '%' :: '2' :: 'e' :: more) :
    ∃ rest, percentDecode segment = 0x2E :: percentDecode rest ∧ rest.map Char.toLower = more := by
  rcases lower with lower | lower
  · obtain ⟨c, rest, rfl, dot, tail⟩ := List.map_eq_cons_iff.mp lower
    obtain rfl := eq_of_toLower dot (by decide)
    exact ⟨rest, percentDecode_cons (by decide) rest, tail⟩
  · obtain ⟨c, digits, rfl, percent, second⟩ := List.map_eq_cons_iff.mp lower
    obtain ⟨d, digit, rfl, two, third⟩ := List.map_eq_cons_iff.mp second
    obtain ⟨e, rest, rfl, letter, tail⟩ := List.map_eq_cons_iff.mp third
    obtain rfl := eq_of_toLower percent (by decide)
    obtain rfl := eq_of_toLower two (by decide)
    have high : hexValue? '2' = some 2 := by decide
    refine ⟨rest, ?_, tail⟩
    simp only [percentDecode, high, hexValue?_of_toLower letter]
    rfl

theorem percentDecode_of_isSingleDot {segment : List Char} (dot : isSingleDot segment = true) :
    percentDecode segment = [0x2E] := by
  have lower : segment.map Char.toLower = ['.'] ∨ segment.map Char.toLower = ['%', '2', 'e'] := by
    simp only [isSingleDot, Bool.or_eq_true, beq_iff_eq] at dot
    rcases dot with rfl | lower
    · exact Or.inl rfl
    · exact Or.inr lower
  obtain ⟨rest, read, none⟩ := exists_percentDecode_dot lower
  obtain rfl := List.map_eq_nil_iff.mp none
  exact read

theorem percentDecode_of_isDoubleDot {segment : List Char} (dots : isDoubleDot segment = true) :
    percentDecode segment = [0x2E, 0x2E] := by
  have lower : ∃ more, (segment.map Char.toLower = '.' :: more ∨
      segment.map Char.toLower = '%' :: '2' :: 'e' :: more) ∧
      (more = ['.'] ∨ more = ['%', '2', 'e']) := by
    simp only [isDoubleDot, Bool.or_eq_true, beq_iff_eq] at dots
    rcases dots with ((lower | lower) | lower) | lower
    · exact ⟨_, Or.inl lower, Or.inl rfl⟩
    · exact ⟨_, Or.inl lower, Or.inr rfl⟩
    · exact ⟨_, Or.inr lower, Or.inl rfl⟩
    · exact ⟨_, Or.inr lower, Or.inr rfl⟩
  obtain ⟨more, first, second⟩ := lower
  obtain ⟨rest, read, remains⟩ := exists_percentDecode_dot first
  rw [← remains] at second
  obtain ⟨rest', read', none⟩ := exists_percentDecode_dot second
  obtain rfl := List.map_eq_nil_iff.mp none
  rw [read, read']
  rfl

theorem isDoubleDot_percentEncode {segment : List Char} :
    isDoubleDot (percentEncode segmentSet segment) = true ↔ segment = ['.', '.'] := by
  constructor
  · intro dots
    have read := percentDecode_of_isDoubleDot dots
    rw [percentDecode_percentEncode (by decide)] at read
    exact Utf8.encode_injective read
  · intro same
    subst same
    decide

theorem isSingleDot_percentEncode {segment : List Char} :
    isSingleDot (percentEncode segmentSet segment) = true ↔ segment = ['.'] := by
  constructor
  · intro dot
    have read := percentDecode_of_isSingleDot dot
    rw [percentDecode_percentEncode (by decide)] at read
    exact Utf8.encode_injective read
  · intro same
    subst same
    decide

end CodeGateway.Url
