import CodeGateway.Text.Utf8

namespace CodeGateway.Utf8

theorem toNat_ofNat {n : Nat} (valid : n.isValidChar) : (Char.ofNat n).toNat = n := by
  have same : Char.ofNat n = Char.ofNatAux n valid := dif_pos valid
  rw [same]
  rfl

theorem encodeChar_one {first : UInt8} (small : first.toNat < 0x80) :
    encodeChar (Char.ofNat first.toNat) = [first] := by
  have value := toNat_ofNat (n := first.toNat) (Or.inl (by omega))
  simp [encodeChar, value, small]

theorem encodeChar_two {first second : UInt8} (low : 0xC2 ≤ first.toNat)
    (high : first.toNat < 0xE0) (tailLow : 0x80 ≤ second.toNat) (tailHigh : second.toNat ≤ 0xBF) :
    encodeChar (Char.ofNat ((first.toNat - 0xC0) * 64 + (second.toNat - 0x80))) =
      [first, second] := by
  generalize codeEq : (first.toNat - 0xC0) * 64 + (second.toNat - 0x80) = code
  have value := toNat_ofNat (n := code) (Or.inl (by omega))
  have notOne : ¬ code < 0x80 := by omega
  have two : code < 0x800 := by omega
  simp only [encodeChar, value, notOne, two, ↓reduceIte, List.cons.injEq, and_true]
  constructor <;> apply UInt8.toNat_inj.mp <;> rw [UInt8.toNat_ofNat'] <;> omega

theorem secondFits_bounds {first second : Nat} (fits : secondFits first second = true) :
    0x80 ≤ second ∧ second ≤ 0xBF ∧ (first = 0xE0 → 0xA0 ≤ second) ∧
      (first = 0xF0 → 0x90 ≤ second) ∧ (first = 0xED → second ≤ 0x9F) ∧
      (first = 0xF4 → second ≤ 0x8F) := by
  simp only [secondFits, Bool.and_eq_true, decide_eq_true_eq, beq_iff_eq] at fits
  obtain ⟨low, high⟩ := fits
  split at low <;> split at high <;> grind

theorem tailBits_eq_some {byte bits : Nat} (h : tailBits byte = some bits) :
    0x80 ≤ byte ∧ byte ≤ 0xBF ∧ bits = byte - 0x80 := by
  simp only [tailBits] at h
  split at h
  · rename_i inside
    simp only [Bool.and_eq_true, decide_eq_true_eq] at inside
    exact ⟨inside.1, inside.2, (Option.some.inj h).symm⟩
  · cases h

theorem encodeChar_three {first second third : UInt8} (low : 0xE0 ≤ first.toNat)
    (high : first.toNat < 0xF0) (fits : secondFits first.toNat second.toNat = true)
    (tailLow : 0x80 ≤ third.toNat) (tailHigh : third.toNat ≤ 0xBF) :
    encodeChar (Char.ofNat (((first.toNat - 0xE0) * 64 + (second.toNat - 0x80)) * 64 +
      (third.toNat - 0x80))) = [first, second, third] := by
  obtain ⟨secondLow, secondHigh, longForm, -, surrogate, -⟩ := secondFits_bounds fits
  generalize codeEq : ((first.toNat - 0xE0) * 64 + (second.toNat - 0x80)) * 64 +
      (third.toNat - 0x80) = code
  have long : 0x800 ≤ code := by
    by_cases lead : first.toNat = 0xE0
    · have := longForm lead
      omega
    · omega
  have valid : code.isValidChar := by
    by_cases lead : first.toNat = 0xED
    · have := surrogate lead
      exact Or.inl (by omega)
    · unfold Nat.isValidChar
      omega
  have value := toNat_ofNat valid
  have notOne : ¬ code < 0x80 := by omega
  have notTwo : ¬ code < 0x800 := by omega
  have three : code < 0x10000 := by omega
  simp only [encodeChar, value, notOne, notTwo, three, ↓reduceIte, List.cons.injEq, and_true]
  refine ⟨?_, ?_, ?_⟩ <;> apply UInt8.toNat_inj.mp <;> rw [UInt8.toNat_ofNat'] <;> omega

theorem encodeChar_four {first second third fourth : UInt8} (low : 0xF0 ≤ first.toNat)
    (high : first.toNat ≤ 0xF4) (fits : secondFits first.toNat second.toNat = true)
    (thirdLow : 0x80 ≤ third.toNat) (thirdHigh : third.toNat ≤ 0xBF)
    (fourthLow : 0x80 ≤ fourth.toNat) (fourthHigh : fourth.toNat ≤ 0xBF) :
    encodeChar (Char.ofNat ((((first.toNat - 0xF0) * 64 + (second.toNat - 0x80)) * 64 +
      (third.toNat - 0x80)) * 64 + (fourth.toNat - 0x80))) = [first, second, third, fourth] := by
  obtain ⟨secondLow, secondHigh, -, longForm, -, bound⟩ := secondFits_bounds fits
  generalize codeEq : (((first.toNat - 0xF0) * 64 + (second.toNat - 0x80)) * 64 +
      (third.toNat - 0x80)) * 64 + (fourth.toNat - 0x80) = code
  have long : 0x10000 ≤ code := by
    by_cases lead : first.toNat = 0xF0
    · have := longForm lead
      omega
    · omega
  have valid : code.isValidChar := by
    unfold Nat.isValidChar
    by_cases lead : first.toNat = 0xF4
    · have := bound lead
      omega
    · omega
  have value := toNat_ofNat valid
  have notOne : ¬ code < 0x80 := by omega
  have notTwo : ¬ code < 0x800 := by omega
  have notThree : ¬ code < 0x10000 := by omega
  simp only [encodeChar, value, notOne, notTwo, notThree, ↓reduceIte, List.cons.injEq, and_true]
  refine ⟨?_, ?_, ?_, ?_⟩ <;> apply UInt8.toNat_inj.mp <;> rw [UInt8.toNat_ofNat'] <;> omega

theorem encodeChar_of_lead {byte : UInt8} {rest : List UInt8} {c : Char} {size : Nat}
    (read : lead byte rest = .char c size) :
    ∃ tail, byte :: rest = encodeChar c ++ tail ∧ (encodeChar c).length = size := by
  unfold lead at read
  dsimp only at read
  split at read
  · rename_i small
    obtain ⟨rfl, rfl⟩ := Lead.char.inj read
    exact ⟨rest, by rw [encodeChar_one small]; rfl, by rw [encodeChar_one small]; rfl⟩
  split at read
  · cases read
  rename_i notSmall inside
  simp only [Bool.or_eq_true, decide_eq_true_eq, not_or] at inside
  cases rest with
  | nil => cases read
  | cons second rest =>
    dsimp only at read
    split at read
    · cases read
    rename_i fits
    simp only [Bool.not_eq_true', Bool.not_eq_false] at fits
    obtain ⟨secondLow, secondHigh, -⟩ := secondFits_bounds fits
    split at read
    · obtain ⟨rfl, rfl⟩ := Lead.char.inj read
      rw [encodeChar_two (by omega) (by omega) secondLow secondHigh]
      exact ⟨rest, rfl, rfl⟩
    cases rest with
    | nil => cases read
    | cons third rest =>
      cases thirdRead : tailBits third.toNat with
      | none => simp [thirdRead] at read
      | some bits3 =>
        obtain ⟨thirdLow, thirdHigh, thirdBits⟩ := tailBits_eq_some thirdRead
        simp only [thirdRead, thirdBits] at read
        split at read
        · obtain ⟨rfl, rfl⟩ := Lead.char.inj read
          rw [encodeChar_three (by omega) (by omega) fits thirdLow thirdHigh]
          exact ⟨rest, rfl, rfl⟩
        cases rest with
        | nil => cases read
        | cons fourth rest =>
          cases fourthRead : tailBits fourth.toNat with
          | none => simp [fourthRead] at read
          | some bits4 =>
            obtain ⟨fourthLow, fourthHigh, fourthBits⟩ := tailBits_eq_some fourthRead
            simp only [fourthRead, fourthBits] at read
            obtain ⟨rfl, rfl⟩ := Lead.char.inj read
            rw [encodeChar_four (by omega) (by omega) fits thirdLow thirdHigh fourthLow fourthHigh]
            exact ⟨rest, rfl, rfl⟩

theorem toNat_valid (c : Char) : c.toNat < 0xD800 ∨ 0xDFFF < c.toNat ∧ c.toNat < 0x110000 :=
  c.valid

theorem secondFits_of_bounds {first second : Nat} (low : 0x80 ≤ second)
    (high : second ≤ 0xBF) (longThree : first = 0xE0 → 0xA0 ≤ second)
    (longFour : first = 0xF0 → 0x90 ≤ second) (surrogate : first = 0xED → second ≤ 0x9F)
    (bound : first = 0xF4 → second ≤ 0x8F) :
    secondFits first second = true := by
  simp only [secondFits, Bool.and_eq_true, decide_eq_true_eq, beq_iff_eq]
  constructor <;> grind

theorem tailBits_of_bounds {byte : Nat} (low : 0x80 ≤ byte) (high : byte ≤ 0xBF) :
    tailBits byte = some (byte - 0x80) := by
  simp [tailBits, low, high]

theorem lead_two {first second : UInt8} {rest : List UInt8} (low : 0xC2 ≤ first.toNat)
    (high : first.toNat < 0xE0) (tailLow : 0x80 ≤ second.toNat) (tailHigh : second.toNat ≤ 0xBF) :
    lead first (second :: rest) =
      .char (Char.ofNat ((first.toNat - 0xC0) * 64 + (second.toNat - 0x80))) 2 := by
  have fits : secondFits first.toNat second.toNat = true :=
    secondFits_of_bounds tailLow tailHigh (by omega) (by omega) (by omega) (by omega)
  have notOne : ¬ first.toNat < 0x80 := by omega
  have inside : (decide (first.toNat < 0xC2) || decide (0xF4 < first.toNat)) = false := by
    simp only [Bool.or_eq_false_iff, decide_eq_false_iff_not]
    omega
  simp only [lead, notOne, inside, fits, high, Bool.not_true, Bool.false_eq_true, ↓reduceIte]

theorem lead_three {first second third : UInt8} {rest : List UInt8} (low : 0xE0 ≤ first.toNat)
    (high : first.toNat < 0xF0) (fits : secondFits first.toNat second.toNat = true)
    (tailLow : 0x80 ≤ third.toNat) (tailHigh : third.toNat ≤ 0xBF) :
    lead first (second :: third :: rest) =
      .char (Char.ofNat (((first.toNat - 0xE0) * 64 + (second.toNat - 0x80)) * 64 +
        (third.toNat - 0x80))) 3 := by
  have notOne : ¬ first.toNat < 0x80 := by omega
  have notTwo : ¬ first.toNat < 0xE0 := by omega
  have inside : (decide (first.toNat < 0xC2) || decide (0xF4 < first.toNat)) = false := by
    simp only [Bool.or_eq_false_iff, decide_eq_false_iff_not]
    omega
  simp only [lead, notOne, inside, fits, notTwo, high, tailBits_of_bounds tailLow tailHigh,
    Bool.not_true, Bool.false_eq_true, ↓reduceIte]

theorem lead_four {first second third fourth : UInt8} {rest : List UInt8}
    (low : 0xF0 ≤ first.toNat) (high : first.toNat ≤ 0xF4)
    (fits : secondFits first.toNat second.toNat = true)
    (thirdLow : 0x80 ≤ third.toNat) (thirdHigh : third.toNat ≤ 0xBF)
    (fourthLow : 0x80 ≤ fourth.toNat) (fourthHigh : fourth.toNat ≤ 0xBF) :
    lead first (second :: third :: fourth :: rest) =
      .char (Char.ofNat ((((first.toNat - 0xF0) * 64 + (second.toNat - 0x80)) * 64 +
        (third.toNat - 0x80)) * 64 + (fourth.toNat - 0x80))) 4 := by
  have notOne : ¬ first.toNat < 0x80 := by omega
  have notTwo : ¬ first.toNat < 0xE0 := by omega
  have notThree : ¬ first.toNat < 0xF0 := by omega
  have inside : (decide (first.toNat < 0xC2) || decide (0xF4 < first.toNat)) = false := by
    simp only [Bool.or_eq_false_iff, decide_eq_false_iff_not]
    omega
  simp only [lead, notOne, inside, fits, notTwo, notThree, tailBits_of_bounds thirdLow thirdHigh,
    tailBits_of_bounds fourthLow fourthHigh, Bool.not_true, Bool.false_eq_true, ↓reduceIte]

theorem lead_encodeChar (c : Char) (rest : List UInt8) :
    ∃ byte tail, encodeChar c = byte :: tail ∧
      lead byte (tail ++ rest) = .char c (encodeChar c).length := by
  have valid := toNat_valid c
  have back : Char.ofNat c.toNat = c := Char.ofNat_toNat c
  unfold encodeChar
  generalize c.toNat = n at valid back
  have small (m : Nat) (bound : m < 256) : (UInt8.ofNat m).toNat = m :=
    UInt8.toNat_ofNat_of_lt' bound
  by_cases one : n < 0x80
  · refine ⟨UInt8.ofNat n, [], by simp [one], ?_⟩
    have first := small n (by omega)
    simp [lead, one, first, back]
  by_cases two : n < 0x800
  · refine ⟨UInt8.ofNat (0xC0 + n / 64), [UInt8.ofNat (0x80 + n % 64)], by simp [one, two], ?_⟩
    have first := small (0xC0 + n / 64) (by omega)
    have second := small (0x80 + n % 64) (by omega)
    have code : (0xC0 + n / 64 - 0xC0) * 64 + (0x80 + n % 64 - 0x80) = n := by omega
    rw [List.singleton_append, lead_two (by omega) (by omega) (by omega) (by omega), first, second,
      code, back]
    simp [one, two]
  by_cases three : n < 0x10000
  · refine ⟨UInt8.ofNat (0xE0 + n / 4096),
      [UInt8.ofNat (0x80 + n / 64 % 64), UInt8.ofNat (0x80 + n % 64)],
      by simp [one, two, three], ?_⟩
    have first := small (0xE0 + n / 4096) (by omega)
    have second := small (0x80 + n / 64 % 64) (by omega)
    have third := small (0x80 + n % 64) (by omega)
    have code : ((0xE0 + n / 4096 - 0xE0) * 64 + (0x80 + n / 64 % 64 - 0x80)) * 64 +
      (0x80 + n % 64 - 0x80) = n := by omega
    have fits : secondFits (0xE0 + n / 4096) (0x80 + n / 64 % 64) = true :=
      secondFits_of_bounds (by omega) (by omega) (by omega) (by omega) (by omega) (by omega)
    rw [List.cons_append, List.singleton_append,
      lead_three (by omega) (by omega) (by rw [first, second]; exact fits) (by omega) (by omega),
      first, second, third, code, back]
    simp [one, two, three]
  · refine ⟨UInt8.ofNat (0xF0 + n / 262144), [UInt8.ofNat (0x80 + n / 4096 % 64),
      UInt8.ofNat (0x80 + n / 64 % 64), UInt8.ofNat (0x80 + n % 64)],
      by simp [one, two, three], ?_⟩
    have first := small (0xF0 + n / 262144) (by omega)
    have second := small (0x80 + n / 4096 % 64) (by omega)
    have third := small (0x80 + n / 64 % 64) (by omega)
    have fourth := small (0x80 + n % 64) (by omega)
    have code : (((0xF0 + n / 262144 - 0xF0) * 64 + (0x80 + n / 4096 % 64 - 0x80)) * 64 +
      (0x80 + n / 64 % 64 - 0x80)) * 64 + (0x80 + n % 64 - 0x80) = n := by omega
    have fits : secondFits (0xF0 + n / 262144) (0x80 + n / 4096 % 64) = true :=
      secondFits_of_bounds (by omega) (by omega) (by omega) (by omega) (by omega) (by omega)
    rw [List.cons_append, List.cons_append, List.singleton_append,
      lead_four (by omega) (by omega) (by rw [first, second]; exact fits) (by omega) (by omega)
        (by omega) (by omega), first, second, third, fourth, code, back]
    simp [one, two, three]

theorem encodeChar_ascii {c : Char} (small : c.toNat < 0x80) :
    encodeChar c = [UInt8.ofNat c.toNat] := by
  simp [encodeChar, small]

theorem encodeChar_high {c : Char} (large : 0x80 ≤ c.toNat) {byte : UInt8}
    (member : byte ∈ encodeChar c) : 0x80 ≤ byte.toNat := by
  have valid := toNat_valid c
  unfold encodeChar at member
  generalize c.toNat = n at valid large member
  have notOne : ¬ n < 0x80 := by omega
  simp only [notOne, ↓reduceIte] at member
  split at member
  · simp only [List.mem_cons, List.not_mem_nil, or_false] at member
    rcases member with rfl | rfl <;> rw [UInt8.toNat_ofNat'] <;> omega
  split at member
  · simp only [List.mem_cons, List.not_mem_nil, or_false] at member
    rcases member with rfl | rfl | rfl <;> rw [UInt8.toNat_ofNat'] <;> omega
  · simp only [List.mem_cons, List.not_mem_nil, or_false] at member
    rcases member with rfl | rfl | rfl | rfl <;> rw [UInt8.toNat_ofNat'] <;> omega

theorem toNat_eq_of_mem_encodeChar {c : Char} {byte : UInt8} (member : byte ∈ encodeChar c)
    (small : byte.toNat < 0x80) : c.toNat = byte.toNat := by
  have ascii : c.toNat < 0x80 := by
    by_cases large : 0x80 ≤ c.toNat
    · have high := encodeChar_high large member
      omega
    · omega
  rw [encodeChar_ascii ascii, List.mem_singleton] at member
  rw [member, UInt8.toNat_ofNat_of_lt' (Nat.lt_trans ascii (by decide))]

theorem decodeFrom_skip (front rest : List UInt8) (index : Nat) (done : List Char) :
    decodeFrom (front ++ rest) front.length index done =
      decodeFrom rest 0 (index + front.length) done := by
  induction front generalizing index with
  | nil => rfl
  | cons byte front ih =>
    simp only [List.cons_append, List.length_cons, decodeFrom]
    rw [ih]
    congr 1
    omega

theorem decodeFrom_encodeChar (c : Char) (rest : List UInt8) (index : Nat) (done : List Char) :
    decodeFrom (encodeChar c ++ rest) 0 index done =
      decodeFrom rest 0 (index + (encodeChar c).length) (c :: done) := by
  obtain ⟨byte, tail, bytes, read⟩ := lead_encodeChar c rest
  rw [bytes] at read ⊢
  simp only [List.cons_append, decodeFrom, read, List.length_cons, Nat.add_sub_cancel]
  rw [decodeFrom_skip]
  congr 1
  omega

theorem decodeFrom_encode (text : List Char) (rest : List UInt8) (index : Nat) (done : List Char) :
    decodeFrom (encode text ++ rest) 0 index done =
      decodeFrom rest 0 (index + (encode text).length) (text.reverse ++ done) := by
  induction text generalizing index done with
  | nil => rfl
  | cons c text ih =>
    simp only [encode, List.flatMap_cons, List.append_assoc] at ih ⊢
    rw [decodeFrom_encodeChar, ih]
    simp [Nat.add_assoc]

theorem decode_encode (text : List Char) : decode (encode text) = .ok text := by
  have read := decodeFrom_encode text [] 0 []
  simpa [decode, decodeFrom] using read

theorem decodeLossyFrom_skip (front rest : List UInt8) (done : List Char) :
    decodeLossyFrom (front ++ rest) front.length done = decodeLossyFrom rest 0 done := by
  induction front with
  | nil => rfl
  | cons byte front ih =>
    rw [List.cons_append, List.length_cons, decodeLossyFrom]
    exact ih

theorem decodeLossyFrom_encode (text done : List Char) :
    decodeLossyFrom (encode text) 0 done = done.reverse ++ text := by
  induction text generalizing done with
  | nil => simp [encode, decodeLossyFrom]
  | cons c text ih =>
    obtain ⟨byte, tail, bytes, read⟩ := lead_encodeChar c (encode text)
    have parts : encode (c :: text) = byte :: (tail ++ encode text) := by
      rw [encode, List.flatMap_cons, ← encode, bytes]
      rfl
    rw [bytes, List.length_cons] at read
    rw [parts, decodeLossyFrom, read]
    simp only [Nat.add_sub_cancel]
    rw [decodeLossyFrom_skip, ih, List.reverse_cons, List.append_assoc, List.singleton_append]

theorem decodeLossy_encode (text : List Char) : decodeLossy (encode text) = text := by
  rw [decodeLossy, decodeLossyFrom_encode, List.reverse_nil, List.nil_append]

theorem encodeChar_ne_nil (c : Char) : encodeChar c ≠ [] := by
  obtain ⟨byte, tail, bytes, -⟩ := lead_encodeChar c []
  simp [bytes]

theorem exists_of_encode_snoc {text : List Char} {front : List UInt8} {byte : UInt8}
    (bytes : encode text = front ++ [byte]) (small : byte.toNat < 0x80) :
    ∃ init c, text = init ++ [c] ∧ encode init = front ∧ c.toNat = byte.toNat := by
  rcases List.eq_nil_or_concat text with rfl | ⟨init, c, rfl⟩
  · simp [encode] at bytes
  · have parts : encode (init ++ [c]) = encode init ++ encodeChar c := by simp [encode]
    rw [List.concat_eq_append] at bytes ⊢
    rw [parts] at bytes
    have last : byte ∈ encodeChar c := by
      have ends := congrArg List.getLast? bytes
      rw [List.getLast?_append, List.getLast?_concat] at ends
      cases own : (encodeChar c).getLast? with
      | none => exact absurd (List.getLast?_eq_none_iff.mp own) (encodeChar_ne_nil c)
      | some other =>
        rw [own, Option.some_or] at ends
        exact List.mem_of_getLast? (own.trans ends)
    have code := toNat_eq_of_mem_encodeChar last small
    rw [encodeChar_ascii (by omega)] at bytes
    exact ⟨init, c, rfl, (List.append_inj_left' bytes rfl), code⟩

theorem encode_of_decodeFrom {bytes : List UInt8} {index : Nat} {done text : List Char}
    (read : decodeFrom bytes 0 index done = .ok text) :
    ∃ more, text = done.reverse ++ more ∧ bytes = encode more := by
  -- by the number of bytes, as one step takes a whole character off
  induction size : bytes.length using Nat.strongRecOn generalizing bytes index done with
  | _ size ih =>
    cases bytes with
    | nil =>
      cases read
      exact ⟨[], by simp, rfl⟩
    | cons byte rest =>
      simp only [decodeFrom] at read
      cases first : lead byte rest with
      | bad width => simp [first] at read
      | cut => simp [first] at read
      | char c width =>
        obtain ⟨tail, bytes, rfl⟩ := encodeChar_of_lead first
        obtain ⟨lead, more, parts⟩ := List.exists_cons_of_ne_nil (encodeChar_ne_nil c)
        rw [parts, List.cons_append] at bytes
        obtain ⟨rfl, rfl⟩ := List.cons.inj bytes
        simp only [first, parts, List.length_cons, Nat.add_sub_cancel] at read
        rw [decodeFrom_skip] at read
        obtain ⟨text, rfl, rfl⟩ := ih tail.length (by simp at size; omega) read rfl
        exact ⟨c :: text, by simp, by simp [encode, parts]⟩

theorem encode_injective {left right : List Char} (same : encode left = encode right) :
    left = right := by
  have read := decode_encode left
  rw [same, decode_encode] at read
  exact (Except.ok.inj read).symm

/-- Some bytes are a text's exactly when they are its encoding. -/
theorem decode_eq_ok_iff {bytes : List UInt8} {text : List Char} :
    decode bytes = .ok text ↔ bytes = encode text := by
  constructor
  · intro read
    obtain ⟨more, rfl, rfl⟩ := encode_of_decodeFrom read
    simp
  · intro equal
    subst equal
    exact decode_encode text

end CodeGateway.Utf8
