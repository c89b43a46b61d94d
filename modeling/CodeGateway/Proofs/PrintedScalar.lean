import CodeGateway.Json.Printer
import CodeGateway.Json.Reader
import CodeGateway.Proofs.Utf8
import Mathlib.Data.List.Basic

namespace CodeGateway.Json

theorem encode_append (front back : List Char) :
    Utf8.encode (front ++ back) = Utf8.encode front ++ Utf8.encode back :=
  List.flatMap_append

theorem encode_cons_ascii {c : Char} (small : c.toNat < 0x80) (rest : List Char) :
    Utf8.encode (c :: rest) = UInt8.ofNat c.toNat :: Utf8.encode rest := by
  rw [Utf8.encode, List.flatMap_cons, Utf8.encodeChar_ascii small]
  rfl

theorem toNat_ofNat_ascii {c : Char} (small : c.toNat < 0x80) :
    (UInt8.ofNat c.toNat).toNat = c.toNat :=
  UInt8.toNat_ofNat_of_lt' (Nat.lt_trans small (by decide))

def EndsNumber (rest : List UInt8) : Prop :=
  ∀ byte ∈ rest.head?, isDigit byte = false ∧ byte ≠ 0x2E ∧ byte ≠ 0x65 ∧ byte ≠ 0x45

theorem EndsNumber.startsWithDigit {rest : List UInt8} (ends : EndsNumber rest) :
    startsWithDigit rest = false := by
  cases rest with
  | nil => rfl
  | cons byte rest => exact (ends byte rfl).1

theorem digit?_of_isDigit {c : Char} (digit : c.isDigit = true) :
    digit? (UInt8.ofNat c.toNat) = some (c.toNat - 0x30) := by
  have bounds : 48 ≤ c.toNat ∧ c.toNat ≤ 57 := Char.isDigit_iff_toNat.mp digit
  have value : (UInt8.ofNat c.toNat).toNat = c.toNat := toNat_ofNat_ascii (by omega)
  simp only [digit?, UInt8.le_iff_toNat_le, value]
  simpa using bounds

theorem le_ofDigitChars (digits : List Char) (number : Nat) :
    number ≤ Nat.ofDigitChars 10 digits number := by
  rw [Nat.ofDigitChars_eq_ofDigitChars_zero]
  have := Nat.le_mul_of_pos_left number (Nat.pow_pos (n := digits.length) (show 0 < 10 by decide))
  omega

theorem digitsBelow_encode {digits : List Char} (all : ∀ c ∈ digits, c.isDigit = true)
    {bound number : Nat} (below : Nat.ofDigitChars 10 digits number < bound) {rest : List UInt8}
    (ends : startsWithDigit rest = false) (count : Nat) :
    digitsBelow bound (Utf8.encode digits ++ rest) number count =
      (Nat.ofDigitChars 10 digits number, count + digits.length, rest) := by
  induction digits generalizing number count with
  | nil =>
    cases rest with
    | nil => rfl
    | cons byte rest =>
      have none : digit? byte = none := by simpa [startsWithDigit, isDigit] using ends
      simp [Utf8.encode, digitsBelow, none]
  | cons c digits ih =>
    have digit := all c (by simp)
    have bounds : 48 ≤ c.toNat ∧ c.toNat ≤ 57 := Char.isDigit_iff_toNat.mp digit
    have next : 10 * number + (c.toNat - '0'.toNat) = number * 10 + (c.toNat - 0x30) := by
      rw [Nat.mul_comm]
      rfl
    rw [Nat.ofDigitChars_cons, next] at below ⊢
    have room := Nat.lt_of_le_of_lt (le_ofDigitChars digits _) below
    rw [encode_cons_ascii (by omega), List.cons_append, digitsBelow]
    simp only [digit?_of_isDigit digit, room, if_true]
    rw [ih (fun other member => all other (by simp [member])) below, List.length_cons]
    congr 2
    omega

theorem isDigit_of_mem_digitText {n : Nat} {c : Char} (member : c ∈ Decimal.digitText n) :
    c.isDigit = true :=
  Nat.isDigit_of_mem_toDigits (by decide) (by decide) member

theorem digitText_zero : Decimal.digitText 0 = ['0'] := Nat.toDigits_zero 10

theorem exists_digitText_of_pos {n : Nat} (positive : 0 < n) :
    ∃ first more, Decimal.digitText n = first :: more ∧ first ≠ '0' := by
  unfold Decimal.digitText
  induction n using Nat.strongRecOn with
  | ind n ih =>
    by_cases small : n < 10
    · refine ⟨n.digitChar, [], Nat.toDigits_of_lt_base small, ?_⟩
      rw [Ne, Nat.digitChar_eq_zero]
      omega
    · obtain ⟨first, more, digits, notZero⟩ := ih (n / 10) (by omega) (by omega)
      refine ⟨first, more ++ [Nat.digitChar (n % 10)], ?_, notZero⟩
      rw [Nat.toDigits_of_base_le (by decide) (by omega), digits]
      rfl

theorem afterInteger_of_ends {negative : Bool} {number : Nat} {rest : List UInt8}
    (ends : EndsNumber rest) : afterInteger negative number rest =
      .ok (if !negative then .int number
        else if number == 0 || 0x8000000000000000 < number then
          .float (-(UInt64.ofNat number).toFloat)
        else .int (-number), rest) := by
  cases rest with
  | nil => rfl
  | cons byte rest =>
    obtain ⟨-, notPoint, notSmall, notLarge⟩ := ends byte rfl
    simp [afterInteger, notPoint, notSmall, notLarge]

theorem number_digitText {negative : Bool} {n : Nat} (fits : n < 0x10000000000000000)
    {rest : List UInt8} (ends : EndsNumber rest) :
    number negative (Utf8.encode (Decimal.digitText n) ++ rest) =
      afterInteger negative n rest := by
  have noDigit := ends.startsWithDigit
  rcases Nat.eq_zero_or_pos n with rfl | positive
  · rw [digitText_zero, encode_cons_ascii (by decide)]
    simp [number, Utf8.encode, noDigit]
  · obtain ⟨first, more, digits, notZero⟩ := exists_digitText_of_pos positive
    have all : ∀ c ∈ first :: more, c.isDigit = true := by
      rw [← digits]
      exact fun c => isDigit_of_mem_digitText
    have digit := all first (by simp)
    have bounds : 48 ≤ first.toNat ∧ first.toNat ≤ 57 := Char.isDigit_iff_toNat.mp digit
    have value : Nat.ofDigitChars 10 (first :: more) 0 = n := by
      rw [← digits]
      exact Nat.ofDigitChars_ten_toDigits
    have read := digitsBelow_encode all (by rwa [value]) noDigit 0
    have notZero' : UInt8.ofNat first.toNat ≠ 0x30 := by
      intro equal
      have same := congrArg UInt8.toNat equal
      rw [toNat_ofNat_ascii (by omega)] at same
      apply notZero
      rw [← Char.ofNat_toNat first, same]
      rfl
    rw [encode_cons_ascii (by omega), List.cons_append, value] at read
    rw [digits, encode_cons_ascii (by omega), List.cons_append, number]
    simp [notZero', isDigit, digit?_of_isDigit digit, read, noDigit]

theorem hexDigit?_hexDigit {n : Nat} (small : n < 16) :
    (hexDigit n).toNat < 0x80 ∧ hexDigit? (UInt8.ofNat (hexDigit n).toNat) = some n := by
  have all : ∀ n < 16, (hexDigit n).toNat < 0x80 ∧
      hexDigit? (UInt8.ofNat (hexDigit n).toNat) = some n := by decide
  exact all n small

def IsBare (byte : UInt8) : Prop := byte ≠ 0x22 ∧ byte ≠ 0x5C ∧ 0x20 ≤ byte

theorem stringBytes_bare {bytes : List UInt8} (bare : ∀ byte ∈ bytes, IsBare byte) (fuel : Nat)
    (done rest : List UInt8) :
    stringBytes (fuel + bytes.length) done (bytes ++ rest) =
      stringBytes fuel (bytes.reverse ++ done) rest := by
  induction bytes generalizing done with
  | nil => rfl
  | cons byte bytes ih =>
    obtain ⟨notQuote, notSlash, printed⟩ := bare byte (by simp)
    have notControl : ¬ byte < 0x20 := UInt8.not_lt.mpr printed
    rw [List.length_cons, ← Nat.add_assoc, List.cons_append, stringBytes]
    simp only [beq_iff_eq, notQuote, notSlash, notControl, if_false]
    rw [ih fun other member => bare other (by simp [member])]
    simp

theorem isBare_of_mem_encodeChar {c : Char} (notQuote : c ≠ '"') (notSlash : c ≠ '\\')
    (printed : 0x20 ≤ c.toNat) {byte : UInt8} (member : byte ∈ Utf8.encodeChar c) :
    IsBare byte := by
  have notChar {d : Char} (small : d.toNat < 0x80) (other : c ≠ d) :
      byte ≠ UInt8.ofNat d.toNat := by
    intro equal
    have value := congrArg UInt8.toNat equal
    rw [toNat_ofNat_ascii small] at value
    have same := Utf8.toNat_eq_of_mem_encodeChar member (by omega)
    exact other (Char.toNat_inj.mp (same.trans value))
  refine ⟨notChar (d := '"') (by decide) notQuote, notChar (d := '\\') (by decide) notSlash, ?_⟩
  rw [UInt8.le_iff_toNat_le]
  by_cases small : byte.toNat < 0x80
  · rw [← Utf8.toNat_eq_of_mem_encodeChar member small]
    exact printed
  · have wide : (0x20 : UInt8).toNat = 32 := rfl
    omega

theorem stringBytes_escape {bytes stands rest : List UInt8}
    (read : escape (bytes ++ rest) = .ok (stands, rest)) (fuel : Nat) (done : List UInt8) :
    stringBytes (fuel + 1) done (0x5C :: bytes ++ rest) =
      stringBytes fuel (stands.reverse ++ done) rest := by
  rw [List.cons_append, stringBytes]
  simp [read]

theorem hexUnit_hexDigits {n : Nat} (small : n < 0x100) (rest : List UInt8) :
    hexUnit (Utf8.encode ['0', '0', hexDigit (n / 16), hexDigit (n % 16)] ++ rest) =
      .ok (n, rest) := by
  obtain ⟨highSmall, high⟩ := hexDigit?_hexDigit (n := n / 16) (by omega)
  obtain ⟨lowSmall, low⟩ := hexDigit?_hexDigit (n := n % 16) (by omega)
  have zero : hexDigit? 0x30 = some 0 := by decide
  have unit : n / 16 * 16 + n % 16 = n := by omega
  rw [encode_cons_ascii (by decide), encode_cons_ascii (by decide), encode_cons_ascii highSmall,
    encode_cons_ascii lowSmall]
  simp [hexUnit, zero, high, low, unit, Utf8.encode]

theorem escape_numbered {c : Char} (control : c.toNat < 0x20) (rest : List UInt8) :
    escape (Utf8.encode ['u', '0', '0', hexDigit (c.toNat / 16), hexDigit (c.toNat % 16)] ++ rest) =
      .ok (Utf8.encodeChar c, rest) := by
  have below : c.toNat < 0xD800 := by omega
  have notLow : ¬ 0xDC00 ≤ c.toNat := by omega
  rw [encode_cons_ascii (by decide), List.cons_append]
  simp [escape, hexEscape, hexUnit_hexDigits (n := c.toNat) (by omega), below, notLow, Bind.bind,
    Except.bind]

theorem encode_escapeChar_of_escaped {c : Char}
    (escaped : c = '"' ∨ c = '\\' ∨ c.toNat < 0x20) :
    ∃ bytes, Utf8.encode (escapeChar c) = 0x5C :: bytes ∧
      ∀ rest, escape (bytes ++ rest) = .ok (Utf8.encodeChar c, rest) := by
  by_cases quote : c = '"'
  · subst quote
    exact ⟨[0x22], by decide, fun rest => rfl⟩
  by_cases slash : c = '\\'
  · subst slash
    exact ⟨[0x5C], by decide, fun rest => rfl⟩
  have control : c.toNat < 0x20 := by simpa [quote, slash] using escaped
  have notPrinted : ¬ 0x20 ≤ c.toNat := by omega
  by_cases feed : c = '\n'
  · subst feed
    exact ⟨[0x6E], by decide, fun rest => rfl⟩
  by_cases carriage : c = '\r'
  · subst carriage
    exact ⟨[0x72], by decide, fun rest => rfl⟩
  by_cases tab : c = '\t'
  · subst tab
    exact ⟨[0x74], by decide, fun rest => rfl⟩
  by_cases backspace : c.toNat = 8
  · obtain rfl : c = Char.ofNat 8 := by rw [← backspace, Char.ofNat_toNat]
    exact ⟨[0x62], by decide, fun rest => rfl⟩
  by_cases formFeed : c.toNat = 12
  · obtain rfl : c = Char.ofNat 12 := by rw [← formFeed, Char.ofNat_toNat]
    exact ⟨[0x66], by decide, fun rest => rfl⟩
  · refine ⟨_, ?_, escape_numbered control⟩
    have text : escapeChar c =
        ['\\', 'u', '0', '0', hexDigit (c.toNat / 16), hexDigit (c.toNat % 16)] := by
      simp [escapeChar, quote, slash, notPrinted, feed, carriage, tab, backspace, formFeed]
    rw [text, encode_cons_ascii (by decide)]
    rfl

theorem stringBytes_escapeChar (c : Char) :
    ∃ steps ≤ (Utf8.encode (escapeChar c)).length, ∀ fuel done rest,
      stringBytes (fuel + steps) done (Utf8.encode (escapeChar c) ++ rest) =
        stringBytes fuel ((Utf8.encodeChar c).reverse ++ done) rest := by
  by_cases escaped : c = '"' ∨ c = '\\' ∨ c.toNat < 0x20
  · obtain ⟨bytes, printed, read⟩ := encode_escapeChar_of_escaped escaped
    rw [printed]
    exact ⟨1, by simp, fun fuel done rest => stringBytes_escape (read rest) fuel done⟩
  · simp only [not_or, Nat.not_lt] at escaped
    obtain ⟨notQuote, notSlash, printed⟩ := escaped
    have itself : Utf8.encode (escapeChar c) = Utf8.encodeChar c := by
      simp [escapeChar, notQuote, notSlash, printed, Utf8.encode]
    rw [itself]
    refine ⟨_, Nat.le_refl _, stringBytes_bare fun byte member => ?_⟩
    exact isBare_of_mem_encodeChar notQuote notSlash printed member

theorem stringBytes_text (text : List Char) :
    ∃ steps ≤ (Utf8.encode (text.flatMap escapeChar)).length, ∀ fuel done rest,
      stringBytes (fuel + steps) done (Utf8.encode (text.flatMap escapeChar) ++ rest) =
        stringBytes fuel ((Utf8.encode text).reverse ++ done) rest := by
  induction text with
  | nil => exact ⟨0, Nat.le_refl 0, fun fuel done rest => rfl⟩
  | cons c text ih =>
    obtain ⟨first, firstFew, readFirst⟩ := stringBytes_escapeChar c
    obtain ⟨more, moreFew, readMore⟩ := ih
    rw [List.flatMap_cons, encode_append]
    refine ⟨more + first, by rw [List.length_append]; omega, fun fuel done rest => ?_⟩
    rw [List.append_assoc, ← Nat.add_assoc, readFirst, readMore]
    simp [Utf8.encode]

theorem stringRest_stringText (s : String) (rest : List UInt8) :
    ∃ bytes, Utf8.encode (stringText s) = 0x22 :: bytes ∧
      stringRest (bytes ++ rest) = .ok (s, rest) := by
  obtain ⟨steps, few, read⟩ := stringBytes_text s.toList
  refine ⟨Utf8.encode (s.toList.flatMap escapeChar) ++ [0x22], ?_, ?_⟩
  · rw [stringText, encode_append, encode_cons_ascii (by decide)]
    rfl
  · have whole : (Utf8.encode (s.toList.flatMap escapeChar) ++ [0x22] ++ rest).length + 1 =
        ((Utf8.encode (s.toList.flatMap escapeChar)).length - steps + rest.length + 1 + 1) +
          steps := by
      simp only [List.length_append, List.length_singleton]
      omega
    have back : Utf8.text (Utf8.encode s.toList) = .ok s := by
      simp [Utf8.text, Utf8.decode_encode, Except.map]
    unfold stringRest
    rw [whole, List.append_assoc, read]
    simp [stringBytes, back]

end CodeGateway.Json
