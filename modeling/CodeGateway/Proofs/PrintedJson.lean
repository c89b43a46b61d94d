import CodeGateway.Proofs.PrintedScalar
import Mathlib.Data.String.Basic

namespace CodeGateway.Json

/-- A value without doubles whose arrays and objects nest at most `depth` deep. Its integers fit in
    64 bits, and the members of its objects rise by their keys. -/
inductive Plain : (depth : Nat) → Json → Prop
  | null {depth : Nat} : Plain depth .null
  | bool {depth : Nat} (b : Bool) : Plain depth (.bool b)
  | int {depth : Nat} {i : Int} (fits : isWord i = true) : Plain depth (.int i)
  | string {depth : Nat} (s : String) : Plain depth (.string s)
  | array {depth : Nat} {items : List Json} (plain : ∀ item ∈ items, Plain depth item) :
    Plain (depth + 1) (.array items)
  | object {depth : Nat} {members : List (String × Json)}
      (rising : members.Pairwise fun first second => first.1 < second.1)
      (plain : ∀ member ∈ members, Plain depth member.2) : Plain (depth + 1) (.object members)

theorem insertMember_of_above {key : String} {value : Json} {members : List (String × Json)}
    (above : ∀ member ∈ members, member.1 < key) :
    insertMember key value members = members ++ [(key, value)] := by
  induction members with
  | nil => rfl
  | cons member members ih =>
    obtain ⟨other, old⟩ := member
    have below : other < key := above (other, old) (by simp)
    have notLess : ¬ key < other := lt_asymm below
    have notSame : key ≠ other := ne_of_gt below
    simp only [insertMember, notLess, notSame, if_false, List.cons_append]
    rw [ih fun member among => above member (by simp [among])]

theorem foldl_insertMember {front members : List (String × Json)}
    (rising : (front ++ members).Pairwise fun first second => first.1 < second.1) :
    members.foldl (fun sorted member => insertMember member.1 member.2 sorted) front =
      front ++ members := by
  induction members generalizing front with
  | nil => simp
  | cons member members ih =>
    have above : ∀ other ∈ front, other.1 < member.1 := fun other among =>
      (List.pairwise_append.mp rising).2.2 other among member (by simp)
    rw [List.foldl_cons, insertMember_of_above above, ih (by simpa using rising)]
    simp

theorem ofMembers_of_rising {members : List (String × Json)}
    (rising : members.Pairwise fun first second => first.1 < second.1) :
    ofMembers members = .object members := by
  rw [ofMembers, foldl_insertMember (by simpa using rising)]
  rfl

def Follows (rest : List UInt8) : Prop :=
  ∀ byte ∈ rest.head?, byte = 0x2C ∨ byte = 0x5D ∨ byte = 0x7D

theorem Follows.endsNumber {rest : List UInt8} (follows : Follows rest) : EndsNumber rest := by
  intro byte first
  rcases follows byte first with rfl | rfl | rfl <;> decide

theorem skipSpace_cons {byte : UInt8} (notSpace : isSpace byte = false) (rest : List UInt8) :
    skipSpace (byte :: rest) = byte :: rest := by
  simp [skipSpace, notSpace]

theorem exists_encode_digitText (n : Nat) :
    ∃ byte rest, Utf8.encode (Decimal.digitText n) = byte :: rest ∧ isDigit byte = true := by
  have all : ∀ c ∈ Decimal.digitText n, c.isDigit = true := fun c => isDigit_of_mem_digitText
  cases digits : Decimal.digitText n with
  | nil => exact absurd digits Nat.toDigits_ne_nil
  | cons first more =>
    rw [digits] at all
    have digit := all first (by simp)
    have bounds : 48 ≤ first.toNat ∧ first.toNat ≤ 57 := Char.isDigit_iff_toNat.mp digit
    refine ⟨_, _, encode_cons_ascii (by omega) more, ?_⟩
    rw [isDigit, digit?_of_isDigit digit]
    rfl

theorem isDigit_bounds {byte : UInt8} (digit : isDigit byte = true) :
    0x30 ≤ byte ∧ byte ≤ 0x39 := by
  unfold isDigit digit? at digit
  split at digit
  · rename_i inside
    simpa using inside
  · cases digit

theorem not_isSpace_of_isDigit {byte : UInt8} (digit : isDigit byte = true) :
    isSpace byte = false := by
  obtain ⟨low, -⟩ := isDigit_bounds digit
  simp only [isSpace, Bool.or_eq_false_iff, beq_eq_false_iff_ne]
  refine ⟨⟨⟨?_, ?_⟩, ?_⟩, ?_⟩ <;>
  · intro equal
    subst equal
    exact absurd low (by decide)

theorem ne_of_isDigit {byte other : UInt8} (digit : isDigit byte = true)
    (notDigit : isDigit other = false) : byte ≠ other := by
  intro equal
  subst equal
  rw [notDigit] at digit
  cases digit

theorem exists_encode_text {depth : Nat} {value : Json} (plain : Plain depth value) :
    ∃ byte rest, Utf8.encode value.text = byte :: rest ∧ isSpace byte = false ∧ byte ≠ 0x5D := by
  cases plain with
  | null => exact ⟨_, _, rfl, by decide, by decide⟩
  | bool b => cases b <;> exact ⟨_, _, rfl, by decide, by decide⟩
  | @int _ i =>
    by_cases negative : i < 0
    · rw [text, intText, if_pos negative]
      exact ⟨_, _, encode_cons_ascii (by decide) _, by decide, by decide⟩
    · obtain ⟨byte, rest, printed, digit⟩ := exists_encode_digitText i.natAbs
      rw [text, intText, if_neg negative]
      exact ⟨byte, rest, printed, not_isSpace_of_isDigit digit, ne_of_isDigit digit (by decide)⟩
  | string s =>
    obtain ⟨bytes, printed, -⟩ := stringRest_stringText s []
    exact ⟨0x22, bytes, printed, by decide, by decide⟩
  | array => exact ⟨_, _, encode_cons_ascii (by decide) _, by decide, by decide⟩
  | object => exact ⟨_, _, encode_cons_ascii (by decide) _, by decide, by decide⟩

theorem value_scalar {depth : Nat} {byte : UInt8} {rest : List UInt8}
    (notSpace : isSpace byte = false) (notList : byte ≠ 0x5B) (notObject : byte ≠ 0x7B) :
    value depth (byte :: rest) = scalar byte rest := by
  unfold value
  rw [skipSpace_cons notSpace]
  simp [notList, notObject]

theorem value_intText {i : Int} (fits : isWord i = true) (depth : Nat) {rest : List UInt8}
    (ends : EndsNumber rest) :
    value depth (Utf8.encode (intText i) ++ rest) = .ok (.int i, rest) := by
  simp only [isWord, Bool.and_eq_true, decide_eq_true_eq] at fits
  by_cases negative : i < 0
  · have read : number true (Utf8.encode (Decimal.digitText i.natAbs) ++ rest) =
        afterInteger true i.natAbs rest := number_digitText (by omega) ends
    have notZero : i.natAbs ≠ 0 := by omega
    have notLarge : ¬ 0x8000000000000000 < i.natAbs := by omega
    have same : -(i.natAbs : Int) = i := by omega
    have whole : afterInteger true i.natAbs rest = .ok (.int i, rest) := by
      rw [afterInteger_of_ends ends]
      simp only [Bool.not_true, Bool.false_eq_true, if_false, beq_iff_eq, Bool.or_eq_true,
        decide_eq_true_eq, notZero, notLarge, or_self, same]
    rw [intText, if_pos negative, encode_cons_ascii (by decide), List.cons_append,
      value_scalar (by decide) (by decide) (by decide), scalar]
    simp [read, whole]
  · obtain ⟨byte, more, printed, digit⟩ := exists_encode_digitText i.natAbs
    have read : number false (Utf8.encode (Decimal.digitText i.natAbs) ++ rest) =
        afterInteger false i.natAbs rest := number_digitText (by omega) ends
    have same : (i.natAbs : Int) = i := by omega
    rw [intText, if_neg negative, printed, List.cons_append,
      value_scalar (not_isSpace_of_isDigit digit) (ne_of_isDigit digit (by decide))
        (ne_of_isDigit digit (by decide)), scalar]
    rw [printed, List.cons_append, afterInteger_of_ends ends] at read
    have notNull : byte ≠ 0x6E := ne_of_isDigit digit (by decide)
    have notTrue : byte ≠ 0x74 := ne_of_isDigit digit (by decide)
    have notFalse : byte ≠ 0x66 := ne_of_isDigit digit (by decide)
    have notMinus : byte ≠ 0x2D := ne_of_isDigit digit (by decide)
    simp [notNull, notTrue, notFalse, notMinus, digit, read, same]

theorem value_stringText (s : String) (depth : Nat) (rest : List UInt8) :
    value depth (Utf8.encode (stringText s) ++ rest) = .ok (.string s, rest) := by
  obtain ⟨bytes, printed, read⟩ := stringRest_stringText s rest
  rw [printed, List.cons_append, value_scalar (by decide) (by decide) (by decide)]
  simp [scalar, isDigit, digit?, read, Except.map]

def itemsEnd : List Json → List Char
  | [] => [']']
  | items => ',' :: itemsText items

def membersEnd : List (String × Json) → List Char
  | [] => ['\x7d']
  | members => ',' :: membersText members

theorem itemsText_cons (item : Json) (items : List Json) :
    itemsText (item :: items) = text item ++ itemsEnd items := by
  cases items <;> rfl

theorem membersText_cons (key : String) (value : Json) (members : List (String × Json)) :
    membersText ((key, value) :: members) =
      stringText key ++ ':' :: (text value ++ membersEnd members) := by
  cases members <;> rfl

theorem follows_itemsEnd (items : List Json) (rest : List UInt8) :
    Follows (Utf8.encode (itemsEnd items) ++ rest) := by
  intro byte first
  cases items with
  | nil =>
    cases first
    exact Or.inr (Or.inl rfl)
  | cons =>
    rw [itemsEnd, encode_cons_ascii (by decide)] at first
    · cases first
      exact Or.inl rfl
    · simp

theorem follows_membersEnd (members : List (String × Json)) (rest : List UInt8) :
    Follows (Utf8.encode (membersEnd members) ++ rest) := by
  intro byte first
  cases members with
  | nil =>
    cases first
    exact Or.inr (Or.inr rfl)
  | cons =>
    rw [membersEnd, encode_cons_ascii (by decide)] at first
    · cases first
      exact Or.inl rfl
    · simp

def Finds (item : List UInt8 → Reading Json) (values : List Json) : Prop :=
  ∀ value ∈ values, (∃ depth, Plain depth value) ∧
    ∀ rest, Follows rest → item (Utf8.encode value.text ++ rest) = .ok (value, rest)

theorem nextItem_of_starts {first : Bool} {byte : UInt8} (notSpace : isSpace byte = false)
    (notClosing : byte ≠ 0x5D) (rest : List UInt8) :
    nextItem first (if first then byte :: rest else 0x2C :: byte :: rest) =
      .ok (true, byte :: rest) := by
  cases first with
  | true => simp [nextItem, skipSpace_cons notSpace, notClosing]
  | false =>
    have comma : isSpace 0x2C = false := by decide
    simp [nextItem, skipSpace_cons comma, skipSpace_cons notSpace, notClosing]

theorem nextItem_closing (first : Bool) (rest : List UInt8) :
    nextItem first (0x5D :: rest) = .ok (false, rest) := by
  have notSpace : isSpace 0x5D = false := by decide
  simp [nextItem, skipSpace_cons notSpace]

theorem itemsWith_of_finds {item : List UInt8 → Reading Json} {items : List Json}
    (finds : Finds item items) {fuel : Nat} (enough : items.length < fuel) (done : List Json)
    (rest : List UInt8) :
    itemsWith item fuel done
      (Utf8.encode (if done.isEmpty then itemsText items else itemsEnd items) ++ rest) =
        .ok (done.reverse ++ items, rest) := by
  induction items generalizing fuel done with
  | nil =>
    obtain ⟨fuel, rfl⟩ := Nat.exists_eq_succ_of_ne_zero (Nat.ne_of_gt enough)
    have closing : Utf8.encode (if done.isEmpty then itemsText [] else itemsEnd []) = [0x5D] := by
      cases done <;> rfl
    rw [closing, List.singleton_append, itemsWith, nextItem_closing]
    simp [Bind.bind, Except.bind]
  | cons value items ih =>
    obtain ⟨fuel, rfl⟩ := Nat.exists_eq_succ_of_ne_zero (Nat.ne_of_gt (Nat.zero_lt_of_lt enough))
    obtain ⟨⟨depth, plain⟩, read⟩ := finds value (by simp)
    obtain ⟨byte, more, printed, notSpace, notClosing⟩ := exists_encode_text plain
    have front : Utf8.encode (if done.isEmpty then itemsText (value :: items)
        else itemsEnd (value :: items)) ++ rest =
          if done.isEmpty then byte :: (more ++ (Utf8.encode (itemsEnd items) ++ rest))
          else 0x2C :: byte :: (more ++ (Utf8.encode (itemsEnd items) ++ rest)) := by
      cases done with
      | nil => simp [itemsText_cons, encode_append, printed]
      | cons => simp [itemsEnd, itemsText_cons, encode_append, encode_cons_ascii, printed]
    have found := read _ (follows_itemsEnd items rest)
    rw [printed, List.cons_append] at found
    have fewer : items.length < fuel := by simpa using enough
    have later := ih (fun other among => finds other (by simp [among])) fewer (value :: done)
    rw [front, itemsWith, nextItem_of_starts notSpace notClosing]
    simp only [Bind.bind, Except.bind, if_true, found]
    simpa using later

theorem nextKey_quote (first : Bool) (rest : List UInt8) :
    nextKey first (if first then 0x22 :: rest else 0x2C :: 0x22 :: rest) = .ok (true, rest) := by
  have comma : isSpace 0x2C = false := by decide
  have quote : isSpace 0x22 = false := by decide
  cases first <;> simp [nextKey, skipSpace_cons comma, skipSpace_cons quote]

theorem nextKey_closing (first : Bool) (rest : List UInt8) :
    nextKey first (0x7D :: rest) = .ok (false, rest) := by
  have notSpace : isSpace 0x7D = false := by decide
  simp [nextKey, skipSpace_cons notSpace]

theorem colon_cons (rest : List UInt8) : colon (0x3A :: rest) = .ok ((), rest) := by
  have notSpace : isSpace 0x3A = false := by decide
  simp [colon, skipSpace_cons notSpace]

theorem membersWith_of_finds {item : List UInt8 → Reading Json} {members : List (String × Json)}
    (finds : Finds item (members.map Prod.snd)) {fuel : Nat} (enough : members.length < fuel)
    (done : List (String × Json)) (rest : List UInt8) :
    membersWith item fuel done
      (Utf8.encode (if done.isEmpty then membersText members else membersEnd members) ++ rest) =
        .ok (done.reverse ++ members, rest) := by
  induction members generalizing fuel done with
  | nil =>
    obtain ⟨fuel, rfl⟩ := Nat.exists_eq_succ_of_ne_zero (Nat.ne_of_gt enough)
    have closing : Utf8.encode (if done.isEmpty then membersText [] else membersEnd []) =
        [0x7D] := by
      cases done <;> rfl
    rw [closing, List.singleton_append, membersWith, nextKey_closing]
    simp [Bind.bind, Except.bind]
  | cons member members ih =>
    obtain ⟨key, value⟩ := member
    obtain ⟨fuel, rfl⟩ := Nat.exists_eq_succ_of_ne_zero (Nat.ne_of_gt (Nat.zero_lt_of_lt enough))
    obtain ⟨-, read⟩ := finds value (by simp)
    let behindKey := Utf8.encode value.text ++ (Utf8.encode (membersEnd members) ++ rest)
    obtain ⟨bytes, printed, readKey⟩ := stringRest_stringText key (0x3A :: behindKey)
    have front : Utf8.encode (if done.isEmpty then membersText ((key, value) :: members)
        else membersEnd ((key, value) :: members)) ++ rest =
          if done.isEmpty then 0x22 :: (bytes ++ 0x3A :: behindKey)
          else 0x2C :: 0x22 :: (bytes ++ 0x3A :: behindKey) := by
      cases done with
      | nil => simp [membersText_cons, encode_append, encode_cons_ascii, printed, behindKey]
      | cons =>
        simp [membersEnd, membersText_cons, encode_append, encode_cons_ascii, printed, behindKey]
    have found := read _ (follows_membersEnd members rest)
    have fewer : members.length < fuel := by simpa using enough
    have later := ih (fun other among => finds other (by simp [among])) fewer ((key, value) :: done)
    rw [front, membersWith, nextKey_quote]
    simp only [Bind.bind, Except.bind, if_true, readKey, colon_cons, behindKey, found]
    simpa using later

theorem length_le_encode (text : List Char) : text.length ≤ (Utf8.encode text).length := by
  induction text with
  | nil => exact Nat.le_refl 0
  | cons c text ih =>
    have some : 0 < (Utf8.encodeChar c).length :=
      List.length_pos_iff.mpr (Utf8.encodeChar_ne_nil c)
    simp only [Utf8.encode, List.flatMap_cons, List.length_append, List.length_cons] at ih ⊢
    omega

theorem length_itemsText (items : List Json) : items.length ≤ (itemsText items).length := by
  induction items with
  | nil => exact Nat.zero_le _
  | cons item items ih =>
    rw [itemsText_cons, List.length_append]
    cases items with
    | nil => simp [itemsEnd]
    | cons => simp only [itemsEnd, List.length_cons] at ih ⊢; omega

theorem length_membersText (members : List (String × Json)) :
    members.length ≤ (membersText members).length := by
  induction members with
  | nil => exact Nat.zero_le _
  | cons member members ih =>
    rw [membersText_cons]
    simp only [List.length_append, List.length_cons]
    cases members with
    | nil => simp only [List.length_nil]; omega
    | cons => simp only [membersEnd, List.length_cons] at ih ⊢; omega

theorem value_list (depth : Nat) (rest : List UInt8) :
    value (depth + 1) (0x5B :: rest) =
      (itemsWith (value depth) (rest.length + 1) [] rest).map fun read =>
        (.array read.1, read.2) := by
  have notSpace : isSpace 0x5B = false := by decide
  conv_lhs => unfold value
  rw [skipSpace_cons notSpace]
  rfl

theorem value_object (depth : Nat) (rest : List UInt8) :
    value (depth + 1) (0x7B :: rest) =
      (membersWith (value depth) (rest.length + 1) [] rest).map fun read =>
        (ofMembers read.1, read.2) := by
  have notSpace : isSpace 0x7B = false := by decide
  conv_lhs => unfold value
  rw [skipSpace_cons notSpace]
  rfl

theorem value_word (depth : Nat) (rest : List UInt8) :
    value depth ([0x6E, 0x75, 0x6C, 0x6C] ++ rest) = .ok (.null, rest) ∧
      value depth ([0x74, 0x72, 0x75, 0x65] ++ rest) = .ok (.bool true, rest) ∧
      value depth ([0x66, 0x61, 0x6C, 0x73, 0x65] ++ rest) = .ok (.bool false, rest) := by
  refine ⟨?_, ?_, ?_⟩ <;>
  · simp only [List.cons_append, List.nil_append]
    rw [value_scalar (by decide) (by decide) (by decide)]
    simp [scalar, word]

theorem value_membersText {depth : Nat} {members : List (String × Json)}
    (finds : Finds (Json.value depth) (members.map Prod.snd)) (rest : List UInt8) :
    Json.value (depth + 1) (Utf8.encode ('\x7b' :: membersText members) ++ rest) =
      .ok (ofMembers members, rest) := by
  have few := Nat.le_trans (length_membersText members) (length_le_encode _)
  have enough : members.length < (Utf8.encode (membersText members) ++ rest).length + 1 := by
    rw [List.length_append]
    omega
  have read := membersWith_of_finds finds enough [] rest
  simp only [List.isEmpty_nil, if_true] at read
  rw [encode_cons_ascii (by decide), List.cons_append]
  refine (value_object depth _).trans ?_
  rw [read]
  rfl

/-- Reading finds a value where it was printed, and leaves what stands behind it. -/
theorem value_text {depth : Nat} {value : Json} (plain : Plain depth value) {rest : List UInt8}
    (follows : Follows rest) :
    Json.value depth (Utf8.encode value.text ++ rest) = .ok (value, rest) := by
  induction plain generalizing rest with
  | null => exact (value_word _ rest).1
  | bool b =>
    cases b with
    | true => exact (value_word _ rest).2.1
    | false => exact (value_word _ rest).2.2
  | int fits =>
    rw [text]
    exact value_intText fits _ follows.endsNumber
  | string s =>
    rw [text]
    exact value_stringText s _ rest
  | @array depth items plain ih =>
    have finds : Finds (Json.value depth) items := fun value among =>
      ⟨⟨depth, plain value among⟩, fun rest => ih value among⟩
    have few := Nat.le_trans (length_itemsText items) (length_le_encode _)
    have enough : items.length < (Utf8.encode (itemsText items) ++ rest).length + 1 := by
      rw [List.length_append]
      omega
    have read := itemsWith_of_finds finds enough [] rest
    simp only [List.isEmpty_nil, if_true] at read
    rw [text, encode_cons_ascii (by decide), List.cons_append]
    refine (value_list depth _).trans ?_
    rw [read]
    rfl
  | @object depth members rising plain ih =>
    have finds : Finds (Json.value depth) (members.map Prod.snd) := by
      intro value within
      obtain ⟨member, among, rfl⟩ := List.mem_map.mp within
      exact ⟨⟨depth, plain member among⟩, fun rest => ih member among⟩
    rw [text, value_membersText finds, ofMembers_of_rising rising]

theorem follows_nil : Follows [] := by
  intro byte first
  cases first

theorem parse_renderBytes {value : Json} (plain : Plain maxDepth value) :
    parse value.renderBytes = .ok value := by
  have read := value_text plain follows_nil
  rw [List.append_nil] at read
  rw [parse, renderBytes, read]
  rfl

end CodeGateway.Json
