import CodeGateway.Proofs.FrameGrammar

namespace CodeGateway.Frame

def HeaderReading.append (later : List UInt8) : HeaderReading → HeaderReading
  | .body length rest => .body length (rest ++ later)
  | .fault wrong rest => .fault wrong (rest ++ later)
  | reading => reading

def Reading.append (later : List UInt8) : Reading → Reading
  | .message value rest => .message value (rest ++ later)
  | .fault wrong rest => .fault wrong (rest ++ later)
  | reading => reading

theorem nextLine_append {ended : Bool} {input line rest : List UInt8}
    (next : nextLine false input = some (line, rest)) (later : List UInt8) :
    nextLine ended (input ++ later) = some (line, rest ++ later) := by
  obtain ⟨rfl, isLine | ⟨no, -⟩⟩ := nextLine_eq_some_iff.mp next
  · exact nextLine_eq_some_iff.mpr ⟨by simp, Or.inl isLine⟩
  · cases no

theorem readHeader_append {ended : Bool} {fuel fuel' : Nat} {started : Bool} {before : Option Nat}
    {input : List UInt8} (enough : fuel ≤ fuel')
    (settled : readHeader false fuel started before input ≠ .more) (later : List UInt8) :
    readHeader ended fuel' started before (input ++ later) =
      (readHeader false fuel started before input).append later := by
  induction fuel generalizing fuel' started before input with
  | zero => exact absurd rfl settled
  | succ fuel ih =>
    cases fuel' with
    | zero => omega
    | succ fuel' =>
      have fewer : fuel ≤ fuel' := by omega
      unfold readHeader at settled ⊢
      cases next : nextLine false input with
      | none => simp [next] at settled
      | some parts =>
        obtain ⟨line, rest⟩ := parts
        rw [nextLine_append next]
        simp only [next] at settled ⊢
        cases decoded : Utf8.decode line with
        | error invalid => simp only [HeaderReading.append]
        | ok text =>
          simp only [decoded] at settled ⊢
          cases what : readLine text with
          | blank =>
            simp only [what] at settled ⊢
            cases started with
            | false => exact ih fewer settled
            | true => cases before <;> rfl
          | other =>
            simp only [what] at settled ⊢
            exact ih fewer settled
          | length value =>
            simp only [what] at settled ⊢
            exact ih fewer settled
          | badLength value => simp only [HeaderReading.append]

theorem readHeader_false_ne_done {fuel : Nat} {started : Bool} {before : Option Nat}
    {input : List UInt8} : readHeader false fuel started before input ≠ .done := by
  induction fuel generalizing started before input with
  | zero => simp [readHeader]
  | succ fuel ih =>
    unfold readHeader
    split
    · simp
    · split
      · simp
      · split
        · split
          · exact ih
          · split <;> simp
        · exact ih
        · exact ih
        · simp

/-- What is settled before the end of the bytes is not changed by more of them. -/
theorem read_append {ended : Bool} {input : List UInt8} (settled : read false input ≠ .more)
    (later : List UInt8) : read ended (input ++ later) = (read false input).append later := by
  have enough : input.length + 1 ≤ (input ++ later).length + 1 := by simp
  cases found : readHeader false (input.length + 1) false none input with
  | done => exact absurd found readHeader_false_ne_done
  | more => simp [read, found] at settled
  | fault fault rest =>
    have longer : readHeader ended ((input ++ later).length + 1) false none (input ++ later) = _ :=
      readHeader_append enough (by simp [found]) later
    rw [found] at longer
    simp only [read, longer, found, HeaderReading.append, Reading.append]
  | body length rest =>
    have longer : readHeader ended ((input ++ later).length + 1) false none (input ++ later) = _ :=
      readHeader_append enough (by simp [found]) later
    rw [found] at longer
    rw [read_of_body found] at settled ⊢
    rw [read_of_body longer]
    by_cases tooMuch : maxBody < length
    · rw [if_pos tooMuch, if_pos tooMuch]
      rfl
    rw [if_neg tooMuch] at settled
    rw [if_neg tooMuch, if_neg tooMuch]
    by_cases short : rest.length < length
    · simp [short] at settled
    · have long : ¬ (rest ++ later).length < length := by
        simp only [List.length_append]
        omega
      rw [if_neg short, if_neg long, List.take_append_of_le_length (by omega),
        List.drop_append_of_le_length (by omega)]
      cases Json.parse (rest.take length) <;> rfl

theorem read_false_ne_done {input : List UInt8} : read false input ≠ .done := by
  have header : readHeader false (input.length + 1) false none input ≠ .done :=
    readHeader_false_ne_done
  cases found : readHeader false (input.length + 1) false none input with
  | done => exact absurd found header
  | more => simp [read, found]
  | fault => simp [read, found]
  | body length rest =>
    rw [read_of_body found]
    intro done
    split at done
    · cases done
    split at done
    · split at done <;> cases done
    · split at done <;> cases done

end CodeGateway.Frame
