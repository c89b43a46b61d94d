import CodeGateway.Agent.Lines
import CodeGateway.Proofs.FrameHeader

namespace CodeGateway.Agent

theorem splitLines_done (fuel : Nat) (done : List (List UInt8)) (input : List UInt8) :
    splitLines fuel done input =
      (done.reverse ++ (splitLines fuel [] input).1, (splitLines fuel [] input).2) := by
  induction fuel generalizing done input with
  | zero => simp [splitLines]
  | succ fuel ih =>
    unfold splitLines
    cases Frame.splitLine input with
    | none => simp
    | some parts =>
      dsimp only
      rw [ih, ih [withoutEnd parts.1]]
      simp

theorem splitLines_fuel {fuel fuel' : Nat} {input : List UInt8} (enough : input.length < fuel)
    (enough' : input.length < fuel') : splitLines fuel [] input = splitLines fuel' [] input := by
  induction fuel generalizing fuel' input with
  | zero => omega
  | succ fuel ih =>
    cases fuel' with
    | zero => omega
    | succ fuel' =>
      unfold splitLines
      cases found : Frame.splitLine input with
      | none => rfl
      | some parts =>
        obtain ⟨line, rest⟩ := parts
        obtain ⟨isLine, rfl⟩ := Frame.splitLine_eq_some_iff.mp found
        have some' := List.length_pos_of_ne_nil isLine.ne_nil
        rw [List.length_append] at enough enough'
        dsimp only
        have same : splitLines fuel [] rest = splitLines fuel' [] rest := ih (by omega) (by omega)
        rw [splitLines_done, splitLines_done fuel', same]

theorem withoutEnd_of_not_mem {line : List UInt8} (clean : 0x0A ∉ line) :
    withoutEnd line = line := by
  unfold withoutEnd
  split
  · rename_i front reversed
    exact absurd (List.mem_reverse.mp (reversed ▸ List.mem_cons_self)) clean
  · rename_i front _ reversed
    exact absurd (List.mem_reverse.mp (reversed ▸ List.mem_cons_self)) clean
  · rfl

theorem lines_of_nextLine {ended : Bool} {input line rest : List UInt8}
    (next : Frame.nextLine ended input = some (line, rest)) :
    lines ended input = (withoutEnd line :: (lines ended rest).1, (lines ended rest).2) := by
  obtain ⟨rfl, takes⟩ := Frame.nextLine_eq_some_iff.mp next
  rcases takes with isLine | ⟨rfl, some', clean, rfl⟩
  · have found : Frame.splitLine (line ++ rest) = some (line, rest) :=
      Frame.splitLine_eq_some_iff.mpr ⟨isLine, rfl⟩
    have some' := List.length_pos_of_ne_nil isLine.ne_nil
    have whole : splitLines ((line ++ rest).length + 1) [] (line ++ rest) =
        (withoutEnd line :: (splitLines (rest.length + 1) [] rest).1,
          (splitLines (rest.length + 1) [] rest).2) := by
      have same : splitLines (line ++ rest).length [] rest =
          splitLines (rest.length + 1) [] rest := splitLines_fuel (by simp; omega) (by omega)
      rw [splitLines, found]
      dsimp only
      rw [splitLines_done, same]
      rfl
    simp only [lines, whole]
    generalize splitLines (rest.length + 1) [] rest = parts
    cases ended with
    | false => rfl
    | true => cases parts.2.isEmpty <;> rfl
  · have none' : Frame.splitLine line = none := Frame.splitLine_eq_none_iff.mpr clean
    have whole : splitLines (line.length + 1) [] line = ([], line) := by
      rw [splitLines, none']
      rfl
    have nothing : lines true [] = ([], []) := rfl
    rw [List.append_nil, nothing, withoutEnd_of_not_mem clean]
    simp [lines, whole, some']

theorem lines_of_nextLine_none {ended : Bool} {input : List UInt8}
    (next : Frame.nextLine ended input = none) : lines ended input = ([], input) := by
  cases ended with
  | true =>
    rw [Frame.nextLine_true_eq_none_iff.mp next]
    rfl
  | false =>
    have none' : Frame.splitLine input = none := by
      unfold Frame.nextLine at next
      cases found : Frame.splitLine input with
      | none => rfl
      | some parts =>
        rw [found] at next
        cases next
    simp [lines, splitLines, none']

theorem decodeLines_of_line {ended : Bool} {bytes line rest : List UInt8} {text : List Char}
    (next : Frame.nextLine ended bytes = some (line, rest))
    (decoded : Utf8.decode (withoutEnd line) = .ok text) :
    decodeLines (lines ended bytes).1 =
      (text :: (decodeLines (lines ended rest).1).1, (decodeLines (lines ended rest).1).2) := by
  rw [lines_of_nextLine next, decodeLines, decoded]

theorem decodeLines_of_invalid {ended : Bool} {bytes line rest : List UInt8}
    {invalid : Utf8.Invalid} (next : Frame.nextLine ended bytes = some (line, rest))
    (decoded : Utf8.decode (withoutEnd line) = .error invalid) :
    decodeLines (lines ended bytes).1 = ([], some invalid) := by
  rw [lines_of_nextLine next, decodeLines, decoded]

end CodeGateway.Agent
