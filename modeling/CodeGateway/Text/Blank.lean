/-!
Blank characters, and text without the blanks around it. A character is blank when Unicode gives
it the property White_Space; the zero-width space and the byte order mark are not blank.
-/

namespace CodeGateway.Text

def isBlank (c : Char) : Bool :=
  let n := c.toNat
  (9 ≤ n && n ≤ 13) || n == 0x20 || n == 0x85 || n == 0xA0 || n == 0x1680 ||
    (0x2000 ≤ n && n ≤ 0x200A) || n == 0x2028 || n == 0x2029 || n == 0x202F || n == 0x205F ||
    n == 0x3000

def dropBlanks (text : List Char) : List Char :=
  text.dropWhile isBlank

def trimEnd (text : String) : String :=
  String.ofList (dropBlanks text.toList.reverse).reverse

def trimChars (text : List Char) : List Char :=
  (dropBlanks (dropBlanks text).reverse).reverse

def trim (text : String) : String :=
  String.ofList (trimChars text.toList)

def isBlankText (text : String) : Bool :=
  text.toList.all isBlank

theorem dropBlanks_head {text : List Char} {c : Char} {rest : List Char}
    (h : dropBlanks text = c :: rest) : isBlank c = false := by
  induction text with
  | nil => simp [dropBlanks] at h
  | cons d text ih =>
    cases hd : isBlank d with
    | true => exact ih (by simpa [dropBlanks, List.dropWhile_cons, hd] using h)
    | false =>
      simp [dropBlanks, hd] at h
      rw [← h.1]
      exact hd

end CodeGateway.Text
