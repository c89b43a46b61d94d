import CodeGateway.Proofs.DocumentUri
import CodeGateway.Proofs.FileUrl
import Mathlib.Data.List.Basic

namespace CodeGateway.Text

theorem splitAt_eq_splitOn (separator : Char) (text : List Char) :
    splitAt separator text = text.splitOn separator := by
  induction text with
  | nil => simp [splitAt]
  | cons c text ih =>
    obtain ⟨first, more, parts⟩ :=
      List.exists_cons_of_ne_nil (List.splitOnP_ne_nil (· == separator) text)
    rw [splitAt, ih, List.splitOn, List.splitOn, List.splitOnP_cons_eq_if_modifyHead, parts]
    rfl

theorem joinWith_eq_intercalate (separator : Char) (parts : List (List Char)) :
    joinWith separator parts = [separator].intercalate parts := by
  induction parts with
  | nil => rfl
  | cons first parts ih =>
    cases parts with
    | nil => simp [joinWith]
    | cons second parts =>
      rw [Url.joinWith_cons_cons, ih, List.intercalate_cons_cons]
      simp

end CodeGateway.Text

namespace CodeGateway.Path

/-- The parts of a path between its slashes that name something: neither empty nor one full stop. -/
def components (path : List Char) : List (List Char) :=
  (path.splitOn '/').filter fun part => part ≠ [] ∧ part ≠ ['.']

/-- A path from the top without parts that name nothing, and without a slash at its end. -/
def tidy (path : List Char) : List Char :=
  '/' :: ['/'].intercalate (components path)

/-- Whether a part ends like a drive: in a letter of ASCII and a colon or a bar. -/
def endsInDrive (part : List Char) : Bool :=
  match part.reverse with
  | mark :: letter :: _ => letter.isAlpha && (mark == ':' || mark == '|')
  | _ => false

theorem pathSegments_eq_components (path : List Char) :
    Url.pathSegments path = components path := by
  rw [Url.pathSegments, components, Text.splitAt_eq_splitOn]
  apply List.filter_congr
  intro part _
  rw [Bool.eq_iff_iff]
  simp

theorem rootedPath_components (path : List Char) :
    Url.rootedPath (components path) = tidy path := by
  rw [Url.rootedPath_eq, Text.joinWith_eq_intercalate, tidy]

theorem endsInDrive_iff {part : List Char} : endsInDrive part = true ↔
    ∃ front letter mark, part = front ++ [letter, mark] ∧ letter.isAlpha = true ∧
      (mark = ':' ∨ mark = '|') := by
  unfold endsInDrive
  constructor
  · intro drive
    split at drive
    · rename_i mark letter rest turned
      simp only [Bool.and_eq_true, Bool.or_eq_true, beq_iff_eq] at drive
      have parts := congrArg List.reverse turned
      rw [List.reverse_reverse] at parts
      exact ⟨rest.reverse, letter, mark, by simp [parts], drive⟩
    · cases drive
  · rintro ⟨front, letter, mark, rfl, isLetter, isMark⟩
    simpa [isLetter] using isMark

theorem exists_endsInDrive_of_rootedPath {parts : List (List Char)}
    (drive : endsInDrive (Url.rootedPath parts) = true) :
    ∃ part ∈ parts, endsInDrive part = true := by
  rcases List.eq_nil_or_concat parts with rfl | ⟨front, last, rfl⟩
  · cases drive
  · obtain ⟨before, letter, mark, whole, isLetter, isMark⟩ := endsInDrive_iff.mp drive
    have notSlash : '/' ∉ [letter, mark] := by
      intro slash
      rcases List.mem_pair.mp slash with rfl | rfl
      · cases isLetter
      · rcases isMark with same | same <;> cases same
    have rooted : Url.rootedPath (front.concat last) = front.flatMap ('/' :: ·) ++ '/' :: last := by
      simp [Url.rootedPath]
    rw [rooted] at whole
    -- No slash is in the drive, so all of it stands in the last part.
    have ends : [letter, mark] <:+ '/' :: last := by
      have first : [letter, mark] <:+ front.flatMap ('/' :: ·) ++ '/' :: last :=
        whole ▸ List.suffix_append _ _
      rcases List.suffix_or_suffix_of_suffix first (List.suffix_append _ _) with ends | inside
      · exact ends
      · exact absurd (inside.subset List.mem_cons_self) notSlash
    rcases List.suffix_cons_iff.mp ends with same | ⟨rest, within⟩
    · exact absurd (same ▸ List.mem_cons_self) notSlash
    · exact ⟨last, by simp, endsInDrive_iff.mpr ⟨rest, letter, mark, within.symm, isLetter, isMark⟩⟩

end CodeGateway.Path

namespace CodeGateway.Url

theorem isAlpha_of_letter {c : Char} (letter : 0x41 ≤ c.toNat ∧ c.toNat ≤ 0x5A ∨
    0x61 ≤ c.toNat ∧ c.toNat ≤ 0x7A) : c.isAlpha = true := by
  have upper : c.isUpper = true ↔ 0x41 ≤ c.toNat ∧ c.toNat ≤ 0x5A := decide_eq_true_iff
  have lower : c.isLower = true ↔ 0x61 ≤ c.toNat ∧ c.toNat ≤ 0x7A :=
    Bool.and_eq_true_iff.trans (and_congr decide_eq_true_iff decide_eq_true_iff)
  exact Bool.or_eq_true_iff.mpr (letter.imp upper.mpr lower.mpr)

theorem closeDrive_encode {path : List Char} (plain : Path.endsInDrive path = false) :
    closeDrive (Utf8.encode path) = Utf8.encode path := by
  unfold closeDrive
  split
  · rename_i mark letter byte rest turned
    split
    · rename_i drive
      have bytes := congrArg List.reverse turned
      rw [List.reverse_reverse, List.reverse_cons, List.reverse_cons] at bytes
      simp only [Bool.and_eq_true, Bool.or_eq_true, beq_iff_eq, decide_eq_true_eq,
        UInt8.le_iff_toNat_le, ← UInt8.toNat_inj] at drive
      simp only [UInt8.reduceToNat] at drive
      obtain ⟨isMark, isLetter⟩ := drive
      -- A byte of ASCII at the end of a text is a character by itself.
      obtain ⟨init, last, rfl, bytes', lastCode⟩ := Utf8.exists_of_encode_snoc bytes (by omega)
      obtain ⟨front, c, rfl, -, code⟩ := Utf8.exists_of_encode_snoc bytes' (by omega)
      have last' : last = ':' ∨ last = '|' := by
        rw [← lastCode] at isMark
        exact isMark.imp (fun same => Char.toNat_inj.mp same) fun same => Char.toNat_inj.mp same
      have isDrive : Path.endsInDrive (front ++ [c] ++ [last]) = true :=
        Path.endsInDrive_iff.mpr ⟨front, c, last, by simp, isAlpha_of_letter (by omega), last'⟩
      rw [plain] at isDrive
      cases isDrive
    · rfl
  · rfl

theorem percentDecode_rootedPath (parts : List (List Char)) :
    percentDecode (rootedPath (parts.map (percentEncode segmentSet))) =
      Utf8.encode (rootedPath parts) := by
  have joined : percentDecode ((parts.map (percentEncode segmentSet)).flatMap ('/' :: ·)) =
      Utf8.encode (parts.flatMap ('/' :: ·)) := by
    induction parts with
    | nil => rfl
    | cons part parts ih =>
      have percent : isEncoded segmentSet '%' = true := by decide
      rw [List.map_cons, List.flatMap_cons, List.cons_append, percentDecode_cons (by decide),
        percentDecode_percentEncode_append percent, ih]
      simp [Utf8.encode]
  cases parts with
  | nil => rfl
  | cons part parts => exact joined

theorem filePath?_ofPath {path : List Char} (rooted : Rooted path) :
    filePath? (ofPath path) = some (closeDrive (percentDecode path)) := by
  cases path with
  | nil => cases rooted
  | cons c path =>
    cases rooted
    rfl

theorem displayPath_ofFilePath {path : List Char} {url : Url} (names : ofFilePath? path = some url)
    (level : ['.', '.'] ∉ Path.components path)
    (plain : ∀ part ∈ Path.components path, Path.endsInDrive part = false) :
    displayPath url.toString = String.ofList (Path.tidy path) := by
  rw [← Path.pathSegments_eq_components] at level
  have decoded : percentDecode (encodedPath path) = Utf8.encode (Path.tidy path) := by
    rw [encodedPath, percentDecode_rootedPath, Path.pathSegments_eq_components,
      Path.rootedPath_components]
  have notDrive : Path.endsInDrive (Path.tidy path) = false := by
    rw [Bool.eq_false_iff, ← Path.rootedPath_components]
    intro drive
    obtain ⟨part, among, drive⟩ := Path.exists_endsInDrive_of_rootedPath drive
    rw [plain part among] at drive
    cases drive
  have isFile : url.isFile = true := by
    rw [eq_ofPath_of_ofFilePath names]
    rfl
  have read : url.filePath? = some (Utf8.encode (Path.tidy path)) := by
    rw [eq_ofPath_of_ofFilePath names, filePath?_ofPath (rooted_encodedPath path), decoded,
      closeDrive_encode notDrive]
  simp only [displayPath, parse_ofFilePath names level, isFile, if_true, read,
    Utf8.decodeLossy_encode]

theorem notBlank_of_isPathChar {c : Char} (isPathChar : IsPathChar c) : Text.isBlank c = false := by
  have bounds : 0x20 < c.toNat ∧ c.toNat < 0x7F := by
    rcases isPathChar with rfl | settled
    · decide
    · exact settled.bounds
  simp only [Text.isBlank, Bool.or_eq_false_iff, Bool.and_eq_false_imp, decide_eq_true_eq,
    decide_eq_false_iff_not, beq_eq_false_iff_ne]
  omega

theorem trim_ofPath {path : List Char} (all : ∀ c ∈ path, IsPathChar c) :
    Text.trim (ofPath path).toString = (ofPath path).toString := by
  have front : ∀ c ∈ ['f', 'i', 'l', 'e', ':', '/', '/'], Text.isBlank c = false := by
    simp [Text.isBlank]
  have notBlank : ∀ c ∈ (ofPath path).text, Text.isBlank c = false := by
    intro c among
    have parts : (ofPath path).text = ['f', 'i', 'l', 'e', ':', '/', '/'] ++ path :=
      text_ofPath path
    rw [parts, List.mem_append] at among
    rcases among with before | among
    · exact front c before
    · exact notBlank_of_isPathChar (all c among)
  rw [Text.trim, toString, String.toList_ofList, Text.trimChars_of_trimmed]
  exact ⟨fun c first => notBlank c (List.mem_of_mem_head? first),
    fun c last => notBlank c (List.mem_of_getLast? last)⟩

theorem marked_ofPath (path : List Char) : [':', '/', '/'] <:+: (ofPath path).toString.toList := by
  rw [toString, String.toList_ofList, text_ofPath]
  exact ⟨['f', 'i', 'l', 'e'], path, rfl⟩

end CodeGateway.Url

namespace CodeGateway

theorem ne_empty_of_marked {text : String} (marked : [':', '/', '/'] <:+: text.toList) :
    text ≠ "" := by
  rintro rfl
  cases List.infix_nil.mp marked

theorem exists_ofFilePath {root : List Char} (absolute : Path.isAbsolute root = true)
    (path : List Char) : ∃ file, Url.ofFilePath? (Path.join root path) = some file := by
  rw [← Option.ne_none_iff_exists', Ne, Url.ofFilePath?_eq_none_iff,
    Path.isAbsolute_join absolute path]
  exact Bool.noConfusion

theorem documentUri?_eq_some_iff {raw uri : String} {root : List Char} :
    documentUri? raw root = some uri ↔ Text.trim raw ≠ "" ∧
      ([':', '/', '/'] <:+: (Text.trim raw).toList ∧ uri = Text.trim raw ∨
        ¬ [':', '/', '/'] <:+: (Text.trim raw).toList ∧
          ∃ file, Url.ofFilePath? (Path.join root (Text.trim raw).toList) = some file ∧
            uri = file.toString) := by
  rw [← Text.occursIn_iff_isInfix, documentUri?]
  split
  · rename_i empty
    simp [String.isEmpty_iff.mp empty]
  · rename_i some
    rw [String.isEmpty_iff] at some
    split
    · rename_i marked
      simp [some, marked, eq_comm]
    · rename_i unmarked
      simp [some, unmarked, Option.map_eq_some_iff, @eq_comm _ uri]

theorem documentUri?_of_marked {uri : String} (trimmed : Text.trim uri = uri)
    (marked : [':', '/', '/'] <:+: uri.toList) (root : List Char) :
    documentUri? uri root = some uri := by
  rw [documentUri?_eq_some_iff, trimmed]
  exact ⟨ne_empty_of_marked marked, .inl ⟨marked, rfl⟩⟩

theorem marked_of_documentUri {raw uri : String} {root : List Char}
    (made : documentUri? raw root = some uri) : [':', '/', '/'] <:+: uri.toList := by
  obtain ⟨-, ⟨marked, rfl⟩ | ⟨-, file, names, rfl⟩⟩ := documentUri?_eq_some_iff.mp made
  · exact marked
  · rw [Url.eq_ofPath_of_ofFilePath names]
    exact Url.marked_ofPath _

/-- A path comes back from the URI that it is turned into, without the parts that name nothing, as
    long as none of its parts goes up or ends like a drive; and a URI that a text was turned into
    stays as it is when it is given again, whatever the root is then. -/
theorem path_round_trip :
    (∀ (root : List Char) (raw : String), Path.isAbsolute root = true → Text.trim raw ≠ "" →
      ¬ [':', '/', '/'] <:+: (Text.trim raw).toList →
      (∀ part ∈ Path.components (Path.join root (Text.trim raw).toList),
        part ≠ ['.', '.'] ∧ Path.endsInDrive part = false) →
      ∃ uri, documentUri? raw root = some uri ∧ Url.displayPath uri =
        String.ofList (Path.tidy (Path.join root (Text.trim raw).toList))) ∧
    ∀ (raw uri : String) (root other : List Char), documentUri? raw root = some uri →
      documentUri? uri other = some uri := by
  constructor
  · intro root raw absolute some unmarked parts
    obtain ⟨file, names⟩ := exists_ofFilePath absolute (Text.trim raw).toList
    have made := documentUri?_eq_some_iff.mpr ⟨some, .inr ⟨unmarked, file, names, rfl⟩⟩
    refine ⟨file.toString, made, ?_⟩
    exact Url.displayPath_ofFilePath names (fun up => (parts _ up).1 rfl)
      fun part among => (parts part among).2
  · intro raw uri root other made
    apply documentUri?_of_marked
    · obtain ⟨-, ⟨-, rfl⟩ | ⟨-, file, names, rfl⟩⟩ := documentUri?_eq_some_iff.mp made
      · exact Text.trim_trim raw
      · obtain rfl := Url.eq_ofPath_of_ofFilePath names
        exact Url.trim_ofPath fun c => Url.isPathChar_of_mem_encodedPath
    · exact marked_of_documentUri made

/-- A path with blanks, escapes, marks of URLs and control characters in it, seen from a root with
    some of these in its own name. -/
theorem path_round_trip_awkward : ∃ uri,
    documentUri? " ./a b//%2e%2e/\\?\"\x00#\t/日本 /C:x.. " "/w|s/./%20/".toList = some uri ∧
      documentUri? uri [] = some uri ∧
      Url.displayPath uri = "/w|s/%20/a b/%2e%2e/\\?\"\x00#\t/日本 /C:x.." := by
  obtain ⟨shown, kept⟩ := path_round_trip
  obtain ⟨uri, made, same⟩ := shown "/w|s/./%20/".toList
    " ./a b//%2e%2e/\\?\"\x00#\t/日本 /C:x.. " (by decide +kernel) (by decide +kernel)
    (by decide +kernel) (by decide +kernel)
  exact ⟨uri, made, kept _ _ _ [] made, same.trans (by decide +kernel)⟩

end CodeGateway
