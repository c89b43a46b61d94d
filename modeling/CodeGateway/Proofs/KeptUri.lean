import CodeGateway.Proofs.PathRoundTrip
import CodeGateway.Proofs.RecordMembers

namespace CodeGateway.Url

def isDriveMark (c : Char) : Bool := c == ':' || c == '|'

def driveMarks (text : List Char) : Nat := text.countP isDriveMark

theorem driveMarks_append (front back : List Char) :
    driveMarks (front ++ back) = driveMarks front + driveMarks back :=
  List.countP_append

theorem driveMarks_cons (c : Char) (rest : List Char) :
    driveMarks (c :: rest) = driveMarks [c] + driveMarks rest :=
  driveMarks_append [c] rest

theorem driveMarks_slash : driveMarks ['/'] = 0 := rfl

theorem driveMarks_closing (closed : Bool) : driveMarks (if closed then ['/'] else []) = 0 := by
  cases closed <;> rfl

theorem driveMarks_le_of_sublist {part text : List Char} (sublist : part.Sublist text) :
    driveMarks part ≤ driveMarks text :=
  sublist.countP_le

theorem not_isDriveMark_upperHexDigit : ∀ n < 16, isDriveMark (upperHexDigit n) = false := by
  decide

theorem driveMarks_flatMap_percentByte (bytes : List UInt8) :
    driveMarks (bytes.flatMap percentByte) = 0 := by
  rw [driveMarks, List.countP_eq_zero]
  intro c among
  obtain ⟨byte, -, among⟩ := List.mem_flatMap.mp among
  have bound := byte.toNat_lt
  simp only [percentByte, List.mem_cons, List.not_mem_nil, or_false] at among
  rw [Bool.not_eq_true]
  rcases among with rfl | rfl | rfl
  · rfl
  · exact not_isDriveMark_upperHexDigit _ (by omega)
  · exact not_isDriveMark_upperHexDigit _ (by omega)

theorem driveMarks_percentEncode {set : EncodeSet}
    (kept : isEncoded set ':' = false ∧ isEncoded set '|' = false) (text : List Char) :
    driveMarks (percentEncode set text) = driveMarks text := by
  induction text with
  | nil => rfl
  | cons c text ih =>
    rw [percentEncode, List.flatMap_cons, ← percentEncode, driveMarks_append, ih,
      driveMarks_cons c text, encodeChar]
    split
    · rename_i encoded
      have notMark : isDriveMark c = false := by
        simp only [isDriveMark, Bool.or_eq_false_iff, beq_eq_false_iff_ne]
        constructor
        · rintro rfl
          rw [kept.1] at encoded
          cases encoded
        · rintro rfl
          rw [kept.2] at encoded
          cases encoded
      have none : driveMarks [c] = 0 := by
        rw [driveMarks, List.countP_singleton, notMark]
        rfl
      rw [driveMarks_flatMap_percentByte, none]
    · rfl

theorem driveMarks_closeWithSlash (path : List Char) :
    driveMarks (closeWithSlash path) = driveMarks path := by
  unfold closeWithSlash
  split
  · rfl
  · rw [driveMarks_append, driveMarks_slash, Nat.add_zero]

theorem driveMarks_addSegment_le (isFile : Bool) (path segment : List Char) (closed : Bool) :
    driveMarks (addSegment isFile path segment closed) ≤ driveMarks path + driveMarks segment := by
  have shorter := driveMarks_le_of_sublist
    ((dropLastSegment_sublist isFile (dropLastSlash path)).trans (dropLastSlash_sublist path))
  unfold addSegment
  split
  · dsimp only
    split
    · rw [driveMarks_closeWithSlash]
      omega
    · omega
  · split
    · rw [driveMarks_closeWithSlash]
      omega
    · rw [driveMarks_append, driveMarks_append, driveMarks_closing, Nat.add_zero]

theorem driveMarks_unbroken_le (text : List Char) :
    driveMarks (unbroken text) ≤ driveMarks text :=
  driveMarks_le_of_sublist List.filter_sublist

theorem driveMarks_brokenDrive {segment behind : List Char} {letter : Char}
    (broken : brokenDrive? segment = some (letter, behind)) :
    driveMarks [letter] + 1 + driveMarks behind ≤ driveMarks segment := by
  unfold brokenDrive? at broken
  split at broken
  · cases broken
  · rename_i letter more first
    split at broken
    · rename_i blank rest second
      dsimp only at broken
      split at broken
      · cases broken
        have outer := driveMarks_le_of_sublist
          (List.dropWhile_sublist (l := segment) isLineBreakOrTab)
        have inner := driveMarks_le_of_sublist (List.dropWhile_sublist (l := more) isLineBreakOrTab)
        have kept := driveMarks_unbroken_le rest
        rw [first, driveMarks_cons] at outer
        rw [second, driveMarks_cons, driveMarks_cons blank] at inner
        have colon : driveMarks [':'] = 1 := rfl
        omega
      · cases broken
    · cases broken

theorem driveMarks_of_isDriveLetter {text : List Char} (drive : isDriveLetter text = true) :
    driveMarks (text.take 1 ++ [':']) = driveMarks text := by
  unfold isDriveLetter at drive
  split at drive
  · rename_i c mark
    simp only [Bool.and_eq_true, Bool.or_eq_true, beq_iff_eq] at drive
    rcases drive.2 with rfl | rfl <;> simp [driveMarks, isDriveMark, List.countP_cons]
  · cases drive

theorem driveMarks_add_le (file : PartialPath) (segment : List Char) (closed : Bool) :
    driveMarks (file.add segment closed).path ≤ driveMarks file.path + driveMarks segment := by
  have kept : isEncoded pathSet ':' = false ∧ isEncoded pathSet '|' = false := by decide
  have visible := driveMarks_unbroken_le segment
  have plain := driveMarks_addSegment_le true file.path (percentEncode pathSet (unbroken segment))
    closed
  rw [driveMarks_percentEncode kept] at plain
  unfold PartialPath.add
  dsimp only
  -- A colon is put only behind the letter of a drive in the first segment, where a mark was.
  split
  · split
    · rename_i letter behind broken
      have most := driveMarks_brokenDrive broken
      have colon : driveMarks [':'] = 1 := rfl
      have slash := driveMarks_slash
      simp only [driveMarks_append, driveMarks_percentEncode kept, driveMarks_closing]
      rw [driveMarks_cons, driveMarks_cons letter, driveMarks_cons ':']
      omega
    · split
      · rename_i drive
        have added := driveMarks_addSegment_le true file.path ((unbroken segment).take 1 ++ [':'])
          closed
        rw [driveMarks_of_isDriveLetter drive] at added
        dsimp only
        omega
      · dsimp only
        omega
  · dsimp only
    omega

theorem driveMarks_flatten_cons (part : List Char) (parts : List (List Char)) :
    driveMarks (part :: parts).flatten = driveMarks part + driveMarks parts.flatten := by
  rw [List.flatten_cons, driveMarks_append]

theorem driveMarks_addAll_le (file : PartialPath) (segments : List (List Char)) :
    driveMarks (file.addAll segments).path ≤
      driveMarks file.path + driveMarks segments.flatten := by
  induction segments generalizing file with
  | nil => simp [PartialPath.addAll]
  | cons first segments ih =>
    cases segments with
    | nil => simpa [PartialPath.addAll] using driveMarks_add_le file first false
    | cons second segments =>
      have added := driveMarks_add_le file first true
      have later := ih (file.add first true)
      rw [addAll_cons_cons, driveMarks_flatten_cons]
      omega

theorem driveMarks_splitSegments (isSpecial : Bool) (text : List Char) :
    driveMarks (splitSegments isSpecial text).flatten = driveMarks text := by
  induction text with
  | nil => rfl
  | cons c text ih =>
    rw [driveMarks_cons, splitSegments]
    split
    · rename_i slash
      -- The slash that ends a segment is lost, but it is no mark.
      have notMark : driveMarks [c] = 0 := by
        simp only [Bool.or_eq_true, Bool.and_eq_true, beq_iff_eq] at slash
        rcases slash with rfl | ⟨-, rfl⟩ <;> rfl
      rw [driveMarks_flatten_cons, ih, notMark]
      rfl
    · split
      · rename_i first more parts
        rw [parts, driveMarks_flatten_cons] at ih
        rw [driveMarks_flatten_cons, driveMarks_cons, ← ih]
        omega
      · rename_i parts
        rw [parts] at ih
        rw [← ih]
        rfl

theorem driveMarks_ofText_le (text : List Char) :
    driveMarks (PartialPath.ofText text).text ≤ driveMarks text := by
  have put := driveMarks_addAll_le ⟨['/'], false⟩ (splitSegments true text)
  have dropped := driveMarks_le_of_sublist
    (List.dropWhile_sublist (l := (PartialPath.ofText text).path) (· == '/'))
  rw [driveMarks_splitSegments, driveMarks_slash] at put
  rw [PartialPath.text, driveMarks_cons, driveMarks_slash]
  rw [PartialPath.ofText] at dropped ⊢
  omega

theorem afterSlash?_sublist {text rest : List Char} (behind : afterSlash? text = some rest) :
    rest.Sublist text := by
  unfold afterSlash? at behind
  split at behind
  · rename_i c rest first
    split at behind
    · cases behind
      have whole := List.dropWhile_sublist (l := text) isLineBreakOrTab
      rw [first] at whole
      exact (List.sublist_cons_self c _).trans whole
    · cases behind
  · cases behind

theorem driveMarks_fileHostAndPath_le {front host path : List Char}
    (read : fileHostAndPath front = .ok (host, path)) : driveMarks path ≤ driveMarks front := by
  have shorter {text : List Char} (sublist : text.Sublist front) :
      driveMarks (PartialPath.ofText text).text ≤ driveMarks front :=
    (driveMarks_ofText_le text).trans (driveMarks_le_of_sublist sublist)
  unfold fileHostAndPath at read
  split at read
  · cases read
    exact shorter (List.Sublist.refl _)
  · rename_i behindFirst one
    split at read
    · cases read
      exact shorter (afterSlash?_sublist one)
    · rename_i behindBoth two
      have both := (afterSlash?_sublist two).trans (afterSlash?_sublist one)
      dsimp only at read
      split at read
      · cases read
        exact shorter both
      · obtain ⟨named, -, made⟩ := Decode.bind_eq_ok_iff.mp read
        cases made
        have rest := (List.dropWhile_sublist (l := behindBoth) (!isSlash ·)).trans both
        split
        · exact shorter rest
        · exact shorter ((List.tail_sublist _).trans rest)

theorem splitTail_sublist (text : List Char) : (splitTail text).1.Sublist text :=
  (List.takeWhile_sublist _).trans (List.takeWhile_sublist _)

theorem driveMarks_file_le {text : List Char} {url : Url} (read : file text = .ok url) :
    driveMarks url.path ≤ driveMarks text := by
  unfold file at read
  obtain ⟨parts, given, made⟩ := Decode.bind_eq_ok_iff.mp read
  cases made
  exact (driveMarks_fileHostAndPath_le given).trans
    (driveMarks_le_of_sublist (splitTail_sublist text))

theorem scheme_afterSlashes {scheme text : List Char} {url : Url}
    (read : afterSlashes scheme text = .ok url) : url.scheme = scheme := by
  unfold afterSlashes at read
  obtain ⟨parts, -, made⟩ := Decode.bind_eq_ok_iff.mp read
  cases made
  rfl

theorem scheme_general {scheme text : List Char} {url : Url}
    (read : general scheme text = .ok url) : url.scheme = scheme := by
  unfold general at read
  split at read
  · exact scheme_afterSlashes read
  · cases read
    rfl

theorem splitScheme_colon {text scheme rest : List Char}
    (split : splitScheme text = some (scheme, rest)) : ':' ∈ text := by
  unfold splitScheme at split
  dsimp only at split
  split at split
  · rename_i first more behind front back
    exact List.dropWhile_sublist _ |>.subset (back ▸ List.mem_cons_self)
  · cases split

theorem trimmed_sublist (text : List Char) : (trimmed text).Sublist text := by
  have back := List.dropWhile_sublist (l := (text.dropWhile isOuterBlank).reverse) isOuterBlank
  have turned := back.reverse
  rw [List.reverse_reverse] at turned
  exact turned.trans (List.dropWhile_sublist _)

theorem driveMarks_path_lt {text : List Char} {url : Url} (read : parseChars text = .ok url)
    (isFile : url.scheme = fileScheme) : driveMarks url.path < driveMarks text := by
  unfold parseChars at read
  split at read
  · cases read
  · rename_i scheme rest parts
    split at read
    · have colon : ':' ∈ trimmed text := List.mem_of_mem_filter (splitScheme_colon parts)
      have whole := driveMarks_le_of_sublist (trimmed_sublist text)
      have suffix := driveMarks_le_of_sublist
        (List.dropWhile_sublist (l := trimmed text) (· != ':'))
      have path := driveMarks_file_le read
      -- The colon behind the scheme is counted in the text, but what becomes the path is behind it.
      cases behind : (trimmed text).dropWhile (· != ':') with
      | nil =>
        have notColon := List.dropWhile_eq_nil_iff.mp behind ':' colon
        exact absurd notColon (by decide)
      | cons c more =>
        have first := List.head?_dropWhile_not (· != ':') (trimmed text)
        rw [behind] at first suffix path
        obtain rfl : c = ':' := by simpa using first
        have one : driveMarks [':'] = 1 := rfl
        rw [driveMarks_cons, one] at suffix
        rw [List.tail_cons] at path
        omega
    · rename_i other
      have same : url.scheme = scheme := by
        split at read
        · exact scheme_afterSlashes read
        · exact scheme_general read
      rw [← same, isFile] at other
      exact absurd rfl other

theorem splitSegments_false (text : List Char) :
    splitSegments false text = Text.splitAt '/' text := by
  induction text with
  | nil => rfl
  | cons c text ih =>
    rw [splitSegments, Text.splitAt, ih]
    cases Text.splitAt '/' text <;> simp

theorem driveMarks_pathSegments (path : List Char) :
    driveMarks (pathSegments path).flatten = driveMarks path := by
  have dropped (parts : List (List Char)) :
      driveMarks (parts.filter fun part => !part.isEmpty && part != ['.']).flatten =
        driveMarks parts.flatten := by
    induction parts with
    | nil => rfl
    | cons part parts ih =>
      rw [List.filter_cons]
      split
      · rw [driveMarks_flatten_cons, ih, driveMarks_flatten_cons]
      · rename_i unnamed
        have none : driveMarks part = 0 := by
          simp only [Bool.and_eq_true, Bool.not_eq_true', List.isEmpty_eq_false_iff, bne_iff_ne,
            not_and_or, not_not] at unnamed
          rcases unnamed with rfl | rfl <;> rfl
        rw [ih, driveMarks_flatten_cons, none, Nat.zero_add]
  rw [pathSegments, dropped, ← splitSegments_false, driveMarks_splitSegments]

theorem driveMarks_rootedPath (parts : List (List Char)) :
    driveMarks (rootedPath (parts.map (percentEncode segmentSet))) = driveMarks parts.flatten := by
  have kept : isEncoded segmentSet ':' = false ∧ isEncoded segmentSet '|' = false := by decide
  have behind : driveMarks ((parts.map (percentEncode segmentSet)).flatMap ('/' :: ·)) =
      driveMarks parts.flatten := by
    induction parts with
    | nil => rfl
    | cons part parts ih =>
      rw [List.map_cons, List.flatMap_cons, driveMarks_append, driveMarks_cons, driveMarks_slash,
        driveMarks_percentEncode kept, ih, driveMarks_flatten_cons, Nat.zero_add]
  cases parts with
  | nil => rfl
  | cons part parts => exact behind

theorem driveMarks_encodedPath (path : List Char) :
    driveMarks (encodedPath path) = driveMarks path := by
  rw [encodedPath, driveMarks_rootedPath, driveMarks_pathSegments]

theorem driveMarks_join_le (root path : List Char) :
    driveMarks path ≤ driveMarks (Path.join root path) := by
  unfold Path.join
  split
  · exact Nat.le_refl _
  · split
    · exact driveMarks_le_of_sublist (List.sublist_append_right _ _)
    · exact driveMarks_le_of_sublist
        ((List.sublist_cons_self _ _).trans (List.sublist_append_right _ _))

theorem parseChars_ne_ofFilePath {text root : List Char} {file : Url}
    (names : ofFilePath? (Path.join root text) = some file) : parseChars text ≠ .ok file := by
  obtain rfl := eq_ofPath_of_ofFilePath names
  intro read
  have less := driveMarks_path_lt read rfl
  have more := driveMarks_join_le root text
  have same : driveMarks (ofPath (encodedPath (Path.join root text))).path =
      driveMarks (Path.join root text) := driveMarks_encodedPath _
  omega

end CodeGateway.Url

namespace CodeGateway

/-- A text that is a URL is kept as the URI that it is just when the mark of a scheme with a host is
    in it. Else it is turned into the URI of a file that is not what the text names as a URL. Seen
    from a root, it is one or the other. -/
theorem uri_kept {raw : String} {url : Url} (parsed : Url.parse (Text.trim raw) = .ok url)
    (root : List Char) :
    (documentUri? raw root = some (Text.trim raw) ↔
      [':', '/', '/'] <:+: (Text.trim raw).toList) ∧
    (∀ uri, documentUri? raw root = some uri → uri ≠ Text.trim raw →
      ∃ file, Url.ofFilePath? (Path.join root (Text.trim raw).toList) = some file ∧
        uri = file.toString ∧ file ≠ url) ∧
    (Path.isAbsolute root = true → ∃ uri, documentUri? raw root = some uri) := by
  have some : Text.trim raw ≠ "" := by
    intro empty
    rw [empty] at parsed
    cases parsed
  refine ⟨⟨marked_of_documentUri, ?_⟩, ?_, ?_⟩
  · intro marked
    exact documentUri?_eq_some_iff.mpr ⟨some, .inl ⟨marked, rfl⟩⟩
  · intro uri made changed
    obtain ⟨-, ⟨-, same⟩ | ⟨-, file, names, rfl⟩⟩ := documentUri?_eq_some_iff.mp made
    · exact absurd same changed
    · refine ⟨file, names, rfl, ?_⟩
      rintro rfl
      exact Url.parseChars_ne_ofFilePath names parsed
  · intro absolute
    by_cases marked : [':', '/', '/'] <:+: (Text.trim raw).toList
    · exact ⟨_, documentUri?_eq_some_iff.mpr ⟨some, .inl ⟨marked, rfl⟩⟩⟩
    · obtain ⟨file, names⟩ := exists_ofFilePath absolute (Text.trim raw).toList
      exact ⟨_, documentUri?_eq_some_iff.mpr ⟨some, .inr ⟨marked, file, names, rfl⟩⟩⟩

/-- A document on another machine is kept as it stands, apart from the blanks around it. -/
theorem uri_kept_remote : ∃ url,
    Url.parse (Text.trim " vscode-remote://ssh+a/x y#é ") = .ok url ∧
      documentUri? " vscode-remote://ssh+a/x y#é " "/work".toList =
        some "vscode-remote://ssh+a/x y#é" := by
  have isUrl : (Url.parse (Text.trim " vscode-remote://ssh+a/x y#é ")).toOption.isSome = true := by
    decide +kernel
  cases parsed : Url.parse (Text.trim " vscode-remote://ssh+a/x y#é ") with
  | error error =>
    rw [parsed] at isUrl
    cases isUrl
  | ok url =>
    obtain ⟨kept, -, -⟩ := uri_kept parsed "/work".toList
    exact ⟨url, rfl, kept.mpr ⟨"vscode-remote".toList, "ssh+a/x y#é".toList, by decide +kernel⟩⟩

/-- The URL of a document that no file holds yet is taken for a path, and so is that of a file
    written without its two slashes. -/
theorem untitled_not_kept :
    (Url.parse "untitled:Untitled-1").toOption.map Url.scheme = some "untitled".toList ∧
      documentUri? "untitled:Untitled-1" "/work".toList =
        some "file:///work/untitled:Untitled-1" ∧
      (Url.parse "file:/work/a.rs").toOption.map Url.toString = some "file:///work/a.rs" ∧
      documentUri? "file:/work/a.rs" "/work".toList = some "file:///work/file:/work/a.rs" := by
  decide +kernel

end CodeGateway
