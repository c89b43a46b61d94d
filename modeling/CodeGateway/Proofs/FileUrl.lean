import CodeGateway.Proofs.SegmentPath

namespace CodeGateway.Url

def ofPath (path : List Char) : Url := ⟨fileScheme, some ⟨[], [], []⟩, path, none, none⟩

theorem text_ofPath (path : List Char) :
    (ofPath path).text = 'f' :: 'i' :: 'l' :: 'e' :: ':' :: '/' :: '/' :: path := by
  simp [text, ofPath, fileScheme, beforePath, marked]

def IsPathChar (c : Char) : Prop := c = '/' ∨ Settled c

theorem IsPathChar.visible {c : Char} (isPathChar : IsPathChar c) : 0x20 < c.toNat := by
  rcases isPathChar with rfl | settled
  · decide
  · exact settled.bounds.1

theorem IsPathChar.ne {c other : Char} (isPathChar : IsPathChar c) (notSlash : '/' ≠ other)
    (encoded : isEncoded pathSet other = true) : c ≠ other := by
  rcases isPathChar with rfl | settled
  · exact notSlash
  · exact settled.ne_of_encoded encoded

theorem trimmed_of_visible {text : List Char} (visible : ∀ c ∈ text, 0x20 < c.toNat) :
    trimmed text = text := by
  have inner : ∀ c ∈ text, isOuterBlank c = false := by
    intro c among
    have above := visible c among
    simp only [isOuterBlank, decide_eq_false_iff_not]
    omega
  have turned : ∀ c ∈ text.reverse, isOuterBlank c = false :=
    fun c among => inner c (List.mem_reverse.mp among)
  rw [trimmed, dropWhile_of_none inner, dropWhile_of_none turned, List.reverse_reverse]

theorem splitTail_of_path {text : List Char} (all : ∀ c ∈ text, IsPathChar c) :
    splitTail text = (text, none, none) := by
  have noFragment : ∀ c ∈ text, (c != '#') = true := fun c among => by
    simpa using (all c among).ne (by decide) (by decide)
  have noQuery : ∀ c ∈ text, (c != '?') = true := fun c among => by
    simpa using (all c among).ne (by decide) (by decide)
  have front := List.takeWhile_eq_self_iff.mpr noFragment
  have path := List.takeWhile_eq_self_iff.mpr noQuery
  have behind := List.dropWhile_eq_nil_iff.mpr noFragment
  have behind' := List.dropWhile_eq_nil_iff.mpr noQuery
  simp only [splitTail, front, path, behind, behind']

theorem fileHostAndPath_of_rooted (path : List Char) :
    fileHostAndPath ('/' :: '/' :: '/' :: path) =
      .ok ([], (PartialPath.ofText ('/' :: path)).text) := by
  have slash : isSlash '/' = true := by decide
  have notBreak : isLineBreakOrTab '/' = false := by decide
  have noDrive : isDriveLetter (unbroken []) = false := by decide
  have noHost : fileHost (unbroken []) = .ok [] := by decide
  simp [fileHostAndPath, afterSlash?, slash, notBreak, noDrive, noHost, Bind.bind, Except.bind]

theorem parseChars_ofPath {path : List Char} (all : ∀ c ∈ path, IsPathChar c)
    (rooted : Rooted path) :
    parseChars (ofPath path).text = .ok (ofPath (PartialPath.ofText path).text) := by
  obtain ⟨rest, rfl⟩ : ∃ rest, path = '/' :: rest := by
    cases path with
    | nil => cases rooted
    | cons c rest =>
      cases rooted
      exact ⟨rest, rfl⟩
  have visible : ∀ c ∈ (ofPath ('/' :: rest)).text, 0x20 < c.toNat := by
    intro c among
    rw [text_ofPath] at among
    simp only [List.mem_cons] at among
    rcases among with rfl | rfl | rfl | rfl | rfl | rfl | rfl | among
    all_goals first | decide | exact (all c (by simpa using among)).visible
  have scheme : splitScheme (ofPath ('/' :: rest)).text =
      some (fileScheme, '/' :: '/' :: '/' :: rest) := by
    rw [text_ofPath]
    simp [splitScheme, isSchemeChar, fileScheme]
  have behind : ((ofPath ('/' :: rest)).text.dropWhile (· != ':')).tail =
      '/' :: '/' :: '/' :: rest := by
    rw [text_ofPath]
    rfl
  have tail : splitTail ('/' :: '/' :: '/' :: rest) = ('/' :: '/' :: '/' :: rest, none, none) := by
    apply splitTail_of_path
    intro c among
    rcases List.mem_cons.mp among with rfl | among
    · exact Or.inl rfl
    · rcases List.mem_cons.mp among with rfl | among
      · exact Or.inl rfl
      · exact all c among
  rw [parseChars, trimmed_of_visible visible, unbroken_of_visible visible, scheme]
  simp only [beq_self_eq_true, if_true, behind, file, tail, fileHostAndPath_of_rooted]
  rfl

def IsCanonical (uri : String) : Prop := ∃ url, parse uri = .ok url ∧ url.toString = uri

theorem isCanonical_ofPath {path : List Char} (all : ∀ c ∈ path, IsPathChar c)
    (rooted : Rooted path) :
    IsCanonical (ofPath path).toString ↔ (PartialPath.ofText path).text = path := by
  have read : parse (ofPath path).toString = .ok (ofPath (PartialPath.ofText path).text) := by
    rw [parse, toString, String.toList_ofList]
    exact parseChars_ofPath all rooted
  have same : (ofPath (PartialPath.ofText path).text).toString = (ofPath path).toString ↔
      (PartialPath.ofText path).text = path := by
    rw [toString, toString, String.ofList_inj, text_ofPath, text_ofPath]
    simp only [List.cons.injEq, true_and]
  rw [← same, IsCanonical, read]
  simp

theorem isSegment_of_mem_pathSegments {path segment : List Char}
    (among : segment ∈ (pathSegments path).map (percentEncode segmentSet)) : IsSegment segment := by
  obtain ⟨name, inPath, rfl⟩ := List.mem_map.mp among
  have named := (List.mem_filter.mp inPath).2
  simp only [Bool.and_eq_true, Bool.not_eq_true', List.isEmpty_eq_false_iff, bne_iff_ne] at named
  obtain ⟨notEmpty, notHere⟩ := named
  refine ⟨fun c inside => settled_of_mem_percentEncode inside, ?_, ?_⟩
  · intro empty
    have percent : isEncoded segmentSet '%' = true := by decide
    have read := percentDecode_percentEncode percent name
    rw [empty] at read
    exact notEmpty (Utf8.encode_injective read.symm)
  · rw [Bool.eq_false_iff]
    exact fun here => notHere (isSingleDot_percentEncode.mp here)

theorem rooted_rootedPath (segments : List (List Char)) : Rooted (rootedPath segments) := by
  rw [rootedPath_eq]
  rfl

theorem isPathChar_of_mem_rootedPath {segments : List (List Char)}
    (isSegment : ∀ segment ∈ segments, IsSegment segment) {c : Char}
    (among : c ∈ rootedPath segments) : IsPathChar c := by
  unfold rootedPath at among
  split at among
  · exact Or.inl (List.mem_singleton.mp among)
  · obtain ⟨segment, within, among⟩ := List.mem_flatMap.mp among
    rcases List.mem_cons.mp among with slash | among
    · exact Or.inl slash
    · exact Or.inr ((isSegment segment within).settled c among)

def encodedPath (path : List Char) : List Char :=
  rootedPath ((pathSegments path).map (percentEncode segmentSet))

theorem eq_ofPath_of_ofFilePath {path : List Char} {url : Url}
    (names : ofFilePath? path = some url) : url = ofPath (encodedPath path) := by
  unfold ofFilePath? at names
  split at names
  · exact (Option.some.inj names).symm
  · cases names

theorem rooted_encodedPath (path : List Char) : Rooted (encodedPath path) :=
  rooted_rootedPath _

theorem isPathChar_of_mem_encodedPath {path : List Char} {c : Char}
    (among : c ∈ encodedPath path) : IsPathChar c :=
  isPathChar_of_mem_rootedPath (fun _ => isSegment_of_mem_pathSegments) among

theorem text_encodedPath {path : List Char} :
    (PartialPath.ofText (encodedPath path)).text = encodedPath path ↔
      ['.', '.'] ∉ pathSegments path := by
  rw [encodedPath, text_rootedPath fun _ => isSegment_of_mem_pathSegments]
  simp only [List.forall_mem_map]
  constructor
  · intro plain up
    have notUp := plain _ up
    rw [isDoubleDot_percentEncode.mpr rfl] at notUp
    cases notUp
  · intro notUp name among
    rw [Bool.eq_false_iff]
    intro up
    exact notUp (isDoubleDot_percentEncode.mp up ▸ among)

theorem isCanonical_ofFilePath {path : List Char} {url : Url}
    (names : ofFilePath? path = some url) :
    IsCanonical url.toString ↔ ['.', '.'] ∉ pathSegments path := by
  obtain rfl := eq_ofPath_of_ofFilePath names
  rw [isCanonical_ofPath (fun c => isPathChar_of_mem_encodedPath) (rooted_encodedPath path),
    text_encodedPath]

theorem parse_ofFilePath {path : List Char} {url : Url} (names : ofFilePath? path = some url)
    (level : ['.', '.'] ∉ pathSegments path) : parse url.toString = .ok url := by
  obtain rfl := eq_ofPath_of_ofFilePath names
  rw [parse, toString, String.toList_ofList,
    parseChars_ofPath (fun c => isPathChar_of_mem_encodedPath) (rooted_encodedPath path),
    text_encodedPath.mpr level]

end CodeGateway.Url
