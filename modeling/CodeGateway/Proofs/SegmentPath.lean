import CodeGateway.Proofs.EncodedSegment
import CodeGateway.Url.FilePath
import Mathlib.Data.List.TakeWhile

namespace CodeGateway.Url

open Text (joinWith)

theorem joinWith_cons_cons (separator : Char) (first second : List Char)
    (more : List (List Char)) : joinWith separator (first :: second :: more) =
      first ++ separator :: joinWith separator (second :: more) := rfl

theorem addAll_cons_cons (file : PartialPath) (first second : List Char)
    (more : List (List Char)) :
    file.addAll (first :: second :: more) = (file.add first true).addAll (second :: more) := rfl

theorem rootedPath_eq {segments : List (List Char)} :
    rootedPath segments = '/' :: joinWith '/' segments := by
  cases segments with
  | nil => rfl
  | cons first segments =>
    have joined (front : List Char) (more : List (List Char)) :
        '/' :: joinWith '/' (front :: more) = (front :: more).flatMap ('/' :: ·) := by
      induction more generalizing front with
      | nil => simp [joinWith]
      | cons second more ih =>
        rw [joinWith_cons_cons, ih second]
        rfl
    exact (joined first segments).symm

theorem splitSegments_append {front : List Char} (settled : ∀ c ∈ front, Settled c)
    {rest first : List Char} {more : List (List Char)}
    (split : splitSegments true rest = first :: more) :
    splitSegments true (front ++ rest) = (front ++ first) :: more := by
  induction front with
  | nil => exact split
  | cons c front ih =>
    obtain ⟨-, notSlash, notBackslash⟩ := settled c (by simp)
    have tail := ih fun other among => settled other (by simp [among])
    rw [List.cons_append, splitSegments, tail]
    simp [notSlash, notBackslash]

theorem splitSegments_flatMap {segments : List (List Char)}
    (settled : ∀ segment ∈ segments, ∀ c ∈ segment, Settled c) :
    splitSegments true (segments.flatMap ('/' :: ·)) = [] :: segments := by
  induction segments with
  | nil => rfl
  | cons first segments ih =>
    have tail := ih fun other among => settled other (by simp [among])
    have whole := splitSegments_append (settled first (by simp)) tail
    rw [List.append_nil] at whole
    rw [List.flatMap_cons, List.cons_append, splitSegments, whole]
    rfl

theorem notBreak_of_visible {c : Char} (visible : 0x20 < c.toNat) : isLineBreakOrTab c = false := by
  have apart (other : Char) (low : other.toNat ≤ 0x20) : c ≠ other := by
    intro same
    subst same
    omega
  simp [isLineBreakOrTab, apart '\t' (by decide), apart '\n' (by decide), apart '\r' (by decide)]

theorem unbroken_of_visible {text : List Char} (visible : ∀ c ∈ text, 0x20 < c.toNat) :
    unbroken text = text := by
  rw [unbroken, List.filter_eq_self]
  intro c among
  simp [notBreak_of_visible (visible c among)]

theorem Settled.notBreak {c : Char} (settled : Settled c) : isLineBreakOrTab c = false :=
  notBreak_of_visible settled.bounds.1

theorem dropWhile_of_none {p : Char → Bool} {text : List Char} (none : ∀ c ∈ text, p c = false) :
    text.dropWhile p = text := by
  cases text with
  | nil => rfl
  | cons c text => rw [List.dropWhile_cons, none c (by simp)]; rfl

theorem brokenDrive?_of_settled {segment : List Char} (settled : ∀ c ∈ segment, Settled c) :
    brokenDrive? segment = none := by
  rw [brokenDrive?, dropWhile_of_none fun c among => (settled c among).notBreak]
  cases segment with
  | nil => rfl
  | cons letter more =>
    have settledMore : ∀ c ∈ more, Settled c := fun c among => settled c (by simp [among])
    simp only [dropWhile_of_none fun c among => (settledMore c among).notBreak]
    split
    · rename_i blank rest
      simp [(settledMore blank (by simp)).notBreak]
    · rfl

theorem addSegment_of_plain {segment : List Char} (notUp : isDoubleDot segment = false)
    (notHere : isSingleDot segment = false) (isFile : Bool) (path : List Char) (closed : Bool) :
    addSegment isFile path segment closed = path ++ segment ++ (if closed then ['/'] else []) := by
  simp [addSegment, notUp, notHere]

theorem add_of_settled {segment : List Char} (settled : ∀ c ∈ segment, Settled c)
    (file : PartialPath) (closed : Bool) :
    (file.add segment closed).path = addSegment true file.path
      (if file.path = ['/'] ∧ isDriveLetter segment = true then segment.take 1 ++ [':']
        else segment) closed := by
  simp only [PartialPath.add, unbroken_of_visible fun c among => (settled c among).bounds.1,
    brokenDrive?_of_settled settled,
    percentEncode_of_settled settled]
  by_cases first : file.path = ['/']
  · cases drive : isDriveLetter segment <;> simp [first]
  · simp [first]

theorem addAll_of_plain {segments : List (List Char)}
    (settled : ∀ segment ∈ segments, ∀ c ∈ segment, Settled c)
    (plain : ∀ segment ∈ segments, isDoubleDot segment = false ∧ isSingleDot segment = false)
    {file : PartialPath} (started : 2 ≤ file.path.length) :
    (file.addAll segments).path = file.path ++ joinWith '/' segments := by
  induction segments generalizing file with
  | nil => simp [PartialPath.addAll, joinWith]
  | cons first segments ih =>
    obtain ⟨notUp, notHere⟩ := plain first (by simp)
    have notAlone : file.path ≠ ['/'] := by
      intro alone
      rw [alone] at started
      exact absurd started (by decide)
    have added (closed : Bool) : (file.add first closed).path =
        file.path ++ first ++ (if closed then ['/'] else []) := by
      rw [add_of_settled (settled first (by simp)), if_neg (fun given => notAlone given.1),
        addSegment_of_plain notUp notHere]
    cases segments with
    | nil =>
      rw [PartialPath.addAll, added, joinWith]
      simp
    | cons second segments =>
      have longer : 2 ≤ (file.add first true).path.length := by
        rw [added, List.length_append, List.length_append]
        omega
      have later := ih (fun other among => settled other (by simp [among]))
        (fun other among => plain other (by simp [among])) longer
      rw [addAll_cons_cons, later, added, joinWith_cons_cons]
      simp

def Rooted (path : List Char) : Prop := path.head? = some '/'

theorem Rooted.take {path : List Char} (rooted : Rooted path) {n : Nat} (positive : 0 < n) :
    Rooted (path.take n) := by
  cases path with
  | nil => cases rooted
  | cons c path =>
    obtain ⟨n, rfl⟩ := Nat.exists_eq_succ_of_ne_zero (Nat.ne_of_gt positive)
    exact rooted

theorem length_lastSegment_lt {path : List Char} (rooted : Rooted path) :
    (path.reverse.takeWhile (· != '/')).length < path.length := by
  have isPrefix := List.takeWhile_prefix (l := path.reverse) (· != '/')
  have atMost := isPrefix.length_le
  rw [List.length_reverse] at atMost
  by_cases whole : (path.reverse.takeWhile (· != '/')).length = path.length
  · have same := isPrefix.eq_of_length (by rw [whole, List.length_reverse])
    have slash : '/' ∈ path.reverse := List.mem_reverse.mpr (List.mem_of_mem_head? rooted)
    rw [← same] at slash
    exact absurd (List.mem_takeWhile_imp slash) (by decide)
  · omega

theorem rooted_upToLastSlash {path : List Char} (rooted : Rooted path) :
    Rooted (splitLastSlash path).1 := by
  have shorter := length_lastSegment_lt rooted
  refine rooted.take ?_
  rw [List.length_reverse]
  omega

theorem rooted_dropLastSlash {path : List Char} (rooted : Rooted path) :
    Rooted (dropLastSlash path) := by
  unfold dropLastSlash
  cases shorter : path.dropLast with
  | nil =>
    have empty : (splitLastSlash []).1.isEmpty = true := rfl
    simp [empty, rooted]
  | cons c rest =>
    have rootedFront : Rooted (c :: rest) := by
      rw [← shorter, List.dropLast_eq_take]
      refine rooted.take ?_
      have some := congrArg List.length shorter
      rw [List.length_dropLast, List.length_cons] at some
      omega
    dsimp only
    split
    · exact rooted
    · exact rootedFront

theorem rooted_dropLastSegment {path : List Char} (rooted : Rooted path) (isFile : Bool) :
    Rooted (dropLastSegment isFile path) := by
  unfold dropLastSegment
  dsimp only
  split
  · exact rooted
  · exact rooted_upToLastSlash rooted

theorem Rooted.append {path : List Char} (rooted : Rooted path) (rest : List Char) :
    Rooted (path ++ rest) := by
  cases path with
  | nil => cases rooted
  | cons c path => exact rooted

theorem rooted_closeWithSlash {path : List Char} (rooted : Rooted path) :
    Rooted (closeWithSlash path) := by
  unfold closeWithSlash
  split
  · exact rooted
  · exact rooted.append _

theorem rooted_addSegment {path : List Char} (rooted : Rooted path) (isFile : Bool)
    (segment : List Char) (closed : Bool) : Rooted (addSegment isFile path segment closed) := by
  have up := rooted_dropLastSegment (rooted_dropLastSlash rooted) isFile
  unfold addSegment
  split
  · dsimp only
    split
    · exact rooted_closeWithSlash up
    · exact up
  · split
    · exact rooted_closeWithSlash rooted
    · exact (rooted.append _).append _

theorem dropLastSlash_sublist (path : List Char) : (dropLastSlash path).Sublist path := by
  unfold dropLastSlash
  dsimp only
  split
  · exact List.Sublist.refl _
  · exact List.dropLast_sublist _

theorem dropLastSegment_sublist (isFile : Bool) (path : List Char) :
    (dropLastSegment isFile path).Sublist path := by
  unfold dropLastSegment
  dsimp only
  split
  · exact List.Sublist.refl _
  · exact List.take_sublist _ _

theorem length_closeWithSlash_le (path : List Char) :
    (closeWithSlash path).length ≤ path.length + 1 := by
  unfold closeWithSlash
  split
  · omega
  · simp

theorem length_addSegment_of_up {segment : List Char} (up : isDoubleDot segment = true)
    (isFile : Bool) (path : List Char) (closed : Bool) :
    (addSegment isFile path segment closed).length ≤ path.length + closed.toNat := by
  have shorter := (dropLastSlash_sublist path).length_le
  have shorter' := (dropLastSegment_sublist isFile (dropLastSlash path)).length_le
  have longer := length_closeWithSlash_le (dropLastSegment isFile (dropLastSlash path))
  rw [addSegment, if_pos up]
  cases closed with
  | true =>
    simp only [if_true, Bool.toNat_true]
    omega
  | false =>
    simp only [Bool.false_eq_true, if_false, Bool.toNat_false]
    omega

theorem length_addSegment_le {segment : List Char} (notUp : isDoubleDot segment = false)
    (isFile : Bool) (path : List Char) (closed : Bool) :
    (addSegment isFile path segment closed).length ≤
      path.length + segment.length + closed.toNat := by
  have longer := length_closeWithSlash_le path
  rw [addSegment, if_neg (by simp [notUp])]
  split
  · rename_i here
    have some : 0 < segment.length := by
      cases segment with
      | nil => cases here
      | cons => simp
    omega
  · cases closed with
    | true =>
      simp only [List.length_append, if_true, List.length_singleton, Bool.toNat_true]
      omega
    | false => simp

theorem two_le_of_isDoubleDot {segment : List Char} (up : isDoubleDot segment = true) :
    2 ≤ segment.length := by
  simp only [isDoubleDot, Bool.or_eq_true, beq_iff_eq] at up
  rcases up with ((lower | lower) | lower) | lower
  all_goals
    have size := congrArg List.length lower
    simp at size
    omega

theorem not_isDoubleDot_of_drive {segment : List Char} (drive : isDriveLetter segment = true) :
    isDoubleDot segment = false ∧ isDoubleDot (segment.take 1 ++ [':']) = false ∧
      segment.length = 2 := by
  unfold isDriveLetter at drive
  split at drive
  · rename_i c mark
    simp only [Bool.and_eq_true, Bool.or_eq_true, beq_iff_eq] at drive
    have colon : Char.toLower ':' = ':' := by decide
    have bar : Char.toLower '|' = '|' := by decide
    rcases drive.2 with rfl | rfl <;> simp [isDoubleDot, colon, bar]
  · cases drive

def growth (segment : List Char) : Nat :=
  if isDoubleDot segment then 0 else segment.length

theorem length_add_le {segment : List Char} (settled : ∀ c ∈ segment, Settled c)
    (file : PartialPath) (closed : Bool) :
    (file.add segment closed).path.length ≤
      file.path.length + growth segment + closed.toNat := by
  rw [add_of_settled settled, growth]
  split
  · rename_i first
    obtain ⟨notUp, notUp', two⟩ := not_isDoubleDot_of_drive first.2
    have size := length_addSegment_le notUp' true file.path closed
    have same : (segment.take 1 ++ [':']).length = 2 := by
      rw [List.length_append, List.length_take, two]
      rfl
    rw [notUp]
    simp only [Bool.false_eq_true, if_false]
    omega
  · cases up : isDoubleDot segment with
    | true =>
      have size := length_addSegment_of_up up true file.path closed
      simpa using size
    | false =>
      have size := length_addSegment_le up true file.path closed
      simpa using size

theorem growth_le (segment : List Char) : growth segment ≤ segment.length := by
  unfold growth
  split <;> omega

theorem length_addAll {segments : List (List Char)}
    (settled : ∀ segment ∈ segments, ∀ c ∈ segment, Settled c) (file : PartialPath) :
    (file.addAll segments).path.length ≤ file.path.length + (joinWith '/' segments).length ∧
      ((∃ segment ∈ segments, isDoubleDot segment = true) →
        (file.addAll segments).path.length + 2 ≤
          file.path.length + (joinWith '/' segments).length) := by
  induction segments generalizing file with
  | nil => simp [PartialPath.addAll]
  | cons first segments ih =>
    have grown := length_add_le (settled first (by simp)) file
    have most := growth_le first
    have fewer (up : isDoubleDot first = true) : growth first + 2 ≤ first.length := by
      have long := two_le_of_isDoubleDot up
      rw [growth, if_pos up]
      omega
    cases segments with
    | nil =>
      have here := grown false
      simp only [PartialPath.addAll, joinWith, List.mem_singleton, exists_eq_left]
      simp only [Bool.toNat_false] at here
      constructor
      · omega
      · intro up
        have short := fewer up
        omega
    | cons second segments =>
      obtain ⟨later, laterUp⟩ := ih (fun other among => settled other (by simp [among]))
        (file.add first true)
      have here := grown true
      simp only [Bool.toNat_true] at here
      rw [addAll_cons_cons, joinWith_cons_cons, List.length_append, List.length_cons]
      constructor
      · omega
      · intro given
        obtain ⟨segment, among, up⟩ := given
        rcases List.mem_cons.mp among with rfl | among
        · have short := fewer up
          omega
        · have short := laterUp ⟨segment, among, up⟩
          omega

theorem rooted_addAll {segments : List (List Char)}
    (settled : ∀ segment ∈ segments, ∀ c ∈ segment, Settled c) {file : PartialPath}
    (rooted : Rooted file.path) : Rooted (file.addAll segments).path := by
  induction segments generalizing file with
  | nil => exact rooted
  | cons first segments ih =>
    have added (closed : Bool) : Rooted (file.add first closed).path := by
      rw [add_of_settled (settled first (by simp))]
      exact rooted_addSegment rooted _ _ _
    cases segments with
    | nil => exact added false
    | cons second segments =>
      exact ih (fun other among => settled other (by simp [among])) (added true)

structure IsSegment (segment : List Char) : Prop where
  settled : ∀ c ∈ segment, Settled c
  notEmpty : segment ≠ []
  notHere : isSingleDot segment = false

theorem length_dropWhile_of_rooted {path : List Char} (rooted : Rooted path) :
    (path.dropWhile (· == '/')).length < path.length := by
  cases path with
  | nil => cases rooted
  | cons c path =>
    cases rooted
    have atMost := (List.dropWhile_sublist (l := path) (· == '/')).length_le
    rw [List.dropWhile_cons]
    simp only [beq_self_eq_true, if_true, List.length_cons]
    omega

theorem dropWhile_joinWith {segments : List (List Char)}
    (isSegment : ∀ segment ∈ segments, IsSegment segment) :
    (joinWith '/' segments).dropWhile (· == '/') = joinWith '/' segments := by
  cases segments with
  | nil => rfl
  | cons first segments =>
    obtain ⟨settled, notEmpty, -⟩ := isSegment first (by simp)
    obtain ⟨c, rest, rfl⟩ := List.exists_cons_of_ne_nil notEmpty
    have notSlash : c ≠ '/' := (settled c (by simp)).notSlash
    cases segments with
    | nil => simp [joinWith, notSlash]
    | cons second segments => simp [joinWith_cons_cons, notSlash]

theorem ofText_rootedPath {first : List Char} {segments : List (List Char)}
    (settled : ∀ segment ∈ first :: segments, ∀ c ∈ segment, Settled c) :
    PartialPath.ofText (rootedPath (first :: segments)) =
      (⟨['/', '/'], false⟩ : PartialPath).addAll (first :: segments) := by
  have rooted : rootedPath (first :: segments) = (first :: segments).flatMap ('/' :: ·) := rfl
  have start : (⟨['/'], false⟩ : PartialPath).add [] true = ⟨['/', '/'], false⟩ := by decide
  rw [PartialPath.ofText, rooted, splitSegments_flatMap settled, addAll_cons_cons, start]

theorem text_rootedPath {segments : List (List Char)}
    (isSegment : ∀ segment ∈ segments, IsSegment segment) :
    (PartialPath.ofText (rootedPath segments)).text = rootedPath segments ↔
      ∀ segment ∈ segments, isDoubleDot segment = false := by
  cases segments with
  | nil => exact ⟨fun _ => by simp, fun _ => by decide⟩
  | cons first segments =>
    have settled : ∀ segment ∈ first :: segments, ∀ c ∈ segment, Settled c :=
      fun segment among => (isSegment segment among).settled
    rw [ofText_rootedPath settled, rootedPath_eq, PartialPath.text]
    constructor
    · intro same segment among
      by_contra up
      rw [Bool.not_eq_false] at up
      obtain ⟨-, short⟩ := length_addAll settled ⟨['/', '/'], false⟩
      have shorter := short ⟨segment, among, up⟩
      have rooted : Rooted (⟨['/', '/'], false⟩ : PartialPath).path := rfl
      have dropped := length_dropWhile_of_rooted (rooted_addAll settled rooted)
      have size := congrArg List.length same
      simp only [List.length_cons, List.length_nil] at size shorter
      omega
    · intro plain
      have started : 2 ≤ (⟨['/', '/'], false⟩ : PartialPath).path.length := by decide
      have whole := addAll_of_plain settled
        (fun segment among => ⟨plain segment among, (isSegment segment among).notHere⟩) started
      rw [whole]
      have dropped := dropWhile_joinWith isSegment
      simpa using dropped

end CodeGateway.Url
