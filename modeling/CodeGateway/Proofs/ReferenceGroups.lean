import CodeGateway.Report.SymbolInfo
import Mathlib.Algebra.Order.Ring.Nat
import Mathlib.Data.Finset.Card
import Mathlib.Data.List.Sort

namespace CodeGateway.SymbolInfo

/-- The first of two texts comes up before the other does. -/
def Before (texts : List String) (first next : String) : Prop :=
  texts.idxOf first < texts.idxOf next

instance (texts : List String) : Std.Irrefl (Before texts) :=
  ⟨fun _ => Nat.lt_irrefl _⟩

instance (texts : List String) : Std.Antisymm (Before texts) :=
  ⟨fun _ _ first next => absurd first (Nat.lt_asymm next)⟩

theorem before_of_notMem {texts : List String} {first next : String} (mem : first ∈ texts)
    (fresh : next ∉ texts) : Before texts first next := by
  unfold Before
  rw [List.idxOf_eq_length_iff.mpr fresh]
  exact List.idxOf_lt_length_of_mem mem

theorem before_append {texts : List String} {first next : String} (mem : first ∈ texts)
    (before : Before texts first next) (more : List String) :
    Before (texts ++ more) first next := by
  unfold Before at *
  rw [List.idxOf_append_of_mem mem]
  by_cases known : next ∈ texts
  · rwa [List.idxOf_append_of_mem known]
  · rw [List.idxOf_append_of_notMem known]
    have := List.idxOf_lt_length_of_mem mem
    omega

/-- The references, document by document. -/
structure Grouped (references : List Location) (groups : List (String × List Location)) : Prop where
  keyed : ∀ uri, uri ∈ groups.map Prod.fst ↔ uri ∈ references.map Location.uri
  /-- Documents stand in the order in which they first come up, and so each stands once. -/
  ordered : (groups.map Prod.fst).Pairwise (Before (references.map Location.uri))
  /-- A group has all references of its document, in their order, and no others. -/
  whole : ∀ group ∈ groups,
    group.2 = references.filter fun reference => reference.uri == group.1

def groupsOf (references : List Location) (uris : List String) : List (String × List Location) :=
  uris.map fun uri => (uri, references.filter fun reference => reference.uri == uri)

theorem groupsOf_cons (references : List Location) (uri : String) (uris : List String) :
    groupsOf references (uri :: uris) =
      (uri, references.filter fun reference => reference.uri == uri) :: groupsOf references uris :=
  List.map_cons

theorem map_fst_groupsOf (references : List Location) (uris : List String) :
    (groupsOf references uris).map Prod.fst = uris := by
  rw [groupsOf, List.map_map]
  exact List.map_id uris

section Grouped

variable {references : List Location} {listed others : List (String × List Location)}

theorem grouped_groupsOf {uris : List String}
    (keyed : ∀ uri, uri ∈ uris ↔ uri ∈ references.map Location.uri)
    (ordered : uris.Pairwise (Before (references.map Location.uri))) :
    Grouped references (groupsOf references uris) where
  keyed := by rwa [map_fst_groupsOf]
  ordered := by rwa [map_fst_groupsOf]
  whole group among := by
    obtain ⟨uri, -, rfl⟩ := List.mem_map.mp among
    rfl

theorem Grouped.eq_groupsOf (grouped : Grouped references listed) :
    listed = groupsOf references (listed.map Prod.fst) := by
  rw [groupsOf, List.map_map]
  calc
    listed = listed.map id := listed.map_id.symm
    _ = _ := by
      apply List.map_congr_left
      intro group among
      exact Prod.ext rfl (grouped.whole group among)

theorem Grouped.unique (grouped : Grouped references listed)
    (grouped' : Grouped references others) : listed = others := by
  have keys : listed.map Prod.fst = others.map Prod.fst := by
    apply grouped.ordered.eq_of_mem_iff grouped'.ordered
    intro uri
    rw [grouped.keyed, grouped'.keyed]
  rw [grouped.eq_groupsOf, grouped'.eq_groupsOf, keys]

end Grouped

def addReference (reference : Location) :
    List (String × List Location) → List (String × List Location)
  | [] => [(reference.uri, [reference])]
  | (uri, among) :: rest =>
    if uri = reference.uri then (uri, among ++ [reference]) :: rest
    else (uri, among) :: addReference reference rest

section AddReference

variable {references : List Location} {reference : Location} {uris : List String}
  {listed : List (String × List Location)}

theorem groupsOf_append_of_notMem (fresh : reference.uri ∉ uris) :
    groupsOf (references ++ [reference]) uris = groupsOf references uris := by
  apply List.map_congr_left
  intro uri among
  have other : reference.uri ≠ uri := fun same => fresh (same ▸ among)
  simp [other]

theorem addReference_groupsOf_of_mem (distinct : uris.Nodup) (known : reference.uri ∈ uris) :
    addReference reference (groupsOf references uris) =
      groupsOf (references ++ [reference]) uris := by
  induction uris with
  | nil => cases known
  | cons uri rest ih =>
    obtain ⟨fresh, distinct⟩ := List.nodup_cons.mp distinct
    rw [groupsOf_cons, groupsOf_cons, addReference]
    by_cases own : uri = reference.uri
    · subst own
      rw [if_pos rfl, groupsOf_append_of_notMem fresh]
      simp
    · have later : reference.uri ∈ rest := List.mem_of_ne_of_mem (Ne.symm own) known
      rw [if_neg own, ih distinct later]
      simp [Ne.symm own]

theorem addReference_groupsOf_of_notMem (fresh : reference.uri ∉ uris)
    (new : reference.uri ∉ references.map Location.uri) :
    addReference reference (groupsOf references uris) =
      groupsOf (references ++ [reference]) (uris ++ [reference.uri]) := by
  induction uris with
  | nil =>
    have none : references.filter (fun other => other.uri == reference.uri) = [] := by
      rw [List.filter_eq_nil_iff]
      intro other among same
      exact new (eq_of_beq same ▸ List.mem_map_of_mem among)
    simp [groupsOf, addReference, none]
  | cons uri rest ih =>
    obtain ⟨other, later⟩ := List.ne_and_not_mem_of_not_mem_cons fresh
    rw [List.cons_append, groupsOf_cons, groupsOf_cons, addReference, if_neg other.symm, ih later]
    simp [other]

theorem Grouped.addReference (grouped : Grouped references listed) (reference : Location) :
    Grouped (references ++ [reference]) (addReference reference listed) := by
  have keyed := grouped.keyed
  have ordered := grouped.ordered
  rw [grouped.eq_groupsOf]
  -- From here on the documents of the groups are all there is to speak of.
  generalize listed.map Prod.fst = uris at keyed ordered
  have stillOrdered : uris.Pairwise (Before ((references ++ [reference]).map Location.uri)) := by
    apply ordered.imp_of_mem
    intro first next isFirst _ before
    rw [List.map_append]
    exact before_append ((keyed first).mp isFirst) before _
  by_cases known : reference.uri ∈ uris
  · rw [addReference_groupsOf_of_mem ordered.nodup known]
    apply grouped_groupsOf _ stillOrdered
    intro uri
    rw [List.map_append, List.mem_append, ← keyed]
    constructor
    · exact Or.inl
    · rintro (among | isLast)
      · exact among
      · obtain rfl := List.mem_singleton.mp isLast
        exact known
  · have new : reference.uri ∉ references.map Location.uri := mt (keyed _).mpr known
    rw [addReference_groupsOf_of_notMem known new]
    apply grouped_groupsOf
    · intro uri
      rw [List.map_append, List.mem_append, List.mem_append, keyed]
      rfl
    · rw [List.pairwise_append]
      refine ⟨stillOrdered, List.pairwise_singleton _ _, ?_⟩
      intro first isFirst next isNext
      obtain rfl := List.mem_singleton.mp isNext
      have mem := (keyed first).mp isFirst
      rw [List.map_append]
      exact before_append mem (before_of_notMem mem new) _

end AddReference

def walk (references : List Location) : List (String × List Location) :=
  references.foldl (fun listed reference => addReference reference listed) []

theorem Grouped.foldl {references : List Location} {listed : List (String × List Location)}
    (grouped : Grouped references listed) (more : List Location) :
    Grouped (references ++ more)
      (more.foldl (fun listed reference => SymbolInfo.addReference reference listed) listed) := by
  induction more generalizing references listed with
  | nil => rwa [List.append_nil]
  | cons reference rest ih =>
    have step := ih (grouped.addReference reference)
    rwa [List.append_assoc] at step

theorem grouped_walk (references : List Location) : Grouped references (walk references) := by
  have start : Grouped [] [] := ⟨fun _ => Iff.rfl, .nil, by simp⟩
  exact start.foldl references

def count (listed : List (String × List Location)) : Nat :=
  (listed.map fun group => group.2.length).sum

theorem count_cons (uri : String) (among : List Location)
    (listed : List (String × List Location)) :
    count ((uri, among) :: listed) = among.length + count listed := by
  rw [count, List.map_cons, List.sum_cons, count]

theorem count_addReference (reference : Location) (listed : List (String × List Location)) :
    count (addReference reference listed) = count listed + 1 := by
  induction listed with
  | nil => rfl
  | cons group rest ih =>
    rw [addReference]
    split
    · rw [count_cons, count_cons, List.length_append, List.length_singleton]
      omega
    · rw [count_cons, count_cons, ih]
      omega

theorem count_walk (references : List Location) : count (walk references) = references.length := by
  have counted (listed : List (String × List Location)) :
      count (references.foldl (fun listed reference => addReference reference listed) listed) =
        count listed + references.length := by
    induction references generalizing listed with
    | nil => rfl
    | cons reference rest ih =>
      rw [List.foldl_cons, ih, count_addReference, List.length_cons]
      omega
  exact (counted []).trans (Nat.zero_add _)

theorem mem_distinct {text : String} {texts : List String} :
    text ∈ distinct texts ↔ text ∈ texts := by
  induction texts with
  | nil => rfl
  | cons first rest ih =>
    rw [distinct, List.mem_cons, List.mem_cons, List.mem_filter, ih]
    by_cases same : text = first <;> simp [same]

theorem before_distinct (texts : List String) : (distinct texts).Pairwise (Before texts) := by
  induction texts with
  | nil => exact .nil
  | cons first rest ih =>
    rw [distinct, List.pairwise_cons, List.pairwise_filter]
    constructor
    · intro next among
      have other : next ≠ first := of_decide_eq_true (List.mem_filter.mp among).2
      unfold Before
      rw [List.idxOf_cons_self, List.idxOf_cons_ne rest other.symm]
      exact Nat.succ_pos _
    · apply ih.imp
      intro second third before isSecond isThird
      have second_ne : second ≠ first := of_decide_eq_true isSecond
      have third_ne : third ≠ first := of_decide_eq_true isThird
      unfold Before at *
      rw [List.idxOf_cons_ne rest second_ne.symm, List.idxOf_cons_ne rest third_ne.symm]
      exact Nat.succ_lt_succ before

theorem grouped_groups (references : List Location) : Grouped references (groups references) :=
  grouped_groupsOf (fun _ => mem_distinct) (before_distinct _)

theorem grouped_iff {references : List Location} {listed : List (String × List Location)} :
    Grouped references listed ↔ listed = groups references := by
  constructor
  · intro grouped
    exact grouped.unique (grouped_groups references)
  · rintro rfl
    exact grouped_groups references

theorem walk_eq_groups (references : List Location) : walk references = groups references :=
  grouped_iff.mp (grouped_walk references)

theorem length_groups (references : List Location) :
    (groups references).length = (references.map Location.uri).toFinset.card := by
  have grouped := grouped_groups references
  have same : (references.map Location.uri).toFinset =
      ((groups references).map Prod.fst).toFinset := by
    ext uri
    rw [List.mem_toFinset, List.mem_toFinset, grouped.keyed]
  rw [same, List.toFinset_card_of_nodup grouped.ordered.nodup, List.length_map]

def opening (info : SymbolInfo) : Report :=
  if info.isEmpty then ["No information available for the symbol at this position."]
  else
    "# Symbol Information" ::
      Report.whenSome (fun hover => ["", "## Documentation", "", hover]) info.hover ++
      definitionSection info.definitions

theorem report_eq (info : SymbolInfo) :
    info.report = info.opening ++ referenceSection info.references := by
  unfold report opening
  split
  · rename_i nothing
    simp only [isEmpty, Bool.and_eq_true, List.isEmpty_iff] at nothing
    rw [nothing.2]
    rfl
  · rfl

def countedLine (reference : Location) : String :=
  s!"- line {reference.range.start.line.toNat + 1}, col " ++
    s!"{reference.range.start.character.toNat + 1}"

theorem add_one_eq_zero_iff {n : UInt32} : n + 1 = 0 ↔ n.toNat = 0xFFFFFFFF := by
  rw [← UInt32.toNat_inj, UInt32.toNat_add]
  have bound := n.toNat_lt
  simp
  omega

theorem toNat_add_one {n : UInt32} (fits : n.toNat ≠ 0xFFFFFFFF) :
    (n + 1).toNat = n.toNat + 1 := by
  rw [UInt32.toNat_add]
  have bound := n.toNat_lt
  simp
  omega

theorem overflows_eq_false_iff {position : Position} :
    position.overflows = false ↔
      position.line.toNat < 0xFFFFFFFF ∧ position.character.toNat < 0xFFFFFFFF := by
  have lineBound := position.line.toNat_lt
  have characterBound := position.character.toNat_lt
  simp only [Position.overflows, Bool.or_eq_false_iff, beq_eq_false_iff_ne, ne_eq,
    add_one_eq_zero_iff]
  omega

theorem digits_size : Nat.toDigits 10 0x100000000 = "4294967296".toList := by
  decide +kernel

/-- Of two numbers counted from one, both are shown as they are just when neither goes over: what
    goes over is shown as 0, and no other digits make up for it. -/
theorem referenceLine_eq_iff {reference : Location} :
    referenceLine reference = countedLine reference ↔
      reference.range.start.line.toNat < 0xFFFFFFFF ∧
        reference.range.start.character.toNat < 0xFFFFFFFF := by
  unfold referenceLine countedLine
  generalize reference.range.start.line = line
  generalize reference.range.start.character = column
  have lineBound := line.toNat_lt
  have columnBound := column.toNat_lt
  constructor
  · intro same
    have letters := congrArg String.toList same
    by_cases beyond : line.toNat = 0xFFFFFFFF
    · rw [add_one_eq_zero_iff.mpr beyond, beyond] at letters
      simp [toString, digits_size] at letters
    by_cases wide : column.toNat = 0xFFFFFFFF
    · rw [toNat_add_one beyond, add_one_eq_zero_iff.mpr wide, wide] at letters
      simp [toString, digits_size] at letters
    · omega
  · intro fits
    rw [toNat_add_one (by omega), toNat_add_one (by omega)]

theorem checkedReport_of_overflow {info : SymbolInfo} {group : String × List Location}
    {reference : Location} (isGroup : group ∈ groups info.references)
    (shown : reference ∈ group.2.take 3) (wrong : referenceLine reference ≠ countedLine reference) :
    info.checkedReport = none := by
  have beyond : reference.range.start.overflows = true := by
    rw [← Bool.not_eq_false, overflows_eq_false_iff, ← referenceLine_eq_iff]
    exact wrong
  have among : (groups info.references).any (fun group =>
      (group.2.take maxReferences).any fun reference => reference.range.start.overflows) = true :=
    List.any_eq_true.mpr ⟨group, isGroup, List.any_eq_true.mpr ⟨reference, shown, beyond⟩⟩
  rw [checkedReport, overflows, among, Bool.or_true, if_pos rfl]

/-- A report on a symbol lists all references in the one way to group them by document. Of a group
    it shows the first three references, and how many more there are. What it shows and what it does
    not show are as many as the header says, and the groups are as many as there are documents. A
    reference is shown by its line and column counted from one, but for those that 32 bits do not
    hold; additions that are checked then leave no report at all. -/
theorem references_grouped (info : SymbolInfo) :
    (∀ listed, Grouped info.references listed ↔ listed = groups info.references) ∧
    (groups info.references).length = (info.references.map Location.uri).toFinset.card ∧
    ((groups info.references).map fun group =>
      (group.2.take 3).length + (group.2.length - 3)).sum = info.references.length ∧
    info.report = info.opening ++
      (if info.references = [] then []
      else
        ["", s!"## References ({info.references.length} in " ++
          plural (groups info.references).length "file" "files" ++ ")", ""]) ++
      ((groups info.references).flatMap fun group =>
        s!"**{Url.displayPath group.1}**" :: (group.2.take 3).map referenceLine ++
          if 3 < group.2.length then [s!"- ... and {group.2.length - 3} more"] else []) ∧
    (∀ reference, referenceLine reference = countedLine reference ↔
      reference.range.start.line.toNat < 0xFFFFFFFF ∧
        reference.range.start.character.toNat < 0xFFFFFFFF) ∧
    ((∃ group ∈ groups info.references, ∃ reference ∈ group.2.take 3,
      referenceLine reference ≠ countedLine reference) → info.checkedReport = none) := by
  refine ⟨fun listed => grouped_iff, length_groups _, ?_, ?_, ?_, ?_⟩
  · rw [← walk_eq_groups, ← count_walk info.references, count]
    congr 2
    funext group
    rw [List.length_take]
    omega
  · rw [report_eq, List.append_assoc]
    congr 1
    unfold referenceSection
    simp only [List.isEmpty_iff]
    split
    · rename_i none
      rw [none]
      rfl
    · rfl
  · exact fun reference => referenceLine_eq_iff
  · intro given
    obtain ⟨group, isGroup, reference, shown, wrong⟩ := given
    exact checkedReport_of_overflow isGroup shown wrong

/-- One reference, in the last line that 32 bits can count from zero. -/
def lastLine : SymbolInfo :=
  ⟨none, [], [⟨"a.rs", ⟨⟨0xFFFFFFFF, 4⟩, ⟨0xFFFFFFFF, 9⟩⟩⟩]⟩

/-- That line is number 4294967296. It is shown as 0, or the report is not written. -/
theorem lastLine_not_counted :
    lastLine.report = ["# Symbol Information", "", "## References (1 in 1 file)", "", "**a.rs**",
      "- line 0, col 5"] ∧
      lastLine.checkedReport = none ∧
      lastLine.references.map countedLine = ["- line 4294967296, col 5"] := by
  decide +kernel

end CodeGateway.SymbolInfo
