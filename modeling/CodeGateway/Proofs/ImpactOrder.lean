import CodeGateway.Report.Impact

namespace CodeGateway.Impact

section Ordered

variable {α : Type} {severity : α → Severity} {given listed other : List α}

structure Ordered (severity : α → Severity) (given listed : List α) : Prop where
  /-- Every item is listed, and just as often as it is given. -/
  complete : listed.Perm given
  falling : listed.Pairwise fun first next => (severity next).rank ≤ (severity first).rank
  /-- The items of one severity are listed in the order in which they are given. -/
  stable : ∀ level, listed.filter (fun item => severity item == level) =
    given.filter fun item => severity item == level

section Sorting

variable (severity : α → Severity) (items : List α)

theorem isSorted_iff {listed : List α} :
    (listed.Pairwise fun first next => decide ((severity next).rank ≤ (severity first).rank)) ↔
      listed.Pairwise fun first next => (severity next).rank ≤ (severity first).rank := by
  simp

theorem rank_trans (first middle last : α)
    (upper : decide ((severity middle).rank ≤ (severity first).rank) = true)
    (lower : decide ((severity last).rank ≤ (severity middle).rank) = true) :
    decide ((severity last).rank ≤ (severity first).rank) = true := by
  simp only [decide_eq_true_eq] at upper lower ⊢
  omega

theorem rank_total (first next : α) :
    (decide ((severity next).rank ≤ (severity first).rank) ||
      decide ((severity first).rank ≤ (severity next).rank)) = true := by
  simpa using Nat.le_total _ _

theorem bySeverity_falling :
    (bySeverity severity items).Pairwise fun first next =>
      (severity next).rank ≤ (severity first).rank :=
  (isSorted_iff severity).mp
    (List.pairwise_mergeSort (rank_trans severity) (rank_total severity) items)

theorem pairwise_of_level (level : Severity) :
    (items.filter fun item => severity item == level).Pairwise fun first next =>
      (severity next).rank ≤ (severity first).rank := by
  rw [List.pairwise_filter]
  apply List.pairwise_of_forall
  intro first next isFirst isNext
  exact Nat.le_of_eq (by rw [eq_of_beq isFirst, eq_of_beq isNext])

theorem filter_bySeverity (level : Severity) :
    (bySeverity severity items).filter (fun item => severity item == level) =
      items.filter fun item => severity item == level := by
  have kept := List.sublist_mergeSort (rank_trans severity) (rank_total severity)
    ((isSorted_iff severity).mpr (pairwise_of_level severity items level)) List.filter_sublist
  have among := kept.filter fun item => severity item == level
  rw [List.filter_filter] at among
  simp only [Bool.and_self] at among
  exact (among.eq_of_length ((List.mergeSort_perm items _).filter _).length_eq.symm).symm

theorem ordered_bySeverity : Ordered severity items (bySeverity severity items) :=
  ⟨List.mergeSort_perm _ _, bySeverity_falling severity items, filter_bySeverity severity items⟩

def levels : List α :=
  [Severity.breaking, .warning, .info].flatMap fun level =>
    items.filter fun item => severity item == level

end Sorting

theorem levels_of_falling (falling : listed.Pairwise fun first next =>
    (severity next).rank ≤ (severity first).rank) : levels severity listed = listed := by
  simp only [levels, List.flatMap_cons, List.flatMap_nil, List.append_nil]
  induction listed with
  | nil => rfl
  | cons item rest ih =>
    obtain ⟨above, falling⟩ := List.pairwise_cons.mp falling
    have none (level : Severity) (higher : (severity item).rank < level.rank) :
        rest.filter (fun item => severity item == level) = [] := by
      rw [List.filter_eq_nil_iff]
      intro next among same
      have bound := above next among
      rw [eq_of_beq same] at bound
      omega
    replace ih := ih falling
    cases level : severity item with
    | breaking => simpa [level] using ih
    | warning =>
      rw [level] at none
      have noBreaking := none .breaking (by decide)
      rw [noBreaking] at ih
      simpa [level, noBreaking] using ih
    | info =>
      rw [level] at none
      have noBreaking := none .breaking (by decide)
      have noWarning := none .warning (by decide)
      rw [noBreaking, noWarning] at ih
      simpa [level, noBreaking, noWarning] using ih

theorem Ordered.eq_levels (ordered : Ordered severity given listed) :
    listed = levels severity given := by
  rw [← levels_of_falling ordered.falling]
  simp only [levels, ordered.stable]

/-- There is one order for what is given. -/
theorem ordered_iff : Ordered severity given listed ↔ listed = bySeverity severity given := by
  constructor
  · intro ordered
    exact ordered.eq_levels.trans (ordered_bySeverity severity given).eq_levels.symm
  · rintro rfl
    exact ordered_bySeverity severity given

theorem bySeverity_eq_levels (severity : α → Severity) (items : List α) :
    bySeverity severity items = levels severity items :=
  (ordered_iff.mpr rfl).eq_levels

end Ordered

/-- A section: how many items it is about, and lines on them or, if there are none, a sentence that
    says so. -/
def sectionLines (title : String) (count : Nat) (none : String) (lines : Report) : Report :=
  [s!"## {title} ({count})", ""] ++ if count = 0 then [none] else lines

theorem directSection_eq (impact : Impact) :
    impact.directSection = sectionLines "Direct Impact" impact.direct.length
      "_No direct usages are affected._"
      ((bySeverity DirectImpact.severity impact.direct).map directLine) := by
  unfold directSection sectionLines
  cases impact.direct <;> simp [bySeverity] <;> rfl

theorem indirectSection_eq (impact : Impact) :
    impact.indirectSection = "" :: sectionLines "Indirect Impact" impact.indirect.length
      "_No transitive dependents are affected._"
      ((bySeverity IndirectImpact.severity impact.indirect).flatMap indirectLines) := by
  unfold indirectSection sectionLines
  cases impact.indirect <;> simp [bySeverity] <;> rfl

theorem testSection_eq (impact : Impact) :
    impact.testSection = "" :: sectionLines "Affected Tests" impact.tests.length
      "_No tests reach this symbol. Consider adding coverage before changing it._"
      (impact.tests.map testLine) := by
  unfold testSection sectionLines
  cases impact.tests <;> simp <;> rfl

/-- Wherever anything is affected, all of it is listed: the direct and the indirect impacts each in
    their one order, every indirect one with the way to it in the next line, and the tests as they
    came. A section's header gives the number of the items that the reply has for it. -/
theorem report_severe_first {impact : Impact} (given : impact.isEmpty = false) (change : String) :
    ∃ direct indirect,
      (∀ listed, Ordered DirectImpact.severity impact.direct listed ↔ listed = direct) ∧
      (∀ listed, Ordered IndirectImpact.severity impact.indirect listed ↔ listed = indirect) ∧
      impact.report change =
        [s!"# Impact Analysis ({change})", ""] ++ Report.whenSome summaryLines impact.summary ++
          sectionLines "Direct Impact" impact.direct.length "_No direct usages are affected._"
            (direct.map directLine) ++
          "" :: sectionLines "Indirect Impact" impact.indirect.length
            "_No transitive dependents are affected._"
            (indirect.flatMap fun item =>
              [s!"- {item.severity.marker} **{item.severity.name}** `{Url.displayPath item.uri}`",
                if item.path = [] then "  - path: _not reported_"
                else "  - path: " ++ " → ".intercalate item.path]) ++
          "" :: sectionLines "Affected Tests" impact.tests.length
            "_No tests reach this symbol. Consider adding coverage before changing it._"
            (impact.tests.map testLine) := by
  refine ⟨_, _, fun listed => ordered_iff, fun listed => ordered_iff, ?_⟩
  rw [report, given, directSection_eq, indirectSection_eq, testSection_eq]
  simp only [Bool.false_eq_true, if_false, List.append_assoc, List.cons_append]
  unfold indirectLines pathLine
  simp only [List.isEmpty_iff]

/-- Four usages of which two break, two ways of which one is not told, and one test. -/
def mixedImpact : Impact where
  direct := [⟨"untitled:a", .empty, .caller, .info⟩, ⟨"untitled:b", .empty, .caller, .breaking⟩,
    ⟨"untitled:c", .empty, .other, .warning⟩, ⟨"untitled:d", .empty, .subclass, .breaking⟩]
  indirect := [⟨"untitled:e", ["login", "auth"], .warning⟩, ⟨"untitled:f", [], .breaking⟩]
  tests := [⟨"untitled:g", "test_login"⟩]
  summary := none

theorem report_severe_first_mixed :
    mixedImpact.isEmpty = false ∧
      mixedImpact.report "delete" =
        ["# Impact Analysis (delete)", "",
          "## Direct Impact (4)", "",
          "- 🔴 **breaking** caller — untitled:b:1",
          "- 🔴 **breaking** subclass — untitled:d:1",
          "- 🟡 **warning** usage — untitled:c:1",
          "- 🔵 **info** caller — untitled:a:1",
          "", "## Indirect Impact (2)", "",
          "- 🔴 **breaking** `untitled:f`", "  - path: _not reported_",
          "- 🟡 **warning** `untitled:e`", "  - path: login → auth",
          "", "## Affected Tests (1)", "",
          "- 🧪 `test_login` — `untitled:g`"] := by
  have given : mixedImpact.isEmpty = false := rfl
  obtain ⟨direct, indirect, isDirect, isIndirect, listed⟩ := report_severe_first given "delete"
  obtain rfl := (isDirect _).mp (ordered_iff.mpr (bySeverity_eq_levels _ _).symm)
  obtain rfl := (isIndirect _).mp (ordered_iff.mpr (bySeverity_eq_levels _ _).symm)
  refine ⟨given, listed.trans ?_⟩
  decide +kernel

end CodeGateway.Impact
