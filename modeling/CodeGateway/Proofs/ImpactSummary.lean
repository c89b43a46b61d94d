import CodeGateway.Proofs.FailureReports

namespace CodeGateway

theorem Report.toList_text_append (first second : Report) :
    (Report.text (first ++ second)).toList = first.text.toList ++ second.text.toList := by
  simp [Report.text, String.join_append]

namespace Impact

/-- The report that says that nothing is affected. -/
def denial (change : ChangeType) : Report :=
  [s!"# Impact Analysis ({change.name})", ""] ++ noImpactReport change.name

def countsText (summary : ImpactSummary) : String :=
  s!"**Files affected:** {summary.filesAffected.toNat} | **Breaking:** " ++
    s!"{summary.breakingChanges.toNat} | **Warnings:** {summary.warnings.toNat}"

variable {impact : Impact}

theorem isEmpty_iff :
    impact.isEmpty = true ↔ impact.direct = [] ∧ impact.indirect = [] ∧ impact.tests = [] := by
  simp [isEmpty, and_assoc]

theorem isEmpty_eq_false_iff :
    impact.isEmpty = false ↔ impact.direct ≠ [] ∨ impact.indirect ≠ [] ∨ impact.tests ≠ [] := by
  rw [← Bool.not_eq_true, isEmpty_iff]
  by_cases direct : impact.direct = [] <;> by_cases indirect : impact.indirect = [] <;>
    simp [direct, indirect]

theorem report_of_unlisted (unlisted : impact.isEmpty = true) (change : ChangeType) :
    impact.report change.name = denial change := by
  rw [report, unlisted]
  rfl

theorem exists_report_of_listed (listed : impact.isEmpty = false) (change : String) :
    ∃ lines, impact.report change = [s!"# Impact Analysis ({change})", ""] ++ lines ∧
      s!"## Direct Impact ({impact.direct.length})" ∈ lines ∧
      ∀ summary, impact.summary = some summary → [countsText summary, ""] <+: lines := by
  rw [report, listed]
  refine ⟨_, rfl, ?_, ?_⟩
  · simp [directSection]
  · intro summary given
    rw [given]
    simp only [Bool.false_eq_true, if_false, List.append_assoc]
    exact List.prefix_append (summaryLines summary) _

def isMark (c : Char) : Bool :=
  c == '#' || c == '*'

theorem any_isMark_noImpactReport (change : ChangeType) :
    (noImpactReport change.name).text.toList.any isMark = false := by
  have name : change.name.toList.any isMark = false := by
    cases change <;> decide
  rw [noImpactReport, Report.toList_text_cons]
  simp only [String.toList_append, List.any_append, List.any_cons, Bool.or_eq_false_iff]
  refine ⟨⟨⟨?_, ⟨?_, name⟩, ?_⟩, ?_⟩, by decide, by decide⟩ <;> decide +kernel

theorem notMem_noImpactReport (change : ChangeType) {c : Char} (mark : isMark c = true) :
    c ∉ (noImpactReport change.name).text.toList := by
  intro among
  exact List.any_eq_false.mp (any_isMark_noImpactReport change) c among mark

theorem text_report_ne_denial (listed : impact.isEmpty = false) (change : ChangeType) :
    (impact.report change.name).text ≠ (denial change).text := by
  obtain ⟨lines, isReport, header, -⟩ := exists_report_of_listed listed change.name
  have mark : '#' ∈ (Report.text lines).toList := by
    apply (Report.isInfix_text header).subset
    simp [toString]
  intro same
  have texts := congrArg String.toList same
  rw [isReport, denial, Report.toList_text_append, Report.toList_text_append] at texts
  rw [List.append_cancel_left texts] at mark
  exact notMem_noImpactReport change rfl mark

theorem not_isInfix_denial (summary : ImpactSummary) (change : ChangeType) :
    ¬ (countsText summary).toList <:+: (denial change).text.toList := by
  have mark : '*' ∈ (countsText summary).toList := by
    unfold countsText
    simp only [String.append_assoc]
    rw [String.toList_append]
    exact List.mem_append_left _ (by decide)
  have title : '*' ∉ (Report.text [s!"# Impact Analysis ({change.name})", ""]).toList := by
    cases change <;> decide +kernel
  intro shown
  have within := shown.subset mark
  rw [denial, Report.toList_text_append, List.mem_append] at within
  rcases within with within | within
  · exact title within
  · exact notMem_noImpactReport change rfl within

/-- The report denies all impact just when the reply lists none, whatever its summary counts. The
    counts stand under the title where something is listed, and are not told where nothing is. -/
theorem denied_iff_unlisted (impact : Impact) (change : ChangeType) :
    ((impact.report change.name).text = (denial change).text ↔
        impact.direct = [] ∧ impact.indirect = [] ∧ impact.tests = []) ∧
      ∀ summary, impact.summary = some summary →
        (impact.direct ≠ [] ∨ impact.indirect ≠ [] ∨ impact.tests ≠ [] →
          [s!"# Impact Analysis ({change.name})", "", countsText summary, ""] <+:
            impact.report change.name) ∧
        (impact.direct = [] ∧ impact.indirect = [] ∧ impact.tests = [] →
          ¬ (countsText summary).toList <:+: (impact.report change.name).text.toList) := by
  rw [← isEmpty_iff, ← isEmpty_eq_false_iff]
  cases listed : impact.isEmpty with
  | true =>
    rw [report_of_unlisted listed]
    refine ⟨by simp, fun summary _ => ⟨nofun, fun _ => ?_⟩⟩
    exact not_isInfix_denial summary change
  | false =>
    refine ⟨by simpa using text_report_ne_denial listed change,
      fun summary given => ⟨fun _ => ?_, nofun⟩⟩
    obtain ⟨lines, isReport, -, counts⟩ := exists_report_of_listed listed change.name
    obtain ⟨rest, under⟩ := counts summary given
    rw [isReport, ← under]
    exact ⟨rest, rfl⟩

/-- A reply that lists one test, and whose summary counts more than is listed. -/
def cutImpact : Impact where
  direct := []
  indirect := []
  tests := [⟨"untitled:a", "test_login"⟩]
  summary := some ⟨4, 1, 2⟩

theorem denied_iff_unlisted_cut :
    cutImpact.summary = some ⟨4, 1, 2⟩ ∧
      (cutImpact.report "delete").text ≠ (denial .delete).text ∧
      ["# Impact Analysis (delete)", "",
          "**Files affected:** 4 | **Breaking:** 1 | **Warnings:** 2", ""] <+:
        cutImpact.report "delete" := by
  have some : cutImpact.summary = some ⟨4, 1, 2⟩ := rfl
  have listed : cutImpact.tests ≠ [] := List.cons_ne_nil _ _
  obtain ⟨denied, counts⟩ := denied_iff_unlisted cutImpact .delete
  refine ⟨some, ?_, (counts _ some).1 (.inr (.inr listed))⟩
  intro same
  exact listed (denied.mp same).2.2

def summaryReply : Json :=
  .object [("summary", .object [("breakingChanges", .int 1), ("filesAffected", .int 4),
    ("warnings", .int 2)])]

/-- Its report denies all impact, and says nothing of the four files. -/
theorem denied_despite_summary : ∃ impact,
    Impact.decode summaryReply = .ok impact ∧ impact.summary = some ⟨4, 1, 2⟩ ∧
      impact.report "modify" = denial .modify ∧
      ¬ "**Files affected:** 4 | **Breaking:** 1 | **Warnings:** 2".toList <:+:
        (impact.report "modify").text.toList :=
  ⟨⟨[], [], [], some ⟨4, 1, 2⟩⟩, rfl, rfl, rfl, not_isInfix_denial ⟨4, 1, 2⟩ .modify⟩

end Impact

end CodeGateway
