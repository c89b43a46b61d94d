import CodeGateway.Reply.Impact
import CodeGateway.Report.Basic

namespace CodeGateway.Impact

def bySeverity {α : Type} (severity : α → Severity) (items : List α) : List α :=
  items.mergeSort fun first next => decide ((severity next).rank ≤ (severity first).rank)

def directLine (impact : DirectImpact) : String :=
  s!"- {impact.severity.marker} **{impact.severity.name}** {impact.kind.label} — " ++
    rangeLabel impact.uri impact.range

def pathLine (path : List String) : String :=
  if path.isEmpty then "  - path: _not reported_" else "  - path: " ++ " → ".intercalate path

def indirectLines (impact : IndirectImpact) : Report :=
  [s!"- {impact.severity.marker} **{impact.severity.name}** `{Url.displayPath impact.uri}`",
    pathLine impact.path]

def testLine (test : AffectedTest) : String :=
  s!"- 🧪 `{test.testName}` — `{Url.displayPath test.uri}`"

def summaryLines (summary : ImpactSummary) : Report :=
  [s!"**Files affected:** {summary.filesAffected.toNat} | **Breaking:** " ++
    s!"{summary.breakingChanges.toNat} | **Warnings:** {summary.warnings.toNat}", ""]

def directSection (impact : Impact) : Report :=
  [s!"## Direct Impact ({impact.direct.length})", ""] ++
    (if impact.direct.isEmpty then ["_No direct usages are affected._"] else []) ++
    (bySeverity DirectImpact.severity impact.direct).map directLine

def indirectSection (impact : Impact) : Report :=
  ["", s!"## Indirect Impact ({impact.indirect.length})", ""] ++
    (if impact.indirect.isEmpty then ["_No transitive dependents are affected._"] else []) ++
    (bySeverity IndirectImpact.severity impact.indirect).flatMap indirectLines

def testSection (impact : Impact) : Report :=
  ["", s!"## Affected Tests ({impact.tests.length})", ""] ++
    (if impact.tests.isEmpty then
      ["_No tests reach this symbol. Consider adding coverage before changing it._"] else []) ++
    impact.tests.map testLine

def noImpactReport (change : String) : Report :=
  ["No impact detected. Nothing in the indexed workspace depends on this " ++
    s!"symbol, so a {change} should not break other code. Unindexed files and " ++
    "dynamic call sites (reflection, string-based dispatch) are not covered."]

def report (impact : Impact) (change : String) : Report :=
  [s!"# Impact Analysis ({change})", ""] ++
    if impact.isEmpty then noImpactReport change
    else
      Report.whenSome summaryLines impact.summary ++ impact.directSection ++
        impact.indirectSection ++ impact.testSection

end CodeGateway.Impact
