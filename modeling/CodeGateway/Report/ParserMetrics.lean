import CodeGateway.Reply.ParserMetrics
import CodeGateway.Report.Basic

namespace CodeGateway.ParserMetrics

def rateText (rate : Option Float) : String :=
  match rate with
  | some rate => percentOneDecimal rate
  | none => "n/a"

def row (metrics : LanguageMetrics) : String :=
  let cells := [metrics.language, toString metrics.filesAttempted.toNat,
    toString metrics.filesSucceeded.toNat, toString metrics.filesFailed.toNat,
    rateText (successRate metrics.filesSucceeded metrics.filesAttempted),
    toString metrics.totalEntities.toNat, toString metrics.totalRelationships.toNat,
    s!"{metrics.averageParseTime.toNat} ms"]
  "| " ++ " | ".intercalate cells ++ " |"

structure Totals where
  attempted : UInt64
  succeeded : UInt64
  failed : UInt64
  entities : UInt64
  rate : Option Float

def sum (field : LanguageMetrics → UInt64) (metrics : List LanguageMetrics) : UInt64 :=
  metrics.foldl (fun total entry => total + field entry) 0

def totalsOf (metrics : ParserMetrics) : Totals :=
  match metrics.totals with
  | some totals =>
    ⟨totals.filesAttempted, totals.filesSucceeded, totals.filesFailed, totals.totalEntities,
      some totals.successRate⟩
  | none =>
    let attempted := sum LanguageMetrics.filesAttempted metrics.metrics
    let succeeded := sum LanguageMetrics.filesSucceeded metrics.metrics
    ⟨attempted, succeeded, sum LanguageMetrics.filesFailed metrics.metrics,
      sum LanguageMetrics.totalEntities metrics.metrics,
      successRate succeeded attempted⟩

def totalLines (totals : Totals) : Report :=
  ["", s!"**Total:** {totals.attempted.toNat} files, {totals.succeeded.toNat} succeeded, " ++
    s!"{totals.failed.toNat} failed, {totals.entities.toNat} entities"] ++
    Report.whenSome (fun rate => [s!"**Success rate:** {percentOneDecimal rate}"]) totals.rate

def report (metrics : ParserMetrics) : Report :=
  ["# Parser Metrics", ""] ++
    if metrics.metrics.isEmpty then
      ["No parser metrics available. The language server has not parsed any " ++
        "files yet, or no file matched the requested language."]
    else
      ["| Language | Files | Succeeded | Failed | Success | Entities | Relationships | Avg parse |",
        "|---|---:|---:|---:|---:|---:|---:|---:|"] ++
        metrics.metrics.map row ++ totalLines metrics.totalsOf

end CodeGateway.ParserMetrics

namespace CodeGateway

def reindexReport : Report :=
  ["# Workspace Reindexed", "",
    "Workspace reindexed. The code graph was cleared; each file is parsed " ++
      "again the next time a tool asks about it."]

end CodeGateway
