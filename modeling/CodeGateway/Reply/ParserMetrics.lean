import CodeGateway.Reply.Location

namespace CodeGateway

open Decode

structure LanguageMetrics where
  language : String
  filesAttempted : UInt64
  filesSucceeded : UInt64
  filesFailed : UInt64
  totalEntities : UInt64
  totalRelationships : UInt64
  totalParseTime : UInt64
  averageParseTime : UInt64

structure MetricsTotals where
  filesAttempted : UInt64
  filesSucceeded : UInt64
  filesFailed : UInt64
  totalEntities : UInt64
  successRate : Float

structure ParserMetrics where
  metrics : List LanguageMetrics
  totals : Option MetricsTotals

/-- The share of attempted files that were parsed; nothing when none was attempted. -/
def successRate (succeeded attempted : UInt64) : Option Float :=
  if attempted == 0 then none else some (succeeded.toFloat / attempted.toFloat)

def LanguageMetrics.decode : Json → Except Error LanguageMetrics :=
  Record.decode "ParserMetric"
    ((Record.of LanguageMetrics.mk).take (required "language" string)
      |>.take (defaulted "filesAttempted" uint64 0)
      |>.take (defaulted "filesSucceeded" uint64 0)
      |>.take (defaulted "filesFailed" uint64 0)
      |>.take (defaulted "totalEntities" uint64 0)
      |>.take (defaulted "totalRelationships" uint64 0)
      |>.take (defaulted "totalParseTimeMs" uint64 0)
      |>.take (defaulted "avgParseTimeMs" uint64 0))

def MetricsTotals.decode : Json → Except Error MetricsTotals :=
  Record.decode "ParserTotals"
    ((Record.of MetricsTotals.mk).take (defaulted "filesAttempted" uint64 0)
      |>.take (defaulted "filesSucceeded" uint64 0)
      |>.take (defaulted "filesFailed" uint64 0)
      |>.take (defaulted "totalEntities" uint64 0)
      |>.take (defaulted "successRate" float 0.0))

def ParserMetrics.decode : Json → Except Error ParserMetrics :=
  Record.decode "ParserMetricsResponse"
    ((Record.of ParserMetrics.mk).take (defaulted "metrics" (list LanguageMetrics.decode) [])
      |>.take (omissible "totals" MetricsTotals.decode))

def LanguageMetrics.encode (metrics : LanguageMetrics) : Json :=
  .object [("avgParseTimeMs", .ofUInt64 metrics.averageParseTime),
    ("filesAttempted", .ofUInt64 metrics.filesAttempted),
    ("filesFailed", .ofUInt64 metrics.filesFailed),
    ("filesSucceeded", .ofUInt64 metrics.filesSucceeded),
    ("language", .string metrics.language),
    ("totalEntities", .ofUInt64 metrics.totalEntities),
    ("totalParseTimeMs", .ofUInt64 metrics.totalParseTime),
    ("totalRelationships", .ofUInt64 metrics.totalRelationships)]

def MetricsTotals.encode (totals : MetricsTotals) : Json :=
  .object [("filesAttempted", .ofUInt64 totals.filesAttempted),
    ("filesFailed", .ofUInt64 totals.filesFailed),
    ("filesSucceeded", .ofUInt64 totals.filesSucceeded),
    ("successRate", .float totals.successRate),
    ("totalEntities", .ofUInt64 totals.totalEntities)]

def ParserMetrics.encode (metrics : ParserMetrics) : Json :=
  .object ([("metrics", .ofList LanguageMetrics.encode metrics.metrics)] ++
    Json.memberIf "totals" MetricsTotals.encode metrics.totals)

end CodeGateway
