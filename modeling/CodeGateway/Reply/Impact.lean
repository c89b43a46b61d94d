import CodeGateway.Reply.Location

namespace CodeGateway

open Decode

inductive Severity where
  | info
  | warning
  | breaking
  deriving DecidableEq

namespace Severity

def name : Severity → String
  | info => "info"
  | warning => "warning"
  | breaking => "breaking"

def choice : Choice Severity :=
  ⟨[info, warning, breaking].map (fun severity => (severity.name, severity)), none⟩

def rank : Severity → Nat
  | info => 0
  | warning => 1
  | breaking => 2

def marker : Severity → String
  | info => "🔵"
  | warning => "🟡"
  | breaking => "🔴"

end Severity

inductive ImpactKind where
  | caller
  | reference
  | subclass
  | implementation
  | other
  deriving DecidableEq

namespace ImpactKind

def name : ImpactKind → String
  | caller => "caller"
  | reference => "reference"
  | subclass => "subclass"
  | implementation => "implementation"
  | other => "other"

def choice : Choice ImpactKind :=
  ⟨[caller, reference, subclass, implementation].map (fun kind => (kind.name, kind)), some other⟩

def label : ImpactKind → String
  | other => "usage"
  | kind => kind.name

end ImpactKind

structure DirectImpact where
  uri : String
  range : Range
  kind : ImpactKind
  severity : Severity

structure IndirectImpact where
  uri : String
  path : List String
  severity : Severity

structure AffectedTest where
  uri : String
  testName : String

structure ImpactSummary where
  filesAffected : UInt32
  breakingChanges : UInt32
  warnings : UInt32

structure Impact where
  direct : List DirectImpact
  indirect : List IndirectImpact
  tests : List AffectedTest
  summary : Option ImpactSummary

def DirectImpact.decode : Json → Except Error DirectImpact :=
  Record.decode "DirectImpact"
    ((Record.of DirectImpact.mk).take (required "uri" string)
      |>.take (defaulted "range" Range.decode .empty)
      |>.take (required "type" ImpactKind.choice.decode)
      |>.take (required "severity" Severity.choice.decode))

def IndirectImpact.decode : Json → Except Error IndirectImpact :=
  Record.decode "IndirectImpact"
    ((Record.of IndirectImpact.mk).take (required "uri" string)
      |>.take (defaulted "path" (list string) [])
      |>.take (required "severity" Severity.choice.decode))

def AffectedTest.decode : Json → Except Error AffectedTest :=
  Record.decode "AffectedTest"
    ((Record.of AffectedTest.mk).take (required "uri" string)
      |>.take (required "testName" string))

def ImpactSummary.decode : Json → Except Error ImpactSummary :=
  Record.decode "ImpactSummary"
    ((Record.of ImpactSummary.mk).take (defaulted "filesAffected" uint32 0)
      |>.take (defaulted "breakingChanges" uint32 0)
      |>.take (defaulted "warnings" uint32 0))

def Impact.decode : Json → Except Error Impact :=
  Record.decode "ImpactAnalysisResponse"
    ((Record.of Impact.mk).take (defaulted "directImpact" (list DirectImpact.decode) [])
      |>.take (defaulted "indirectImpact" (list IndirectImpact.decode) [])
      |>.take (defaulted "affectedTests" (list AffectedTest.decode) [])
      |>.take (omissible "summary" ImpactSummary.decode))

def DirectImpact.encode (impact : DirectImpact) : Json :=
  .object [("range", impact.range.encode), ("severity", .string impact.severity.name),
    ("type", .string impact.kind.name), ("uri", .string impact.uri)]

def IndirectImpact.encode (impact : IndirectImpact) : Json :=
  .object [("path", .ofList .string impact.path), ("severity", .string impact.severity.name),
    ("uri", .string impact.uri)]

def AffectedTest.encode (test : AffectedTest) : Json :=
  .object [("testName", .string test.testName), ("uri", .string test.uri)]

def ImpactSummary.encode (summary : ImpactSummary) : Json :=
  .object [("breakingChanges", .ofUInt32 summary.breakingChanges),
    ("filesAffected", .ofUInt32 summary.filesAffected),
    ("warnings", .ofUInt32 summary.warnings)]

def Impact.encode (impact : Impact) : Json :=
  .object ([("affectedTests", .ofList AffectedTest.encode impact.tests),
    ("directImpact", .ofList DirectImpact.encode impact.direct),
    ("indirectImpact", .ofList IndirectImpact.encode impact.indirect)] ++
    Json.memberIf "summary" ImpactSummary.encode impact.summary)

/-- Nothing is listed; a summary does not count. -/
def Impact.isEmpty (impact : Impact) : Bool :=
  impact.direct.isEmpty && impact.indirect.isEmpty && impact.tests.isEmpty

end CodeGateway
