import CodeGateway.Decimal.Fixed
import CodeGateway.Reply.Location
import CodeGateway.Url.FilePath

namespace CodeGateway

/-- The lines of a report, without their line ends. A line that quotes text may itself run over
    several. -/
abbrev Report := List String

def Report.text (report : Report) : String :=
  String.join (report.map (· ++ "\n"))

def Report.whenSome {α : Type} (lines : α → Report) : Option α → Report
  | some a => lines a
  | none => []

def rangeLabel (uri : String) (range : Range) : String :=
  s!"{Url.displayPath uri}:{(range.start.line + 1).toNat}"

def Location.label (location : Location) : String :=
  rangeLabel location.uri location.range

def percent (score : Float) : String :=
  let clamped :=
    if score.isNaN then 0.0 else if score < 0.0 then 0.0 else if score > 1.0 then 1.0 else score
  s!"{(clamped * 100.0).round.toUInt32.toNat}%"

def percentOneDecimal (ratio : Float) : String :=
  String.ofList (Decimal.fixedText 1 (ratio * 100.0)) ++ "%"

def plural (count : Nat) (one many : String) : String :=
  let noun := if count == 1 then one else many
  s!"{count} {noun}"

def fenced (language code : String) : Report :=
  [s!"```{language}", code, "```"]

end CodeGateway
