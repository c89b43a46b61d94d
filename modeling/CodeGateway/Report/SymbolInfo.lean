import CodeGateway.Reply.SymbolInfo
import CodeGateway.Report.Basic

namespace CodeGateway.SymbolInfo

def maxReferences : Nat := 3

def distinct : List String → List String
  | [] => []
  | text :: rest => text :: (distinct rest).filter (· ≠ text)

def groups (references : List Location) : List (String × List Location) :=
  (distinct (references.map Location.uri)).map fun uri =>
    (uri, references.filter fun reference => reference.uri == uri)

def referenceLine (reference : Location) : String :=
  s!"- line {(reference.range.start.line + 1).toNat}, col " ++
    s!"{(reference.range.start.character + 1).toNat}"

def groupLines (group : String × List Location) : Report :=
  [s!"**{Url.displayPath group.1}**"] ++
    (group.2.take maxReferences).map referenceLine ++
    (if maxReferences < group.2.length then
      [s!"- ... and {group.2.length - maxReferences} more"] else [])

def definitionLine (location : Location) : String :=
  s!"- {location.label}"

def definitionSection (definitions : List Location) : Report :=
  match definitions with
  | [] => []
  | [only] => ["", "## Definition", "", definitionLine only]
  | several => ["", s!"## Definitions ({several.length})", ""] ++ several.map definitionLine

def referenceSection (references : List Location) : Report :=
  if references.isEmpty then []
  else
    let groups := groups references
    ["", s!"## References ({references.length} in " ++ plural groups.length "file" "files" ++ ")",
      ""] ++
      groups.flatMap groupLines

def report (info : SymbolInfo) : Report :=
  if info.isEmpty then ["No information available for the symbol at this position."]
  else
    ["# Symbol Information"] ++
      Report.whenSome (fun hover => ["", "## Documentation", "", hover]) info.hover ++
      definitionSection info.definitions ++ referenceSection info.references

def overflows (info : SymbolInfo) : Bool :=
  info.definitions.any (fun definition => definition.range.start.line + 1 == 0) ||
    (groups info.references).any fun group =>
      (group.2.take maxReferences).any fun reference => reference.range.start.overflows

/-- The report where additions are checked: one that goes over breaks off. -/
def checkedReport (info : SymbolInfo) : Option Report :=
  if info.overflows then none else some info.report

end CodeGateway.SymbolInfo
