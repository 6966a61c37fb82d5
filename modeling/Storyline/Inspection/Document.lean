import Storyline.Inspection.Report
import Storyline.Json.Alternative
import Storyline.Json.Record

/-!
# Reports in documents

Kinds of findings are named alternatives; findings and reports are records without
optional fields.
-/

namespace Storyline

open Json

/-- Reads a kind of finding. -/
def FindingKind.reader : Reader FindingKind :=
  Reader.alternative (all.map fun kind => .constant kind.name kind)

namespace Finding

/-- Reads a finding. -/
def reader : Reader Finding :=
  Reader.record "struct Finding"
    [.required "node" Reader.text fun value finding => { finding with node := value },
      .required "kind" FindingKind.reader fun value finding => { finding with kind := value },
      .required "message" Reader.text fun value finding => { finding with message := value }]
    ⟨"", .deadEnd, ""⟩

/-- A finding as an object. -/
def toJson (finding : Finding) : Value :=
  .object [("node", .text finding.node), ("kind", .text finding.kind.name),
    ("message", .text finding.message)]

end Finding

namespace Report

/-- Reads a report. -/
def reader : Reader Report :=
  Reader.record "struct ValidationReport"
    [.required "errors" (Reader.list Finding.reader) fun value report =>
        { report with errors := value },
      .required "warnings" (Reader.list Finding.reader) fun value report =>
        { report with warnings := value }] {}

end Report

end Storyline
