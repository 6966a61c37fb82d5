import Storyline.Story.Graph

/-!
# Reports of an inspection

A finding is one problem at one node. Its kind decides whether it is an error,
which stands in the way of play, or a warning. A report has both lists apart, each
ordered by node; findings at one node keep the order in which they were made.
-/

namespace Storyline

/-- Whether a finding stands in the way of play. -/
inductive Severity where
  | warning
  | error
  deriving DecidableEq

/-- What kind of problem a finding is. -/
inductive FindingKind where
  | unreachable
  | deadEnd
  | missingStart
  | brokenLink
  | unknownCondition
  | unknownEffect
  | emptyNegation
  deriving DecidableEq

namespace FindingKind

/-- How bad a kind of problem is. -/
def severity : FindingKind → Severity
  | .unreachable | .unknownCondition | .unknownEffect => .warning
  | .deadEnd | .missingStart | .brokenLink | .emptyNegation => .error

/-- All kinds, in the order in which messages list them. -/
def all : List FindingKind :=
  [.unreachable, .deadEnd, .missingStart, .brokenLink, .unknownCondition, .unknownEffect,
    .emptyNegation]

/-- The name of a kind. -/
def name : FindingKind → String
  | .unreachable => "Unreachable"
  | .deadEnd => "DeadEnd"
  | .missingStart => "MissingStart"
  | .brokenLink => "BrokenLink"
  | .unknownCondition => "UnknownCondition"
  | .unknownEffect => "UnknownEffect"
  | .emptyNegation => "EmptyNegation"

end FindingKind

/-- One problem at one node. -/
structure Finding where
  node : NodeId
  kind : FindingKind
  message : String
  deriving DecidableEq

/-- A finding on one line. -/
def Finding.line (finding : Finding) : String := "[" ++ finding.node ++ "] " ++ finding.message

/-- Errors and warnings. -/
structure Report where
  errors : List Finding := []
  warnings : List Finding := []
  deriving DecidableEq

namespace Report

/-- Findings in the order of their nodes; those at one node keep their order. -/
def inOrder (findings : List Finding) : List Finding :=
  findings.mergeSort fun first second => decide (first.node ≤ second.node)

/-- The report of some findings. -/
def ofFindings (findings : List Finding) : Report :=
  { errors := inOrder (findings.filter fun finding => finding.kind.severity == .error),
    warnings := inOrder (findings.filter fun finding => finding.kind.severity == .warning) }

/-- Whether nothing stands in the way of play. -/
def isPlayable (report : Report) : Bool := report.errors.isEmpty

/-- Whether there is no finding at all. -/
def isClean (report : Report) : Bool := report.errors.isEmpty && report.warnings.isEmpty

/-- All findings, errors first. -/
def findings (report : Report) : List Finding := report.errors ++ report.warnings

/-- All findings of one kind, errors first. -/
def ofKind (report : Report) (kind : FindingKind) : List Finding :=
  report.findings.filter fun finding => finding.kind == kind

/-- The lines of one list of findings under its heading; none for an empty list. -/
def listed (heading : String) (findings : List Finding) : List String :=
  if findings.isEmpty then []
  else (heading ++ " (" ++ toString findings.length ++ "):") ::
    findings.map fun finding => "  " ++ finding.line

/-- A report on several lines. -/
def text (report : Report) : String :=
  let lines := if report.isClean then ["No problems found."]
    else listed "Errors" report.errors ++ listed "Warnings" report.warnings
  String.join (("Inspection Results" :: lines).map fun line => line ++ "\n")

end Report

end Storyline
