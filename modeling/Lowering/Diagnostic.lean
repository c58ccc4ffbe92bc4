import Lowering.Span

/-
This file holds the diagnostics that a pass reports.
-/

namespace Lowering

/-- A warning comes before an error in their order. -/
inductive Severity where
  | warning
  | error
deriving DecidableEq, Inhabited, Repr

def Severity.text : Severity → String
  | .warning => "warning"
  | .error => "error"

/-- A message about a place in the source. -/
structure Diagnostic where
  severity : Severity
  message : String
  span : Span
deriving DecidableEq, Inhabited, Repr

namespace Diagnostic

def isError (diagnostic : Diagnostic) : Bool := diagnostic.severity == .error

def text (diagnostic : Diagnostic) : String :=
  s!"{diagnostic.span.text}: {diagnostic.severity.text}: {diagnostic.message}"

/-- Diagnostics are ordered by severity and then by message, by code points. -/
def precedes (left right : Diagnostic) : Bool :=
  match left.severity, right.severity with
  | .warning, .error => true
  | .error, .warning => false
  | _, _ => left.message ≤ right.message

end Diagnostic

/-- A report lists diagnostics in the order in which they were made. -/
structure Report where
  diagnostics : List Diagnostic
deriving DecidableEq, Inhabited, Repr

namespace Report

def empty : Report := ⟨[]⟩

def add (report : Report) (diagnostic : Diagnostic) : Report :=
  ⟨report.diagnostics ++ [diagnostic]⟩

def isEmpty (report : Report) : Bool := report.diagnostics.isEmpty

def size (report : Report) : Nat := report.diagnostics.length

def containsError (report : Report) : Bool := report.diagnostics.any Diagnostic.isError

def count (report : Report) (severity : Severity) : Nat :=
  report.diagnostics.countP (·.severity == severity)

/-- A count with its noun, which is singular for one. -/
def counted (count : Nat) (noun : String) : String :=
  s!"{count} {noun}" ++ if count = 1 then "" else "s"

/-- The summary counts errors and warnings, and leaves out the kind that there is none of. -/
def summary (report : Report) : String :=
  let errors := report.count .error
  let warnings := report.count .warning
  if errors = 0 ∧ warnings = 0 then "No errors or warnings"
  else if errors = 0 then counted warnings "warning"
  else if warnings = 0 then counted errors "error"
  else counted errors "error" ++ " and " ++ counted warnings "warning"

/-- One diagnostic on each line. -/
def text (report : Report) : String := "\n".intercalate (report.diagnostics.map Diagnostic.text)

/-- Diagnostics that are ordered alike keep their order. -/
def bySeverity (report : Report) : List Diagnostic :=
  report.diagnostics.mergeSort Diagnostic.precedes

theorem containsError_add (report : Report) (diagnostic : Diagnostic) :
    (report.add diagnostic).containsError = (report.containsError || diagnostic.isError) := by
  simp [containsError, add]

end Report

/-- A rejected report is told by its summary. -/
def Report.rejection (report : Report) : String := s!"Lowering failed with {report.summary}"

end Lowering
