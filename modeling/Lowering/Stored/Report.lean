import Lowering.Counter
import Lowering.Diagnostic
import Lowering.Pass.Options
import Lowering.Stored.Ty

/-
This file holds the stored forms of reports, counters and options.
-/

namespace Lowering

def Severity.toJson : Severity → Json
  | .warning => .constant "Warning"
  | .error => .constant "Error"

def Diagnostic.toJson (diagnostic : Diagnostic) : Json :=
  .record [
    ("severity", diagnostic.severity.toJson),
    ("message", .text diagnostic.message),
    ("span", diagnostic.span.toJson)]

def Report.toJson (report : Report) : Json :=
  .record [("diagnostics", .list Diagnostic.toJson report.diagnostics)]

def Counter.toJson (counter : Counter) : Json := .record [("next", .natural counter.issued)]

def Counter.decoder : Decoder Counter := fun allowance json => do
  let fields ← Decoder.fields ["next"] allowance json
  return ⟨← fields.required "next" Decoder.natural32⟩

def Options.toJson (options : Options) : Json :=
  .record [
    ("module_name", .text options.moduleName),
    ("diagnose_unreachable_code", .bool options.warnsUnreachable)]

/-- An option that is left out has its standard value. -/
def Options.decoder : Decoder Options := fun allowance json => do
  let fields ←
    Decoder.leadingFields ["module_name", "diagnose_unreachable_code"] allowance json
  let standard := Options.standard
  return {
    moduleName := ← fields.withDefault "module_name" Decoder.string standard.moduleName
    warnsUnreachable :=
      ← fields.withDefault "diagnose_unreachable_code" Decoder.bool standard.warnsUnreachable }

end Lowering
