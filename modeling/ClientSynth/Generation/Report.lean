import ClientSynth.Diagnostic
import ClientSynth.Document.Form
import ClientSynth.Files.Path
import ClientSynth.Output

/-! # Reports

What came of a run. -/
namespace ClientSynth

open Document

/-- The outcome of a run. -/
structure Report where
  /-- Names of the interfaces that were generated, or resolved in a check. -/
  interfaces : List String
  /-- The files in the order of their names. -/
  units : List GeneratedUnit
  /-- The paths that were written. -/
  written : List Path
  diagnostics : List Diagnostic
  deriving Repr

namespace Report

/-- How many diagnostics are errors. -/
def errors (r : Report) : Nat := Diagnostic.count r.diagnostics .error

/-- How many diagnostics are warnings. -/
def warnings (r : Report) : Nat := Diagnostic.count r.diagnostics .warning

/-- A generated file in a report. -/
def unitForm (u : GeneratedUnit) : Form :=
  .record [("name", .text u.name), ("file_name", .text u.fileName), ("text", .text u.text)]

/-- A diagnostic in a report. -/
def diagnosticForm (d : Diagnostic) : Form :=
  .record [("code", .text d.code.text), ("severity", .text d.severity.text),
    ("message", .text d.message),
    ("location", .record [("source", .text d.location.source), ("symbol", .text d.location.symbol)])]

/-- The report as a document. -/
def form (r : Report) : Form :=
  .record [("interfaces", .ofTexts r.interfaces), ("units", .list (r.units.map unitForm)),
    ("written", .ofTexts (r.written.map Path.text)),
    ("diagnostics", .list (r.diagnostics.map diagnosticForm))]

end Report
end ClientSynth
