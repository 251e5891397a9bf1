import ClientSynth.CommandLine.Arguments
import ClientSynth.Generation
import ClientSynth.Settings.File

/-! # The command line

Runs a command and says what it prints.  Diagnostics go to the error stream unless
the report is asked for as JSON; a failure is explained there with its causes. -/
namespace ClientSynth
namespace CommandLine

/-- What a command prints, and its status. -/
structure Printed where
  status : Nat
  out : String
  err : String
  deriving Repr, DecidableEq

/-- What stops a command: a summary, and the causes from near to far. -/
structure Trouble where
  summary : String
  causes : List String
  deriving Repr, DecidableEq

/-- The causes of a failure: what it says, and what the system or the template
reader said. -/
def causesOf : Failure → List String
  | .io m => [(Failure.io m).display, m]
  | .engine m => [(Failure.engine m).display, m]
  | f => [f.display]

/-- The trouble of a failure, under a summary. -/
def Trouble.of (summary : String) (f : Failure) : Trouble := ⟨summary, causesOf f⟩

/-- A text whose first line follows `start` and whose other lines are as deep. -/
def indented (start text : String) : String :=
  let margin := "\n" ++ String.ofList (List.replicate start.length ' ')
  start ++ Text.joined margin ((Text.splitWhere (· == '\n') text.toList).map String.ofList)

/-- The numbered lines of several causes. -/
def numbered (causes : List String) : List String :=
  causes.zipIdx.map (fun c =>
    let number := toString c.2
    indented (String.ofList (List.replicate (5 - number.length) ' ') ++ number ++ ": ") c.1)

/-- The text of a trouble. -/
def Trouble.text (t : Trouble) : String :=
  let causes := match t.causes with
    | [] => ""
    | [one] => "\n\nCaused by:\n" ++ indented "    " one
    | several => "\n\nCaused by:\n" ++ Text.joined "\n" (numbered several)
  "Error: " ++ t.summary ++ causes ++ "\n"

/-- What is printed when a command cannot go on. -/
def Printed.ofTrouble (t : Trouble) : Printed := ⟨1, "", t.text⟩

/-- A line of output. -/
def line (s : String) : String := s ++ "\n"

/-- The verdict on a report: a summary if it counts as a failure. -/
def verdict (failsOnWarnings : Bool) (r : Report) : Option String :=
  if 0 < r.errors then
    some (toString r.errors ++ " error(s) and " ++ toString r.warnings ++ " warning(s) reported")
  else if failsOnWarnings && 0 < r.warnings then
    some (toString r.warnings ++ " warning(s) reported")
  else none

/-- What a command prints about its report; `notes` are the lines that close it. -/
def Printed.ofReport (c : Command) (r : Report) (notes : List String) : Printed :=
  let isJson := c.has "json"
  let out := if isJson then line (Json.pretty r.form) else String.join (notes.map line)
  let shown := if isJson then "" else String.join (r.diagnostics.map (fun d => line d.display))
  match verdict (c.has "fail-on-warnings") r with
  | none => ⟨0, out, shown⟩
  | some summary => ⟨1, out, shown ++ (Trouble.mk summary []).text⟩

variable {m : Type → Type} [Monad m] [FileAccess m]

/-- The settings that a command starts from. -/
def startingSettings (c : Command) : ExceptT Trouble m Settings := do
  match c.value? "config" with
  | none => return .ofContract "webapigen" "" "generated"
  | some path =>
    ExceptT.adapt (Trouble.of ("Failed to load configuration from " ++ path)) (Settings.load ⟨path⟩)

/-- The settings of a command. -/
def settingsOf (c : Command) : ExceptT Trouble m Settings := do
  let s := c.adjust (← startingSettings c)
  if s.contractPaths.isEmpty then
    throw ⟨"No contract documents given; pass --contract or --config", []⟩
  return s

/-- The closing lines about generated files. -/
def generationNotes (isDry : Bool) (s : Settings) (r : Report) : List String :=
  if isDry then r.units.map (fun u => "would write " ++ u.fileName)
  else ["Generated " ++ toString r.interfaces.length ++ " interfaces into " ++ s.outputDirectory]

/-- Run a command. -/
def runCommand (c : Command) : ExceptT Trouble m Printed := do
  let s ← settingsOf c
  if c.generates then
    let isDry := c.has "dry-run"
    let r ← ExceptT.adapt (Trouble.of "Generation failed") (generate s isDry)
    return .ofReport c r (generationNotes isDry s r)
  else
    let r ← ExceptT.adapt (Trouble.of "Analysis failed") (check s)
    return .ofReport c r ["Checked " ++ toString r.interfaces.length ++ " interfaces"]

/-- A reminder of how the program is called. -/
def usage : String := "Usage: webapigen <generate|check> --contract <PATH> [OPTIONS]"

/-- Run the program with the given arguments. -/
def run (args : List String) : m Printed := do
  match Command.parse args with
  | .error .misuse => return ⟨2, "", line usage⟩
  | .error .help => return ⟨0, line usage, ""⟩
  | .error .version =>
    return ⟨0, line (Template.generatorName ++ " " ++ Template.generatorVersion), ""⟩
  | .ok c =>
    match ← (runCommand c).run with
    | .ok printed => return printed
    | .error t => return .ofTrouble t

end CommandLine
end ClientSynth
