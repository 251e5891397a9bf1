import ClientSynth.Hook.Command

/-! # Running hooks

A script runs in a directory.  The first command of a hook that fails ends the
run, with what it wrote as the explanation. -/
namespace ClientSynth
namespace Hook

open FileAccess

/-- Where a stream goes. -/
inductive Sink where
  | out
  | err
  | file (path : Path)
  deriving Repr, DecidableEq

/-- Where the streams of a command go, and its input. -/
structure Streams where
  out : Sink
  err : Sink
  input : String

/-- Where a script stands. -/
structure State where
  /-- The directory that paths are seen from. -/
  here : Path
  /-- The status of the last pipeline. -/
  status : Nat
  out : String
  err : String
  /-- Whether the script has been left. -/
  isOver : Bool

/-- Whether a name fits a pattern. -/
def fits : Word → List Char → Bool
  | [], [] => true
  | [], _ :: _ => false
  | l :: pattern, [] => !l.isQuoted && l.char == '*' && fits pattern []
  | l :: pattern, c :: rest =>
    if l.isQuoted then l.char == c && fits pattern rest
    else if l.char = '*' then fits pattern (c :: rest) || fits (l :: pattern) rest
    else (l.char == '?' || l.char == c) && fits pattern rest
  termination_by pattern name => (pattern.length + name.length, pattern.length)

variable {m : Type → Type} [Monad m] [FileAccess m]

/-- The texts that a word stands for: the names in the directory that fit it, or
its own text. -/
def expand (here : Path) (w : Word) : m (List String) := do
  if !w.hasMark ['*', '?'] then return [w.text]
  let behind := (w.reverse.takeWhile (fun l => l.char != '/')).reverse
  let front := w.take (w.length - behind.length)
  let folder := if front.isEmpty then here.join "." else here.join (Word.text front)
  match ← names folder with
  | .error _ => return [w.text]
  | .ok found =>
    let isHidden (n : String) : Bool := n.startsWith "." && (behind.head?.map Letter.char) != some '.'
    let fitting := found.filter (fun n => !isHidden n && fits behind n.toList)
    return if fitting.isEmpty then [w.text] else fitting.map (fun n => Word.text front ++ n)

/-- The file at a path with `text` added at its end. -/
def append (p : Path) (text : String) : m (Except SystemError Unit) := do
  match ← readText p with
  | .ok before => writeText p (before ++ text)
  | .error .notFound => writeText p text
  | .error e => return .error e

/-- The complaint about a redirection that cannot be made. -/
def redirectionComplaint (verb name : String) : SystemError → String
  | .notFound => "sh: 1: cannot " ++ verb ++ " " ++ name ++ ": " ++
    (if verb = "open" then "No such file" else "Directory nonexistent")
  | e => "sh: 1: cannot " ++ verb ++ " " ++ name ++ ": " ++ reason e

/-- Make one redirection. -/
def redirect (here : Path) (s : Streams) : Redirection → m (Except String Streams)
  | .toFile stream appends word => do
    let p := here.join word.text
    let opened ← if p.text == "/dev/null" then pure (.ok ())
      else if appends then append p "" else writeText p ""
    match opened with
    | .error e => return .error (redirectionComplaint "create" word.text e)
    | .ok () => return .ok (if stream = 2 then { s with err := .file p } else { s with out := .file p })
  | .toStream stream target => do
    let sink := if target = 2 then s.err else s.out
    return .ok (if stream = 2 then { s with err := sink } else { s with out := sink })
  | .fromFile word => do
    match ← readText (here.join word.text) with
    | .ok text => return .ok { s with input := text }
    | .error e => return .error (redirectionComplaint "open" word.text e)

/-- Make redirections from left to right. -/
def redirectAll (here : Path) : Streams → List Redirection → m (Except String Streams)
  | s, [] => return .ok s
  | s, r :: rest => do
    match ← redirect here s r with
    | .error e => return .error e
    | .ok s => redirectAll here s rest

/-- Pass text to where a stream goes; what is left belongs to the streams of the
script. -/
def deliver (sink : Sink) (text : String) : m (String × String) := do
  match sink with
  | .out => return (text, "")
  | .err => return ("", text)
  | .file p =>
    if !text.isEmpty && p.text != "/dev/null" then let _ ← append p text
    return ("", "")

/-- Run one command: its outcome, and the script as it leaves it. -/
def runCall (s : State) (input : String) (c : Call) : m (Outcome × State) := do
  match ← redirectAll s.here ⟨.out, .err, input⟩ c.redirections with
  | .error e => return (.failed 2 e, s)
  | .ok streams =>
    let words := (← c.words.mapM (expand s.here)).flatten
    match words with
    | [] => return (.success, s)
    | "exit" :: args =>
      let status := ((args.head?.bind Numeral.unsigned?).getD s.status) % 256
      return (⟨status, "", ""⟩, { s with isOver := true })
    | "cd" :: args =>
      let p := s.here.join (args.headD ".")
      if ← isDirectory p then return (.success, { s with here := p })
      else return (.failed 2 ("sh: 1: cd: can't cd to " ++ args.headD "."), s)
    | name :: args =>
      let o ← run s.here streams.input name args
      let (out, moved) ← deliver streams.out o.out
      let (back, err) ← deliver streams.err o.err
      return (⟨o.status, out ++ back, moved ++ err⟩, s)

/-- Run the commands of a pipeline, each one reading what the one before wrote. -/
def runPipeline (s : State) (input : String) : List Call → m (Outcome × State)
  | [] => return (.success, s)
  | [c] => runCall s input c
  | c :: rest => do
    let (o, _) ← runCall s input c
    let (final, _) ← runPipeline s o.out rest
    return ({ final with err := o.err ++ final.err }, s)

/-- Whether a step runs after the given status. -/
def Condition.admitsStatus : Condition → Nat → Bool
  | always, _ => true
  | afterSuccess, status => status == 0
  | afterFailure, status => status != 0

/-- Run the steps of a script. -/
def runSteps : State → List Step → m State
  | s, [] => return s
  | s, step :: rest => do
    if s.isOver then return s
    if !step.condition.admitsStatus s.status then runSteps s rest
    else
      let (o, next) ← runPipeline s "" step.calls
      let status := if step.isNegated then (if o.status = 0 then 1 else 0) else o.status
      runSteps { next with status := status, out := s.out ++ o.out, err := s.err ++ o.err } rest

/-- Run a script in a directory. -/
def runScript (here : Path) (script : String) : m Outcome := do
  match parse script with
  | .error e => return .failed 2 ("sh: 1: " ++ e.message)
  | .ok steps =>
    let s ← runSteps ⟨here, 0, "", "", false⟩ steps
    return ⟨s.status, s.out, s.err⟩

/-- The failure of a hook that could not be started. -/
def notStarted (stage script : String) (e : SystemError) : Failure :=
  .io ("Failed to execute " ++ stage ++ " hook '" ++ script ++ "': " ++ e.message)

/-- The failure of a hook. -/
def failed (stage script : String) (o : Outcome) : Failure :=
  .io (stage ++ " hook '" ++ script ++ "' failed with status exit status: " ++ toString o.status ++
    "\n" ++ o.err ++ o.out)

/-- Run the hooks of a stage in a directory until one fails. -/
def runAll (stage : String) (directory : Path) : List String → ExceptT Failure m Unit
  | [] => return ()
  | script :: rest => do
    match ← (kind? directory : m (Option EntryKind)) with
    | none => throw (notStarted stage script .notFound)
    | some .file => throw (notStarted stage script .notADirectory)
    | some .directory =>
      let o ← (runScript directory script : m Outcome)
      if o.status = 0 then runAll stage directory rest
      else throw (failed stage script o)

end Hook
end ClientSynth
