import ClientSynth.Files.Access
import ClientSynth.Hook.Script
import ClientSynth.Number.Numeral

/-! # Commands of hooks

The commands that a hook can use.  Each one works on the files below a directory
and answers with its status and with what it wrote to its two streams. -/
namespace ClientSynth
namespace Hook

open FileAccess

/-- What became of a command. -/
structure Outcome where
  status : Nat
  out : String
  err : String
  deriving Repr, DecidableEq

namespace Outcome

/-- Success without a word. -/
def success : Outcome := ⟨0, "", ""⟩

/-- Success with output. -/
def printed (s : String) : Outcome := ⟨0, s, ""⟩

/-- Failure with a complaint. -/
def failed (status : Nat) (complaint : String) : Outcome := ⟨status, "", complaint ++ "\n"⟩

/-- Two outcomes one after another; a failure of either stays. -/
def andThen (a b : Outcome) : Outcome := ⟨max a.status b.status, a.out ++ b.out, a.err ++ b.err⟩

end Outcome

/-- The wording of a system error without its number. -/
def reason : SystemError → String
  | .notFound => "No such file or directory"
  | .alreadyExists => "File exists"
  | .notADirectory => "Not a directory"
  | .isADirectory => "Is a directory"
  | .directoryNotEmpty => "Directory not empty"
  | .fileNameTooLong => "File name too long"
  | .nulInPath | .notText => "Invalid argument"
  | .other m => m

/-- The character of an escape with one letter. -/
def escapedChar? : Char → Option Char
  | 'n' => some '\n'
  | 't' => some '\t'
  | 'r' => some '\r'
  | 'a' => some '\x07'
  | 'b' => some '\x08'
  | 'f' => some '\x0c'
  | 'v' => some '\x0b'
  | '\\' => some '\\'
  | _ => none

/-- A text with its escapes resolved; an escape with `c` ends it. -/
def unescaped : List Char → List Char
  | [] => []
  | '\\' :: 'c' :: _ => []
  | '\\' :: c :: rest =>
    match escapedChar? c with
    | some d => d :: unescaped rest
    | none => '\\' :: c :: unescaped rest
  | c :: rest => c :: unescaped rest

/-- Print the arguments on a line. -/
def echo (args : List String) : Outcome :=
  let (ending, words) := match args with
    | "-n" :: rest => ("", rest)
    | _ => ("\n", args)
  .printed (String.ofList (unescaped (Text.joined " " words).toList) ++ ending)

/-- One pass over a format: what is printed and the arguments left. -/
def formatOnce : List Char → List String → List Char × List String
  | [], args => ([], args)
  | '%' :: '%' :: rest, args =>
    let (out, left) := formatOnce rest args
    ('%' :: out, left)
  | '%' :: 's' :: rest, args =>
    let (out, left) := formatOnce rest (args.drop 1)
    ((args.headD "").toList ++ out, left)
  | '%' :: 'd' :: rest, args =>
    let (out, left) := formatOnce rest (args.drop 1)
    ((args.headD "0").toList ++ out, left)
  | '\\' :: c :: rest, args =>
    let (out, left) := formatOnce rest args
    match escapedChar? c with
    | some d => (d :: out, left)
    | none => ('\\' :: c :: out, left)
  | c :: rest, args =>
    let (out, left) := formatOnce rest args
    (c :: out, left)

/-- Passes over a format until no argument is left. -/
def formatAll : Nat → List Char → List String → List Char
  | 0, _, _ => []
  | fuel + 1, format, args =>
    let (out, left) := formatOnce format args
    if left.isEmpty || left.length = args.length then out else out ++ formatAll fuel format left

/-- Print the arguments by a format. -/
def printFormatted : List String → Outcome
  | [] => .failed 2 "sh: 1: printf: usage: printf format [arg ...]"
  | format :: args => .printed (String.ofList (formatAll (args.length + 1) format.toList args))

variable {m : Type → Type} [Monad m] [FileAccess m]

/-- One command for every argument. -/
def forEach (f : String → m Outcome) : List String → m Outcome
  | [] => return .success
  | a :: rest => do return (← f a).andThen (← forEach f rest)

/-- A complaint about an argument. -/
def complaint (before name after : String) (e : SystemError) : Outcome :=
  .failed 1 (before ++ name ++ after ++ ": " ++ reason e)

/-- Print files one after another; a dash is the input. -/
def cat (here : Path) (input : String) (args : List String) : m Outcome :=
  if args.isEmpty then return .printed input
  else forEach (fun name => do
    if name = "-" then return .printed input
    match ← readText (here.join name) with
    | .ok text => return .printed text
    | .error e => return complaint "cat: " name "" e) args

/-- Create files that are missing. -/
def touch (here : Path) (args : List String) : m Outcome :=
  forEach (fun name => do
    let p := here.join name
    if ← isPresent p then return .success
    match ← writeText p "" with
    | .ok () => return .success
    | .error e => return complaint "touch: cannot touch '" name "'" e) args

/-- The options and the other arguments. -/
def splitOptions (args : List String) : List Char × List String :=
  let (options, rest) := args.partition (fun a => a.startsWith "-" && 1 < a.length)
  (options.flatMap (fun o => o.toList.drop 1), rest)

/-- Create directories. -/
def makeDirectory (here : Path) (args : List String) : m Outcome :=
  let (options, names) := splitOptions args
  forEach (fun name => do
    let p := here.join name
    let result ← if options.contains 'p' then makeDirectories p else FileAccess.makeDirectory p
    match result with
    | .ok () => return .success
    | .error e => return complaint "mkdir: cannot create directory '" name "'" e) names

/-- Remove files, and directories if asked to. -/
def remove (here : Path) (args : List String) : m Outcome :=
  let (options, names) := splitOptions args
  let deep := options.contains 'r' || options.contains 'R'
  forEach (fun name => do
    let p := here.join name
    let result ← match ← kind? p with
      | none => pure (if options.contains 'f' then .ok () else .error .notFound)
      | some .directory => if deep then removeDirectory p else pure (.error .isADirectory)
      | some .file => removeFile p
    match result with
    | .ok () => return .success
    | .error e => return complaint "rm: cannot remove '" name "'" e) names

/-- The last segment of a path. -/
def lastName (name : String) : String := ((Path.mk name).fileName?).getD name

/-- Copy a file; `moves` tells whether the old one goes away. -/
def copy (here : Path) (moves : Bool) (args : List String) : m Outcome := do
  let command := if moves then "mv" else "cp"
  match (splitOptions args).2 with
  | [source, target] =>
    let p := here.join source
    let q := here.join target
    let q := if ← isDirectory q then q.join (lastName source) else q
    match ← readText p with
    | .error e =>
      return if e == .isADirectory && !moves then
        .failed 1 ("cp: -r not specified; omitting directory '" ++ source ++ "'")
      else complaint (command ++ ": cannot stat '") source "'" e
    | .ok text =>
      match ← writeText q text with
      | .error e => return complaint (command ++ ": cannot create regular file '") target "'" e
      | .ok () =>
        if moves && p != q then
          match ← removeFile p with
          | .ok () => return .success
          | .error e => return complaint (command ++ ": cannot remove '") source "'" e
        else return .success
  | _ => return .failed 1 (command ++ ": missing file operand")

/-- List the names in a directory, or the given files. -/
def list (here : Path) (args : List String) : m Outcome := do
  let paths := (splitOptions args).2
  forEach (fun name => do
    let p := here.join name
    if ← isDirectory p then
      match ← names p with
      | .ok found =>
        return .printed (String.join ((found.filter (fun n => !n.startsWith ".")).map (· ++ "\n")))
      | .error e => return complaint "ls: cannot open directory '" name "'" e
    else if ← isPresent p then return .printed (name ++ "\n")
    else return .failed 2 ("ls: cannot access '" ++ name ++ "': " ++ reason .notFound))
    (if paths.isEmpty then ["."] else paths)

/-- Whether a condition holds. -/
def holds (here : Path) : List String → m Bool
  | [] => return false
  | [a] => return !a.isEmpty
  | ["!", a] => return a.isEmpty
  | ["-n", a] => return !a.isEmpty
  | ["-z", a] => return a.isEmpty
  | ["-e", a] => isPresent (here.join a)
  | ["-f", a] => do return (← kind? (here.join a)) == some .file
  | ["-d", a] => isDirectory (here.join a)
  | ["-s", a] => do
    match ← readText (here.join a) with
    | .ok text => return !text.isEmpty
    | .error _ => return false
  | [a, "=", b] => return a == b
  | [a, "!=", b] => return a != b
  | "!" :: rest => do return !(← holds here rest)
  | _ => return false

/-- The outcome of a condition. -/
def test (here : Path) (args : List String) : m Outcome := do
  return if ← holds here args then .success else ⟨1, "", ""⟩

/-- Run a command by its name. -/
def run (here : Path) (input name : String) (args : List String) : m Outcome :=
  match name with
  | ":" | "true" => return .success
  | "false" => return ⟨1, "", ""⟩
  | "echo" => return echo args
  | "printf" => return printFormatted args
  | "cat" => cat here input args
  | "touch" => touch here args
  | "mkdir" => makeDirectory here args
  | "rm" => remove here args
  | "cp" => copy here false args
  | "mv" => copy here true args
  | "ls" => list here args
  | "test" => test here args
  | "[" =>
    if args.getLast? = some "]" then test here args.dropLast
    else return .failed 2 "sh: 1: [: missing ]"
  | _ => return .failed 127 ("sh: 1: " ++ name ++ ": not found")

end Hook
end ClientSynth
