import ClientSynth.Failure
import ClientSynth.Files.Path

/-! # Access to files

What a run needs from the world around it.  The steps of a run are written for
any monad with this access; one instance is a tree of files in memory. -/
namespace ClientSynth

/-- What can be found at a path. -/
inductive EntryKind where
  | file
  | directory
  deriving Repr, DecidableEq

/-- Access to files and to the surroundings of a run. -/
class FileAccess (m : Type → Type) where
  /-- What is at a path. -/
  kind? : Path → m (Option EntryKind)
  /-- The text of a file. -/
  readText : Path → m (Except SystemError String)
  /-- Create a file with the given text, or replace the text of one. -/
  writeText : Path → String → m (Except SystemError Unit)
  /-- Create a directory inside an existing one. -/
  makeDirectory : Path → m (Except SystemError Unit)
  /-- The names in a directory, in order. -/
  names : Path → m (Except SystemError (List String))
  /-- Remove a file. -/
  removeFile : Path → m (Except SystemError Unit)
  /-- Remove a directory and everything below it. -/
  removeDirectory : Path → m (Except SystemError Unit)
  /-- All files below a directory, each as its segments, in order. -/
  filesBelow : Path → m (Except SystemError (List (List String)))
  /-- The home directory. -/
  home? : m (Option Path)
  /-- The value of an environment variable. -/
  environment? : String → m (Option String)

namespace FileAccess

variable {m : Type → Type} [Monad m] [FileAccess m]

/-- Whether there is something at a path. -/
def isPresent (p : Path) : m Bool := do return (← kind? p).isSome

/-- Whether there is a directory at a path. -/
def isDirectory (p : Path) : m Bool := do return (← kind? p) == some .directory

/-- Create the first of `paths`, with the others as its ancestors from near to
far: those that are missing are created first. -/
def makeChain : List Path → m (Except SystemError Unit)
  | [] => return .error .notFound
  | p :: ancestors => do
    if p.text.isEmpty then return .ok ()
    match ← makeDirectory p with
    | .ok () => return .ok ()
    | .error .notFound =>
      match ← makeChain ancestors with
      | .error e => return .error e
      | .ok () => settle p (← makeDirectory p)
    | .error e => settle p (.error e)
where
  /-- A directory that is already there is as good as a new one. -/
  settle (p : Path) : Except SystemError Unit → m (Except SystemError Unit)
    | .ok () => return .ok ()
    | .error e => do return if ← isDirectory p then .ok () else .error e

/-- Create a directory together with all that are missing on the way to it. -/
def makeDirectories (p : Path) : m (Except SystemError Unit) := makeChain p.ancestors

/-- The result of an access inside a run. -/
def orFail {α : Type} (access : m (Except SystemError α)) : ExceptT Failure m α := do
  match ← access with
  | .ok a => return a
  | .error e => throw (.ofSystem e)

end FileAccess
end ClientSynth
