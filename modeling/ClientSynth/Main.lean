import ClientSynth.CommandLine

/-! # The program

Access to the files of the system, and the entry point. -/
namespace ClientSynth
namespace Disk

/-- The error that the system reports. -/
def errorOf : IO.Error → SystemError
  | .noFileOrDirectory _ _ _ => .notFound
  | .alreadyExists _ _ _ => .alreadyExists
  | .inappropriateType _ 20 _ => .notADirectory
  | .inappropriateType _ _ _ => .isADirectory
  | .userError _ => .notText
  | e => .other (toString e)

/-- The result of an access, or the error that the system reports. -/
def attempt {α : Type} (access : IO α) : IO (Except SystemError α) := do
  try return .ok (← access) catch e => return .error (errorOf e)

/-- What is at a path. -/
def kind? (p : Path) : IO (Option EntryKind) := do
  try
    let place ← IO.FS.realPath p.text
    return some (if ← place.isDir then .directory else .file)
  catch _ => return none

/-- The names in a directory, in order. -/
def names (p : Path) : IO (List String) := do
  let found ← (← IO.FS.realPath p.text).readDir
  return (found.toList.map (fun e => e.fileName)).mergeSort (fun a b => !decide (b < a))

/-- The files below a directory, at most `depth` directories deep; `way` leads to
it from where the search began. -/
def filesBelow : Nat → Path → List String → IO (List (List String))
  | 0, _, _ => return []
  | depth + 1, p, way => do
    let below ← (← names p).mapM (fun name => do
      let inner := p.join name
      match ← kind? inner with
      | some .directory => filesBelow depth inner (way ++ [name])
      | some .file => return [way ++ [name]]
      | none => return [])
    return below.flatten

/-- More directories than any path can pass. -/
def maxDepth : Nat := 4096

instance : FileAccess IO where
  kind? := kind?
  readText p := attempt (IO.FS.readFile p.text)
  writeText p text := attempt (IO.FS.writeFile p.text text)
  makeDirectory p := attempt (IO.FS.createDir p.text)
  names p := attempt (names p)
  removeFile p := attempt (IO.FS.removeFile p.text)
  removeDirectory p := attempt (IO.FS.removeDirAll p.text)
  filesBelow p := attempt (do
    return (← filesBelow maxDepth p []).mergeSort (fun a b => !decide (b < a)))
  home? := do return (← IO.getEnv "HOME").map Path.mk
  environment? name := IO.getEnv name

end Disk
end ClientSynth

open ClientSynth in
/-- Run the program on the arguments of the command line. -/
def main (args : List String) : IO UInt32 := do
  let printed ← (CommandLine.run args : IO CommandLine.Printed)
  IO.print printed.out
  IO.eprint printed.err
  return UInt32.ofNat printed.status
