import ClientSynth.Files.Access

/-! # Files in memory

A tree of files as the list of its entries.  An entry is found by its place, the
names on the way to it from the root; the root itself is always a directory. -/
namespace ClientSynth

/-- An entry of a file tree. -/
inductive FileEntry where
  | directory
  | file (text : String)
  deriving Repr, DecidableEq

/-- The kind of an entry. -/
def FileEntry.kind : FileEntry → EntryKind
  | directory => .directory
  | file _ => .file

/-- Files and directories. -/
structure FileTree where
  /-- The entries by place, without the root. -/
  entries : List (List String × FileEntry)
  deriving Repr

namespace FileTree

/-- Nothing but the root. -/
def empty : FileTree := ⟨[]⟩

/-- The entry at a place. -/
def entry? (t : FileTree) (place : List String) : Option FileEntry :=
  if place.isEmpty then some .directory else t.entries.lookup place

/-- The tree with `entry` at `place`. -/
def put (t : FileTree) (place : List String) (entry : FileEntry) : FileTree :=
  ⟨t.entries.filter (fun e => e.1 != place) ++ [(place, entry)]⟩

/-- The tree without `place` and everything below it. -/
def remove (t : FileTree) (place : List String) : FileTree :=
  ⟨t.entries.filter (fun e => !place.isPrefixOf e.1)⟩

/-- The entries below `place`, with the names on the way from there. -/
def below (t : FileTree) (place : List String) : List (List String × FileEntry) :=
  t.entries.filterMap (fun e =>
    if place.isPrefixOf e.1 && place.length < e.1.length then some (e.1.drop place.length, e.2)
    else none)

/-- The files below `place` with their texts, in the order of their names. -/
def filesBelow (t : FileTree) (place : List String) : List (List String × String) :=
  let files := (t.below place).filterMap (fun e =>
    match e.2 with
    | .file text => some (e.1, text)
    | .directory => none)
  files.mergeSort (fun a b => !decide (b.1 < a.1))

/-- The names in the directory at `place`, in order. -/
def namesIn (t : FileTree) (place : List String) : List String :=
  let names := (t.below place).filterMap (fun e => if e.1.length = 1 then e.1.head? else none)
  names.mergeSort (fun a b => !decide (b < a))

/-- Where a path leads. -/
inductive Target where
  /-- To an entry. -/
  | entry (place : List String) (entry : FileEntry)
  /-- To a free place in a directory; `marked` if a slash follows. -/
  | vacant (place : List String) (marked : Bool)
  deriving Repr, DecidableEq

/-- Follow the segments of a path from the directory at `here`. -/
def follow (t : FileTree) (here : List String) : List String → Except SystemError Target
  | [] => .ok (.entry here .directory)
  | segment :: rest =>
    if Path.isIdle segment then follow t here rest
    else if segment = ".." then follow t here.dropLast rest
    else if 255 < segment.utf8ByteSize then .error .fileNameTooLong
    else
      let place := here ++ [segment]
      match t.entry? place with
      | some .directory => follow t place rest
      | some (.file text) =>
        if rest.isEmpty then .ok (.entry place (.file text)) else .error .notADirectory
      | none =>
        if rest.all String.isEmpty then .ok (.vacant place (!rest.isEmpty))
        else .error .notFound

end FileTree

/-- Files together with where a run stands among them. -/
structure Workspace where
  tree : FileTree
  /-- Place of the working directory. -/
  directory : List String
  /-- The home directory. -/
  home : Option Path
  /-- Environment variables. -/
  environment : List (String × String)
  deriving Repr

namespace Workspace

/-- Where a path leads. -/
def target (w : Workspace) (p : Path) : Except SystemError FileTree.Target :=
  if p.text.isEmpty then .error .notFound
  else if p.text.contains '\x00' then .error .nulInPath
  else w.tree.follow (if p.isAbsolute then [] else w.directory) p.segments

/-- The entry at a path. -/
def entry? (w : Workspace) (p : Path) : Except SystemError (List String × FileEntry) :=
  match w.target p with
  | .ok (.entry place e) => .ok (place, e)
  | .ok (.vacant _ _) => .error .notFound
  | .error e => .error e

/-- The text of a file. -/
def readText (w : Workspace) (p : Path) : Except SystemError String := do
  match ← w.entry? p with
  | (_, .file text) => return text
  | (_, .directory) => throw .isADirectory

/-- Write a file. -/
def writeText (w : Workspace) (p : Path) (text : String) : Except SystemError Workspace := do
  match ← w.target p with
  | .entry place (.file _) => return { w with tree := w.tree.put place (.file text) }
  | .vacant place false => return { w with tree := w.tree.put place (.file text) }
  | .entry _ .directory | .vacant _ true => throw .isADirectory

/-- Create a directory. -/
def makeDirectory (w : Workspace) (p : Path) : Except SystemError Workspace := do
  match ← w.target p with
  | .entry _ _ => throw .alreadyExists
  | .vacant place _ => return { w with tree := w.tree.put place .directory }

/-- The place of a directory. -/
def directoryAt (w : Workspace) (p : Path) : Except SystemError (List String) := do
  match ← w.entry? p with
  | (place, .directory) => return place
  | (_, .file _) => throw .notADirectory

/-- Remove a file. -/
def removeFile (w : Workspace) (p : Path) : Except SystemError Workspace := do
  match ← w.entry? p with
  | (place, .file _) => return { w with tree := w.tree.remove place }
  | (_, .directory) => throw .isADirectory

/-- Remove a directory and everything below it. -/
def removeDirectory (w : Workspace) (p : Path) : Except SystemError Workspace := do
  return { w with tree := w.tree.remove (← w.directoryAt p) }

end Workspace

/-- A run on files in memory. -/
abbrev InMemory := StateM Workspace

/-- Change the files if that succeeds. -/
def InMemory.change (f : Workspace → Except SystemError Workspace) :
    InMemory (Except SystemError Unit) := fun w =>
  match f w with
  | .ok next => (.ok (), next)
  | .error e => (.error e, w)

instance : FileAccess InMemory where
  kind? p := fun w => ((w.entry? p).toOption.map (fun e => e.2.kind), w)
  readText p := fun w => (w.readText p, w)
  writeText p text := InMemory.change (fun w => w.writeText p text)
  makeDirectory p := InMemory.change (fun w => w.makeDirectory p)
  names p := fun w => ((w.directoryAt p).map w.tree.namesIn, w)
  removeFile p := InMemory.change (fun w => w.removeFile p)
  removeDirectory p := InMemory.change (fun w => w.removeDirectory p)
  filesBelow p := fun w => ((w.directoryAt p).map (fun place =>
    (w.tree.filesBelow place).map Prod.fst), w)
  home? := fun w => (w.home, w)
  environment? name := fun w => (w.environment.lookup name, w)

end ClientSynth
