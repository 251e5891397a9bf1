import ClientSynth.Document.Tree

/-! # Tables of TOML

A document builds its tables piece by piece: headers open them, dotted keys
reach into them, and neither may define again what is there already. -/
namespace ClientSynth
namespace Toml

/-- How a table came to be. -/
inductive Origin where
  /-- On the way to another table. -/
  | implied
  /-- By a header of its own. -/
  | header
  /-- By a dotted key. -/
  | dotted
  deriving Repr, DecidableEq

/-- What a key stands for. -/
inductive Item where
  /-- A finished value. -/
  | value (tree : Document.Tree)
  /-- A table that may still grow. -/
  | table (origin : Origin) (entries : List (String × Item))
  /-- A list of tables; only the last one may still grow. -/
  | tables (elements : List (List (String × Item)))
  deriving Repr

/-- A table. -/
structure Table where
  origin : Origin
  /-- The entries in the order of their keys' first use. -/
  entries : List (String × Item)
  deriving Repr

namespace Table

/-- The item of a key. -/
def get? (t : Table) (key : String) : Option Item := t.entries.lookup key

/-- The entries with `item` under `key`. -/
def insert (key : String) (item : Item) : List (String × Item) → List (String × Item)
  | [] => [(key, item)]
  | (other, i) :: rest =>
    if key = other then (key, item) :: rest else (other, i) :: insert key item rest

/-- The table with `item` under `key`. -/
def put (t : Table) (key : String) (item : Item) : Table :=
  { t with entries := insert key item t.entries }

/-- Change the table at the end of `path`, making those that are missing on the
way; `dotted` tells whether the path is a dotted key. -/
def within (dotted : Bool) (change : Table → Option Table) : List String → Table → Option Table
  | [], t => change t
  | key :: path, t =>
    match t.get? key with
    | none => do
      let made ← within dotted change path ⟨if dotted then .dotted else .implied, []⟩
      return t.put key (.table made.origin made.entries)
    | some (.value _) => none
    | some (.table origin entries) =>
      if dotted && origin == .header then none
      else do
        let changed ← within dotted change path ⟨origin, entries⟩
        return t.put key (.table changed.origin changed.entries)
    | some (.tables elements) =>
      match elements.getLast? with
      | none => none
      | some last => do
        let changed ← within dotted change path ⟨.header, last⟩
        return t.put key (.tables (elements.dropLast ++ [changed.entries]))

/-- Add a value under a key that is not in use. -/
def addNew (key : String) (tree : Document.Tree) (t : Table) : Option Table :=
  if (t.get? key).isSome then none else some (t.put key (.value tree))

/-- Add a value under a dotted key, given as the way to it and the last part. -/
def addValue (way : List String) (key : String) (tree : Document.Tree) (t : Table) :
    Option Table :=
  t.within true (fun inner =>
    if !way.isEmpty && inner.origin != .dotted then none else inner.addNew key tree) way

/-- Open the table `key`, which only other tables' headers may have mentioned. -/
def openTable (key : String) (t : Table) : Option Table :=
  match t.get? key with
  | none => some (t.put key (.table .header []))
  | some (.table .implied entries) => some (t.put key (.table .header entries))
  | _ => none

/-- Open another table of the list `key`. -/
def openElement (key : String) (t : Table) : Option Table :=
  match t.get? key with
  | none => some (t.put key (.tables [[]]))
  | some (.tables elements) => some (t.put key (.tables (elements ++ [[]])))
  | _ => none

end Table

mutual
/-- The tree of an item. -/
def Item.tree : Item → Document.Tree
  | .value tree => tree
  | .table _ entries => .map false (entryTrees entries)
  | .tables elements => .seq false (elementTrees elements)

/-- The trees of the entries of a table. -/
def entryTrees : List (String × Item) → List (Document.Tree × Document.Tree)
  | [] => []
  | (key, item) :: rest => (.leaf (.exact (.text key)), item.tree) :: entryTrees rest

/-- The trees of a list of tables. -/
def elementTrees : List (List (String × Item)) → List Document.Tree
  | [] => []
  | entries :: rest => .map false (entryTrees entries) :: elementTrees rest
end

/-- The tree of a table. -/
def Table.tree (t : Table) : Document.Tree := .map false (entryTrees t.entries)

end Toml
end ClientSynth
