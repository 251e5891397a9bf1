import ClientSynth.Document.Tree

/-! # Reading a document tree

A reading takes a tree apart into a value of some type.  It follows references
to anchored parts, counting how often, and it refuses to go deeper than the
document's format allows; both limits keep a small document from standing for
an enormous one.

A record is read field by field in the order of the document: a field given
twice is refused, an unknown one is skipped, and a record may also be written
as the list of its fields. -/
namespace ClientSynth
namespace Document

/-- Why a tree cannot be read. -/
inductive Misfit where
  /-- An annotation that is neither a name nor a map with a single key. -/
  | annotationShape
  /-- An annotation whose single key is no text. -/
  | annotationName
  /-- Any other mismatch between the tree and what is expected. -/
  | unreadable
  deriving Repr, DecidableEq

/-- The explanation of a misfit, where the format's reader does not word it. -/
def Misfit.message : Misfit → Option String
  | .annotationShape => some "expected an annotation name or a single-key map"
  | .annotationName => some "annotation name must be a string"
  | .unreadable => none

/-- The surroundings of the tree that is being read. -/
structure Scope where
  /-- Anchored parts by number, the most recent first. -/
  anchors : List (Nat × Tree)
  /-- How many references may be followed in all. -/
  jumpLimit : Nat
  /-- How many containers may still be entered. -/
  depth : Nat
  /-- Whether a record written as a list may have more items than fields. -/
  allowsExtraItems : Bool

/-- A reading: it knows the surroundings and counts the references it follows. -/
abbrev Reading := ReaderT Scope (StateT Nat (Except Misfit))

/-- A document with the limits under which it is read. -/
structure Source where
  /-- The top of the document. -/
  root : Tree
  /-- Its surroundings. -/
  scope : Scope

namespace Source

/-- A document without references. -/
def plain (root : Tree) (depth : Nat) : Source := ⟨root, ⟨[], 0, depth, false⟩⟩

/-- Read the whole document. -/
def read {α : Type} (source : Source) (reading : Tree → Reading α) : Except Misfit α :=
  ((reading source.root).run source.scope).run' 0

end Source

namespace Reading

/-- Give up without an explanation. -/
def refuse {α : Type} : Reading α := throw .unreadable

/-- The value that is there, or a refusal. -/
def present {α : Type} : Option α → Reading α
  | some a => pure a
  | none => refuse

/-- The tree itself, or the part it refers to. -/
def target (tree : Tree) : Reading Tree := do
  match tree with
  | .alias anchor =>
    let scope ← read
    let used ← get
    if scope.jumpLimit ≤ used then refuse
    else
      set (used + 1)
      present (scope.anchors.lookup anchor)
  | other => pure other

/-- Read one level deeper. -/
def deeper {α : Type} (reading : Reading α) : Reading α := do
  match (← read).depth with
  | 0 => refuse
  | rest + 1 => ReaderT.adapt (fun (s : Scope) => { s with depth := rest }) reading

/-- A text. -/
def text (tree : Tree) : Reading String := do
  match ← target tree with
  | .leaf l => present l.text
  | _ => refuse

/-- A scalar of a decided type. -/
def typed (tree : Tree) : Reading Atom := do
  match ← target tree with
  | .leaf l => present l.typed
  | _ => refuse

/-- A truth value. -/
def bool (tree : Tree) : Reading Bool := do
  match ← typed tree with
  | .bool b => pure b
  | _ => refuse

/-- A signed 64-bit number. -/
def signed (tree : Tree) : Reading Int := do
  match ← typed tree with
  | .number n => present n.signed?
  | _ => refuse

/-- An optional value. -/
def optional {α : Type} (reading : Tree → Reading α) (tree : Tree) : Reading (Option α) := do
  match ← target tree with
  | .leaf l =>
    if ← present l.absent then pure none else some <$> reading (.leaf l)
  | other => some <$> reading other

/-- A list. -/
def list {α : Type} (reading : Tree → Reading α) (tree : Tree) : Reading (List α) := do
  match ← target tree with
  | .seq _ items => deeper (items.mapM reading)
  | .leaf l => if l.isBlank then pure [] else refuse
  | _ => refuse

/-- A table from names to values, in the order of the document. -/
def table {α : Type} (reading : Tree → Reading α) (tree : Tree) : Reading (List (String × α)) := do
  match ← target tree with
  | .map _ entries => deeper (entries.mapM (fun e => do return (← text e.1, ← reading e.2)))
  | .leaf l => if l.isBlank then pure [] else refuse
  | _ => refuse

/-- The entries of a record, folded into `draft` by the reading of each field.
`seen` holds the fields read so far. -/
def entries {δ : Type} (fields : List String) (field : String → Tree → δ → Reading δ) :
    List String → List (Tree × Tree) → δ → Reading δ
  | _, [], draft => pure draft
  | seen, (key, value) :: rest, draft => do
    let name ← text key
    if !fields.contains name then entries fields field seen rest draft
    else if seen.contains name then refuse
    else entries fields field (name :: seen) rest (← field name value draft)

/-- The items of a record written as a list, folded into `draft`. -/
def items {δ : Type} (field : String → Tree → δ → Reading δ) :
    List String → List Tree → δ → Reading δ
  | _, [], draft => pure draft
  | [], _ :: _, draft => do
    if (← read).allowsExtraItems then pure draft else refuse
  | name :: names, item :: rest, draft => do
    items field names rest (← field name item draft)

/-- A record with the given fields, in this order.  Each field that occurs is
added to the draft, and `finish` makes the record of the final draft. -/
def record {δ α : Type} (fields : List String) (start : δ) (field : String → Tree → δ → Reading δ)
    (finish : δ → Option α) (tree : Tree) : Reading α := do
  match ← target tree with
  | .map _ es => deeper (do present (finish (← entries fields field [] es start)))
  | .seq _ is => deeper (do present (finish (← items field fields is start)))
  | .leaf l => if l.isBlank then present (finish start) else refuse
  | .alias _ => refuse

/-- Whether a key of a free value is read as the text it is written with, or has
to be a text by itself. -/
inductive KeyStyle where
  | written
  | byValue
  deriving Repr, DecidableEq

/-- The name of a member of a free value. -/
def key (style : KeyStyle) (tree : Tree) : Reading String := do
  match ← target tree with
  | .leaf l =>
    match style with
    | .written => present l.text
    | .byValue => match ← present l.free with
      | .text s => pure s
      | _ => refuse
  | _ => refuse

/-- A value without expectation, at most `depth` containers deep. -/
def freeWithin (style : KeyStyle) : Nat → Tree → Reading Json.Value
  | depth, tree => do
    match ← target tree with
    | .leaf l => return (← present l.free).toValue
    | .seq marked items =>
      match marked, depth with
      | false, depth + 1 => return .list (← deeper (items.mapM (freeWithin style depth)))
      | _, _ => refuse
    | .map marked entries =>
      match marked, depth with
      | false, depth + 1 =>
        return .ofMembers (← deeper (entries.mapM (fun e => do
          return (← key style e.1, ← freeWithin style depth e.2))))
      | _, _ => refuse
    | .alias _ => refuse

/-- A value without expectation. -/
def free (style : KeyStyle) (tree : Tree) : Reading Json.Value := do
  freeWithin style (← read).depth tree

end Reading
end Document
end ClientSynth
