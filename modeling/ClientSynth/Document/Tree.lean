import ClientSynth.Json.Value

/-! # Document trees

What a document says before anyone asks for types.  Contract documents,
configurations and manifests come in several formats; each format reads its
text into a `Tree`, and everything after that is the same for all of them.

The formats differ in what one scalar may stand for.  An unquoted `5` in a YAML
document is the number five where a number is expected and the text `5` where a
text is; in JSON it is only the number.  A `Leaf` therefore holds the answer to
every way of asking. -/
namespace ClientSynth
namespace Document

/-- A scalar with its type decided. -/
inductive Atom where
  | null
  | bool (value : Bool)
  | number (value : Number)
  | text (value : String)
  deriving Repr, DecidableEq

/-- A scalar of a document, as each kind of reader sees it. -/
structure Leaf where
  /-- What a reader that expects a text gets. -/
  text : Option String
  /-- What a reader that expects a number or a truth value gets. -/
  typed : Option Atom
  /-- What a reader without expectation gets. -/
  free : Option Atom
  /-- Whether an optional value is absent here; none if that cannot be told. -/
  absent : Option Bool
  deriving Repr, DecidableEq

/-- A document, or a part of one. -/
inductive Tree where
  /-- A scalar. -/
  | leaf (leaf : Leaf)
  /-- A list; a `marked` one carries a type mark that a reader without
  expectation cannot follow. -/
  | seq (marked : Bool) (items : List Tree)
  /-- Entries in the order of the document, with repetitions. -/
  | map (marked : Bool) (entries : List (Tree × Tree))
  /-- A reference to the anchored part with the given number. -/
  | alias (anchor : Nat)
  deriving Repr

namespace Atom

/-- The value a scalar stands for. -/
def toValue : Atom → Json.Value
  | .null => .null
  | .bool b => .bool b
  | .number n => .number n
  | .text s => .text s

end Atom

namespace Leaf

/-- A scalar that means the same to every reader. -/
def exact (atom : Atom) : Leaf where
  text := match atom with
    | .text s => some s
    | _ => none
  typed := some atom
  free := some atom
  absent := some (atom == .null)

/-- A scalar that no reader accepts, though it may be skipped. -/
def unreadable : Leaf := ⟨none, none, none, none⟩

/-- An empty unquoted scalar: it stands for nothing, and so for an empty list. -/
def isBlank (l : Leaf) : Bool := l.text == some "" && l.typed == some .null

end Leaf

mutual
/-- The tree of a value. -/
def Tree.ofValue : Json.Value → Tree
  | .null => .leaf (.exact .null)
  | .bool b => .leaf (.exact (.bool b))
  | .number n => .leaf (.exact (.number n))
  | .text s => .leaf (.exact (.text s))
  | .list items => .seq false (ofItems items)
  | .object members => .map false (ofMembers members)

/-- The trees of a list of values. -/
def ofItems : List Json.Value → List Tree
  | [] => []
  | v :: rest => Tree.ofValue v :: ofItems rest

/-- The entries of an object. -/
def ofMembers : List (String × Json.Value) → List (Tree × Tree)
  | [] => []
  | (name, v) :: rest => (.leaf (.exact (.text name)), Tree.ofValue v) :: ofMembers rest
end

end Document
end ClientSynth
