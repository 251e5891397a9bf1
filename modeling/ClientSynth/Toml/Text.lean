import ClientSynth.Document.Reading
import ClientSynth.Toml.Scalar
import ClientSynth.Toml.Table

/-! # Reading TOML text

A text is a sequence of lines: a key with its value, the header of a table, or
neither.  Lists may spread over lines, tables in braces may not. -/
namespace ClientSynth
namespace Toml

/-- How many containers may be inside one another. -/
def maxDepth : Nat := 80

/-- Characters of a key without quotes. -/
def isKeyChar (c : Char) : Bool := c.isAlphanum || c == '_' || c == '-'

/-- One part of a key. -/
def keyPart? (cs : List Char) : Option (String × List Char) :=
  match cs with
  | '\"' :: _ | '\'' :: _ => (lineText? cs).map (fun r => (String.ofList r.1, r.2))
  | _ =>
    let name := cs.takeWhile isKeyChar
    if name.isEmpty then none else some (String.ofList name, cs.drop name.length)

/-- A key: its parts, with dots between them, and what follows the blanks behind
it. -/
def key? : Nat → List Char → Option (List String × List Char)
  | 0, _ => none
  | fuel + 1, cs => do
    let (part, rest) ← keyPart? (skipSpace cs)
    match skipSpace rest with
    | '.' :: more =>
      let (parts, after) ← key? fuel more
      return (part :: parts, after)
    | after => return ([part], after)

/-- A key split into the way and the last part. -/
def splitKey? (parts : List String) : Option (List String × String) :=
  parts.getLast?.map (fun last => (parts.dropLast, last))

mutual
/-- A value; `depth` counts the containers that may still be entered. -/
def value? : Nat → Nat → List Char → Option (Document.Tree × List Char)
  | 0, _, _ => none
  | fuel + 1, depth, cs =>
    match cs with
    | '\"' :: _ | '\'' :: _ =>
      (text? cs).map (fun r => (.leaf (.exact (.text (String.ofList r.1))), r.2))
    | '[' :: rest =>
      if depth = 0 then none
      else (items? fuel (depth - 1) (skipLines (rest.length + 1) rest)).map (fun r => (.seq false r.1, r.2))
    | '\x7b' :: rest =>
      if depth = 0 then none
      else
        match skipSpace rest with
        | '\x7d' :: after => some (.map false [], after)
        | inside => (members? fuel (depth - 1) ⟨.header, []⟩ inside).map (fun r => (r.1.tree, r.2))
    | _ =>
      let (w, rest) := word cs
      (leaf? w).map (fun l => (.leaf l, rest))

/-- The items of a list up to its closing bracket, which may follow a comma. -/
def items? : Nat → Nat → List Char → Option (List Document.Tree × List Char)
  | 0, _, _ => none
  | fuel + 1, depth, cs =>
    match cs with
    | ']' :: after => some ([], after)
    | _ => do
      let (item, rest) ← value? fuel depth cs
      match skipLines (rest.length + 1) rest with
      | ',' :: more =>
        let (items, after) ← items? fuel depth (skipLines (more.length + 1) more)
        return (item :: items, after)
      | ']' :: after => return ([item], after)
      | _ => none

/-- The members of a table in braces up to the closing one, added to `t`. -/
def members? : Nat → Nat → Table → List Char → Option (Table × List Char)
  | 0, _, _, _ => none
  | fuel + 1, depth, t, cs => do
    let (parts, rest) ← key? (cs.length + 1) cs
    let (way, last) ← splitKey? parts
    let (tree, rest) ← value? fuel depth (skipSpace (← after? '=' rest))
    let t ← t.addValue way last tree
    match skipSpace rest with
    | ',' :: more => members? fuel depth t more
    | '\x7d' :: after => return (t, after)
    | _ => none
end

/-- What a line does to the root table and to the way to the current one. -/
structure Position where
  root : Table
  /-- The keys from the root to the table that is being filled. -/
  current : List String

/-- A header behind its opening brackets. -/
def header? (isElement : Bool) (p : Position) (cs : List Char) : Option (Position × List Char) := do
  let (parts, rest) ← key? (cs.length + 1) cs
  let (way, last) ← splitKey? parts
  let rest ← after? ']' rest
  let rest ← if isElement then after? ']' rest else some rest
  let root ← p.root.within false (if isElement then Table.openElement last else Table.openTable last) way
  return (⟨root, parts⟩, rest)

/-- A key with its value. -/
def entry? (p : Position) (cs : List Char) : Option (Position × List Char) := do
  let (parts, rest) ← key? (cs.length + 1) cs
  let (way, last) ← splitKey? parts
  let (tree, rest) ← value? (rest.length + 1) maxDepth (skipSpace (← after? '=' rest))
  let root ← p.root.within false (Table.addValue way last tree) p.current
  return ({ p with root := root }, rest)

/-- A header, or a key with its value. -/
def statement? (p : Position) (cs : List Char) : Option (Position × List Char) :=
  match cs with
  | '[' :: '[' :: rest => header? true p rest
  | '[' :: rest => header? false p rest
  | _ => entry? p cs

/-- All lines of a text. -/
def lines? : Nat → Position → List Char → Option Table
  | 0, _, _ => none
  | fuel + 1, p, cs =>
    match skipLines (cs.length + 1) cs with
    | [] => some p.root
    | rest => do
      let (p, rest) ← statement? p rest
      match skipComment (skipSpace rest) with
      | [] => some p.root
      | rest => lines? fuel p (← lineBreak? rest)

/-- The document of a TOML text; a mark of the byte order in front is skipped. -/
def document? (s : String) : Option Document.Source :=
  let cs := match s.toList with
    | '\ufeff' :: rest => rest
    | all => all
  (lines? (cs.length + 1) ⟨⟨.header, []⟩, []⟩ cs).map (fun t =>
    ⟨t.tree, ⟨[], 0, 2 * maxDepth, true⟩⟩)

end Toml
end ClientSynth
