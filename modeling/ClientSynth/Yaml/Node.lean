import ClientSynth.Document.Reading
import ClientSynth.Yaml.Resolve
import ClientSynth.Yaml.Token

/-! # From tokens to a document

The tokens of a text make up one document: a node, which is a scalar, a list or
a mapping, with an anchor or a tag in front.  An anchor gives the node a number
and a reference names it; the number is how many anchors with other names came
before. -/
namespace ClientSynth
namespace Yaml

open Document

/-- What is known while a document is taken together. -/
structure Book where
  /-- Handles of tags and what they stand for. -/
  handles : List (List Char × List Char)
  /-- Names of anchors with the numbers of their nodes, the latest first. -/
  names : List (List Char × Nat)
  /-- Numbers of the anchored nodes in the order they start. -/
  numbers : List Nat
  /-- Anchored nodes by their place in that order. -/
  nodes : List (Nat × Tree)
  /-- How many different names of anchors there are. -/
  distinct : Nat

namespace Book

/-- Nothing known but the two handles that need no declaration. -/
def start : Book := ⟨[(['!'], ['!']), (['!', '!'], coreTag.toList)], [], [], [], 0⟩

/-- Give the next anchored node its number. -/
def name (b : Book) (anchor : List Char) : Book :=
  { b with
    names := (anchor, b.distinct) :: b.names
    numbers := b.numbers ++ [b.distinct]
    distinct := if (b.names.lookup anchor).isSome then b.distinct else b.distinct + 1 }

/-- The anchored nodes by number; of two with one number the one that starts later
counts. -/
def anchors (b : Book) : List (Nat × Tree) :=
  (b.numbers.zipIdx.reverse).filterMap (fun p => (b.nodes.lookup p.2).map (fun t => (p.1, t)))

end Book

/-- Properties of a node, and what follows them. -/
structure Properties where
  anchor : Option (List Char)
  tag : Option (List Char × List Char)
  rest : List Token

/-- The properties at the start of the tokens: an anchor and a tag in either order. -/
def properties : List Token → Properties
  | .anchor a :: .tag h t :: rest => ⟨some a, some (h, t), rest⟩
  | .tag h t :: .anchor a :: rest => ⟨some a, some (h, t), rest⟩
  | .anchor a :: rest => ⟨some a, none, rest⟩
  | .tag h t :: rest => ⟨none, some (h, t), rest⟩
  | rest => ⟨none, none, rest⟩

/-- The tag that a handle and the rest make up; an unknown handle is an error. -/
def resolveTag (b : Book) (handle rest : List Char) : Option String :=
  if handle.isEmpty then some (String.ofList rest)
  else (b.handles.lookup handle).map (fun start => String.ofList (start ++ rest))

/-- An empty plain scalar with an optional tag. -/
def emptyNode (tag : Option String) : Tree := .leaf (leafOf .plain tag [])

/-- Whether the tokens start with one of the given kinds, or are at their end. -/
def startsWith (tokens : List Token) (kinds : List Token) : Bool :=
  match tokens with
  | t :: _ => kinds.contains t
  | [] => true

/-- What is left to read of a document, and what is known. -/
structure Parse where
  tokens : List Token
  book : Book

/-- A reader of nodes. -/
abbrev Parser := StateT Parse Option

namespace Parser

/-- The tokens still to come. -/
def tokens : Parser (List Token) := do return (← get).tokens

/-- Go on with the given tokens. -/
def goOn (tokens : List Token) : Parser Unit := modify (fun s => { s with tokens := tokens })

/-- Take the next token if it is `t`. -/
def accept (t : Token) : Parser Bool := do
  match ← tokens with
  | x :: rest => if x = t then do goOn rest; return true else return false
  | [] => return false

/-- Take the next token, which has to be `t`. -/
def expect (t : Token) : Parser Unit := do
  if ← accept t then return () else failure

/-- Which nodes may stand at a place. -/
structure Place where
  /-- Whether block collections may. -/
  block : Bool
  /-- Whether a list may that is not indented. -/
  sameIndent : Bool

mutual

/-- A node. -/
def node : Nat → Place → Parser Tree
  | 0, _ => failure
  | fuel + 1, place => do
    match ← tokens with
    | .alias name :: rest =>
      goOn rest
      match (← get).book.names.lookup name with
      | some number => return .alias number
      | none => failure
    | all =>
      let p := properties all
      goOn p.rest
      let tag ← match p.tag with
        | none => pure none
        | some (h, t) => do
          match resolveTag (← get).book h t with
          | some tag => pure (some tag)
          | none => failure
      let order := (← get).book.numbers.length
      match p.anchor with
      | some a => modify (fun s => { s with book := s.book.name a })
      | none => pure ()
      let tree ← content fuel place tag (p.anchor.isSome || p.tag.isSome)
      match p.anchor with
      | some _ =>
        modify (fun s => { s with book := { s.book with nodes := (order, tree) :: s.book.nodes } })
      | none => pure ()
      return tree

/-- The node behind its properties.  A lone exclamation mark in front of a scalar
is no tag. -/
def content : Nat → Place → Option String → Bool → Parser Tree
  | 0, _, _, _ => failure
  | fuel + 1, place, tag, hasProperties => do
    let marked := (tag.map isLocalTag).getD false
    match ← tokens with
    | .entry :: _ =>
      if place.sameIndent then return .seq marked (← plainItems fuel)
      else if hasProperties then return emptyNode tag
      else failure
    | .scalar style text :: rest =>
      goOn rest
      return .leaf (leafOf style (tag.filter (fun t => t != "!")) text)
    | .flowSequenceStart :: rest =>
      goOn rest
      return .seq marked (← flowItems fuel true)
    | .flowMappingStart :: rest =>
      goOn rest
      return .map marked (← flowMembers fuel true)
    | .sequenceStart :: rest =>
      if place.block then
        goOn rest
        return .seq marked (← blockItems fuel)
      else if hasProperties then return emptyNode tag
      else failure
    | .mappingStart :: rest =>
      if place.block then
        goOn rest
        return .map marked (← blockMembers fuel)
      else if hasProperties then return emptyNode tag
      else failure
    | _ => if hasProperties then return emptyNode tag else failure

/-- A node, or an empty one in front of one of the given tokens. -/
def nodeUnless : Nat → Place → List Token → Parser Tree
  | 0, _, _ => failure
  | fuel + 1, place, ends => do
    match ← tokens with
    | t :: _ => if ends.contains t then return emptyNode none else node fuel place
    | [] => node fuel place

/-- The items of an indented list. -/
def blockItems : Nat → Parser (List Tree)
  | 0 => failure
  | fuel + 1 => do
    if ← accept .entry then
      let first ← nodeUnless fuel ⟨true, false⟩ [.entry, .blockEnd]
      return first :: (← blockItems fuel)
    else
      expect .blockEnd
      return []

/-- The items of a list that is not indented. -/
def plainItems : Nat → Parser (List Tree)
  | 0 => failure
  | fuel + 1 => do
    if ← accept .entry then
      let first ← nodeUnless fuel ⟨true, false⟩ [.entry, .key, .value, .blockEnd]
      return first :: (← plainItems fuel)
    else return []

/-- The members of an indented mapping. -/
def blockMembers : Nat → Parser (List (Tree × Tree))
  | 0 => failure
  | fuel + 1 => do
    if ← accept .key then
      let key ← nodeUnless fuel ⟨true, true⟩ [.key, .value, .blockEnd]
      let value ← if ← accept .value then nodeUnless fuel ⟨true, true⟩ [.key, .value, .blockEnd]
        else pure (emptyNode none)
      return (key, value) :: (← blockMembers fuel)
    else
      expect .blockEnd
      return []

/-- The value of a member between brackets that end with `closing`. -/
def flowValue : Nat → Token → Parser Tree
  | 0, _ => failure
  | fuel + 1, closing => do
    if ← accept .value then nodeUnless fuel ⟨false, false⟩ [.flowEntry, closing]
    else return emptyNode none

/-- The items of a list between brackets.  A key among them is a mapping with one
member; where it is empty, the token that shows this is passed over. -/
def flowItems : Nat → Bool → Parser (List Tree)
  | 0, _ => failure
  | fuel + 1, isFirst => do
    if ← accept .flowSequenceEnd then return []
    else
      if !isFirst then expect .flowEntry
      if ← accept .flowSequenceEnd then return []
      else if ← accept .key then
        let ends := [.value, .flowEntry, .flowSequenceEnd]
        let key ← match ← tokens with
          | t :: rest =>
            if ends.contains t then do goOn rest; pure (emptyNode none)
            else node fuel ⟨false, false⟩
          | [] => failure
        let value ← flowValue fuel .flowSequenceEnd
        return .map false [(key, value)] :: (← flowItems fuel false)
      else
        let first ← node fuel ⟨false, false⟩
        return first :: (← flowItems fuel false)

/-- The members of a mapping between brackets. -/
def flowMembers : Nat → Bool → Parser (List (Tree × Tree))
  | 0, _ => failure
  | fuel + 1, isFirst => do
    if ← accept .flowMappingEnd then return []
    else
      if !isFirst then expect .flowEntry
      if ← accept .flowMappingEnd then return []
      else if ← accept .key then
        let key ← nodeUnless fuel ⟨false, false⟩ [.value, .flowEntry, .flowMappingEnd]
        let value ← flowValue fuel .flowMappingEnd
        return (key, value) :: (← flowMembers fuel false)
      else
        let key ← node fuel ⟨false, false⟩
        return (key, emptyNode none) :: (← flowMembers fuel false)

end

/-- The directives at the start of a document: at most one version, and each handle
once. -/
def directives : Nat → Bool → List (List Char) → Parser Bool
  | 0, _, _ => failure
  | fuel + 1, hasVersion, declared => do
    match ← tokens with
    | .version major minor :: rest =>
      if hasVersion || major ≠ 1 || (minor ≠ 1 && minor ≠ 2) then failure
      else
        goOn rest
        directives fuel true declared
    | .handle h t :: rest =>
      if declared.contains h then failure
      else
        modify (fun s => ⟨rest, { s.book with handles := (h, t) :: s.book.handles }⟩)
        directives fuel hasVersion (h :: declared)
    | _ => return hasVersion || !declared.isEmpty

/-- Whether nothing but marks of document ends is left. -/
def isFinished (tokens : List Token) : Bool := tokens.all (fun t => t = .documentEnd)

/-- The only document of a text. -/
def document : Parser Tree := do
  let all ← tokens
  if all.isEmpty then return emptyNode none
  let fuel := 4 * all.length + 8
  let hasDirectives ← directives fuel false []
  let isExplicit ← accept .documentStart
  if hasDirectives && !isExplicit then failure
  let tree ← match isExplicit, ← tokens with
    | true, [] => pure (emptyNode none)
    | true, .documentStart :: _ => pure (emptyNode none)
    | true, .documentEnd :: _ => pure (emptyNode none)
    | true, .version _ _ :: _ => pure (emptyNode none)
    | true, .handle _ _ :: _ => pure (emptyNode none)
    | _, _ => node fuel ⟨true, false⟩
  if isFinished (← tokens) then return tree else failure

end Parser

mutual

/-- How many events a tree is read in: one for a scalar or a reference, and two for
a collection besides those of its parts. -/
def events : Tree → Nat
  | .leaf _ => 1
  | .alias _ => 1
  | .seq _ items => eventsOf items + 2
  | .map _ members => eventsOfMembers members + 2

/-- Events of a list of trees. -/
def eventsOf : List Tree → Nat
  | [] => 0
  | t :: rest => events t + eventsOf rest

/-- Events of the members of a mapping. -/
def eventsOfMembers : List (Tree × Tree) → Nat
  | [] => 0
  | (k, v) :: rest => events k + events v + eventsOfMembers rest

end

/-- How many containers of a YAML document may be inside one another. -/
def maxDepth : Nat := 128

/-- The document of a YAML text.  References may be followed a hundred times per
event. -/
def document? (text : String) : Option Source := do
  let tokens ← tokens? text
  let (root, final) ← Parser.document.run ⟨tokens, .start⟩
  return ⟨root, ⟨final.book.anchors, 100 * events root, maxDepth, false⟩⟩

end Yaml
end ClientSynth
