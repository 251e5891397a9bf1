import ClientSynth.Yaml.Scalar

/-! # Tokens of a YAML text

Block structure is told by indentation: where a line is indented deeper than
the one before, a collection starts, and where it is not any more, it ends.
That something is a key of a mapping shows only at the colon behind it, so a
place where a key may start is remembered, and the tokens that open the mapping
are put there when the colon comes.  A key has to fit on one line. -/
namespace ClientSynth
namespace Yaml

/-- A token. -/
inductive Token where
  /-- The version of the format. -/
  | version (major minor : Nat)
  /-- A handle that stands for the beginning of tags. -/
  | handle (handle start : List Char)
  | documentStart
  | documentEnd
  | sequenceStart
  | mappingStart
  | blockEnd
  | flowSequenceStart
  | flowSequenceEnd
  | flowMappingStart
  | flowMappingEnd
  | entry
  | flowEntry
  | key
  | value
  | alias (name : List Char)
  | anchor (name : List Char)
  | tag (handle rest : List Char)
  | scalar (style : Style) (text : List Char)
  deriving Repr, DecidableEq

/-- A place where a key may start. -/
structure KeyPlace where
  /-- Whether nothing but a key can stand here. -/
  isRequired : Bool
  /-- Tokens before it. -/
  position : Nat
  index : Nat
  line : Nat
  column : Nat
  deriving Repr

/-- The state of the reader of tokens. -/
structure Scan where
  cursor : Cursor
  /-- How many brackets are open. -/
  flow : Nat
  /-- Column of the innermost block collection; `-1` outside of all. -/
  indent : Int
  /-- Columns of the collections around it. -/
  indents : List Int
  /-- Whether a key may start here. -/
  keyAllowed : Bool
  /-- The place of a key for each level of brackets, the innermost first. -/
  keys : List (Option KeyPlace)
  /-- Tokens so far, the last one first. -/
  tokens : List Token
  /-- How many tokens there are. -/
  count : Nat

namespace Scan

/-- Nothing read yet. -/
def start (cs : List Char) : Scan := ⟨.start cs, 0, -1, [], true, [none], [], 0⟩

/-- Add a token. -/
def push (s : Scan) (t : Token) : Scan := { s with tokens := t :: s.tokens, count := s.count + 1 }

/-- Put a token after the first `position` ones. -/
def pushAt (s : Scan) (position : Nat) (t : Token) : Scan :=
  let later := s.count - position
  { s with
    tokens := s.tokens.take later ++ t :: s.tokens.drop later
    count := s.count + 1 }

/-- Move on by `n` characters of the line. -/
def skip (s : Scan) (n : Nat) : Scan := { s with cursor := s.cursor.skip n }

/-- Whether brackets are open. -/
def inFlow (s : Scan) : Bool := decide (0 < s.flow)

/-- Start a collection at `column` unless one is open that deep: the token goes
after the first `position` ones. -/
def openBlock (s : Scan) (column : Nat) (position : Nat) (t : Token) : Scan :=
  if s.inFlow || decide (Int.ofNat column ≤ s.indent) then s
  else { s.pushAt position t with indent := column, indents := s.indent :: s.indents }

/-- End the given collections, innermost first, as long as they are deeper than
`column`. -/
def closeFrom (column : Int) : List Int → Scan → Scan
  | [], s => s
  | outer :: rest, s =>
    if s.indent ≤ column then s
    else closeFrom column rest { s.push .blockEnd with indent := outer, indents := rest }

/-- End all collections deeper than `column`. -/
def closeBlocks (s : Scan) (column : Int) : Scan :=
  if s.inFlow then s else closeFrom column s.indents s

/-- Forget the place of a key at the innermost level; one that had to be a key is
an error. -/
def dropKey (s : Scan) : Option Scan :=
  match s.keys with
  | some k :: rest => if k.isRequired then none else some { s with keys := none :: rest }
  | _ => some s

/-- Remember that a key may start here. -/
def saveKey (s : Scan) : Option Scan :=
  if s.keyAllowed then do
    let c := s.cursor
    let isRequired := !s.inFlow && s.indent == Int.ofNat c.column
    let s ← s.dropKey
    return { s with keys := some ⟨isRequired, s.count, c.index, c.line, c.column⟩ :: s.keys.drop 1 }
  else some s

/-- Whether a key that starts at `k` cannot reach the cursor: it would not fit on
one line or be too long. -/
def isStale (s : Scan) (k : KeyPlace) : Bool :=
  decide (k.line < s.cursor.line) || decide (k.index + 1024 < s.cursor.index)

/-- Forget the places of keys that can no longer be keys. -/
def dropStale (s : Scan) : Option Scan := do
  let keys ← s.keys.mapM (fun place =>
    match place with
    | some k => if s.isStale k then (if k.isRequired then none else some none) else some (some k)
    | none => some none)
  return { s with keys := keys }

/-- Move on to the next token, over blanks, comments and line breaks. -/
def toToken : Nat → Scan → Option Scan
  | 0, _ => none
  | fuel + 1, s =>
    let c := if s.cursor.column == 0 && s.cursor.sees '\ufeff' then s.cursor.skip 1 else s.cursor
    let tabs := s.inFlow || !s.keyAllowed
    let c := c.skipWhile (fun x => x == ' ' || (tabs && x == '\t'))
    let c := if c.sees '#' then c.skipLine else c
    if (c.peek.map isBreak).getD false then
      toToken fuel { s with cursor := c.skipBreak, keyAllowed := s.keyAllowed || !s.inFlow }
    else some { s with cursor := c }

/-! ## Directives, anchors and tags -/

/-- Characters of names: of anchors, handles and directives. -/
def isNameChar (c : Char) : Bool := c.isAlphanum || c == '_' || c == '-'

/-- Characters of a tag; `wide` ones may also hold brackets and commas. -/
def isTagChar (wide : Bool) (c : Char) : Bool :=
  isNameChar c || (";/?:@&=+$.!~*'()".toList).contains c ||
    (wide && (c == ',' || c == '[' || c == ']'))

/-- The bytes written as escapes at the start of a tag: a percent sign and two
digits each. -/
def escapedBytes : List Char → List Nat
  | '%' :: a :: b :: rest =>
    match Numeral.natural? 16 [a, b] with
    | some n => n :: escapedBytes rest
    | none => []
  | _ => []

/-- How many bytes the text of a character takes whose first byte is `b`. -/
def byteWidth? (b : Nat) : Option Nat :=
  if b < 0x80 then some 1
  else if 0xC0 ≤ b ∧ b < 0xE0 then some 2
  else if 0xE0 ≤ b ∧ b < 0xF0 then some 3
  else if 0xF0 ≤ b ∧ b < 0xF8 then some 4
  else none

/-- The character that the escapes at the start of the text stand for, and how
many characters they are written with. -/
def escapedChar? (cs : List Char) : Option (Char × Nat) := do
  let bytes := escapedBytes cs
  let first ← bytes.head?
  let width ← byteWidth? first
  let tail := (bytes.drop 1).take (width - 1)
  if tail.length + 1 ≠ width ∨ !tail.all (fun b => b / 64 == 2) then none
  let lead := if width = 1 then first else first % twoPow (7 - width)
  let code := tail.foldl (fun n b => n * 64 + b % 64) lead
  return (← charOf? code, 3 * width)

/-- The text of a tag at the start of the given characters, and how many of them
it takes. -/
def tagText (wide : Bool) : Nat → List Char → Option (List Char × Nat)
  | 0, _ => none
  | fuel + 1, cs =>
    match cs with
    | [] => some ([], 0)
    | c :: rest =>
      if c == '%' then do
        let (x, taken) ← escapedChar? cs
        let (text, more) ← tagText wide fuel (cs.drop taken)
        return (x :: text, more + taken)
      else if isTagChar wide c then do
        let (text, more) ← tagText wide fuel rest
        return (c :: text, more + 1)
      else some ([], 0)

/-- The handle of a tag at a cursor: names between exclamation marks. -/
def tagHandle (c : Cursor) : Option (List Char × Cursor) :=
  match c.rest with
  | '!' :: rest =>
    let name := rest.takeWhile isNameChar
    let c := c.skip (name.length + 1)
    if c.sees '!' then some ('!' :: name ++ ['!'], c.skip 1) else some ('!' :: name, c)
  | _ => none

/-- The tag at a cursor. -/
def tagAt (c : Cursor) : Option (Token × Cursor) :=
  if c.ahead 1 == some '<' then do
    let c := c.skip 2
    let (text, taken) ← tagText true (c.rest.length + 1) c.rest
    let c := c.skip taken
    if text.isEmpty || !c.sees '>' then none
    return (.tag [] text, c.skip 1)
  else do
    let (handle, c) ← tagHandle c
    let (text, taken) ← tagText false (c.rest.length + 1) c.rest
    let c := c.skip taken
    if 2 ≤ handle.length ∧ handle.getLast? = some '!' then
      if text.isEmpty then none else return (.tag handle text, c)
    else
      let suffix := handle.drop 1 ++ text
      return (if suffix.isEmpty then .tag [] ['!'] else .tag ['!'] suffix, c)

/-- A number of a version directive. -/
def versionNumber (c : Cursor) : Option (Nat × Cursor) :=
  let digits := c.rest.takeWhile Char.isDigit
  if digits.isEmpty || decide (9 < digits.length) then none
  else some (Numeral.ofDigits 10 digits, c.skip digits.length)

/-- The token of a directive of the given name, whose value stands at the cursor. -/
def directiveValue (name : List Char) (c : Cursor) : Option (Token × Cursor) :=
  if name = "YAML".toList then do
    let (major, c) ← versionNumber (c.skipWhile isBlank)
    if !c.sees '.' then none
    let (minor, c) ← versionNumber (c.skip 1)
    return (.version major minor, c)
  else if name = "TAG".toList then do
    let (handle, c) ← tagHandle (c.skipWhile isBlank)
    if !(handle == ['!'] || (2 ≤ handle.length && handle.getLast? == some '!')) then none
    if !((c.peek.map isBlank).getD false) then none
    let c := c.skipWhile isBlank
    let (text, taken) ← tagText true (c.rest.length + 1) c.rest
    let c := c.skip taken
    if text.isEmpty || !endsWord c.peek then none
    return (.handle handle text, c)
  else none

/-- The directive at a cursor, to the end of its line. -/
def directiveAt (c : Cursor) : Option (Token × Cursor) := do
  let c := c.skip 1
  let name := c.rest.takeWhile isNameChar
  let c := c.skip name.length
  if name.isEmpty || !endsWord c.peek then none
  let (token, c) ← directiveValue name c
  let c := c.skipWhile isBlank
  let c := if c.sees '#' then c.skipLine else c
  if !endsLine c.peek then none
  return (token, c.skipBreak)

/-- The name of an anchor or of a reference to one, behind its mark. -/
def anchorName (c : Cursor) : Option (List Char × Cursor) :=
  let name := c.rest.takeWhile isNameChar
  let after := c.skip name.length
  let ends := match after.peek with
    | some x => endsWord (some x) || ("?:,]\x7d%@`".toList).contains x
    | none => true
  if name.isEmpty || !ends then none else some (name, after)

/-! ## Fetching tokens -/

/-- The end of the text: all collections end. -/
def finish (s : Scan) : Option Scan := do
  let s ← (s.closeBlocks (-1)).dropKey
  return { s with keyAllowed := false }

/-- A directive or a mark between documents, which end all collections. -/
def outside (s : Scan) (t : Token) (next : Cursor) : Option Scan := do
  let s ← (s.closeBlocks (-1)).dropKey
  return { { s with keyAllowed := false } with cursor := next }.push t

/-- An opening bracket. -/
def openFlow (s : Scan) (t : Token) : Option Scan := do
  let s ← s.saveKey
  let s := { s with keys := none :: s.keys, flow := s.flow + 1, keyAllowed := true }
  return (s.skip 1).push t

/-- A closing bracket. -/
def closeFlow (s : Scan) (t : Token) : Option Scan := do
  let s ← s.dropKey
  let s := if s.inFlow then { s with keys := s.keys.drop 1, flow := s.flow - 1 } else s
  return ({ s with keyAllowed := false }.skip 1).push t

/-- A comma between brackets. -/
def separate (s : Scan) : Option Scan := do
  let s ← s.dropKey
  return ({ s with keyAllowed := true }.skip 1).push .flowEntry

/-- The dash of a list item. -/
def item (s : Scan) : Option Scan := do
  if !s.inFlow && !s.keyAllowed then none
  let s ← (s.openBlock s.cursor.column s.count .sequenceStart).dropKey
  return ({ s with keyAllowed := true }.skip 1).push .entry

/-- The question mark of a key. -/
def explicitKey (s : Scan) : Option Scan := do
  if !s.inFlow && !s.keyAllowed then none
  let s ← (s.openBlock s.cursor.column s.count .mappingStart).dropKey
  return ({ s with keyAllowed := !s.inFlow }.skip 1).push .key

/-- The colon of a value.  If a key may have started before it, that is where the
key and, if need be, the mapping start. -/
def valueMark (s : Scan) : Option Scan :=
  match s.keys with
  | some k :: rest =>
    let s := (s.pushAt k.position .key).openBlock k.column k.position .mappingStart
    some (({ s with keys := none :: rest, keyAllowed := false }.skip 1).push .value)
  | _ =>
    if !s.inFlow && !s.keyAllowed then none
    else
      let s := s.openBlock s.cursor.column s.count .mappingStart
      some (({ s with keyAllowed := !s.inFlow }.skip 1).push .value)

/-- A token that a key may start with. -/
def keyStart (s : Scan) (read : Cursor → Option (Token × Cursor)) : Option Scan := do
  let s ← s.saveKey
  let (t, c) ← read s.cursor
  return { { s with keyAllowed := false } with cursor := c }.push t

/-- A tag, which ends at white space or a comma between brackets. -/
def readTag (s : Scan) : Option Scan := do
  let s ← s.keyStart tagAt
  if (s.inFlow && s.cursor.sees ',') || endsWord s.cursor.peek then some s else none

/-- A block scalar. -/
def readBlock (s : Scan) (style : Style) : Option Scan := do
  let s ← s.dropKey
  let (text, c) ← blockScalar (style == .literal) s.indent (s.cursor.skip 1)
  return { { s with keyAllowed := true } with cursor := c }.push (.scalar style text)

/-- A quoted scalar. -/
def readQuoted (s : Scan) (single : Bool) : Option Scan :=
  s.keyStart (fun c => do
    let (text, c) ← quotedFrom single (c.rest.length + 1) [] (c.skip 1)
    return (.scalar .quoted text, c))

/-- A plain scalar.  A key may start behind it if it ended with a line. -/
def readPlain (s : Scan) : Option Scan := do
  let s ← s.saveKey
  let (text, broken, c) ← plainFrom s.inFlow (s.indent + 1).toNat (s.cursor.rest.length + 1) []
    .none s.cursor
  return { { s with keyAllowed := broken } with cursor := c }.push (.scalar .plain text)

/-- Characters that no plain scalar starts with. -/
def isMark (c : Char) : Bool := ("-?:,[]\x7b\x7d#&*!|>'\"%@`".toList).contains c

/-- Whether a plain scalar starts with `c` when `next` follows. -/
def startsPlain (inFlow : Bool) (c : Char) (next : Option Char) : Bool :=
  !(endsWord (some c) || isMark c) ||
    (c == '-' && !((next.map isBlank).getD false)) ||
    (!inFlow && (c == '?' || c == ':') && !endsWord next)

/-- Read the token that starts with `c`, the character at the cursor. -/
def fetch (s : Scan) (c : Char) : Option Scan :=
  let next := s.cursor.ahead 1
  if s.cursor.column == 0 && c == '%' then do
    let (t, after) ← directiveAt s.cursor
    s.outside t after
  else if s.cursor.atDocumentMark then
    s.outside (if c == '-' then .documentStart else .documentEnd) (s.cursor.skip 3)
  else if c == '[' then s.openFlow .flowSequenceStart
  else if c == '\x7b' then s.openFlow .flowMappingStart
  else if c == ']' then s.closeFlow .flowSequenceEnd
  else if c == '\x7d' then s.closeFlow .flowMappingEnd
  else if c == ',' then s.separate
  else if c == '-' && endsWord next then s.item
  else if c == '?' && (s.inFlow || endsWord next) then s.explicitKey
  else if c == ':' && (s.inFlow || endsWord next) then s.valueMark
  else if c == '*' then s.keyStart (fun c => (anchorName (c.skip 1)).map (fun r => (.alias r.1, r.2)))
  else if c == '&' then s.keyStart (fun c => (anchorName (c.skip 1)).map (fun r => (.anchor r.1, r.2)))
  else if c == '!' then s.readTag
  else if c == '|' && !s.inFlow then s.readBlock .literal
  else if c == '>' && !s.inFlow then s.readBlock .folded
  else if c == '\'' then s.readQuoted true
  else if c == '\"' then s.readQuoted false
  else if startsPlain s.inFlow c next then s.readPlain
  else none

/-- Read all tokens. -/
def run : Nat → Scan → Option Scan
  | 0, _ => none
  | fuel + 1, s => do
    let s ← toToken (s.cursor.rest.length + 1) s
    let s ← s.dropStale
    let s := s.closeBlocks (Int.ofNat s.cursor.column)
    match s.cursor.peek with
    | none => s.finish
    | some c => run fuel (← s.fetch c)

end Scan

/-- Characters that a YAML text may hold. -/
def isAllowed (c : Char) : Bool :=
  let n := c.toNat
  n == 0x09 || n == 0x0A || n == 0x0D || (decide (0x20 ≤ n) && decide (n ≤ 0x7E)) || n == 0x85 ||
    (decide (0xA0 ≤ n) && decide (n ≤ 0xFFFD)) || decide (0x10000 ≤ n)

/-- The tokens of a YAML text.  A byte order mark in front does not count. -/
def tokens? (text : String) : Option (List Token) :=
  let cs := match text.toList with
    | '\ufeff' :: rest => rest
    | cs => cs
  if cs.all isAllowed then (Scan.run (cs.length + 2) (.start cs)).map (fun s => s.tokens.reverse)
  else none

end Yaml
end ClientSynth
