/-! # Positions in a YAML text

A cursor is what is left of a text together with the position reached: YAML
gives meaning to columns and lines. -/
namespace ClientSynth
namespace Yaml

/-- Whether `c` ends a line. -/
def isBreak (c : Char) : Bool :=
  c == '\n' || c == '\r' || c == '\u0085' || c == '\u2028' || c == '\u2029'

/-- Whether `c` is a blank inside a line. -/
def isBlank (c : Char) : Bool := c == ' ' || c == '\t'

/-- Whether a word ends before `c`, or at the end of the text. -/
def endsWord : Option Char → Bool
  | none => true
  | some c => isBlank c || isBreak c

/-- Whether a line ends before `c`, or at the end of the text. -/
def endsLine : Option Char → Bool
  | none => true
  | some c => isBreak c

/-- What is left of a text, and where it starts. -/
structure Cursor where
  rest : List Char
  /-- Characters before it. -/
  index : Nat
  /-- Lines before it. -/
  line : Nat
  /-- Characters before it on its line. -/
  column : Nat
  deriving Repr

namespace Cursor

/-- The start of a text. -/
def start (cs : List Char) : Cursor := ⟨cs, 0, 0, 0⟩

/-- The next character. -/
def peek (c : Cursor) : Option Char := c.rest.head?

/-- The character `n` places on. -/
def ahead (c : Cursor) (n : Nat) : Option Char := c.rest[n]?

/-- Whether the next character is `x`. -/
def sees (c : Cursor) (x : Char) : Bool := c.peek == some x

/-- Past `n` characters of the line. -/
def skip (c : Cursor) (n : Nat) : Cursor :=
  ⟨c.rest.drop n, c.index + n, c.line, c.column + n⟩

/-- Past a line break, if there is one; a carriage return and a line feed are one
break. -/
def skipBreak (c : Cursor) : Cursor :=
  match c.rest with
  | '\r' :: '\n' :: rest => ⟨rest, c.index + 2, c.line + 1, 0⟩
  | x :: rest => if isBreak x then ⟨rest, c.index + 1, c.line + 1, 0⟩ else c
  | [] => c

/-- The text that a line break stands for: a line feed, except for the two
separators that Unicode has for lines and paragraphs. -/
def breakText (c : Cursor) : List Char :=
  match c.peek with
  | some x =>
    if isBreak x then (if x == '\u2028' || x == '\u2029' then [x] else ['\n']) else []
  | none => []

/-- Past all characters satisfying `p`, which holds of no line break. -/
def skipWhile (c : Cursor) (p : Char → Bool) : Cursor := c.skip (c.rest.takeWhile p).length

/-- Past the rest of the line, its break not included. -/
def skipLine (c : Cursor) : Cursor := c.skipWhile (fun x => !isBreak x)

/-- Whether a mark between documents stands here. -/
def atDocumentMark (c : Cursor) : Bool :=
  c.column == 0 && (['-', '-', '-'].isPrefixOf c.rest || ['.', '.', '.'].isPrefixOf c.rest) &&
    endsWord (c.ahead 3)

end Cursor

/-- The white space between two words of a scalar, which lines fold into. -/
structure Gap where
  /-- Blanks on the first line. -/
  blanks : List Char
  /-- Whether a line break occurs. -/
  broken : Bool
  /-- The first line break. -/
  first : List Char
  /-- The line breaks after it. -/
  more : List Char
  deriving Repr

namespace Gap

/-- No white space. -/
def none : Gap := ⟨[], false, [], []⟩

/-- What a line break written as an escape starts. -/
def escaped : Gap := ⟨[], true, [], []⟩

/-- The text that white space stands for: the blanks themselves, a blank for a
single line break, and the breaks after the first one otherwise. -/
def folded (g : Gap) : List Char :=
  if g.broken then
    if g.first = ['\n'] then (if g.more.isEmpty then [' '] else g.more) else g.first ++ g.more
  else g.blanks

/-- The white space at a cursor, added to `g`.  With a `margin`, a tab in front of
that column of a later line is refused. -/
def read (margin : Option Nat) : Nat → Gap → Cursor → Option (Gap × Cursor)
  | 0, _, _ => Option.none
  | fuel + 1, g, c =>
    match c.peek with
    | some x =>
      if isBlank x then
        if g.broken && x == '\t' && (margin.map (fun m => decide (c.column < m))).getD false then
          Option.none
        else read margin fuel (if g.broken then g else { g with blanks := g.blanks ++ [x] }) (c.skip 1)
      else if isBreak x then
        let g := if g.broken then { g with more := g.more ++ c.breakText }
          else ⟨[], true, c.breakText, []⟩
        read margin fuel g c.skipBreak
      else some (g, c)
    | Option.none => some (g, c)

end Gap
end Yaml
end ClientSynth
