import ClientSynth.Number.Numeral
import ClientSynth.Yaml.Cursor

/-! # Scalars of a YAML text

Plain, quoted and block scalars: how far each one goes, and the text it stands
for. -/
namespace ClientSynth
namespace Yaml

/-- How a scalar is written. -/
inductive Style where
  | plain
  | quoted
  | literal
  | folded
  deriving Repr, DecidableEq

/-- Whether `c` has a meaning of its own inside brackets. -/
def isFlowMark (c : Char) : Bool := c == ',' || c == '[' || c == ']' || c == '\x7b' || c == '\x7d'

/-! ## Plain scalars -/

/-- The word of a plain scalar at the start of the given characters; inside
brackets, a colon right before a bracket, a comma or a question mark is refused. -/
def plainWord (inFlow : Bool) : List Char → Option (List Char)
  | [] => some []
  | c :: rest =>
    if endsWord (some c) then some []
    else if inFlow && c == ':' &&
        (match rest.head? with
          | some d => isFlowMark d || d == '?'
          | none => false) then none
    else if c == ':' && endsWord rest.head? then some []
    else if inFlow && isFlowMark c then some []
    else (plainWord inFlow rest).map (c :: ·)

/-- The rest of a plain scalar, which continues on lines indented to `margin`:
its text after `text`, whether white space with a line break follows it, and the
cursor behind that. -/
def plainFrom (inFlow : Bool) (margin : Nat) :
    Nat → List Char → Gap → Cursor → Option (List Char × Bool × Cursor)
  | 0, _, _, _ => none
  | fuel + 1, text, gap, c =>
    if c.atDocumentMark || c.sees '#' then some (text, gap.broken, c)
    else do
      let word ← plainWord inFlow c.rest
      let text := if word.isEmpty then text else text ++ gap.folded ++ word
      let gap := if word.isEmpty then gap else .none
      let c := c.skip word.length
      if c.peek.isNone || !endsWord c.peek then return (text, gap.broken, c)
      let (gap, c) ← Gap.read (some margin) (c.rest.length + 1) gap c
      if !inFlow && decide (c.column < margin) then return (text, gap.broken, c)
      plainFrom inFlow margin fuel text gap c

/-! ## Quoted scalars -/

/-- The character that a one-letter escape stands for. -/
def namedEscape? : Char → Option Char
  | '0' => some '\x00'
  | 'a' => some '\x07'
  | 'b' => some '\x08'
  | 't' => some '\t'
  | '\t' => some '\t'
  | 'n' => some '\n'
  | 'v' => some '\x0b'
  | 'f' => some '\x0c'
  | 'r' => some '\r'
  | 'e' => some '\x1b'
  | ' ' => some ' '
  | '\"' => some '\"'
  | '/' => some '/'
  | '\\' => some '\\'
  | 'N' => some '\u0085'
  | '_' => some '\u00a0'
  | 'L' => some '\u2028'
  | 'P' => some '\u2029'
  | _ => none

/-- How many digits of base 16 follow the letter of a numeric escape. -/
def numericEscape? : Char → Option Nat
  | 'x' => some 2
  | 'u' => some 4
  | 'U' => some 8
  | _ => none

/-- The character with the given code, if there is one. -/
def charOf? (code : Nat) : Option Char :=
  if code < 0xD800 ∨ (0xDFFF < code ∧ code < 0x110000) then some (Char.ofNat code) else none

/-- The character of the escape whose backslash stands before the given
characters, and how many of them it takes. -/
def escape? : List Char → Option (Char × Nat)
  | [] => none
  | c :: rest =>
    match numericEscape? c with
    | some digits => do
      let code ← if rest.length < digits then none else Numeral.natural? 16 (rest.take digits)
      return (← charOf? code, digits + 1)
    | none => (namedEscape? c).map (fun x => (x, 1))

/-- The text at the start of a quoted scalar up to white space, its closing quote
or an escaped line break, and how many characters it is written with. -/
def quotedRun (single : Bool) : Nat → List Char → Option (List Char × Nat)
  | 0, _ => none
  | fuel + 1, cs =>
    match cs with
    | [] => some ([], 0)
    | c :: rest =>
      let next (x : Char) (taken : Nat) : Option (List Char × Nat) := do
        let (text, more) ← quotedRun single fuel (cs.drop taken)
        return (x :: text, more + taken)
      if endsWord (some c) then some ([], 0)
      else if single then
        if c == '\'' then (if rest.head? == some '\'' then next '\'' 2 else some ([], 0)) else next c 1
      else if c == '\"' then some ([], 0)
      else if c == '\\' then
        if (rest.head?.map isBreak).getD false then some ([], 0)
        else (escape? rest).bind (fun e => next e.1 (e.2 + 1))
      else next c 1

/-- The rest of a quoted scalar: its text after `text`, and the cursor behind the
closing quote. -/
def quotedFrom (single : Bool) : Nat → List Char → Cursor → Option (List Char × Cursor)
  | 0, _, _ => none
  | fuel + 1, text, c =>
    if c.atDocumentMark || c.rest.isEmpty then none
    else do
      let (run, taken) ← quotedRun single (c.rest.length + 1) c.rest
      let text := text ++ run
      let c := c.skip taken
      let isEscapedBreak := !single && c.sees '\\'
      let c := if isEscapedBreak then (c.skip 1).skipBreak else c
      if c.sees (if single then '\'' else '\"') then return (text, c.skip 1)
      let (gap, c) ← Gap.read none (c.rest.length + 1) (if isEscapedBreak then .escaped else .none) c
      quotedFrom single fuel (text ++ gap.folded) c

/-! ## Block scalars -/

/-- What is done with the line breaks at the end of a block scalar. -/
inductive Chomping where
  | strip
  | clip
  | keep
  deriving Repr, DecidableEq

/-- The chomping mark at a cursor. -/
def chomping? (c : Cursor) : Option Chomping :=
  match c.peek with
  | some '+' => some .keep
  | some '-' => some .strip
  | _ => none

/-- The digit of an indentation mark at a cursor; zero is refused. -/
def increment? (c : Cursor) : Option (Option Nat) :=
  match c.peek with
  | some d =>
    if d == '0' then none
    else if d.isDigit then some (some (Numeral.digitValue d))
    else some none
  | none => some none

/-- The marks after the bar of a block scalar, in either order. -/
def blockHeader? (c : Cursor) : Option (Chomping × Option Nat × Cursor) := do
  match chomping? c with
  | some chomping =>
    let c := c.skip 1
    let increment ← increment? c
    return (chomping, increment, if increment.isSome then c.skip 1 else c)
  | none =>
    let increment ← increment? c
    let c := if increment.isSome then c.skip 1 else c
    match increment, chomping? c with
    | some _, some chomping => return (chomping, increment, c.skip 1)
    | _, _ => return (.clip, increment, c)

/-- Empty lines of a block scalar: their breaks after `breaks`, the widest line
seen, and the cursor behind them.  The indentation is `none` until it is known. -/
def blockBreaks (indent : Option Nat) :
    Nat → Nat → List Char → Cursor → Option (List Char × Nat × Cursor)
  | 0, _, _, _ => none
  | fuel + 1, widest, breaks, c =>
    let room := (indent.map (fun i => i - c.column)).getD c.rest.length
    let c := c.skip (min room (c.rest.takeWhile (fun x => x == ' ')).length)
    let widest := max widest c.column
    let inMargin := (indent.map (fun i => decide (c.column < i))).getD true
    if inMargin && c.sees '\t' then none
    else if (c.peek.map isBreak).getD false then
      blockBreaks indent fuel widest (breaks ++ c.breakText) c.skipBreak
    else some (breaks, widest, c)

/-- The lines of a block scalar indented to `indent`: its text after `text`, and
the last break, the breaks after it and the cursor behind them. -/
def blockLines (isLiteral : Bool) (indent : Nat) :
    Nat → List Char → List Char → List Char → Bool → Cursor →
      Option (List Char × List Char × List Char × Cursor)
  | 0, _, _, _, _, _ => none
  | fuel + 1, text, last, breaks, afterBlank, c =>
    if c.column ≠ indent ∨ c.rest.isEmpty then some (text, last, breaks, c)
    else do
      let startsBlank := (c.peek.map isBlank).getD false
      let joint :=
        if !isLiteral && last == ['\n'] && !afterBlank && !startsBlank then
          (if breaks.isEmpty then [' '] else [])
        else last
      let line := c.rest.takeWhile (fun x => !isBreak x)
      let after := c.skip line.length
      let (more, _, next) ← blockBreaks (some indent) (after.rest.length + 1) 0 [] after.skipBreak
      blockLines isLiteral indent fuel (text ++ joint ++ breaks ++ line) after.breakText more
        startsBlank next

/-- The block scalar behind its bar, inside a node indented to `parent`: its text
and the cursor behind it. -/
def blockScalar (isLiteral : Bool) (parent : Int) (c : Cursor) : Option (List Char × Cursor) := do
  let (chomping, increment, c) ← blockHeader? c
  let c := c.skipWhile isBlank
  let c := if c.sees '#' then c.skipLine else c
  if !endsLine c.peek then none
  let c := c.skipBreak
  let declared := increment.map (fun n => if 0 ≤ parent then parent.toNat + n else n)
  let (breaks, widest, c) ← blockBreaks declared (c.rest.length + 1) 0 [] c
  let indent := declared.getD (max widest (max (parent + 1).toNat 1))
  let (text, last, breaks, c) ← blockLines isLiteral indent (c.rest.length + 1) [] [] breaks false c
  let kept := match chomping with
    | .strip => []
    | .clip => last
    | .keep => last ++ breaks
  return (text ++ kept, c)

end Yaml
end ClientSynth
