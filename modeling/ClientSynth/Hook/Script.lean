import ClientSynth.Text.Trim

/-! # Command scripts

The commands of a hook are written in a small part of the shell's language:
simple commands with quoting and redirections, joined to pipelines, and
pipelines one after another, after success or after failure. -/
namespace ClientSynth
namespace Hook

/-- A character of a word, and whether it was quoted. -/
structure Letter where
  char : Char
  isQuoted : Bool
  deriving Repr, DecidableEq

/-- A word before patterns in it are resolved. -/
abbrev Word := List Letter

/-- The text of a word. -/
def Word.text (w : Word) : String := String.ofList (w.map Letter.char)

/-- Whether some character of the word is not quoted and one of `marks`. -/
def Word.hasMark (marks : List Char) (w : Word) : Bool :=
  w.any (fun l => !l.isQuoted && marks.contains l.char)

/-- A token of a script. -/
inductive Token where
  | word (word : Word)
  | operator (text : String)
  /-- A stream number in front of a redirection. -/
  | stream (number : Nat)
  deriving Repr, DecidableEq

/-- What is wrong with a script. -/
inductive ScriptError where
  | openQuote
  /-- An operator where a command is expected; none for the end of the script. -/
  | unexpected (operator : Option String)
  deriving Repr, DecidableEq

/-- The wording of a script error. -/
def ScriptError.message : ScriptError → String
  | openQuote => "Syntax error: Unterminated quoted string"
  | unexpected none => "Syntax error: end of file unexpected"
  | unexpected (some "\n") => "Syntax error: newline unexpected"
  | unexpected (some op) => "Syntax error: \"" ++ op ++ "\" unexpected"

/-- The operators, longer ones first. -/
def operators : List String := ["&&", "||", ">>", ">&", "<&", ";", "|", "&", ">", "<", "\n", "(", ")"]

/-- The operator at the start of `cs`. -/
def operator? (cs : List Char) : Option String := operators.find? (fun op => op.toList.isPrefixOf cs)

/-- Quoted letters. -/
def quotedLetters (cs : List Char) : Word := cs.map (fun c => ⟨c, true⟩)

/-- The rest of a word between double quotes, and what follows. -/
def doubleTail : List Char → Option (Word × List Char)
  | [] => none
  | '\"' :: rest => some ([], rest)
  | '\\' :: '\n' :: rest => doubleTail rest
  | '\\' :: c :: rest =>
    if c = '\"' || c = '\\' || c = '$' || c = '`' then
      (doubleTail rest).map (fun r => (⟨c, true⟩ :: r.1, r.2))
    else (doubleTail rest).map (fun r => (⟨'\\', true⟩ :: ⟨c, true⟩ :: r.1, r.2))
  | c :: rest => (doubleTail rest).map (fun r => (⟨c, true⟩ :: r.1, r.2))

/-- The rest of a word: its letters, whether a quote was seen, and what follows. -/
def wordTail : Nat → List Char → Except ScriptError (Word × Bool × List Char)
  | 0, cs => .ok ([], false, cs)
  | _, [] => .ok ([], false, [])
  | fuel + 1, c :: rest =>
    if c = '\'' then
      let body := rest.takeWhile (· != '\'')
      if body.length = rest.length then .error .openQuote
      else do
        let (letters, _, after) ← wordTail fuel (rest.drop (body.length + 1))
        return (quotedLetters body ++ letters, true, after)
    else if c = '\"' then
      match doubleTail rest with
      | none => .error .openQuote
      | some (body, rest) => do
        let (letters, _, after) ← wordTail fuel rest
        return (body ++ letters, true, after)
    else if c = '\\' then
      match rest with
      | [] => .ok ([⟨'\\', true⟩], false, [])
      | '\n' :: rest => wordTail fuel rest
      | d :: rest => do
        let (letters, _, after) ← wordTail fuel rest
        return (⟨d, true⟩ :: letters, true, after)
    else if c = ' ' || c = '\t' || (operator? (c :: rest)).isSome then .ok ([], false, c :: rest)
    else do
      let (letters, quoted, after) ← wordTail fuel rest
      return (⟨c, false⟩ :: letters, quoted, after)

/-- The number that a word is, in front of a redirection. -/
def streamNumber? (w : Word) (rest : List Char) : Option Nat :=
  let redirects := rest.head? == some '>' || rest.head? == some '<'
  match w with
  | [l] =>
    if redirects && !l.isQuoted && l.char.isDigit then some (l.char.toNat - '0'.toNat) else none
  | _ => none

/-- The tokens of a script. -/
def tokens : Nat → List Char → Except ScriptError (List Token)
  | 0, _ => .ok []
  | _, [] => .ok []
  | fuel + 1, c :: rest =>
    if c = ' ' || c = '\t' then tokens fuel rest
    else if c = '#' then tokens fuel (rest.dropWhile (· != '\n'))
    else
      match operator? (c :: rest) with
      | some op => do return .operator op :: (← tokens fuel ((c :: rest).drop op.length))
      | none => do
        let (letters, quoted, after) ← wordTail (rest.length + 2) (c :: rest)
        match streamNumber? letters after with
        | some n => return .stream n :: (← tokens fuel after)
        | none =>
          let others ← tokens fuel after
          return if letters.isEmpty && !quoted then others else .word letters :: others

/-- A change of where a command reads or writes. -/
inductive Redirection where
  /-- A stream into a file, at its end or in place of what is there. -/
  | toFile (stream : Nat) (appends : Bool) (path : Word)
  /-- A stream where another one goes. -/
  | toStream (stream target : Nat)
  /-- The input from a file. -/
  | fromFile (path : Word)
  deriving Repr

/-- A simple command. -/
structure Call where
  words : List Word
  redirections : List Redirection
  deriving Repr

/-- When a pipeline runs. -/
inductive Condition where
  | always
  | afterSuccess
  | afterFailure
  deriving Repr, DecidableEq

/-- A pipeline with its condition. -/
structure Step where
  condition : Condition
  /-- Whether success and failure are exchanged. -/
  isNegated : Bool
  calls : List Call
  deriving Repr

/-- The error at a token. -/
def unexpectedAt : List Token → ScriptError
  | .operator op :: _ => .unexpected (some op)
  | _ => .unexpected none

/-- The rest of a redirection behind its operator. -/
def redirection (stream : Option Nat) (op : String) (target : Word) : Redirection :=
  let out := stream.getD 1
  match op with
  | ">>" => .toFile out true target
  | ">&" =>
    match target.map Letter.char with
    | [d] => if d.isDigit then .toStream out (d.toNat - '0'.toNat) else .toFile out false target
    | _ => .toFile out false target
  | "<" | "<&" => .fromFile target
  | _ => .toFile out false target

/-- A simple command and what follows it. -/
def call : Nat → Call → List Token → Except ScriptError (Call × List Token)
  | 0, c, ts => .ok (c, ts)
  | fuel + 1, c, ts =>
    match ts with
    | .word w :: rest => call fuel { c with words := c.words ++ [w] } rest
    | .stream n :: .operator op :: .word w :: rest =>
      call fuel { c with redirections := c.redirections ++ [redirection (some n) op w] } rest
    | .operator op :: rest =>
      if [">", ">>", "<", ">&", "<&"].contains op then
        match rest with
        | .word w :: rest =>
          call fuel { c with redirections := c.redirections ++ [redirection none op w] } rest
        | _ => .error (unexpectedAt rest)
      else .ok (c, ts)
    | _ => .ok (c, ts)

/-- A pipeline and what follows it. -/
def pipeline : Nat → List Token → Except ScriptError (List Call × List Token)
  | 0, ts => .error (unexpectedAt ts)
  | fuel + 1, ts => do
    let (first, rest) ← call (ts.length + 1) ⟨[], []⟩ ts
    if first.words.isEmpty && first.redirections.isEmpty then throw (unexpectedAt rest)
    match rest with
    | .operator "|" :: more =>
      let (others, after) ← pipeline fuel more
      return (first :: others, after)
    | _ => return ([first], rest)

/-- Whether a word is the mark that exchanges success and failure. -/
def isNegation (w : Word) : Bool := w == [⟨'!', false⟩]

/-- The steps of a script; `condition` is that of the next one. -/
def steps : Nat → Condition → List Token → Except ScriptError (List Step)
  | 0, _, _ => .ok []
  | fuel + 1, condition, ts =>
    match condition, ts with
    | .always, [] => .ok []
    | _, .operator "\n" :: rest => steps fuel condition rest
    | _, _ => do
      let (isNegated, body) := match ts with
        | .word w :: rest => if isNegation w then (true, rest) else (false, ts)
        | _ => (false, ts)
      let (calls, rest) ← pipeline (body.length + 1) body
      let step : Step := ⟨condition, isNegated, calls⟩
      match rest with
      | [] => return [step]
      | .operator "&&" :: rest => return step :: (← steps fuel .afterSuccess rest)
      | .operator "||" :: rest => return step :: (← steps fuel .afterFailure rest)
      | .operator ";" :: rest | .operator "\n" :: rest => return step :: (← steps fuel .always rest)
      | _ => throw (unexpectedAt rest)

/-- The steps of a script's text. -/
def parse (text : String) : Except ScriptError (List Step) := do
  let ts ← tokens (text.length + 1) text.toList
  steps (ts.length + 1) .always ts

end Hook
end ClientSynth
