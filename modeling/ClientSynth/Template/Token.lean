import ClientSynth.Text.Trim

/-! # Template tags

A template is text with tags in it: `\x7b\x7b name \x7d\x7d` for the value of a
variable, `\x7b% for item in list %\x7d` with its end, verbatim parts and
comments.  A dash at either side of a tag removes the blanks of the text next
to it. -/
namespace ClientSynth
namespace Template

/-- What a tag does. -/
inductive Tag where
  /-- Write the value at a path. -/
  | output (path : List String)
  /-- Repeat what follows for every item at a path. -/
  | each (item : String) (path : List String)
  /-- What follows is for a list without items. -/
  | otherwise
  /-- End of a repetition. -/
  | endEach
  /-- Start of a verbatim part. -/
  | verbatim
  /-- End of a verbatim part. -/
  | endVerbatim
  /-- A comment. -/
  | comment
  deriving Repr, DecidableEq

/-- A part of a template. -/
inductive Token where
  | text (chars : List Char)
  /-- A tag, and whether it removes the blanks before and after it. -/
  | tag (tag : Tag) (trimsBefore trimsAfter : Bool)
  deriving Repr, DecidableEq

/-- Blanks inside a tag. -/
def isTagSpace (c : Char) : Bool := c == ' ' || c == '\t' || c == '\r' || c == '\n'

/-- The characters after blanks of a tag. -/
def skipTagSpace (cs : List Char) : List Char := cs.dropWhile isTagSpace

/-- The characters after `start`, if they begin with it. -/
def after? (start : List Char) (cs : List Char) : Option (List Char) :=
  if start.isPrefixOf cs then some (cs.drop start.length) else none

/-- Whether a character may stand in a name. -/
def isNameChar (c : Char) : Bool := c.isAlphanum || c == '_'

/-- A name and what follows it. -/
def name? (cs : List Char) : Option (String × List Char) :=
  let name := cs.takeWhile isNameChar
  match name with
  | [] => none
  | c :: _ => if c.isDigit then none else some (String.ofList name, cs.drop name.length)

/-- The rest of a path: names and numbers behind dots. -/
def pathRest : Nat → List Char → List String × List Char
  | 0, cs => ([], cs)
  | fuel + 1, cs =>
    match cs with
    | '.' :: rest =>
      let part := rest.takeWhile isNameChar
      if part.isEmpty then ([], cs)
      else
        let (parts, after) := pathRest fuel (rest.drop part.length)
        (String.ofList part :: parts, after)
    | _ => ([], cs)

/-- A path to a value. -/
def path? (cs : List Char) : Option (List String × List Char) := do
  let (first, rest) ← name? cs
  let (parts, after) := pathRest (rest.length + 1) rest
  return (first :: parts, after)

/-- The end of a tag: whether it removes the blanks behind it, and what follows. -/
def tagEnd? (close : List Char) (cs : List Char) : Option (Bool × List Char) :=
  let cs := skipTagSpace cs
  match after? ('-' :: close) cs with
  | some rest => some (true, rest)
  | none => (after? close cs).map (fun rest => (false, rest))

/-- A dash behind the start of a tag. -/
def dash : List Char → Bool × List Char
  | '-' :: rest => (true, rest)
  | cs => (false, cs)

/-- The closing characters of a tag for a value. -/
def valueClose : List Char := ['\x7d', '\x7d']

/-- The closing characters of a tag for an instruction. -/
def instructionClose : List Char := ['%', '\x7d']

/-- The closing characters of a comment. -/
def commentClose : List Char := ['#', '\x7d']

/-- A word of an instruction and what follows it. -/
def word? (word : String) (cs : List Char) : Option (List Char) := after? word.toList (skipTagSpace cs)

/-- The instruction that repeats, behind its first word. -/
def each? (cs : List Char) : Option (Tag × List Char) := do
  let (item, rest) ← name? (skipTagSpace cs)
  let (path, rest) ← path? (skipTagSpace (← word? "in" rest))
  return (.each item path, rest)

/-- An instruction without its end. -/
def instruction? (cs : List Char) : Option (Tag × List Char) :=
  match name? (skipTagSpace cs) with
  | some ("for", rest) => each? rest
  | some ("else", rest) => some (.otherwise, rest)
  | some ("endfor", rest) => some (.endEach, rest)
  | some ("raw", rest) => some (.verbatim, rest)
  | some ("endraw", rest) => some (.endVerbatim, rest)
  | _ => none

/-- The rest of a comment. -/
def commentTail : List Char → Option (Bool × List Char)
  | [] => none
  | c :: rest =>
    match after? ('-' :: commentClose) (c :: rest), after? commentClose (c :: rest) with
    | some after, _ => some (true, after)
    | none, some after => some (false, after)
    | none, none => commentTail rest

/-- A tag at the start of `cs`: none if no tag starts there, and an inner none if
it is malformed. -/
def tag? (cs : List Char) : Option (Option (Token × List Char)) :=
  match cs with
  | '\x7b' :: '\x7b' :: rest =>
    let (before, body) := dash rest
    some (do
      let (path, rest) ← path? (skipTagSpace body)
      let (after, rest) ← tagEnd? valueClose rest
      return (.tag (.output path) before after, rest))
  | '\x7b' :: '%' :: rest =>
    let (before, body) := dash rest
    some (do
      let (tag, rest) ← instruction? body
      let (after, rest) ← tagEnd? instructionClose rest
      return (.tag tag before after, rest))
  | '\x7b' :: '#' :: rest =>
    let (before, body) := dash rest
    some ((commentTail body).map (fun r => (.tag .comment before r.1, r.2)))
  | _ => none

/-- The tag that ends a verbatim part, at the start of `cs`. -/
def endVerbatim? (cs : List Char) : Option (Token × List Char) :=
  match tag? cs with
  | some (some (.tag .endVerbatim before after, rest)) => some (.tag .endVerbatim before after, rest)
  | _ => none

/-- A character in front of the parts of a template. -/
def pushChar (c : Char) : List Token → List Token
  | .text chars :: rest => .text (c :: chars) :: rest
  | tokens => .text [c] :: tokens

/-- The parts of a template; `inVerbatim` tells whether only the end of the
verbatim part counts as a tag. -/
def tokens? : Nat → Bool → List Char → Option (List Token)
  | 0, _, _ => none
  | _, inVerbatim, [] => if inVerbatim then none else some []
  | fuel + 1, true, c :: rest =>
    match endVerbatim? (c :: rest) with
    | some (token, after) => (tokens? fuel false after).map (fun ts => token :: ts)
    | none => (tokens? fuel true rest).map (pushChar c)
  | fuel + 1, false, c :: rest =>
    match tag? (c :: rest) with
    | none => (tokens? fuel false rest).map (pushChar c)
    | some none => none
    | some (some (token, after)) =>
      let opens := match token with
        | .tag .verbatim _ _ => true
        | _ => false
      (tokens? fuel opens after).map (fun ts => token :: ts)

/-- The text `chars` with blanks removed where a neighbour asks for it. -/
def trimText (start stop : Bool) (chars : List Char) : List Char :=
  let chars := if start then chars.dropWhile Text.isBlank else chars
  if stop then Text.trimEnd Text.isBlank chars else chars

/-- The parts of a template with the blanks next to dashes removed; `start` tells
whether the tag before asks for it. -/
def trimmed : Bool → List Token → List Token
  | _, [] => []
  | start, .text chars :: rest =>
    let stop := match rest with
      | .tag _ before _ :: _ => before
      | _ => false
    .text (trimText start stop chars) :: trimmed false rest
  | _, .tag tag before after :: rest => .tag tag before after :: trimmed after rest

end Template
end ClientSynth
