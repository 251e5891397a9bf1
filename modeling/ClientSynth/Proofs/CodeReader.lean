import ClientSynth.Code
import ClientSynth.Code.Identifier
import ClientSynth.Proofs.TokenTree

/-! # Reading code

How the language reads the trees of an expression or a statement.  A method call, `.await`
and `?` bind tighter than `&` and `!`, and a closure takes everything to its right, unless it
states a result: then its body is a block, which ends it.  A single expression in parentheses
is that expression.  In front of a block, as in the head of an `if`, no struct literal is
read.  A block at the start of a statement is the whole statement, unless an operator follows
it.

Names are read as they are written, so a tree read back carries identifiers. -/
namespace ClientSynth
namespace Code
namespace Reader

/-- What is read, and the trees behind it. -/
abbrev Reading (α : Type) := Option (α × List Tree)

/-- How to read what stands between brackets. -/
structure Inside where
  /-- Expressions between commas. -/
  items : List Tree → Option (List Expr)
  /-- Fields of a struct literal. -/
  fields : List Tree → Option (List (String × Expr))
  /-- Statements of a block. -/
  body : List Tree → Option (List Stmt)

/-! ### Names -/

/-- The path that begins with `head`. -/
def pathFrom (head : String) : List Tree → String × List Tree
  | .mark ':' :: .mark ':' :: .word w :: rest => pathFrom (head ++ "::" ++ w) rest
  | rest => (head, rest)

/-- A path.  It does not begin with a keyword. -/
def path : List Tree → Reading String
  | .word w :: rest => if Identifier.keywords.contains w then none else some (pathFrom w rest)
  | _ => none

/-- The parameters of a closure, up to the bar that ends them. -/
def params : List Tree → Reading (List String)
  | .mark '|' :: rest => some ([], rest)
  | .word w :: .mark '|' :: rest => some ([w], rest)
  | .word w :: .mark ',' :: rest => (params rest).map fun r => (w :: r.1, r.2)
  | _ => none

theorem length_params_le (ts : List Tree) {names : List String} {rest : List Tree}
    (h : params ts = some (names, rest)) : rest.length < ts.length := by
  fun_induction params ts generalizing names with
  | case1 rest =>
    cases h
    exact Nat.lt_succ_self _
  | case2 w rest =>
    cases h
    simp only [List.length_cons]
    omega
  | case3 w more ih =>
    obtain ⟨r, hr, heq⟩ := Option.map_eq_some_iff.mp h
    cases heq
    have hlt := ih hr
    simp only [List.length_cons]
    omega
  | case4 => cases h

/-! ### Expressions -/

/-- A block. -/
def block (inside : Inside) : List Tree → Reading (List Stmt)
  | .group .curly ts :: rest => (inside.body ts).map fun body => (body, rest)
  | _ => none

/-- What the expressions in parentheses are: the one that they hold, or a tuple. -/
def single : List Expr → Expr
  | [e] => e
  | es => .tuple es

/-- What begins with parentheses: a call, if an empty pair of them follows. -/
def grouped (es : List Expr) : List Tree → Expr × List Tree
  | .group .round [] :: rest => (.invoke (single es), rest)
  | rest => (single es, rest)

/-- What the use of a macro is: formatted text, or a call under the name with its mark. -/
def macroCall : String → List Expr → Expr
  | "format", .str template :: arguments => .format template arguments
  | name, arguments => .call (name ++ "!") arguments

/-- What begins with a path: a call, the use of a macro, a struct literal where one is read,
or the path alone. -/
def named (inside : Inside) (records : Bool) (name : String) (rest : List Tree) : Reading Expr :=
  match rest with
  | .group .round ts :: rest => (inside.items ts).map fun es => (.call name es, rest)
  | .mark '!' :: .group .round ts :: rest =>
    (inside.items ts).map fun es => (macroCall name es, rest)
  | .group .curly ts :: rest =>
    if records then (inside.fields ts).map fun fields => (.record name fields, rest)
    else some (.raw name, .group .curly ts :: rest)
  | rest => some (.raw name, rest)

/-- An expression without operators. -/
def atom (inside : Inside) (records : Bool) : List Tree → Reading Expr
  | .quoted value :: rest => some (.str value, rest)
  | .group .curly ts :: rest => (inside.body ts).map fun body => (.block false body, rest)
  | .group .round ts :: rest => (inside.items ts).map fun es => grouped es rest
  | .word w :: rest =>
    if w = "async" then (block inside rest).map fun r => (.block true r.1, r.2)
    else (path (.word w :: rest)).bind fun r => named inside records r.1 r.2
  | _ => none

/-- A field of a value that is a path. -/
def place : Expr → String → Option Expr
  | .raw code, w => some (.raw (code ++ "." ++ w))
  | _, _ => none

/-- The operators behind an expression. -/
def operators (inside : Inside) (e : Expr) : List Tree → Reading Expr
  | .mark '?' :: rest => operators inside (.attempt e) rest
  | .mark '.' :: .word w :: .group .round ts :: rest =>
    (inside.items ts).bind fun es => operators inside (.method e w es) rest
  | .mark '.' :: .word w :: rest =>
    if w = "await" then operators inside (.await e) rest
    else (place e w).bind fun e => operators inside e rest
  | rest => some (e, rest)

/-- An expression; `records` tells whether struct literals are read. -/
def expr (inside : Inside) (records : Bool) (ts : List Tree) : Reading Expr :=
  match ts with
  | .mark '&' :: rest => (expr inside records rest).map fun r => (.borrow r.1, r.2)
  | .mark '!' :: rest => (expr inside records rest).map fun r => (.negate r.1, r.2)
  | .mark '|' :: rest =>
    match h : params rest with
    | none => none
    | some (names, .mark '-' :: .mark '>' :: more) =>
      (path more).bind fun type => (block inside type.2).bind fun body =>
        operators inside (.closure names (some type.1) (.block false body.1)) body.2
    | some (names, more) =>
      have : more.length < rest.length := length_params_le rest h
      (expr inside records more).map fun r => (.closure names none r.1, r.2)
  | ts => (atom inside records ts).bind fun r => operators inside r.1 r.2
  termination_by ts.length

/-! ### Between brackets -/

section Sequence
variable {α : Type}

/-- One or more parts between commas, `n` of them at most. -/
def series (read : List Tree → Reading α) : Nat → List Tree → Option (List α)
  | 0, _ => none
  | n + 1, ts =>
    match read ts with
    | some (a, []) => some [a]
    | some (a, .mark ',' :: rest) => (series read n rest).map (a :: ·)
    | _ => none

/-- Parts between commas. -/
def parts (read : List Tree → Reading α) (ts : List Tree) : Option (List α) :=
  if ts.isEmpty then some [] else series read ts.length ts

/-- Parts one after the other, `n` of them at most. -/
def sequence (read : List Tree → Reading α) : Nat → List Tree → Option (List α)
  | _, [] => some []
  | 0, _ => none
  | n + 1, ts => (read ts).bind fun r => (sequence read n r.2).map (r.1 :: ·)

end Sequence

/-- A field of a struct literal; a name alone is also its value. -/
def field (inside : Inside) : List Tree → Reading (String × Expr)
  | .word name :: .mark ':' :: rest => (expr inside true rest).map fun r => ((name, r.1), r.2)
  | .word name :: rest => some ((name, .raw name), rest)
  | _ => none

/-! ### Statements -/

/-- What stands in front of a semicolon. -/
def ended {α : Type} : α × List Tree → Reading α
  | (a, .mark ';' :: rest) => some (a, rest)
  | _ => none

/-- An expression up to a semicolon. -/
def sentence (inside : Inside) (ts : List Tree) : Reading Expr :=
  (expr inside true ts).bind ended

/-- The level of the log statement that the name of a macro stands for. -/
def logLevel? (callee : String) : Option LogLevel :=
  [LogLevel.debug, .info, .warn, .error].find? fun level => callee == "log::" ++ level.text ++ "!"

/-- What is done by an expression in front of a semicolon. -/
def effect : Expr → Stmt
  | .method (.raw "self.hooks") name arguments => .hook name arguments
  | .call callee (.str message :: arguments) =>
    match logLevel? callee with
    | some level => .log level message arguments
    | none => .eval (.call callee (.str message :: arguments))
  | e => .eval e

/-- Whether a tree is a comment. -/
def isComment : Tree → Bool
  | .comment _ => true
  | _ => false

/-- A statement that begins with an expression: an assignment to a name, what is done in front
of a semicolon, or the value of the block, which is its last part. -/
def simple (inside : Inside) (ts : List Tree) : Reading Stmt :=
  (expr inside true ts).bind fun r =>
    match r with
    | (e, .mark ';' :: rest) => some (effect e, rest)
    | (.raw target, .mark '=' :: rest) =>
      (sentence inside rest).map fun r => (.assign target r.1, r.2)
    | (e, rest) => if rest.all isComment then some (.tail e, rest) else none

/-- The value that is bound to a name. -/
def bound (inside : Inside) (name : String) (isMutable : Bool) (type : Option String) :
    List Tree → Reading Stmt
  | .mark '=' :: rest =>
    (sentence inside rest).map fun r => (.bind name isMutable type r.1, r.2)
  | _ => none

/-- A binding of a name, with the type that it may state. -/
def binding (inside : Inside) (isMutable : Bool) : List Tree → Reading Stmt
  | .word name :: .mark ':' :: rest =>
    (path rest).bind fun type => bound inside name isMutable (some type.1) type.2
  | .word name :: rest => bound inside name isMutable none rest
  | _ => none

/-- What follows the word `let`. -/
def afterLet (inside : Inside) : List Tree → Reading Stmt
  | .word w :: rest =>
    if w = "mut" then binding inside true rest else binding inside false (.word w :: rest)
  | _ => none

/-- The other branch of an `if`, or none. -/
def afterIf (inside : Inside) (test : Expr) (body : List Stmt) : List Tree → Reading Stmt
  | .word w :: rest =>
    if w = "else" then (block inside rest).map fun r => (.ifElse test body r.1, r.2)
    else some (.ifThen test body, .word w :: rest)
  | rest => some (.ifThen test body, rest)

/-- What follows the words `if let`. -/
def ifLet (inside : Inside) (ts : List Tree) : Reading Stmt :=
  (path ts).bind fun variant =>
    match variant.2 with
    | .group .round [.word name] :: .mark '=' :: rest =>
      (expr inside false rest).bind fun value => (block inside value.2).bind fun body =>
        some (.ifLet variant.1 name value.1 body.1, body.2)
    | _ => none

/-- What follows the word `if`. -/
def ifTest (inside : Inside) (ts : List Tree) : Reading Stmt :=
  (expr inside false ts).bind fun test => (block inside test.2).bind fun body =>
    afterIf inside test.1 body.1 body.2

/-- What follows the word `for`. -/
def forEach (inside : Inside) : List Tree → Reading Stmt
  | .word name :: .word w :: rest =>
    if w = "in" then
      (expr inside false rest).bind fun items => (block inside items.2).bind fun body =>
        some (.forEach name items.1 body.1, body.2)
    else none
  | _ => none

/-- What follows the first word of a statement. -/
def worded (inside : Inside) (w : String) (rest : List Tree) : Reading Stmt :=
  if w = "let" then afterLet inside rest
  else if w = "if" then
    match rest with
    | .word v :: more => if v = "let" then ifLet inside more else ifTest inside rest
    | _ => ifTest inside rest
  else if w = "for" then forEach inside rest
  else if w = "return" then (sentence inside rest).map fun r => (.ret r.1, r.2)
  else simple inside (.word w :: rest)

/-- What follows a block at the start of a statement. -/
def afterBlock (inside : Inside) (ts : List Tree) (body : List Stmt) : List Tree → Reading Stmt
  | .mark ';' :: rest => some (.eval (.block false body), rest)
  | .mark '.' :: _ => simple inside ts
  | .mark '?' :: _ => simple inside ts
  | rest => some (.tail (.block false body), rest)

/-- A statement. -/
def stmt (inside : Inside) (ts : List Tree) : Reading Stmt :=
  match ts with
  | .comment text :: rest => some (.comment text, rest)
  | .word w :: rest => worded inside w rest
  | .group .curly inner :: rest =>
    (inside.body inner).bind fun body => afterBlock inside ts body rest
  | ts => simple inside ts

/-! ### All levels -/

/-- How to read one level of brackets, if what stands between brackets there is read by
`inside`. -/
def Inside.around (inside : Inside) : Inside where
  items := parts (expr inside true)
  fields := parts (field inside)
  body ts := sequence (stmt inside) ts.length ts

/-- How to read between brackets, with brackets up to `n` levels deep. -/
def insideAt : Nat → Inside
  | 0 => ⟨fun _ => none, fun _ => none, fun _ => none⟩
  | n + 1 => (insideAt n).around

mutual

/-- How many levels of brackets a tree has. -/
def treeDepth : Tree → Nat
  | .group _ ts => depth ts + 1
  | .word _ | .quoted _ | .comment _ | .mark _ => 0

/-- How many levels of brackets several trees have. -/
def depth : List Tree → Nat
  | [] => 0
  | t :: ts => max (treeDepth t) (depth ts)

end

/-- The expression that a text is read as. -/
def read (text : String) : Option Expr :=
  (treesOf text).bind fun ts =>
    match expr (insideAt (depth ts)) true ts with
    | some (e, []) => some e
    | _ => none

end Reader
end Code
end ClientSynth
