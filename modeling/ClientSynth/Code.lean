/-! # Generated code

Code as a tree, before it is written out.  Names in the tree are the declared
ones: writing it out gives them the case and the escapes that identifiers need.
Types and raw fragments stand as they are. -/
namespace ClientSynth
namespace Code

/-- Level of a log statement. -/
inductive LogLevel where
  | debug
  | info
  | warn
  | error
  deriving Repr, DecidableEq

/-- The level as the log statement spells it. -/
def LogLevel.text : LogLevel → String
  | debug => "debug"
  | info => "info"
  | warn => "warn"
  | error => "error"

mutual

/-- An expression. -/
inductive Expr where
  /-- A fragment that stands as it is. -/
  | raw (code : String)
  /-- A variable. -/
  | ident (name : String)
  /-- A string literal. -/
  | str (value : String)
  /-- A call of a function given by its path. -/
  | call (callee : String) (arguments : List Expr)
  /-- A call of a method. -/
  | method (receiver : Expr) (name : String) (arguments : List Expr)
  /-- Text made of a template and what fills its holes. -/
  | format (template : String) (arguments : List Expr)
  | await (operand : Expr)
  /-- The value, or an early return of the error. -/
  | attempt (operand : Expr)
  | negate (operand : Expr)
  | borrow (operand : Expr)
  | block (isAsync : Bool) (body : List Stmt)
  | tuple (items : List Expr)
  | closure (params : List String) (result : Option String) (body : Expr)
  /-- A call of an expression without arguments. -/
  | invoke (callee : Expr)
  /-- A struct literal. -/
  | record (name : String) (fields : List (String × Expr))
  deriving Repr

/-- A statement. -/
inductive Stmt where
  | bind (name : String) (isMutable : Bool) (type : Option String) (value : Expr)
  | assign (target : String) (value : Expr)
  /-- An expression evaluated for its effect. -/
  | eval (value : Expr)
  | ifThen (test : Expr) (body : List Stmt)
  | ifElse (test : Expr) (body alternative : List Stmt)
  /-- Runs the body with the content of a value that matches the variant. -/
  | ifLet (variant binding : String) (value : Expr) (body : List Stmt)
  | forEach (binding : String) (items : Expr) (body : List Stmt)
  /-- A call of one of the client's hooks. -/
  | hook (name : String) (arguments : List Expr)
  | log (level : LogLevel) (message : String) (arguments : List Expr)
  | ret (value : Expr)
  /-- The value of the block. -/
  | tail (value : Expr)
  | comment (text : String)
  deriving Repr

end

/-- Statements in sequence. -/
abbrev Block := List Stmt

namespace Expr

/-- A call of a method without arguments. -/
def method0 (receiver : Expr) (name : String) : Expr := receiver.method name []

/-- A closure whose result type is left open. -/
def lambda (params : List String) (body : Expr) : Expr := .closure params none body

end Expr

namespace Stmt

/-- A binding that is not mutable and leaves the type open. -/
def bindTo (name : String) (value : Expr) : Stmt := .bind name false none value

/-- A binding that is not mutable and states the type. -/
def bindTyped (name type : String) (value : Expr) : Stmt := .bind name false (some type) value

end Stmt

/-- How a function takes the value it is called on. -/
inductive Receiver where
  /-- Not at all: a free function, or one of a type. -/
  | none
  | borrowed
  | consumed
  deriving Repr, DecidableEq

/-- A function or method. -/
structure Function where
  name : String
  doc : List String
  isPublic : Bool
  isAsync : Bool
  receiver : Receiver
  /-- Names and types. -/
  params : List (String × String)
  /-- Result type; none for the unit type. -/
  result : Option String
  /-- Body; none for a method that a trait only requires. -/
  body : Option Block
  deriving Repr

namespace Function

/-- A function with the given receiver and nothing else. -/
def named (receiver : Receiver) (name : String) : Function :=
  ⟨name, [], false, false, receiver, [], none, none⟩

/-- A method that borrows its receiver. -/
def borrowing (name : String) : Function := named .borrowed name

/-- A function without a receiver. -/
def free (name : String) : Function := named .none name

/-- A method that consumes its receiver. -/
def consuming (name : String) : Function := named .consumed name

/-- The function made public. -/
def exposed (f : Function) : Function := { f with isPublic := true }

/-- The function with one more line of documentation. -/
def withDoc (f : Function) (line : String) : Function := { f with doc := f.doc ++ [line] }

/-- The function with one more parameter. -/
def withParam (f : Function) (name type : String) : Function :=
  { f with params := f.params ++ [(name, type)] }

/-- The function with a result type. -/
def returning (f : Function) (type : String) : Function := { f with result := some type }

/-- The function with a body. -/
def withBody (f : Function) (body : Block) : Function := { f with body := some body }

end Function

/-- A trait. -/
structure Trait where
  name : String
  doc : List String
  supertraits : List String
  /-- Whether it has asynchronous methods. -/
  isAsync : Bool
  methods : List Function
  deriving Repr

/-- A struct. -/
structure Struct where
  name : String
  doc : List String
  derives : List String
  /-- Names and types. -/
  fields : List (String × String)
  deriving Repr

/-- A constant. -/
structure Constant where
  name : String
  type : String
  /-- The value as it stands. -/
  value : String
  deriving Repr, DecidableEq

/-- The methods of a type, of its own or of a trait. -/
structure Implementation where
  /-- The trait that is implemented. -/
  ofTrait : Option String
  target : String
  isAsync : Bool
  constants : List Constant
  methods : List Function
  deriving Repr

/-- A top-level item. -/
inductive Item where
  | trait (decl : Trait)
  | struct (decl : Struct)
  | implementation (block : Implementation)
  | function (decl : Function)
  deriving Repr

end Code

/-- A generated file before it is written out. -/
structure CodeUnit where
  name : String
  /-- Where the declarations it was made from came from. -/
  source : String
  items : List Code.Item
  deriving Repr

end ClientSynth
