import ClientSynth.Text.Casing
import ClientSynth.Text.Escape
import ClientSynth.Text.Trim

/-! # Identifiers of generated code

Declared names become identifiers: snake case for functions, modules and
variables, as they are for types.  A name that is empty, a keyword, reserved or
starts with a digit is changed so that it can stand as an identifier. -/
namespace ClientSynth
namespace Code
namespace Identifier

/-- Words that can only be used as names in their raw form. -/
def keywords : List String :=
  ["abstract", "as", "async", "await", "become", "box", "break", "const", "continue", "do",
    "dyn", "else", "enum", "extern", "false", "final", "fn", "for", "if", "impl", "in", "let",
    "loop", "macro", "match", "mod", "move", "mut", "override", "priv", "pub", "ref", "return",
    "static", "struct", "trait", "true", "try", "type", "typeof", "unsafe", "unsized", "use",
    "virtual", "where", "while", "yield"]

/-- Words that have no raw form either. -/
def reserved : List String := ["self", "Self", "super", "crate"]

/-- `name` in a form that can stand as an identifier. -/
def escape (name : String) : String :=
  if name.isEmpty then "_"
  else if reserved.contains name then name ++ "_"
  else if keywords.contains name then "r#" ++ name
  else if (name.toList.head?.map Char.isDigit).getD false then "_" ++ name
  else name

/-- The identifier of a function. -/
def functionName (name : String) : String := escape (Text.snakeCase name)

/-- The identifier of a variable; underscores at its ends stay, and a name of
nothing but underscores is the wildcard. -/
def variableName (name : String) : String :=
  if name.toList.all Text.isUnderscore then "_"
  else
    let ident := Text.snakeIdent name
    if ident.toList.head? = some '_' ∨ ident.toList.getLast? = some '_' then ident
    else escape ident

/-- The identifier of a type. -/
def typeName (name : String) : String := name

/-- Snake case of a unit name, whose dots separate words. -/
def unitStem (unit : String) : String :=
  Text.snakeCase (String.ofList (unit.toList.map (fun c => if c = '.' then '_' else c)))

/-- The module of a unit.  The index is itself called `mod`, which stays. -/
def moduleName (unit : String) : String :=
  let stem := unitStem unit
  if stem = "mod" then stem else escape stem

/-- The file of a unit. -/
def fileName (unit : String) : String := unitStem unit ++ ".rs"

end Identifier
end Code
end ClientSynth
