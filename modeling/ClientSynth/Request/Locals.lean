import ClientSynth.Text.Casing

/-! # Local variables of method bodies

The names a generated body introduces.  One that a parameter already has gets
as many underscores as it takes to be different from all parameters. -/
namespace ClientSynth
namespace Request

/-- `base` followed by `count` underscores. -/
def suffixed (base : String) (count : Nat) : String :=
  base ++ String.ofList (List.replicate count '_')

/-- `base` with the fewest underscores that make it differ from all of `taken`.
Among `taken.length + 1` candidates one is free. -/
def freeName (taken : List String) (base : String) : String :=
  suffixed base
    (((List.range (taken.length + 1)).find? (fun k => !taken.contains (suffixed base k))).getD 0)

/-- The local variables of a method body. -/
structure Locals where
  path : String
  query : String
  url : String
  builder : String
  request : String
  response : String
  status : String
  body : String
  text : String
  result : String
  error : String
  deriving Repr, DecidableEq

namespace Locals

/-- Locals beside parameters of the given names. -/
def beside (params : List String) : Locals :=
  let name := freeName (params.map Text.snakeIdent)
  { path := name "path"
    query := name "query"
    url := name "url"
    builder := name "builder"
    request := name "request"
    response := name "response"
    status := name "status"
    body := name "body"
    text := name "text"
    result := name "result"
    error := name "error" }

/-- The names in the order in which a body introduces them. -/
def toList (l : Locals) : List String :=
  [l.path, l.query, l.url, l.builder, l.request, l.response, l.status, l.body, l.text, l.result,
    l.error]

end Locals
end Request
end ClientSynth
