import ClientSynth.Code
import ClientSynth.Contract

/-! # Signatures

What a generated method looks like from outside: its parameters and result, its
documentation, and the names of its hooks. -/
namespace ClientSynth
namespace Request

open Contract Code

/-- Error type of generated methods. -/
def errorType : String := "WebApiError"

/-- Names of a method's hooks. -/
structure MethodHooks where
  before : String
  after : String
  fail : String
  error : String
  deriving Repr, DecidableEq

/-- The hooks of a method. -/
def MethodHooks.of (m : Method) : MethodHooks :=
  let hook (moment : String) := "on_" ++ m.functionName ++ "_" ++ moment
  ⟨hook "before", hook "after", hook "fail", hook "error"⟩

/-- Result type of a generated method. -/
def returnType (m : Method) : String :=
  "Result<" ++ m.returns.valueType ++ ", " ++ errorType ++ ">"

/-- A method with the given parameters and the result of `m`, without a body. -/
def declarationWith (name : String) (params : List Parameter) (m : Method) : Function :=
  { Function.borrowing name with
    isAsync := m.returns.isAsync
    params := params.map (fun p => (p.name, p.type.raw))
    result := some (returnType m) }

/-- The declaration of a method, without a body. -/
def methodDeclaration (m : Method) : Function := declarationWith m.name m.parameters m

/-- The documentation line of a parameter with a default. -/
def defaultDoc (p : Parameter) : Option String :=
  p.default.map (fun d => "`" ++ p.name ++ "` defaults to `" ++ d.display ++ "`.")

/-- The documentation of a method. -/
def methodDocs (m : Method) : List String :=
  let defaults := m.parameters.filterMap defaultDoc
  ("`" ++ m.verb.token ++ " " ++ m.urlTemplate ++ "`") ::
    if defaults.isEmpty then [] else "" :: defaults

end Request
end ClientSynth
