import ClientSynth.Request.Body
import ClientSynth.Request.Header
import ClientSynth.Request.Path
import ClientSynth.Request.Query
import ClientSynth.Request.Signature

/-! # Method bodies

The body of a client method: defaults, path, query, headers and body, then the
request with its hooks.  A failed request calls the fail hooks, a successful
one the after hooks, and any error that leaves the request block calls the
error hooks before it is returned. -/
namespace ClientSynth
namespace Request

open Contract Code

/-- What the request is cancelled by. -/
def cancelArgument (m : Method) : Expr :=
  match m.cancellation? with
  | none => .raw "None"
  | some p =>
    let token := Expr.ident p.name
    match p.type.nullable, p.type.isBorrowed with
    | true, true => token
    | true, false => token.method0 "as_ref"
    | false, true => .call "Some" [token]
    | false, false => .call "Some" [.borrow token]

/-- The statement that gives an absent parameter its default, if it has one that
code can state. -/
def defaultStatement (p : Parameter) : Option Stmt :=
  if p.type.nullable && p.role != .cancellation then
    (p.default.bind (fun d => d.fallback p.type)).map (fun fallback =>
      .bindTo p.name ((Expr.ident p.name).method "or_else" [.lambda [] (.raw fallback)]))
  else none

/-- The statements that fill in defaults. -/
def defaultStatements (parameters : List Parameter) : Block := parameters.filterMap defaultStatement

/-- The list of query pairs and the URL. -/
def addressStatements (m : Method) (locals : Locals) : Block :=
  .bindTo locals.path (pathExpr m.urlTemplate m.parameters) ::
    queryStatements m.parameters locals ++
    [.bindTo locals.url
      (.call "build_url" [.raw "&self.base_address", .borrow (.ident locals.path),
        .borrow (.ident locals.query)])]

/-- The statements that add headers and body to the request builder. -/
def builderStatements (m : Method) (interfaceContentType : Option String) (locals : Locals) : Block :=
  headerStatements m.parameters locals ++
    bodyStatements m.body? m.contentType interfaceContentType locals

/-- The request builder; it is mutable exactly if something is added to it. -/
def builderStatement (m : Method) (additions : Block) (locals : Locals) : Stmt :=
  .bind locals.builder (!additions.isEmpty) none
    ((Expr.raw "self.client").method "request"
      [.raw ("reqwest::Method::" ++ m.verb.token), .ident locals.url])

/-- The statements that build and send the request, with the hooks before it. -/
def sendStatements (m : Method) (locals : Locals) : Block :=
  let request : Expr := .raw ("&mut " ++ locals.request)
  [.bind locals.request true none (.attempt ((Expr.ident locals.builder).method0 "build")),
    .hook "on_before_request" [.str m.name, request],
    .hook (MethodHooks.of m).before [request],
    .bindTo locals.response
      (.attempt (.await (.call "send_request"
        [.raw "&self.client", .ident locals.request, cancelArgument m]))),
    .bindTo locals.status ((Expr.ident locals.response).method0 "status")]

/-- Reading the text of the response. -/
def readResponse (m : Method) (locals : Locals) : Expr :=
  .await (.call "read_body" [.ident locals.response, cancelArgument m])

/-- The hooks after a response that is no success, and the error it becomes. -/
def failHandling (m : Method) (locals : Locals) : Block :=
  let status := Expr.ident locals.status
  let body := Expr.ident locals.body
  [.hook "on_request_fail" [.str m.name, status, .borrow body],
    .hook (MethodHooks.of m).fail [status, .borrow body],
    .log .error (m.name ++ " failed with HTTP \x7b\x7d: \x7b\x7d") [status, body],
    .ret (.call "Err"
      [.record (errorType ++ "::Transport")
        [("status", status.method0 "as_u16"), ("body", body)]])]

/-- What is done about a response that is no success.  Its text is the default one
if it cannot be read. -/
def failStatement (m : Method) (locals : Locals) : Stmt :=
  .ifThen (.negate ((Expr.ident locals.status).method0 "is_success"))
    (.bindTo locals.body ((readResponse m locals).method0 "unwrap_or_default") ::
      failHandling m locals)

/-- The hooks after a successful response. -/
def afterStatements (m : Method) (locals : Locals) : Block :=
  let response := Expr.borrow (.ident locals.response)
  [.hook "on_after_response" [.str m.name, response], .hook (MethodHooks.of m).after [response]]

/-- The value of a successful response; a blank one gives the default value. -/
def valueStatements (m : Method) (locals : Locals) : Block :=
  match m.returns.value? with
  | none => [.tail (.raw "Ok(())")]
  | some _ =>
    let text := Expr.ident locals.text
    [.bindTo locals.text (.attempt (readResponse m locals)),
      .ifThen ((text.method0 "trim").method0 "is_empty") [.ret (.raw "Ok(Default::default())")],
      .tail (.call "Ok" [.attempt (.call "serde_json::from_str" [.borrow text])])]

/-- The block that makes and sends the request. -/
def requestBlock (m : Method) (interfaceContentType : Option String) (locals : Locals) : Block :=
  let additions := builderStatements m interfaceContentType locals
  defaultStatements m.parameters ++ addressStatements m locals ++
    builderStatement m additions locals :: additions ++ sendStatements m locals ++
    failStatement m locals :: afterStatements m locals ++ valueStatements m locals

/-- The locals of a method. -/
def localsOf (m : Method) : Locals := .beside (m.parameters.map Parameter.name)

/-- The result of a request block, and what is done when it is an error. -/
def guarded (resultType : String) (locals : Locals) (request : Expr) (onError : Block) : Block :=
  [.bindTyped locals.result resultType request,
    .ifLet "Err" locals.error (.borrow (.ident locals.result)) onError,
    .tail (.ident locals.result)]

/-- The result of the request block, waited for. -/
def requestExpr (m : Method) (interfaceContentType : Option String) : Expr :=
  let block := Expr.block true (requestBlock m interfaceContentType (localsOf m))
  if m.returns.isAsync then .await block else .call "block_on" [block]

/-- What is done when a request ends in an error. -/
def errorHandling (m : Method) (locals : Locals) : Block :=
  let error := Expr.ident locals.error
  [.log .error (m.name ++ " failed: \x7b\x7d") [error],
    .hook "on_request_error" [.str m.name, error],
    .hook (MethodHooks.of m).error [error]]

/-- The body of a client method. -/
def executionBody (m : Method) (interfaceContentType : Option String) : Block :=
  let locals := localsOf m
  guarded (returnType m) locals (requestExpr m interfaceContentType) (errorHandling m locals)

/-- The body that forwards to an implementation by hand. -/
def manualBody (m : Method) (manualTrait : String) : Block :=
  let call := Expr.call (manualTrait ++ "::" ++ m.functionName)
    (.raw "self" :: m.parameters.map (fun p => .ident p.name))
  [.tail (if m.returns.isAsync then .await call else call)]

end Request
end ClientSynth
