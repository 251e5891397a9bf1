import ClientSynth.Layer.Hooks
import ClientSynth.Layer.Options
import ClientSynth.Layer.WrapMethod
import ClientSynth.Request.Execution

/-! # Wrap layers

A trait like the interface but without token parameters, and a type that
acquires the tokens from a token manager and forwards to the client. -/
namespace ClientSynth
namespace Layer

open Contract Code Request

/-- The token manager that comes with the generated support code. -/
def defaultTokenManager : String := "ITokenManage"

/-- The names of a wrap layer. -/
structure WrapNames where
  /-- The trait. -/
  interface : String
  /-- The type that implements it. -/
  implementation : String
  tokenManager : String
  deriving Repr, DecidableEq

/-- Why a wrap layer has no names. -/
inductive WrapError where
  /-- The name of the token manager is blank. -/
  | emptyTokenManager
  deriving Repr, DecidableEq

/-- The wording of a wrap error. -/
def WrapError.message : WrapError → String
  | emptyTokenManager => "the token manager name is empty"

/-- The token manager of a wrap layer: the wrap descriptor's, else the client
descriptor's, else the configured one, else the one that comes along. -/
def tokenManager (i : Interface) (w : WrapDescriptor) (options : Options) : String :=
  Text.stripBlanks ((w.tokenManager <|> i.client.tokenManager <|> options.tokenManager).getD
    defaultTokenManager)

/-- The names of an interface's wrap layer, if it asks for one. -/
def wrapNames (i : Interface) (options : Options) : Option (Except WrapError WrapNames) :=
  i.wrap.map (fun w =>
    let manager := tokenManager i w options
    if manager.isEmpty then .error .emptyTokenManager
    else
      let interface := Naming.wrapInterface i.name w.name
      .ok ⟨interface, Naming.implementation interface, manager⟩)

/-- The declaration of a wrap method. -/
def wrapDeclaration (w : WrapMethod) : Function := declarationWith w.name w.parameters w.target

/-- Acquire one token, with a word in the log about an empty one. -/
def acquire (w : WrapMethod) (slot : TokenSlot) : Block :=
  let isAsync := w.target.returns.isAsync
  let getter := (Expr.raw "self.token_manage").method0 (slot.scope.getter isAsync)
  [.bindTo slot.parameter.name (.attempt (if isAsync then .await getter else getter)),
    .ifThen ((Expr.ident slot.parameter.name).method0 "is_empty")
      [.log .warn (w.name ++ ": token manager returned an empty " ++
        Text.lowercase slot.scope.name ++ " token") []]]

/-- An acquired token in the form that the parameter's type needs. -/
def tokenArgument (p : Parameter) : Expr :=
  let token := Expr.ident p.name
  match p.type.nullable, p.type.isBorrowed with
  | false, false => token
  | false, true => .borrow token
  | true, false => .call "Some" [token]
  | true, true => .call "Some" [token.method0 "as_str"]

/-- An argument of the forwarded call. -/
def forwardedArgument (p : Parameter) : Expr :=
  if p.role.isToken then tokenArgument p else .ident p.name

/-- Acquire every token, then call the client method. -/
def forwardBlock (w : WrapMethod) : Block :=
  let call := (Expr.raw "self.api").method w.target.name
    (w.target.parameters.map forwardedArgument)
  w.tokens.flatMap (acquire w) ++
    [.tail (if w.target.returns.isAsync then .await call else call)]

/-- The body of a wrap method. -/
def forwardBody (w : WrapMethod) : Block :=
  let locals := localsOf w.target
  let resultType := returnType w.target
  guarded resultType locals
    (if w.target.returns.isAsync then .await (.block true (forwardBlock w))
      else .invoke (.closure [] (some resultType) (.block false (forwardBlock w))))
    [.log .error (w.name ++ " failed: \x7b\x7d") [.ident locals.error]]

/-- The unit of the wrap trait. -/
def wrapTraitUnit (i : Interface) (names : WrapNames) (methods : List WrapMethod) : CodeUnit where
  name := i.name ++ ".Wrap"
  source := i.source
  items :=
    [.trait
      { name := names.interface
        doc := ["`" ++ i.name ++ "` with tokens supplied by `" ++ names.tokenManager ++ "`."]
        supertraits := sharedTraits
        isAsync := true
        methods := methods.map (fun w => { wrapDeclaration w with doc := methodDocs w.target }) }]

/-- The unit of the type that implements the wrap trait. -/
def wrapImplementationUnit (i : Interface) (names : WrapNames) (methods : List WrapMethod) :
    CodeUnit :=
  let fields := [("api", "Arc<dyn " ++ i.name ++ ">"),
    ("token_manage", "Arc<dyn " ++ names.tokenManager ++ ">")]
  { name := i.name ++ ".WrapImpl"
    source := i.source
    items :=
      [.struct ⟨names.implementation,
          ["Forwards to `" ++ i.name ++ "`, acquiring tokens first."], ["Clone"], fields⟩,
        .implementation ⟨none, names.implementation, false, [],
          [{ Function.free "new" with
              isPublic := true
              params := fields
              result := some "Self"
              body := some [.tail (.record "Self"
                [("api", .ident "api"), ("token_manage", .ident "token_manage")])] }]⟩,
        .implementation ⟨some names.interface, names.implementation, true, [],
          methods.map (fun w => (wrapDeclaration w).withBody (forwardBody w))⟩] }

/-- The units of an interface's wrap layer, if it asks for one; a layer without
names is reported and has none. -/
def wrapUnits (i : Interface) (options : Options) : Reported (List CodeUnit) :=
  match wrapNames i options with
  | none => .silent []
  | some (.error e) =>
    ⟨[], [.warning .wrapMetadata
      ("wrap layer of '" ++ i.name ++ "' skipped: " ++ e.message) ⟨i.source, i.name⟩]⟩
  | some (.ok names) =>
    let methods := expandInterface i
    ⟨[wrapTraitUnit i names methods.value, wrapImplementationUnit i names methods.value],
      methods.log⟩

end Layer
end ClientSynth
