import ClientSynth.Layer.Hooks
import ClientSynth.Layer.Options
import ClientSynth.Request.Execution

/-! # Client units

The unit of one interface: the interface as a trait, its hooks, the client type
and the client's implementation of the trait. -/
namespace ClientSynth
namespace Layer

open Contract Code Request

/-- The documentation of the interface trait. -/
def interfaceDocs (i : Interface) : List String :=
  ("Web API client `" ++ i.name ++ "`.") ::
    if i.ancestors.isEmpty then []
    else ["", "Includes the methods of " ++
      commaList (i.ancestors.map (fun a => "`" ++ a ++ "`")) ++ "."]
where
  /-- Names between commas. -/
  commaList (names : List String) : String := Text.joined ", " names

/-- The interface as a trait. -/
def interfaceTrait (i : Interface) : Trait where
  name := i.name
  doc := interfaceDocs i
  supertraits := sharedTraits
  isAsync := true
  methods := i.methods.map (fun m => { methodDeclaration m with doc := methodDocs m })

/-- The trait of methods implemented by hand. -/
def manualTrait (i : Interface) : Trait where
  name := i.manualTrait
  doc := ["Methods of `" ++ i.name ++ "` implemented by hand.", "",
    "Implement this trait for `" ++ i.implementation ++ "` next to the generated code."]
  supertraits := sharedTraits
  isAsync := true
  methods := (i.methods.filter (fun m => m.ignoreImplementation)).map methodDeclaration

/-- The type of an interface's hooks in the client. -/
def hooksType (i : Interface) : String := "Arc<dyn " ++ i.hooksTrait ++ ">"

/-- The client type. -/
def clientStruct (i : Interface) : Struct where
  name := i.implementation
  doc := ["HTTP client implementing `" ++ i.name ++ "`."]
  derives := ["Clone"]
  fields := [("client", "reqwest::Client"), ("base_address", "String"), ("hooks", hooksType i)]

/-- The base address of the client. -/
def baseAddress (i : Interface) (options : Options) : String :=
  (i.client.baseAddress <|> options.baseUrl).getD ""

/-- Base address and timeout as constants of the client. -/
def clientConstants (i : Interface) (options : Options) : List Constant :=
  let timeout := match i.client.timeoutSeconds with
    | some seconds => "Some(" ++ toString seconds ++ ")"
    | none => "None"
  [⟨"BASE_ADDRESS", "&'static str", Text.stringLiteral (baseAddress i options)⟩,
    ⟨"TIMEOUT_SECS", "Option<u64>", timeout⟩]

/-- The functions that make and inspect a client. -/
def clientFunctions (i : Interface) : List Function :=
  [((((Function.free "new").exposed.withDoc "Client against [`Self::BASE_ADDRESS`].").withParam
      "client" "reqwest::Client").returning "Self").withBody
        [.tail (.call "Self::with_base_address" [.ident "client", .raw "Self::BASE_ADDRESS"])],
    (((((Function.free "with_base_address").exposed).withParam "client" "reqwest::Client").withParam
      "base_address" "impl Into<String>").returning "Self").withBody
        [.tail (.record "Self"
          [("client", .ident "client"),
            ("base_address", (Expr.ident "base_address").method0 "into"),
            ("hooks", .call "Arc::new" [.raw i.defaultHooks])])],
    ((((Function.consuming "with_hooks").exposed.withDoc "Replace the hooks.").withParam
      "hooks" (hooksType i)).returning "Self").withBody
        [.tail (.raw "Self \x7b hooks, ..self \x7d")],
    ((Function.borrowing "base_address").exposed.returning "&str").withBody
      [.tail (.raw "&self.base_address")]]

/-- A method of the client: generated, or forwarding to the one written by hand. -/
def clientMethod (i : Interface) (m : Method) : Function :=
  (methodDeclaration m).withBody
    (if m.ignoreImplementation then manualBody m i.manualTrait
      else executionBody m i.client.contentType)

/-- The client unit of an interface. -/
def clientUnit (i : Interface) (options : Options) : CodeUnit where
  name := i.implementation
  source := i.source
  items :=
    [.trait (interfaceTrait i), .trait (hooksTrait i), .struct (defaultHooks i),
      .implementation ⟨some i.hooksTrait, i.defaultHooks, false, [], []⟩] ++
    (if i.hasManualMethods then [.trait (manualTrait i)] else []) ++
    [.struct (clientStruct i),
      .implementation ⟨none, i.implementation, false, clientConstants i options,
        clientFunctions i⟩,
      .implementation ⟨some i.name, i.implementation, true, [], i.methods.map (clientMethod i)⟩]

end Layer
end ClientSynth
