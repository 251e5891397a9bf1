import ClientSynth.Layer.Wrap

/-! # Registration

The unit that registers the clients of a run.  Each registry group has an entry
point for its clients, and one for its wrap layers if it has any. -/
namespace ClientSynth
namespace Layer

open Contract Code Request

/-- Name of the registration unit. -/
def registrationUnitName : String := "WebApiRegistration"

/-- The registry group of an interface; a blank one is none. -/
def groupOf (i : Interface) : Option String :=
  (i.client.registryGroup.map Text.stripBlanks).filter (fun g => !g.isEmpty)

/-- `group` at its place among groups, which stand without repetition: the unnamed
one first, then by name. -/
def insertGroup (group : Option String) : List (Option String) → List (Option String)
  | [] => [group]
  | other :: rest =>
    if group = other then other :: rest
    else if precedes group other then group :: other :: rest
    else other :: insertGroup group rest
where
  /-- The order of the groups. -/
  precedes : Option String → Option String → Bool
    | none, _ => true
    | some _, none => false
    | some a, some b => decide (a < b)

/-- The groups of the given interfaces. -/
def groups (interfaces : List Interface) : List (Option String) :=
  interfaces.foldl (fun acc i => insertGroup (groupOf i) acc) []

/-- Register a client. -/
def registerClient (i : Interface) : Stmt :=
  let implementation := i.implementation
  .eval (.attempt (.call ("registry.add_http_client::<dyn " ++ i.name ++ ">")
    [.raw (implementation ++ "::BASE_ADDRESS"),
      .raw (implementation ++ "::TIMEOUT_SECS.map(Duration::from_secs)"),
      .lambda ["client", "base_address"]
        (.call "Arc::new"
          [.call (implementation ++ "::with_base_address")
            [.ident "client", .ident "base_address"]])]))

/-- Register a wrap layer, if the interface has one. -/
def registerWrap (options : Options) (i : Interface) : Option Stmt :=
  match wrapNames i options with
  | some (.ok names) =>
    let resolve (name : String) : Expr :=
      .attempt (.call ("registry.resolve::<dyn " ++ name ++ ">") [])
    some (.eval (.call ("registry.add_transient::<dyn " ++ names.interface ++ ", _>")
      [.lambda ["registry"]
        (.call "Ok" [.call "Arc::new"
          [.call (names.implementation ++ "::new")
            [resolve i.name, resolve names.tokenManager]]])]))
  | _ => none

/-- An entry point that takes the registry. -/
def entryPoint (group : Option String) (wrap : Bool) (doc : List String) (body : Block) : Function :=
  { Function.free (Naming.registrationEntry group wrap) with
    isPublic := true
    doc := doc
    params := [("registry", "&mut WebApiRegistry")]
    body := some body }

/-- What documentation calls a group. -/
def groupLabel (group : Option String) : String := "`" ++ group.getD "default" ++ "` group."

/-- The entry points of one group. -/
def groupItems (options : Options) (group : Option String) (members : List Interface) : List Item :=
  let clients := (entryPoint group false
    ["Registers the typed clients of the " ++ groupLabel group]
    (members.map registerClient ++ [.tail (.raw "Ok(())")])).returning
      ("Result<(), " ++ errorType ++ ">")
  let wraps := members.filterMap (registerWrap options)
  .function clients ::
    if wraps.isEmpty then []
    else [.function (entryPoint group true
      ["Registers the wrap clients of the " ++ groupLabel group, "",
        "Needs the typed clients and the token managers registered first."] wraps)]

/-- The members of a group, in order. -/
def membersOf (interfaces : List Interface) (group : Option String) : List Interface :=
  interfaces.filter (fun i => groupOf i == group)

/-- The registration unit of a run; a run without clients has none. -/
def registrationUnit (interfaces : List Interface) (options : Options) : Option CodeUnit :=
  if interfaces.isEmpty then none
  else some
    { name := registrationUnitName
      source := Text.joined ", " (interfaces.map Interface.source)
      items := (groups interfaces).flatMap (fun g =>
        groupItems options g (membersOf interfaces g)) }

end Layer
end ClientSynth
