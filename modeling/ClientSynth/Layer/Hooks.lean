import ClientSynth.Request.Signature

/-! # Hooks of a client

The trait that lets a user look at the requests of a client, and the hooks that
do nothing. -/
namespace ClientSynth
namespace Layer

open Contract Code Request

/-- Traits every generated trait builds on. -/
def sharedTraits : List String := ["Send", "Sync"]

/-- A hook that does nothing. -/
def hook (name : String) (params : List (String × String)) : Function :=
  { Function.borrowing name with params := params, body := some [] }

/-- The hooks around every request of an interface. -/
def sharedHooks : List Function :=
  [(hook "on_before_request" [("_method", "&str"), ("_request", "&mut reqwest::Request")]).withDoc
      "Called with every request before it is sent.",
    (hook "on_after_response" [("_method", "&str"), ("_response", "&reqwest::Response")]).withDoc
      "Called with every successful response before it is read.",
    (hook "on_request_fail"
      [("_method", "&str"), ("_status", "reqwest::StatusCode"), ("_body", "&str")]).withDoc
      "Called when the server answers with a non-success status.",
    (hook "on_request_error" [("_method", "&str"), ("_error", "&WebApiError")]).withDoc
      "Called with every error a method returns."]

/-- The hooks of one method. -/
def methodHooks (m : Method) : List Function :=
  let names := MethodHooks.of m
  [hook names.before [("_request", "&mut reqwest::Request")],
    hook names.after [("_response", "&reqwest::Response")],
    hook names.fail [("_status", "reqwest::StatusCode"), ("_body", "&str")],
    hook names.error [("_error", "&WebApiError")]]

/-- The methods whose function names are new; `seen` holds those so far. -/
def distinctFunctions (seen : List String) : List Method → List Method
  | [] => []
  | m :: rest =>
    if seen.contains m.functionName then distinctFunctions seen rest
    else m :: distinctFunctions (m.functionName :: seen) rest

/-- The trait of an interface's hooks: the shared ones, then those of every method
that is not implemented by hand, each name once. -/
def hooksTrait (i : Interface) : Trait where
  name := i.hooksTrait
  doc := ["Hooks around the requests of `" ++ i.implementation ++ "`.", "",
    "Every hook defaults to doing nothing."]
  supertraits := sharedTraits
  isAsync := false
  methods := sharedHooks ++
    (distinctFunctions [] (i.methods.filter (fun m => !m.ignoreImplementation))).flatMap methodHooks

/-- The hooks that do nothing. -/
def defaultHooks (i : Interface) : Struct where
  name := i.defaultHooks
  doc := ["`" ++ i.hooksTrait ++ "` that does nothing."]
  derives := ["Debug", "Clone", "Copy", "Default"]
  fields := []

end Layer
end ClientSynth
