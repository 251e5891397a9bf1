import ClientSynth.Text.Trim

/-! # Verbs and token scopes

The HTTP verb of a method and the scope of a token, with the annotation texts
that stand for them. -/
namespace ClientSynth
namespace Contract

/-- An HTTP verb. -/
inductive Verb where
  | get
  | post
  | put
  | delete
  | patch
  | head
  | options
  deriving Repr, DecidableEq

namespace Verb

/-- Every verb. -/
def all : List Verb := [.get, .post, .put, .delete, .patch, .head, .options]

/-- The annotation that declares the verb. -/
def label : Verb → String
  | get => "Get"
  | post => "Post"
  | put => "Put"
  | delete => "Delete"
  | patch => "Patch"
  | head => "Head"
  | options => "Options"

/-- The verb as it is sent. -/
def token : Verb → String
  | get => "GET"
  | post => "POST"
  | put => "PUT"
  | delete => "DELETE"
  | patch => "PATCH"
  | head => "HEAD"
  | options => "OPTIONS"

/-- The verb an annotation name declares; the ending `Attribute` and then the
beginning `Http` do not count. -/
def ofLabel (name : String) : Option Verb :=
  let bare := (Text.dropSuffix? "Attribute" name).getD name
  let bare := (Text.dropPrefix? "Http" bare).getD bare
  all.find? (fun v => v.label == bare)

end Verb

/-- Scope of a token parameter. -/
inductive Scope where
  | tenant
  | user
  /-- Either scope; stands for one method per concrete scope. -/
  | both
  deriving Repr, DecidableEq

namespace Scope

/-- The scope as text. -/
def name : Scope → String
  | tenant => "Tenant"
  | user => "User"
  | both => "Both"

/-- The scope a text stands for: its last segment after a dot or colon, in any case. -/
def parse (s : String) : Option Scope :=
  let segment := Text.afterLast (fun c => c == '.' || c == ':') s.toList
  let word := String.ofList (segment.map Char.toLower)
  if word = "tenant" then some tenant
  else if word = "user" then some user
  else if word = "both" then some both
  else none

/-- The concrete scopes a scope stands for. -/
def concrete : Scope → List Scope
  | tenant => [tenant]
  | user => [user]
  | both => [tenant, user]

/-- The token manager method that gets a token of the scope. -/
def getter (scope : Scope) (isAsync : Bool) : String :=
  let base := match scope with
    | user => "get_user_token"
    | _ => "get_tenant_token"
  if isAsync then base ++ "_async" else base

end Scope
end Contract
end ClientSynth
