import ClientSynth.Contract

/-! # Placeholders of URL templates

A placeholder is a name in braces, `{name}`, where the name starts with an
ASCII letter or an underscore and goes on with those and digits.  Any other
brace is ordinary text. -/
namespace ClientSynth

open Contract

/-- A placeholder with the bytes of the template it covers. -/
structure Placeholder where
  name : String
  /-- Bytes before its opening brace. -/
  start : Nat
  /-- Bytes up to the end of its closing brace. -/
  stop : Nat
  deriving Repr, DecidableEq

/-- A stretch of a URL template. -/
inductive UrlPart where
  /-- A character outside placeholders. -/
  | char (c : Char)
  /-- A placeholder. -/
  | placeholder (name : String)
  deriving Repr, DecidableEq

namespace Placeholder

/-- Whether a placeholder name can start with `c`. -/
def isNameStart (c : Char) : Bool := c.isAlpha || c == '_'

/-- Whether a placeholder name can go on with `c`. -/
def isNameChar (c : Char) : Bool := c.isAlphanum || c == '_'

/-- The name of the placeholder whose opening brace stands right before `cs`, and
what follows its closing brace. -/
def afterBrace (cs : List Char) : Option (List Char × List Char) :=
  match cs with
  | c :: rest =>
    if isNameStart c then
      match rest.dropWhile isNameChar with
      | '\x7d' :: after => some (c :: rest.takeWhile isNameChar, after)
      | _ => none
    else none
  | [] => none

theorem length_afterBrace_lt {cs name after : List Char} (h : afterBrace cs = some (name, after)) :
    after.length < cs.length := by
  unfold afterBrace at h
  split at h
  · rename_i c rest
    split at h
    · split at h
      · rename_i after' hdrop
        cases h
        have h1 := (List.dropWhile_sublist isNameChar (l := rest)).length_le
        have h2 := congrArg List.length hdrop
        simp only [List.length_cons] at *
        omega
      · cases h
    · cases h
  · cases h

/-- The parts of a template, in order. -/
def parts (cs : List Char) : List UrlPart :=
  match cs with
  | [] => []
  | c :: rest =>
    if c = '\x7b' then
      match h : afterBrace rest with
      | some (name, after) =>
        have : after.length < rest.length + 1 := Nat.lt_succ_of_lt (length_afterBrace_lt h)
        .placeholder (String.ofList name) :: parts after
      | none => .char c :: parts rest
    else .char c :: parts rest
  termination_by cs.length

/-- Bytes that a part covers. -/
def width : UrlPart → Nat
  | .char c => c.utf8Size
  | .placeholder name => name.utf8ByteSize + 2

/-- The placeholders among `parts` that start `offset` bytes into a template. -/
def located (offset : Nat) : List UrlPart → List Placeholder
  | [] => []
  | .placeholder name :: rest =>
    let stop := offset + width (.placeholder name)
    ⟨name, offset, stop⟩ :: located stop rest
  | .char c :: rest => located (offset + c.utf8Size) rest

/-- All placeholders of a template, from left to right. -/
def all (template : String) : List Placeholder := located 0 (parts template.toList)

end Placeholder

/-- The path parameter that fills the placeholder `name`: the first of that name,
up to the case of ASCII letters. -/
def pathParameter? (name : String) (parameters : List Parameter) : Option Parameter :=
  parameters.find? (fun p => p.role.isPath && Text.eqIgnoringAsciiCase p.name name)

/-- Names of the placeholders that no path parameter fills. -/
def unmatchedPlaceholders (template : String) (parameters : List Parameter) : List String :=
  ((Placeholder.all template).filter (fun p => (pathParameter? p.name parameters).isNone)).map
    Placeholder.name

end ClientSynth
