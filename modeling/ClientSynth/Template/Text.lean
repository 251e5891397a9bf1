import ClientSynth.Template.Token

/-! # Templates

A template as a tree: text, values, and repetitions with a body. -/
namespace ClientSynth

/-- A template, or a part of one. -/
inductive TemplatePart where
  | text (value : String)
  /-- The value at a path. -/
  | output (path : List String)
  /-- The body once for every item at a path, or the other one if there is none. -/
  | each (item : String) (path : List String) (body otherwise : List TemplatePart)
  deriving Repr

namespace Template

/-- What ends a list of parts. -/
inductive Ending where
  | whole
  | endEach
  | otherwise
  deriving Repr, DecidableEq

/-- The parts up to an ending, and what follows it. -/
def parts? : Nat → List Token → Option (List TemplatePart × Ending × List Token)
  | 0, _ => none
  | _, [] => some ([], .whole, [])
  | fuel + 1, .text chars :: rest => do
    let (parts, ending, after) ← parts? fuel rest
    return (.text (String.ofList chars) :: parts, ending, after)
  | fuel + 1, .tag tag _ _ :: rest =>
    match tag with
    | .output path => do
      let (parts, ending, after) ← parts? fuel rest
      return (.output path :: parts, ending, after)
    | .comment | .verbatim | .endVerbatim => parts? fuel rest
    | .endEach => some ([], .endEach, rest)
    | .otherwise => some ([], .otherwise, rest)
    | .each item path => do
      let (body, ending, rest) ← parts? fuel rest
      let (other, rest) ← match ending with
        | .endEach => some ([], rest)
        | .otherwise => match parts? fuel rest with
          | some (other, .endEach, rest) => some (other, rest)
          | _ => none
        | .whole => none
      let (parts, ending, after) ← parts? fuel rest
      return (.each item path body other :: parts, ending, after)

/-- The template of a text. -/
def parse (text : String) : Option (List TemplatePart) := do
  let tokens ← tokens? (text.length + 1) false text.toList
  match ← parts? (tokens.length + 1) (trimmed false tokens) with
  | (parts, .whole, _) => some parts
  | _ => none

end Template
end ClientSynth
