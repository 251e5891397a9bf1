import ClientSynth.Template.Text

/-! # Rendering templates

A template is rendered in a context of texts and lists.  A repetition runs over
the items of a list, or over the characters of a text; inside it `loop` tells
which round it is. -/
namespace ClientSynth
namespace Template

/-- A value of a context. -/
inductive Value where
  | text (value : String)
  | list (items : List String)
  | number (value : Nat)
  | bool (value : Bool)
  deriving Repr, DecidableEq

/-- Values by path. -/
abbrev Context := List (List String × Value)

/-- How a value is written. -/
def Value.show : Value → String
  | .text s => s
  | .list items => "[" ++ Text.joined ", " items ++ "]"
  | .number n => toString n
  | .bool b => if b then "true" else "false"

/-- What a repetition runs over. -/
def Value.rounds : Value → Option (List String)
  | .text s => some (s.toList.map String.singleton)
  | .list items => some items
  | .number _ | .bool _ => none

/-- The context of one round: the item, and which of `count` rounds it is. -/
def roundContext (c : Context) (item value : String) (index count : Nat) : Context :=
  ([item], .text value) :: (["loop", "index"], .number (index + 1)) ::
    (["loop", "index0"], .number index) :: (["loop", "first"], .bool (index == 0)) ::
    (["loop", "last"], .bool (index + 1 == count)) :: c

mutual
/-- A part of a template; none if it needs a value that the context does not hold. -/
def renderPart (c : Context) : TemplatePart → Option String
  | .text s => some s
  | .output path => (c.lookup path).map Value.show
  | .each item path body otherwise => do
    let rounds ← (← c.lookup path).rounds
    if rounds.isEmpty then renderParts c otherwise
    else
      let texts ← rounds.zipIdx.mapM (fun r =>
        renderParts (roundContext c item r.1 r.2 rounds.length) body)
      return String.join texts

/-- The parts of a template one after another. -/
def renderParts (c : Context) : List TemplatePart → Option String
  | [] => some ""
  | p :: rest => do return (← renderPart c p) ++ (← renderParts c rest)
end

end Template
end ClientSynth
