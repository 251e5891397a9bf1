import ClientSynth.Text.Trim

/-! # Paths

A path is kept as it was written.  Its operations look at the segments between
the slashes: empty segments and single dots say nothing, except for a dot at the
very front. -/
namespace ClientSynth

/-- A path. -/
structure Path where
  text : String
  deriving Repr, DecidableEq

namespace Path

/-- The segments of a path, as they are written. -/
def segments (p : Path) : List String := (Text.splitWhere (· == '/') p.text.toList).map String.ofList

/-- Whether a segment behind the first one says nothing. -/
def isIdle (segment : String) : Bool := segment == "" || segment == "."

/-- The segments up to the last one that says something, the first one included. -/
def significant : List String → List String
  | [] => []
  | first :: rest => first :: (rest.reverse.dropWhile isIdle).reverse

/-- The path written with the given segments; an empty one in front is the root. -/
def ofSegments : List String → Path
  | [""] => ⟨"/"⟩
  | segments => ⟨Text.joined "/" segments⟩

/-- Whether the path starts at the root. -/
def isAbsolute (p : Path) : Bool := p.text.startsWith "/"

/-- The last segment, unless it is a step up or the path has none. -/
def fileName? (p : Path) : Option String :=
  match (significant p.segments).getLast? with
  | none | some "" | some "." | some ".." => none
  | some name => some name

/-- The path without its last segment. -/
def parent? (p : Path) : Option Path :=
  match significant p.segments with
  | [] => none
  | [first] => if first = "" then none else some ⟨""⟩
  | first :: rest => some (ofSegments (significant (first :: rest.dropLast)))

/-- What follows the last dot of the file name; a dot in front does not count. -/
def extension? (p : Path) : Option String :=
  match p.fileName? with
  | none => none
  | some name =>
    let behind := name.toList.reverse.takeWhile (· != '.')
    if name.toList.length ≤ behind.length + 1 then none
    else some (String.ofList behind.reverse)

/-- `q` seen from `p`. -/
def join (p : Path) (q : String) : Path :=
  if q.startsWith "/" then ⟨q⟩
  else if p.text.isEmpty || p.text.endsWith "/" then ⟨p.text ++ q⟩
  else ⟨p.text ++ "/" ++ q⟩

/-- How often the parent of a path can be taken, at most. -/
def height (p : Path) : Nat := p.segments.length

/-- The path, its parent, the parent of that, and so on, `n` times at most. -/
def chain : Nat → Path → List Path
  | 0, p => [p]
  | n + 1, p =>
    match p.parent? with
    | none => [p]
    | some q => p :: chain n q

/-- The path, its parent, the parent of that, and so on. -/
def ancestors (p : Path) : List Path := chain p.height p

end Path
end ClientSynth
