import ClientSynth.Document.Tree
import ClientSynth.Text.Trim
import ClientSynth.Yaml.Scalar

/-! # What a YAML scalar stands for

Plain scalars follow the core schema: a few words are null, true or false, whole
numbers may be decimal, hexadecimal, octal or binary, and the rest is a decimal
number or a text.  A decimal whole number with a leading zero is a text.  Quoted
and block scalars are texts, unless a tag says otherwise. -/
namespace ClientSynth
namespace Yaml

open Document

/-- Start of the tags of the core schema. -/
def coreTag : String := "tag:yaml.org,2002:"

/-- Words for null. -/
def nullWords : List String := ["null", "Null", "NULL", "~"]

/-- The truth value that a word stands for. -/
def boolWord? (s : String) : Option Bool :=
  if s = "true" ∨ s = "True" ∨ s = "TRUE" then some true
  else if s = "false" ∨ s = "False" ∨ s = "FALSE" then some false
  else none

/-- Whether `cs` begins with a sign. -/
def hasSign : List Char → Bool
  | c :: _ => c == '+' || c == '-'
  | [] => false

/-- Whether `cs` is a decimal whole number with a leading zero. -/
def hasLeadingZero (cs : List Char) : Bool :=
  match (if hasSign cs then cs.drop 1 else cs) with
  | '0' :: c :: rest => (c :: rest).all Char.isDigit
  | _ => false

/-- Base and digits of a whole number without a minus sign. -/
def baseAndDigits : List Char → Nat × List Char
  | '0' :: 'x' :: rest => (16, rest)
  | '0' :: 'o' :: rest => (8, rest)
  | '0' :: 'b' :: rest => (2, rest)
  | cs => (10, cs)

/-- A whole number of any size. -/
def wholeNumber? (cs : List Char) : Option Int :=
  if hasLeadingZero cs then none
  else
    match cs with
    | '-' :: rest =>
      let (base, digits) := baseAndDigits rest
      (Numeral.natural? base digits).map (fun n => -Int.ofNat n)
    | _ =>
      let (base, digits) := baseAndDigits (match cs with
        | '+' :: rest => rest
        | _ => cs)
      (Numeral.natural? base digits).map Int.ofNat

/-- A number with a point or an exponent, or a whole number too large to be one;
one that no binary number comes near is none. -/
def realNumber? (cs : List Char) : Option Binary64 :=
  match cs with
  | '+' :: rest => if hasSign rest then none else value? rest
  | _ => value? cs
where
  /-- The number nearest to a decimal. -/
  value? (cs : List Char) : Option Binary64 :=
    (Numeral.decimal? cs).bind (fun d => Binary64.ofDecimal d.negative d.digits d.scale)

/-- Words for infinity and for no number, without the plus sign they may have. -/
def specialWords : List String :=
  [".inf", ".Inf", ".INF", "-.inf", "-.Inf", "-.INF", "+.inf", "+.Inf", "+.INF", ".nan", ".NaN",
    ".NAN"]

/-- Whether a whole number fits a number of 64 bits. -/
def fitsWord (n : Int) : Bool := Word.fits 64 n

/-- Whether a whole number fits one of 128 bits. -/
def fitsDoubleWord (n : Int) : Bool := Word.fits 128 n

/-- What a plain scalar stands for; none for a whole number that is too large for
64 bits but not for 128. -/
def plainAtom (text : List Char) : Option Atom :=
  let s := String.ofList text
  if s.isEmpty || nullWords.contains s then some .null
  else
    match boolWord? s with
    | some b => some (.bool b)
    | none =>
      match (wholeNumber? text).filter fitsDoubleWord with
      | some n => if fitsWord n then some (.number (.integer n)) else none
      | none =>
        if hasLeadingZero text then some (.text s)
        else if specialWords.contains s then some .null
        else
          match realNumber? text with
          | some x => some (.number (.real x))
          | none => some (.text s)

/-- What a scalar with one of the tags of the core schema stands for. -/
def taggedAtom (kind : String) (text : List Char) : Option Atom :=
  let s := String.ofList text
  if kind = "bool" then (boolWord? s).map .bool
  else if kind = "int" then
    ((wholeNumber? text).filter fitsWord).map (fun n => .number (.integer n))
  else if kind = "float" then
    if specialWords.contains s then some .null
    else (realNumber? text).map (fun x => .number (.real x))
  else if kind = "null" then (if nullWords.contains s then some .null else none)
  else some (.text s)

/-- The kind that a tag of the core schema names. -/
def coreKind? (tag : String) : Option String := Text.dropPrefix? coreTag tag

/-- Whether a tag belongs to the document's application. -/
def isLocalTag (tag : String) : Bool := tag.toList.head? == some '!'

/-- What a scalar stands for to a reader without expectation.  A tag of the
application is beyond it. -/
def freeAtom (style : Style) (tag : Option String) (text : List Char) : Option Atom :=
  match tag with
  | none => if style = .plain then plainAtom text else some (.text (String.ofList text))
  | some t =>
    if isLocalTag t then none
    else
      match coreKind? t with
      | some kind => taggedAtom kind text
      | none => some (.text (String.ofList text))

/-- What a scalar stands for to a reader that expects a number or a truth value:
it looks at plain scalars only, and at literal ones with that very tag. -/
def typedAtom (style : Style) (tag : Option String) (text : List Char) : Option Atom :=
  match style, tag.bind coreKind? with
  | .plain, _ => plainAtom text
  | .literal, some kind =>
    if kind = "bool" ∨ kind = "int" then taggedAtom kind text else some (.text (String.ofList text))
  | _, _ => some (.text (String.ofList text))

/-- Whether an optional value is absent: it is a plain null.  A tag for null on
anything else is an error, and any other tag makes the value present. -/
def isAbsent (style : Style) (tag : Option String) (text : List Char) : Option Bool :=
  if style ≠ .plain then some false
  else
    let isNull := nullWords.contains (String.ofList text)
    match tag with
    | none => some (text.isEmpty || isNull)
    | some t => if t = coreTag ++ "null" then (if isNull then some true else none) else some false

/-- The leaf of a scalar. -/
def leafOf (style : Style) (tag : Option String) (text : List Char) : Leaf where
  text := some (String.ofList text)
  typed := typedAtom style tag text
  free := freeAtom style tag text
  absent := isAbsent style tag text

end Yaml
end ClientSynth
