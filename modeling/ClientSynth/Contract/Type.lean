import ClientSynth.Text.Trim

/-! # Declared types

Types are declared as texts in the notation of the generated code.  Reading one
classifies it: `Option<T>` is a nullable `T`, `Vec<T>`, `[T]` and `&[T]` are
sequences that keep their element type, and the rest is told by the bare name,
the last segment of the path without generic arguments. -/
namespace ClientSynth
namespace Contract

/-- What kind of values a type has. -/
inductive Family where
  | text
  | bool
  | char
  | numeric
  /-- A declared enumeration. -/
  | enumeration
  /-- A well-known value type such as a date. -/
  | scalar
  | sequence
  | cancellation
  /-- Any structured type. -/
  | object
  deriving Repr, DecidableEq

/-- Whether values of the family can be read from text in the generated code. -/
def Family.parsesFromText : Family → Bool
  | .text | .bool | .char | .numeric | .scalar => true
  | _ => false

/-- A declared type. -/
inductive DeclaredType where
  /-- `raw` is the type as declared, `base` the same without `Option`, and
  `element` the element type of a sequence. -/
  | mk (raw base : String) (family : Family) (nullable : Bool) (element : Option DeclaredType)
  deriving Repr, BEq

namespace DeclaredType

/-- The type as declared. -/
def raw : DeclaredType → String
  | mk raw _ _ _ _ => raw

/-- The declared type without its `Option`. -/
def base : DeclaredType → String
  | mk _ base _ _ _ => base

/-- What kind of values the type has. -/
def family : DeclaredType → Family
  | mk _ _ family _ _ => family

/-- Whether a value may be absent. -/
def nullable : DeclaredType → Bool
  | mk _ _ _ nullable _ => nullable

/-- The element type of a sequence. -/
def element : DeclaredType → Option DeclaredType
  | mk _ _ _ _ element => element

end DeclaredType

/-- Names of the number types. -/
def numericNames : List String :=
  ["i8", "i16", "i32", "i64", "i128", "isize", "u8", "u16", "u32", "u64", "u128", "usize",
    "f32", "f64"]

/-- Names of the well-known value types. -/
def scalarNames : List String :=
  ["DateTime", "NaiveDate", "NaiveDateTime", "NaiveTime", "Uuid", "Decimal", "Duration"]

/-- The characters in front of the first `::`, or all of `cs` without one. -/
def beforePath : List Char → List Char
  | [] => []
  | ':' :: ':' :: _ => []
  | c :: rest => c :: beforePath rest

/-- What follows the last `::`, or all of `cs` without one. -/
def lastSegment (cs : List Char) : List Char := (beforePath cs.reverse).reverse

/-- `cs` without leading references and the blanks around it. -/
def withoutReference (cs : List Char) : List Char :=
  Text.trim Text.isBlank (cs.dropWhile (fun c => c == '&'))

/-- A lifetime that may stand in front of a borrowed type. -/
def staticLifetime : List Char := "'static ".toList

/-- The bare name of a type: its last path segment without generic arguments. -/
def bareName (cs : List Char) : List Char :=
  let bare := withoutReference cs
  let bare := if staticLifetime.isPrefixOf bare then bare.drop staticLifetime.length else bare
  Text.trim Text.isBlank (lastSegment (Text.beforeFirst (fun c => c == '<') bare))

/-- Family of the type with the given bare name, when it is no sequence. -/
def familyOf (isEnumeration : String → Bool) (name : String) : Family :=
  if name = "String" ∨ name = "str" ∨ name = "Cow" then .text
  else if name = "bool" then .bool
  else if name = "char" then .char
  else if name = "CancellationToken" then .cancellation
  else if numericNames.contains name then .numeric
  else if scalarNames.contains name then .scalar
  else if isEnumeration name then .enumeration
  else .object

/-- The argument of `wrapper<…>`, whatever path stands in front of the wrapper. -/
def genericArgument (wrapper : String) (cs : List Char) : Option (List Char) :=
  let head := Text.beforeFirst (fun c => c == '<') cs
  match cs.drop head.length with
  | [] => none
  | _ :: rest =>
    if String.ofList (bareName head) = wrapper ∧ rest.getLast? = some '>' then
      some (Text.trim Text.isBlank rest.dropLast)
    else none

/-- The element of `[T]` or `&[T]`. -/
def sliceElement (cs : List Char) : Option (List Char) :=
  match withoutReference cs with
  | '[' :: rest =>
    if rest.getLast? = some ']' then some (Text.trim Text.isBlank rest.dropLast) else none
  | _ => none

/-- The element type text of a sequence type. -/
def elementText (cs : List Char) : Option (List Char) :=
  match genericArgument "Vec" cs with
  | some element => some element
  | none => sliceElement cs

theorem length_trim_le (p : Char → Bool) (cs : List Char) : (Text.trim p cs).length ≤ cs.length := by
  have hfront := (List.dropWhile_sublist p (l := cs)).length_le
  have hback := (List.dropWhile_sublist p (l := (cs.dropWhile p).reverse)).length_le
  simp only [Text.trim, Text.trimEnd, List.length_reverse] at *
  omega

theorem length_genericArgument_lt {wrapper : String} {cs inner : List Char}
    (h : genericArgument wrapper cs = some inner) : inner.length < cs.length := by
  simp only [genericArgument] at h
  split at h
  · cases h
  · rename_i c rest hdrop
    split at h
    · cases h
      have h1 := length_trim_le Text.isBlank rest.dropLast
      have h2 := congrArg List.length hdrop
      simp only [List.length_drop, List.length_cons, List.length_dropLast] at *
      omega
    · cases h

theorem length_sliceElement_lt {cs inner : List Char} (h : sliceElement cs = some inner) :
    inner.length < cs.length := by
  unfold sliceElement at h
  split at h
  · rename_i rest hrest
    split at h
    · cases h
      have h1 := length_trim_le Text.isBlank rest.dropLast
      have h2 := congrArg List.length hrest
      have h3 := length_trim_le Text.isBlank (cs.dropWhile (fun c => c == '&'))
      have h4 := (List.dropWhile_sublist (fun c => c == '&') (l := cs)).length_le
      simp only [withoutReference, List.length_cons, List.length_dropLast] at *
      omega
    · cases h
  · cases h

theorem length_elementText_lt {cs inner : List Char} (h : elementText cs = some inner) :
    inner.length < cs.length := by
  unfold elementText at h
  split at h
  · rename_i element helement
    cases h
    exact length_genericArgument_lt helement
  · exact length_sliceElement_lt h

namespace DeclaredType

/-- The type written as `cs`, blanks around it removed.  The argument of a
wrapper is shorter than the type it is taken from, so reading ends. -/
def ofChars (isEnumeration : String → Bool) (cs : List Char) : DeclaredType :=
  let bare := Text.trim Text.isBlank cs
  let raw := String.ofList bare
  match hOption : genericArgument "Option" bare with
  | some inner =>
    have : inner.length < cs.length :=
      Nat.lt_of_lt_of_le (length_genericArgument_lt hOption) (length_trim_le _ _)
    let value := ofChars isEnumeration inner
    mk raw value.base value.family true value.element
  | none =>
    match hElement : elementText bare with
    | some inner =>
      have : inner.length < cs.length :=
        Nat.lt_of_lt_of_le (length_elementText_lt hElement) (length_trim_le _ _)
      mk raw raw .sequence false (some (ofChars isEnumeration inner))
    | none => mk raw raw (familyOf isEnumeration (String.ofList (bareName bare))) false none
  termination_by cs.length

/-- The type written as `s`; `isEnumeration` knows the declared enumerations. -/
def parse (isEnumeration : String → Bool) (s : String) : DeclaredType :=
  ofChars isEnumeration s.toList

/-- The bare name of the type: `chrono::DateTime<Utc>` is `DateTime`. -/
def name (t : DeclaredType) : String := String.ofList (bareName t.base.toList)

/-- Whether the values are text. -/
def isText (t : DeclaredType) : Bool := t.family == .text

/-- Whether the values are sequences. -/
def isSequence (t : DeclaredType) : Bool := t.family == .sequence

/-- Whether the values are floating-point numbers. -/
def isFloat (t : DeclaredType) : Bool := t.base == "f32" || t.base == "f64"

/-- Whether values are passed by reference. -/
def isBorrowed (t : DeclaredType) : Bool := t.base.toList.head? == some '&'

/-- Whether a value can be sent as a single query value. -/
def isSimple (t : DeclaredType) : Bool :=
  t.family != .object && t.family != .sequence && t.family != .cancellation

end DeclaredType
end Contract
end ClientSynth
