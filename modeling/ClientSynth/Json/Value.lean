import ClientSynth.Number.Numeral

/-! # JSON values

Values as the generator passes them around: argument values of annotations,
default values of parameters, answers.  The members of an object are kept in
the order of their names and no name occurs twice, so two values are the same
exactly if they are written the same. -/
namespace ClientSynth
namespace Json

/-- A JSON value. -/
inductive Value where
  | null
  | bool (value : Bool)
  | number (value : Number)
  | text (value : String)
  | list (items : List Value)
  | object (members : List (String × Value))
  deriving Repr, BEq

/-- `members` with the value of `name` set to `value`, in the order of the names. -/
def insertMember (name : String) (value : Value) : List (String × Value) → List (String × Value)
  | [] => [(name, value)]
  | (other, v) :: rest =>
    if name = other then (name, value) :: rest
    else if name < other then (name, value) :: (other, v) :: rest
    else (other, v) :: insertMember name value rest

namespace Value

/-- The object with the given members; of two with one name the later counts. -/
def ofMembers (members : List (String × Value)) : Value :=
  .object (members.foldl (fun acc m => insertMember m.1 m.2 acc) [])

/-- The number of a whole number. -/
def ofInt (n : Int) : Value := .number (.integer n)

/-- The number of a natural number. -/
def ofNat (n : Nat) : Value := .number (.integer (Int.ofNat n))

/-- A text, or `null` for none. -/
def ofText? (s : Option String) : Value := (s.map Value.text).getD .null

/-- The list of the given texts. -/
def ofTexts (items : List String) : Value := .list (items.map Value.text)

/-- The members of an object; other values have none. -/
def members : Value → List (String × Value)
  | .object members => members
  | _ => []

/-- The items of a list; other values have none. -/
def items : Value → List Value
  | .list items => items
  | _ => []

/-- The member `name` of an object. -/
def get? (value : Value) (name : String) : Option Value := value.members.lookup name

/-- Whether the value is `null`. -/
def isNull : Value → Bool
  | .null => true
  | _ => false

/-- The text, if the value is one. -/
def text? : Value → Option String
  | .text s => some s
  | _ => none

/-- The truth value, if the value is one. -/
def bool? : Value → Option Bool
  | .bool b => some b
  | _ => none

end Value
end Json
end ClientSynth
