import ClientSynth.Json.Value

/-! # Diagnostics

Problems found while resolving and emitting declarations.  A problem with one
declaration never stops the others: it is reported and the run goes on.
`Reported` is a value together with what was reported on the way to it, in
order. -/
namespace ClientSynth
namespace Diagnostic

/-- What a diagnostic is about. -/
inductive Code where
  /-- An interface without any usable method. -/
  | noHttpMethods
  /-- A method without a verb. -/
  | missingVerb
  /-- An argument or member that cannot be resolved. -/
  | unresolvedMember
  /-- An ancestor that is not declared. -/
  | unknownAncestor
  /-- A second method of the same name. -/
  | duplicateMethod
  /-- A placeholder of a URL that no path parameter fills. -/
  | unmatchedPlaceholder
  /-- An expanded method whose name is taken. -/
  | expansionCollision
  /-- A second body parameter. -/
  | multipleBodies
  /-- A wrap descriptor that says too little. -/
  | wrapMetadata
  /-- A declaration that could not be emitted. -/
  | generationFailed
  /-- A second declaration of the same name. -/
  | duplicateDeclaration
  deriving Repr, DecidableEq

namespace Code

/-- Every code, in order of its number. -/
def all : List Code :=
  [.noHttpMethods, .missingVerb, .unresolvedMember, .unknownAncestor, .duplicateMethod,
    .unmatchedPlaceholder, .expansionCollision, .multipleBodies, .wrapMetadata,
    .generationFailed, .duplicateDeclaration]

/-- The code as it is shown. -/
def text : Code → String
  | noHttpMethods => "WAG001"
  | missingVerb => "WAG002"
  | unresolvedMember => "WAG003"
  | unknownAncestor => "WAG004"
  | duplicateMethod => "WAG005"
  | unmatchedPlaceholder => "WAG006"
  | expansionCollision => "WAG007"
  | multipleBodies => "WAG008"
  | wrapMetadata => "WAG009"
  | generationFailed => "WAG010"
  | duplicateDeclaration => "WAG011"

end Code

/-- How bad a problem is. -/
inductive Severity where
  | info
  | warning
  | error
  deriving Repr, DecidableEq

/-- The severity as it is shown. -/
def Severity.text : Severity → String
  | info => "info"
  | warning => "warning"
  | error => "error"

/-- Where a problem is. -/
structure Location where
  /-- Where the declaring document came from. -/
  source : String
  /-- The declared symbol, with dots between its parts. -/
  symbol : String
  deriving Repr, DecidableEq

/-- The location as it is shown; an empty source is left out. -/
def Location.display (l : Location) : String :=
  if l.source.isEmpty then l.symbol else l.source ++ ": " ++ l.symbol

end Diagnostic

open Diagnostic in
/-- A reported problem. -/
structure Diagnostic where
  code : Code
  severity : Severity
  message : String
  location : Location
  deriving Repr, DecidableEq

namespace Diagnostic

/-- A warning. -/
def warning (code : Code) (message : String) (location : Location) : Diagnostic :=
  ⟨code, .warning, message, location⟩

/-- An error. -/
def error (code : Code) (message : String) (location : Location) : Diagnostic :=
  ⟨code, .error, message, location⟩

/-- The diagnostic as it is shown. -/
def display (d : Diagnostic) : String :=
  d.location.display ++ " " ++ d.severity.text ++ "[" ++ d.code.text ++ "]: " ++ d.message

/-- How many diagnostics have the given severity. -/
def count (log : List Diagnostic) (severity : Severity) : Nat :=
  (log.filter (fun d => d.severity == severity)).length

/-- Whether some diagnostic is an error. -/
def hasErrors (log : List Diagnostic) : Bool := decide (0 < count log .error)

end Diagnostic

/-- A value together with the diagnostics reported on the way to it. -/
structure Reported (α : Type) where
  /-- The value. -/
  value : α
  /-- What was reported, in order. -/
  log : List Diagnostic
  deriving Repr

namespace Reported

variable {α β : Type}

/-- A value with nothing to report. -/
def silent (a : α) : Reported α := ⟨a, []⟩

/-- A report without a value. -/
def report (d : Diagnostic) : Reported Unit := ⟨(), [d]⟩

instance : Monad Reported where
  pure := silent
  bind x f := ⟨(f x.value).value, x.log ++ (f x.value).log⟩

instance : LawfulMonad Reported := LawfulMonad.mk' Reported
  (fun x => congrArg (Reported.mk x.value) (List.append_nil x.log))
  (fun _ _ => rfl)
  (fun x _ _ => congrArg (Reported.mk _) (List.append_assoc x.log _ _))

@[simp] theorem value_pure (a : α) : (pure a : Reported α).value = a := rfl

@[simp] theorem log_pure (a : α) : (pure a : Reported α).log = [] := rfl

@[simp] theorem value_bind (x : Reported α) (f : α → Reported β) :
    (x >>= f).value = (f x.value).value := rfl

@[simp] theorem log_bind (x : Reported α) (f : α → Reported β) :
    (x >>= f).log = x.log ++ (f x.value).log := rfl

@[simp] theorem value_map (f : α → β) (x : Reported α) : (f <$> x).value = f x.value := rfl

@[simp] theorem log_map (f : α → β) (x : Reported α) : (f <$> x).log = x.log :=
  List.append_nil x.log

/-- The results of `f` on every item, in order. -/
def each (f : α → Reported β) : List α → Reported (List β)
  | [] => silent []
  | a :: rest => ⟨(f a).value :: (each f rest).value, (f a).log ++ (each f rest).log⟩

@[simp] theorem value_each (f : α → Reported β) (l : List α) :
    (each f l).value = l.map (fun a => (f a).value) := by
  induction l with
  | nil => rfl
  | cons a rest ih => simp [each, ih]

@[simp] theorem log_each (f : α → Reported β) (l : List α) :
    (each f l).log = l.flatMap (fun a => (f a).log) := by
  induction l with
  | nil => rfl
  | cons a rest ih => simp [each, ih]

/-- The items for which `f` has a result, in order. -/
def eachSome (f : α → Reported (Option β)) (l : List α) : Reported (List β) :=
  ⟨(each f l).value.filterMap id, (each f l).log⟩

end Reported
end ClientSynth
