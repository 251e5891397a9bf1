import ClientSynth.Contract
import ClientSynth.Diagnostic

/-! # Wrap methods

The methods of a wrap layer.  They leave out the token parameters and acquire
the tokens themselves.  A method with a token of either scope becomes two, one
per scope, told apart by an infix in the name. -/
namespace ClientSynth
namespace Layer

open Contract Diagnostic

/-- A token to be acquired, with its concrete scope. -/
structure TokenSlot where
  parameter : Parameter
  scope : Scope
  deriving Repr

/-- A method of a wrap layer. -/
structure WrapMethod where
  /-- Name, with a scope infix for an expanded method. -/
  name : String
  /-- The client method it forwards to. -/
  target : Method
  parameters : List Parameter
  tokens : List TokenSlot
  deriving Repr

/-- The slot of a token parameter, with `both` in place of either scope. -/
def tokenSlot (both : Option Scope) (p : Parameter) : Option TokenSlot :=
  match p.role with
  | .token .both _ => both.map (fun s => ⟨p, s⟩)
  | .token scope _ => some ⟨p, scope⟩
  | _ => none

/-- The slots of a method's tokens. -/
def tokenSlots (m : Method) (both : Option Scope) : List TokenSlot :=
  m.tokens.filterMap (tokenSlot both)

/-- The parameters that a wrap method keeps. -/
def openParameters (m : Method) : List Parameter := m.parameters.filter (fun p => !p.role.isToken)

/-- Whether a method has a token of either scope. -/
def hasBothToken (m : Method) : Bool := m.tokens.any (fun p => p.role.isBothToken)

/-- The wrap methods of one method. -/
def expandMethod (m : Method) : List WrapMethod :=
  if hasBothToken m then
    Scope.both.concrete.map (fun s =>
      ⟨Naming.withScope m.name s.name, m, openParameters m, tokenSlots m (some s)⟩)
  else [⟨m.name, m, openParameters m, tokenSlots m none⟩]

/-- The report that the name of an expanded method is taken. -/
def expansionCollision (i : Interface) (w : WrapMethod) : Diagnostic :=
  .warning .expansionCollision
    ("expanding '" ++ w.target.name ++ "' produces '" ++ w.name ++
      "', which already exists; the method is skipped")
    ⟨i.source, i.name ++ "." ++ w.target.name⟩

/-- The methods that a wrap layer covers. -/
def wrappedMethods (i : Interface) : List Method := i.methods.filter (fun m => !m.ignoreWrap)

/-- The candidates that can stay; `taken` holds the function names in use.  Only
an expanded method can collide: it is then reported and dropped. -/
def settle (i : Interface) (taken : List String) : List (Bool × WrapMethod) → Reported (List WrapMethod)
  | [] => .silent []
  | (isExpanded, w) :: rest =>
    let name := Text.snakeCase w.name
    if isExpanded && taken.contains name then
      let tail := settle i taken rest
      ⟨tail.value, expansionCollision i w :: tail.log⟩
    else
      let tail := settle i (if isExpanded then name :: taken else taken) rest
      ⟨w :: tail.value, tail.log⟩

/-- The wrap methods of one method, each with whether it comes from an expansion. -/
def candidates (m : Method) : List (Bool × WrapMethod) :=
  (expandMethod m).map (fun w => (decide (1 < (expandMethod m).length), w))

/-- The wrap methods of an interface. -/
def expandInterface (i : Interface) : Reported (List WrapMethod) :=
  settle i ((wrappedMethods i).map Method.functionName) ((wrappedMethods i).flatMap candidates)

end Layer
end ClientSynth
