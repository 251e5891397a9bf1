import ClientSynth.Contract.Classification
import ClientSynth.Contract.Default
import ClientSynth.Contract.Placeholder
import ClientSynth.Declaration.InheritedMethod
import ClientSynth.Declaration.Lineage
import ClientSynth.Failure

/-! # Contracts of declarations

Turns declared interfaces into contracts.  A method or an interface that cannot
be turned into one is reported and left out; the rest goes on. -/
namespace ClientSynth
namespace Contract

open Declaration (InheritedMethod)
open Diagnostic (Location)

/-- Names of the annotation that makes an interface a client. -/
def clientAnnotations : List String := ["HttpClientApi"]

/-- Names of the annotation that asks for a wrap layer. -/
def wrapAnnotations : List String := ["WrapApi", "HttpClientApiWrap"]

/-- Names of the annotation that gives a method's content type. -/
def contentTypeAnnotations : List String := ["ContentType"]

/-- The client descriptor of an annotation. -/
def clientDescriptor (a : Annotation) : Except Annotation.BadArgument ClientDescriptor := do
  let baseAddress ← a.textArgument 0 "base_address"
  let timeoutSeconds ← a.namedNatural "timeout"
  let contentType ← a.namedText "content_type"
  let registryGroup ← a.namedText "registry_group"
  let isAbstract ← a.namedBool "abstract"
  let tokenManager ← a.namedText "token_manage"
  return ⟨baseAddress, timeoutSeconds, contentType, registryGroup, isAbstract.getD false,
    tokenManager⟩

/-- The wrap descriptor of an annotation. -/
def wrapDescriptor (a : Annotation) : Except Annotation.BadArgument WrapDescriptor := do
  let name ← a.textArgument 0 "name"
  let tokenManager ← a.namedText "token_manage"
  return ⟨name, tokenManager⟩

/-- The first annotation of a method that declares a verb. -/
def verb? (m : Declaration.Method) : Option (Verb × Annotation) :=
  m.annotations.findSome? (fun a => (Verb.ofLabel a.name).map (fun v => (v, a)))

/-- The type a result declares; a blank one and the unit type are none. -/
def declaredResult? (r : Declaration.Result) : Option String :=
  (r.type.map Text.stripBlanks).filter (fun t => !t.isEmpty && t != "()")

/-- The result of a method. -/
def returnsOf (set : DeclarationSet) : Option Declaration.Result → Except String Returns
  | none => .ok .asyncVoid
  | some r =>
    match r.isAsync, declaredResult? r with
    | true, some t => .ok (.async (.parse set.isEnumeration t))
    | true, none => .ok .asyncVoid
    | false, some t => .ok (.sync (.parse set.isEnumeration t))
    | false, none => .error "a synchronous method must declare its result type"

/-- The contract of one parameter. -/
def parameterOf (set : DeclarationSet) (p : Declaration.Parameter) : Except RoleError Parameter :=
  let type := DeclaredType.parse set.isEnumeration p.type
  (Role.classify p type).map (fun role =>
    ⟨p.name, type, role,
      p.default.map (fun v => Literal.ofDefault v type (set.enumeration? type.name))⟩)

/-- The explanation that a parameter has no role. -/
def parameterError (p : Declaration.Parameter) (e : RoleError) : String :=
  "parameter '" ++ p.name ++ "': " ++ e.message

/-- The contracts of parameters, none of which may have a name in `seen` or of
one before it. -/
def parametersOf (set : DeclarationSet) (seen : List String) :
    List Declaration.Parameter → Except String (List Parameter)
  | [] => .ok []
  | p :: rest =>
    if seen.contains p.name then .error ("parameter '" ++ p.name ++ "' is declared twice")
    else do
      let first ← (parameterOf set p).mapError (parameterError p)
      let others ← parametersOf set (p.name :: seen) rest
      return first :: others

/-- The parts of a method that its verb annotation and its declaration give. -/
structure Outline where
  urlTemplate : String
  returns : Returns
  parameters : List Parameter

/-- The outline of a method whose verb annotation is `a`. -/
def outline (set : DeclarationSet) (m : Declaration.Method) (a : Annotation) :
    Except String Outline := do
  let url ← (a.textArgument 0 "url").mapError Annotation.BadArgument.message
  let returns ← returnsOf set m.returns
  let parameters ← parametersOf set [] m.parameters
  return ⟨url.getD "", returns, parameters⟩

/-- Content type given on a method. -/
def contentTypeOf (m : Declaration.Method) : Except String (Option String) :=
  match m.annotated? contentTypeAnnotations with
  | none => .ok none
  | some a => (a.textArgument 0 "content_type").mapError Annotation.BadArgument.message

/-- The report that a method has no verb. -/
def missingVerb (m : InheritedMethod) : Diagnostic :=
  .warning .missingVerb
    ("method '" ++ m.method.name ++ "' has no HTTP verb annotation and is not implemented")
    m.location

/-- The report that a method has `count` bodies. -/
def multipleBodies (m : InheritedMethod) (count : Nat) : Diagnostic :=
  .warning .multipleBodies
    ("method '" ++ m.method.name ++ "' declares " ++ toString count ++
      " body parameters and is skipped")
    m.location

/-- The report that nothing fills a placeholder. -/
def unmatchedPlaceholder (m : InheritedMethod) (template name : String) : Diagnostic :=
  .warning .unmatchedPlaceholder
    ("placeholder '\x7b" ++ name ++ "\x7d' of '" ++ template ++
      "' has no path parameter and is sent as written")
    m.location

/-- The contract of a method: none for one without a verb or with several bodies,
which is reported, and an explanation for one that cannot be resolved. -/
def resolveMethod (set : DeclarationSet) (m : InheritedMethod) :
    Reported (Except String (Option Method)) :=
  match verb? m.method with
  | none => ⟨.ok none, [missingVerb m]⟩
  | some (verb, annotation) =>
    match outline set m.method annotation with
    | .error e => .silent (.error e)
    | .ok o =>
      let bodies := (o.parameters.filter (fun p => p.role.isBody)).length
      if 1 < bodies then ⟨.ok none, [multipleBodies m bodies]⟩
      else if 1 < (o.parameters.filter (fun p => p.role.isBothToken)).length then
        .silent (.error "only one token parameter may use the Both scope")
      else
        let log := (unmatchedPlaceholders o.urlTemplate o.parameters).map
          (unmatchedPlaceholder m o.urlTemplate)
        match contentTypeOf m.method with
        | .error e => ⟨.error e, log⟩
        | .ok contentType =>
          ⟨.ok (some
            { name := m.method.name
              verb := verb
              urlTemplate := o.urlTemplate
              returns := o.returns
              parameters := o.parameters
              contentType := contentType
              ignoreImplementation := m.method.isAnnotated "IgnoreImplementation"
              ignoreWrap := m.method.isAnnotated "IgnoreWrap"
              declaredIn := m.owner.name }), log⟩

/-- The report that a symbol cannot be resolved. -/
def unresolved (symbol message : String) (location : Location) : Diagnostic :=
  .error .unresolvedMember (Failure.resolution symbol message).display location

/-- The contract of a method, with a failure turned into a report. -/
def keepMethod (set : DeclarationSet) (m : InheritedMethod) : Reported (Option Method) :=
  let result := resolveMethod set m
  match result.value with
  | .ok method => ⟨method, result.log⟩
  | .error e => ⟨none, result.log ++ [unresolved m.symbol e m.location]⟩

/-- The report that an interface has no usable method. -/
def noHttpMethods (i : Declaration.Interface) : Diagnostic :=
  .warning .noHttpMethods
    ("interface '" ++ i.name ++ "' has no method with a recognized HTTP verb")
    ⟨i.source, i.name⟩

/-- The wrap descriptor of an interface; one that cannot be read is reported. -/
def wrapOf (i : Declaration.Interface) : Reported (Option WrapDescriptor) :=
  match i.annotated? wrapAnnotations with
  | none => .silent none
  | some a =>
    match wrapDescriptor a with
    | .ok w => .silent (some w)
    | .error e =>
      ⟨none, [.warning .wrapMetadata
        ("wrap layer of '" ++ i.name ++ "' is skipped: " ++ e.message) ⟨i.source, i.name⟩]⟩

/-- The contract of a client interface whose client descriptor is known. -/
def resolveClient (set : DeclarationSet) (i : Declaration.Interface) (client : ClientDescriptor) :
    Reported (Option Interface) := do
  let wrap ← wrapOf i
  let interfaces ← set.lineage i
  let collected ← InheritedMethod.collect interfaces
  let methods ← Reported.eachSome (keepMethod set) collected
  if methods.isEmpty then ⟨none, [noHttpMethods i]⟩
  else return some ⟨i.name, i.source, (interfaces.drop 1).map Declaration.Interface.name, methods,
    client, wrap⟩

/-- The contract of an interface: none for one that is no client, an abstract one
and one without any usable method; an explanation for one whose client
descriptor cannot be read. -/
def resolveInterface (set : DeclarationSet) (i : Declaration.Interface) :
    Reported (Except String (Option Interface)) :=
  match i.annotated? clientAnnotations with
  | none => .silent (.ok none)
  | some a =>
    match clientDescriptor a with
    | .error e => .silent (.error e.message)
    | .ok client =>
      if client.isAbstract then .silent (.ok none)
      else
        let result := resolveClient set i client
        ⟨.ok result.value, result.log⟩

/-- The contract of an interface, with a failure turned into a report. -/
def keepInterface (set : DeclarationSet) (i : Declaration.Interface) : Reported (Option Interface) :=
  let result := resolveInterface set i
  match result.value with
  | .ok contract => ⟨contract, result.log⟩
  | .error e => ⟨none, result.log ++ [unresolved i.name e ⟨i.source, i.name⟩]⟩

/-- The contracts of all client interfaces whose names `select` accepts, in the
order of their declarations. -/
def resolveAll (set : DeclarationSet) (select : String → Bool) : Reported (List Interface) :=
  Reported.eachSome (keepInterface set) (set.interfaces.filter (fun i => select i.name))

end Contract
end ClientSynth
