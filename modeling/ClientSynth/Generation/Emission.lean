import ClientSynth.Code.Render
import ClientSynth.Layer
import ClientSynth.Output
import ClientSynth.Settings
import ClientSynth.Template.Set

/-! # Emission

Units of code become files of the output.  All units of an interface are rendered
before the first one is emitted; an interface with a unit that cannot be rendered
or whose file name is taken has failed, and the others go on. -/
namespace ClientSynth

open Diagnostic (Location)

/-- What turns units of code into files. -/
structure Emitter where
  templates : Template.Set
  options : Layer.Options
  /-- What every unit imports. -/
  imports : List String

/-- The imports that every unit has. -/
def standardImports : List String :=
  ["std::sync::Arc", "std::time::Duration", "async_trait::async_trait"]

/-- Imports with those of `more` that are not among them yet, in order. -/
def withImports (imports : List String) : List String → List String
  | [] => imports
  | i :: more => withImports (if imports.contains i then imports else imports ++ [i]) more

namespace Emitter

/-- The emitter of a run. -/
def ofSettings (s : Settings) (templates : Template.Set) : Emitter :=
  ⟨templates, s.layerOptions, withImports standardImports s.imports⟩

/-- The file of a unit. -/
def file (e : Emitter) (u : CodeUnit) : Except Failure GeneratedUnit := do
  let text ← e.templates.renderUnit u.name u.source e.imports (Code.render u.items)
  return ⟨u.name, Code.Identifier.fileName u.name, text⟩

end Emitter

/-- An output after an emission, and why the emission stopped if it did. -/
structure Emitted where
  output : Output
  failure : Option Failure
  deriving Repr

/-- Emit files one after another, up to the first that is refused. -/
def Output.emitAll (o : Output) : List GeneratedUnit → Emitted
  | [] => ⟨o, none⟩
  | u :: rest =>
    match o.emit u with
    | .ok next => next.emitAll rest
    | .error f => ⟨o, some f⟩

/-- Emit a single file. -/
def Output.emitOne (o : Output) (file : Except Failure GeneratedUnit) : Emitted :=
  match file with
  | .ok u => o.emitAll [u]
  | .error f => ⟨o, some f⟩

namespace Emitter

/-- Emit the files of the given units, after all of them have been rendered. -/
def emitUnits (e : Emitter) (o : Output) (units : List CodeUnit) : Emitted :=
  match units.mapM e.file with
  | .ok files => o.emitAll files
  | .error f => ⟨o, some f⟩

/-- Emit an interface. -/
def emitInterface (e : Emitter) (o : Output) (i : Contract.Interface) : Reported Emitted := do
  let units ← Layer.interfaceUnits i e.options
  return e.emitUnits o units

/-- Emit interfaces one after another: the output, and the failure of each. -/
def emitInterfaces (e : Emitter) (o : Output) :
    List Contract.Interface → Reported (Output × List (Contract.Interface × Option Failure))
  | [] => .silent (o, [])
  | i :: rest => do
    let first ← e.emitInterface o i
    let (final, others) ← e.emitInterfaces first.output rest
    return (final, (i, first.failure) :: others)

/-- The report that the units of `name` failed. -/
def generationFailed (name : String) (f : Failure) (location : Location) : Diagnostic :=
  .error .generationFailed ("generation of '" ++ name ++ "' failed: " ++ f.display) location

/-- The report that an interface failed. -/
def interfaceFailed (i : Contract.Interface) (f : Failure) : Diagnostic :=
  generationFailed i.name f ⟨i.source, i.name⟩

/-- The output of an emission; a failure of the unit `name` is reported. -/
def settle (name : String) (emitted : Emitted) : Reported Output :=
  ⟨emitted.output, (emitted.failure.map (fun f => generationFailed name f ⟨"", name⟩)).toList⟩

/-- Emit the unit that registers the clients. -/
def emitRegistration (e : Emitter) (o : Output) (interfaces : List Contract.Interface) :
    Reported Output :=
  match Layer.registrationUnit interfaces e.options with
  | none => .silent o
  | some u => settle u.name (o.emitOne (e.file u))

/-- The file of a unit that is made from a template alone. -/
def plainFile (name : String) (text : Except Failure String) : Except Failure GeneratedUnit :=
  text.map (fun t => ⟨name, Code.Identifier.fileName name, t⟩)

/-- Emit the support unit. -/
def emitSupport (e : Emitter) (o : Output) : Reported Output :=
  settle Layer.supportUnitName
    (o.emitOne (plainFile Layer.supportUnitName e.templates.renderSupport))

/-- The modules that the index lists. -/
def listedModules (o : Output) : List String :=
  (o.units.filter (fun u => u.name != Layer.indexUnitName)).map (fun u =>
    Code.Identifier.moduleName u.name)

/-- Emit the unit that lists the modules. -/
def emitIndex (e : Emitter) (o : Output) : Reported Output :=
  settle Layer.indexUnitName
    (o.emitOne (plainFile Layer.indexUnitName (e.templates.renderIndex (listedModules o))))

/-- The end of a run, when every interface has been emitted or has failed.  Only
now is a failure reported. -/
def conclude (e : Emitter) (s : Settings) (o : Output)
    (results : List (Contract.Interface × Option Failure)) :
    Reported (Output × List Contract.Interface) := do
  let failures := results.filterMap (fun r => r.2.map (interfaceFailed r.1))
  let emitted := results.filterMap (fun r => if r.2.isNone then some r.1 else none)
  let _ ← (⟨(), failures⟩ : Reported Unit)
  let o ← e.emitRegistration o emitted
  let o ← if s.emitsSupport then e.emitSupport o else pure o
  let o ← if s.emitsIndex then e.emitIndex o else pure o
  return (o, emitted)

/-- The output of a run and the interfaces that are in it. -/
def emit (e : Emitter) (s : Settings) (contracts : List Contract.Interface) :
    Reported (Output × List Contract.Interface) := do
  let (o, results) ← e.emitInterfaces .empty contracts
  e.conclude s o results

end Emitter
end ClientSynth
