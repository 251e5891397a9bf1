import ClientSynth.Contract.Resolution
import ClientSynth.Declaration.Load
import ClientSynth.Generation.Emission
import ClientSynth.Generation.Report
import ClientSynth.Hook.Run

/-! # Generation

A run: load the contract documents, resolve the selected interfaces, emit their
units, and write the files between the hooks of the templates. -/
namespace ClientSynth

open FileAccess

variable {m : Type → Type} [Monad m] [FileAccess m]

/-- The contracts of the interfaces that the settings select. -/
def Settings.contracts (s : Settings) : ExceptT Failure m (Reported (List Contract.Interface)) := do
  let set ← DeclarationSet.load s.contractPaths
  return set >>= fun declarations => Contract.resolveAll declarations s.selects

/-- Resolve the contracts and generate nothing. -/
def check (s : Settings) : ExceptT Failure m Report := do
  let contracts ← s.contracts
  return ⟨contracts.value.map (fun c => c.name), [], [], contracts.log⟩

/-- Write files into an existing directory; the paths that were written. -/
def writeFiles (directory : Path) : List GeneratedUnit → ExceptT Failure m (List Path)
  | [] => return []
  | u :: rest => do
    let p := directory.join u.fileName
    orFail (writeText p u.text)
    return p :: (← writeFiles directory rest)

/-- Write the files of an output below a directory, which is created if need be. -/
def Output.write (o : Output) (directory : Path) : ExceptT Failure m (List Path) := do
  orFail (makeDirectories directory)
  writeFiles directory o.units

/-- Write the files of an output between the hooks. -/
def Output.writeWithHooks (o : Output) (directory : Path) (hooks : Template.Hooks) :
    ExceptT Failure m (List Path) := do
  orFail (makeDirectories directory)
  Hook.runAll "pre-generation" directory hooks.before
  let written ← o.write directory
  Hook.runAll "post-generation" directory hooks.after
  return written

/-- Generate the clients of the selected interfaces.  A dry run writes nothing and
runs no hooks. -/
def generate (s : Settings) (isDry : Bool) : ExceptT Failure m Report := do
  let contracts ← s.contracts
  let kind ← ExceptT.mk (pure s.kind)
  let templates ← Template.Set.load kind (s.templateDirectory.map Path.mk)
  let emission := contracts >>= (Emitter.ofSettings s templates).emit s
  let (output, emitted) := emission.value
  let written ← if isDry then pure []
    else output.writeWithHooks ⟨s.outputDirectory⟩ templates.manifest.hooks
  return ⟨emitted.map (fun c => c.name), output.units, written, emission.log⟩

end ClientSynth
