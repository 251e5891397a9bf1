import ClientSynth.Layer.Client
import ClientSynth.Layer.Registration

/-! # Layers

The units of code that an interface becomes, layer by layer. -/
namespace ClientSynth
namespace Layer

open Contract

/-- Name of the unit of support code. -/
def supportUnitName : String := "WebApiSupport"

/-- Name of the unit that lists the modules of the others. -/
def indexUnitName : String := "mod"

/-- The units of an interface: the client, then its wrap layer. -/
def interfaceUnits (i : Interface) (options : Options) : Reported (List CodeUnit) :=
  let wrap := wrapUnits i options
  ⟨clientUnit i options :: wrap.value, wrap.log⟩

end Layer
end ClientSynth
