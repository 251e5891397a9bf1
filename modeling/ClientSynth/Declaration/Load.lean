import ClientSynth.Declaration.Set
import ClientSynth.Declaration.Text
import ClientSynth.Files.Access

/-! # Loading contract documents -/
namespace ClientSynth
namespace DeclarationSet

open Declaration FileAccess

variable {m : Type → Type} [Monad m] [FileAccess m]

/-- Whether a location is an address on the net and not a path. -/
def isRemote (location : String) : Bool :=
  location.startsWith "http://" || location.startsWith "https://"

/-- The contract document at a location.  There is no way to the net from here. -/
def fetch (location : String) : ExceptT Failure m (String × Contents) := do
  if isRemote location then throw (.contract ("Failed to fetch contracts from " ++ location))
  let text ← orFail (readText ⟨location⟩)
  let contents ← ExceptT.mk (pure (parse text location))
  return (location, contents)

/-- The declarations of the contract documents at the given locations.  They are
read in order, and the first one that cannot be read ends the run. -/
def load (locations : List String) : ExceptT Failure m (Reported DeclarationSet) := do
  return merge (← locations.mapM fetch)

end DeclarationSet
end ClientSynth
