import ClientSynth.Files.Access
import ClientSynth.Settings

/-! # Settings files -/
namespace ClientSynth
namespace Settings

open FileAccess

variable {m : Type → Type} [Monad m] [FileAccess m]

/-- The settings of a file.  The file is read before its extension is looked at. -/
def load (p : Path) : ExceptT Failure m Settings := do
  let text ← orFail (readText p)
  let format ← ExceptT.mk (pure (Format.of p))
  ExceptT.mk (pure (parse format text))

/-- Write settings to a file. -/
def save (s : Settings) (p : Path) : ExceptT Failure m Unit := do
  let format ← ExceptT.mk (pure (Format.of p))
  orFail (writeText p (s.render format))

end Settings
end ClientSynth
