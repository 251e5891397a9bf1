/-! # Writing lines of code

A writer holds the text so far and the level that the next line is indented
to. -/
namespace ClientSynth
namespace Code

/-- Indentation of a line `level` levels deep: four spaces per level. -/
def indentation (level : Nat) : String := String.ofList (List.replicate (4 * level) ' ')

/-- Text being written. -/
structure Writer where
  /-- Level of the next line. -/
  level : Nat
  /-- What has been written. -/
  text : String
  deriving Repr, DecidableEq

namespace Writer

/-- Nothing written yet. -/
def empty : Writer := ⟨0, ""⟩

/-- An empty line. -/
def blank (w : Writer) : Writer := { w with text := w.text ++ "\n" }

/-- A line; an empty one is not indented. -/
def line (w : Writer) (s : String) : Writer :=
  if s.isEmpty then w.blank else { w with text := w.text ++ indentation w.level ++ s ++ "\n" }

/-- One level deeper. -/
def indent (w : Writer) : Writer := { w with level := w.level + 1 }

/-- One level less deep, but never above the outermost. -/
def dedent (w : Writer) : Writer := { w with level := w.level - 1 }

/-- Lines between an opening and a closing one, one level deeper. -/
def nested (w : Writer) (opening : String) (inside : Writer → Writer) (closing : String) : Writer :=
  ((inside (w.line opening).indent).dedent).line closing

/-- Several parts, with an empty line between neighbours. -/
def separated {α : Type} (write : Writer → α → Writer) (w : Writer) : List α → Writer
  | [] => w
  | a :: rest => rest.foldl (fun w b => write w.blank b) (write w a)

@[simp] theorem level_blank (w : Writer) : w.blank.level = w.level := rfl

@[simp] theorem level_line (w : Writer) (s : String) : (w.line s).level = w.level := by
  unfold line; split <;> rfl

@[simp] theorem level_indent (w : Writer) : w.indent.level = w.level + 1 := rfl

@[simp] theorem level_dedent (w : Writer) : w.dedent.level = w.level - 1 := rfl

end Writer
end Code
end ClientSynth
