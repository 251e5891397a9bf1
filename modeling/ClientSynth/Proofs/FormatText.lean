import ClientSynth.Code

/-! # Reading formatted text

What a string literal and a formatting expression stand for: a text whose
stretches are characters and holes.  In a template `\x7b\x7b` is an opening brace and
`\x7d\x7d` a closing one, every other pair of braces is a hole that takes the next
argument, and a brace on its own is an error, as is an argument that no hole
takes. -/
namespace ClientSynth
namespace Code

/-- A stretch of a formatted text. -/
inductive Piece where
  /-- A character as it stands. -/
  | char (c : Char)
  /-- An argument and how it is shown; without `spec`, as it displays. -/
  | hole (spec : Option String) (argument : Expr)

namespace Piece

/-- The argument of a hole. -/
def argument? : Piece → Option Expr
  | char _ => none
  | hole _ argument => some argument

/-- The text between the braces of a hole. -/
def holeChars : Option String → List Char
  | none => []
  | some spec => ':' :: spec.toList

/-- What stands between the braces of a hole, read; a name is none that takes the
next argument. -/
def readSpec : List Char → Option (Option String)
  | [] => some none
  | ':' :: spec => some (some (String.ofList spec))
  | _ => none

@[simp] theorem readSpec_holeChars (spec : Option String) :
    readSpec (holeChars spec) = some spec := by
  cases spec with
  | none => rfl
  | some s => simp [holeChars, readSpec]

end Piece

namespace FormatText

/-- Where a reader of a template stands. -/
inductive Mode where
  | text
  /-- After a closing brace outside holes. -/
  | closing
  /-- After an opening brace and the characters `inside`. -/
  | opened (inside : List Char)

/-- The pieces of a template with the given arguments. -/
def read : Mode → List Char → List Expr → Option (List Piece)
  | .text, [], args => if args = [] then some [] else none
  | .closing, [], _ => none
  | .opened _, [], _ => none
  | .text, c :: rest, args =>
    if c = '\x7b' then read (.opened []) rest args
    else if c = '\x7d' then read .closing rest args
    else (read .text rest args).map (.char c :: ·)
  | .closing, c :: rest, args =>
    if c = '\x7d' then (read .text rest args).map (.char c :: ·) else none
  | .opened inside, c :: rest, args =>
    if c = '\x7b' then
      if inside = [] then (read .text rest args).map (.char c :: ·) else none
    else if c = '\x7d' then
      (Piece.readSpec inside).bind (fun spec =>
        match args with
        | [] => none
        | argument :: args => (read .text rest args).map (.hole spec argument :: ·))
    else read (.opened (inside ++ [c])) rest args

/-- Whether text holds no brace. -/
def IsPlain (cs : List Char) : Prop := ∀ c ∈ cs, c ≠ '\x7b' ∧ c ≠ '\x7d'

instance : DecidablePred IsPlain := fun cs => List.decidableBAll _ cs

/-! ### Reading from left to right -/

theorem read_char {c : Char} (hopen : c ≠ '\x7b') (hclose : c ≠ '\x7d') (rest : List Char)
    (args : List Expr) : read .text (c :: rest) args = (read .text rest args).map (.char c :: ·) := by
  rw [read, if_neg hopen, if_neg hclose]

theorem read_doubled_open (rest : List Char) (args : List Expr) :
    read .text ('\x7b' :: '\x7b' :: rest) args =
      (read .text rest args).map (.char '\x7b' :: ·) := by
  simp [read]

theorem read_doubled_close (rest : List Char) (args : List Expr) :
    read .text ('\x7d' :: '\x7d' :: rest) args =
      (read .text rest args).map (.char '\x7d' :: ·) := by
  simp [read]

/-- Text without braces is read up to the end of a hole as it stands. -/
theorem read_opened {cs : List Char} (hcs : IsPlain cs) (inside rest : List Char)
    (args : List Expr) :
    read (.opened inside) (cs ++ rest) args = read (.opened (inside ++ cs)) rest args := by
  induction cs generalizing inside with
  | nil => simp
  | cons c cs ih =>
      obtain ⟨hopen, hclose⟩ := hcs c List.mem_cons_self
      rw [List.cons_append, read, if_neg hopen, if_neg hclose,
        ih (fun d hd => hcs d (List.mem_cons_of_mem _ hd)), List.append_assoc, List.singleton_append]

/-- A hole with a `spec` free of braces takes the next argument. -/
theorem read_hole {spec : Option String} (hspec : IsPlain (Piece.holeChars spec))
    (rest : List Char) (argument : Expr) (args : List Expr) :
    read .text ('\x7b' :: Piece.holeChars spec ++ '\x7d' :: rest) (argument :: args) =
      (read .text rest args).map (.hole spec argument :: ·) := by
  have h : read .text ('\x7b' :: (Piece.holeChars spec ++ '\x7d' :: rest)) (argument :: args) =
      read (.opened (Piece.holeChars spec)) ('\x7d' :: rest) (argument :: args) := by
    rw [read, if_pos rfl, read_opened hspec, List.nil_append]
  rw [List.cons_append, h, read, if_neg (by decide), if_pos rfl]
  simp

/-- **A template is read with exactly one hole per argument**, in their order. -/
theorem arguments_of_read {mode : Mode} {cs : List Char} {args : List Expr} {pieces : List Piece}
    (h : read mode cs args = some pieces) : pieces.filterMap Piece.argument? = args := by
  induction cs generalizing mode args pieces with
  | nil =>
      cases mode with
      | text =>
          rw [read] at h
          split at h
          · rename_i hargs
            cases h
            exact hargs.symm
          · cases h
      | closing => cases h
      | opened inside => cases h
  | cons c cs ih =>
      -- A character takes no argument, in whichever mode it is read.
      have hchar : ∀ {pieces : List Piece},
          (read .text cs args).map (.char c :: ·) = some pieces →
            pieces.filterMap Piece.argument? = args := by
        intro pieces h
        obtain ⟨tail, htail, rfl⟩ := Option.map_eq_some_iff.mp h
        rw [List.filterMap_cons_none rfl, ih htail]
      cases mode with
      | text =>
          rw [read] at h
          split at h
          · exact ih h
          · split at h
            · exact ih h
            · exact hchar h
      | closing =>
          rw [read] at h
          split at h
          · exact hchar h
          · cases h
      | opened inside =>
          rw [read] at h
          split at h
          · split at h
            · exact hchar h
            · cases h
          · split at h
            · obtain ⟨spec, -, hspec⟩ := Option.bind_eq_some_iff.mp h
              split at hspec
              · cases hspec
              · rename_i argument args
                obtain ⟨tail, htail, rfl⟩ := Option.map_eq_some_iff.mp hspec
                exact congrArg (argument :: ·) (ih htail)
            · exact ih h

end FormatText

/-- What a string literal or a formatting expression stands for.  Other
expressions have no text of their own. -/
def Expr.pieces? : Expr → Option (List Piece)
  | .str s => some (s.toList.map Piece.char)
  | .format template args => FormatText.read .text template.toList args
  | _ => none

/-- What fills the holes of an expression. -/
def Expr.fillers : Expr → List Expr
  | .format _ args => args
  | _ => []

end Code
end ClientSynth
