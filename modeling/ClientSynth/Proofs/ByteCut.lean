/-! # Texts cut at bytes

Positions in a text are counted in bytes, and a cut is possible only between characters.
`cutAtByte?` fails inside a character and beyond the end, and nowhere else: a position that is
the length of what stands in front of it is always one to cut at.  So a stretch between two
such positions can be taken out. -/
namespace ClientSynth
namespace Text

/-- How many bytes the characters have. -/
def byteCount : List Char → Nat
  | [] => 0
  | c :: cs => c.utf8Size + byteCount cs

/-- The characters in front of the byte `n` and those from there on; none if the byte is inside
a character or beyond the end. -/
def cutAtByte? : Nat → List Char → Option (List Char × List Char)
  | n, [] => if n = 0 then some ([], []) else none
  | n, c :: cs =>
    if n = 0 then some ([], c :: cs)
    else if c.utf8Size ≤ n then
      (cutAtByte? (n - c.utf8Size) cs).map (fun parts => (c :: parts.1, parts.2))
    else none

/-- The characters from the byte `start` on. -/
def sliceFrom? (start : Nat) (cs : List Char) : Option (List Char) :=
  (cutAtByte? start cs).map Prod.snd

/-- The characters from the byte `start` up to the byte `stop`. -/
def slice? (start stop : Nat) (cs : List Char) : Option (List Char) :=
  (cutAtByte? stop cs).bind (fun parts => sliceFrom? start parts.1)

theorem byteCount_append (cs ds : List Char) :
    byteCount (cs ++ ds) = byteCount cs + byteCount ds := by
  induction cs with
  | nil => rw [List.nil_append, byteCount, Nat.zero_add]
  | cons c cs ih => rw [List.cons_append, byteCount, ih, byteCount, Nat.add_assoc]

theorem byteCount_toList (s : String) : byteCount s.toList = s.utf8ByteSize := by
  obtain ⟨cs, rfl⟩ : ∃ cs, s = String.ofList cs := ⟨s.toList, (String.ofList_toList).symm⟩
  rw [String.toList_ofList]
  induction cs with
  | nil => rfl
  | cons c cs ih =>
    have hsingle : (String.ofList [c]).utf8ByteSize = c.utf8Size :=
      String.utf8ByteSize_singleton
    rw [byteCount, ih, ← List.singleton_append, String.ofList_append, String.utf8ByteSize_append,
      hsingle]

/-- A cut between characters succeeds. -/
theorem cutAtByte?_append (cs ds : List Char) :
    cutAtByte? (byteCount cs) (cs ++ ds) = some (cs, ds) := by
  induction cs with
  | nil => cases ds <;> rfl
  | cons c cs ih =>
    have hpos := Char.utf8Size_pos c
    rw [List.cons_append, cutAtByte?, byteCount, if_neg (by omega), if_pos (by omega),
      Nat.add_sub_cancel_left, ih]
    rfl

theorem sliceFrom?_append (cs ds : List Char) : sliceFrom? (byteCount cs) (cs ++ ds) = some ds := by
  rw [sliceFrom?, cutAtByte?_append, Option.map_some]

theorem slice?_append (cs ds es : List Char) :
    slice? (byteCount cs) (byteCount (cs ++ ds)) (cs ++ ds ++ es) = some ds := by
  rw [slice?, cutAtByte?_append, Option.bind_some, sliceFrom?_append]

end Text
end ClientSynth
