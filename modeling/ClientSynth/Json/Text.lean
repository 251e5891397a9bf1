import ClientSynth.Document.Reading

/-! # Reading JSON text

A JSON text becomes a document tree: members stay in the order of the text and
may repeat, and a number or a text that no reader can take (a number beyond the
range of binary floating point, half of a surrogate pair) becomes a leaf that
can only be skipped.

Each reader takes the characters from its position on and answers with what it
read and what follows. -/
namespace ClientSynth
namespace Json

/-- How many containers of a JSON text may be inside one another. -/
def maxDepth : Nat := 127

/-- Blanks between tokens. -/
def isSpace (c : Char) : Bool := c == ' ' || c == '\n' || c == '\t' || c == '\r'

/-- The characters after the blanks. -/
def skipSpace (cs : List Char) : List Char := cs.dropWhile isSpace

/-- The code unit written with four digits of base 16, and what follows. -/
def codeUnit? : List Char → Option (Nat × List Char)
  | a :: b :: c :: d :: rest => (Numeral.natural? 16 [a, b, c, d]).map (fun n => (n, rest))
  | _ => none

/-- Whether `n` is the first half of a surrogate pair. -/
def isHighSurrogate (n : Nat) : Bool := decide (0xD800 ≤ n) && decide (n < 0xDC00)

/-- Whether `n` is the second half of a surrogate pair. -/
def isLowSurrogate (n : Nat) : Bool := decide (0xDC00 ≤ n) && decide (n < 0xE000)

/-- The character of a short escape. -/
def shortEscape? : Char → Option Char
  | '\"' => some '\"'
  | '\\' => some '\\'
  | '/' => some '/'
  | 'b' => some '\x08'
  | 'f' => some '\x0c'
  | 'n' => some '\n'
  | 'r' => some '\r'
  | 't' => some '\t'
  | _ => none

/-- The rest of a text after its opening quote.  `whole` tells whether every
character so far could be read; `out` is the text so far, backwards. -/
def stringTail : Nat → Bool → List Char → List Char → Option (Option String × List Char)
  | 0, _, _, _ => none
  | fuel + 1, whole, out, cs =>
    match cs with
    | '\"' :: rest => some (if whole then some (String.ofList out.reverse) else none, rest)
    | '\\' :: 'u' :: rest => do
      let (unit, rest) ← codeUnit? rest
      if isHighSurrogate unit then
        match rest with
        | '\\' :: 'u' :: more =>
          let (second, after) ← codeUnit? more
          if isLowSurrogate second then
            let code := 0x10000 + (unit - 0xD800) * 0x400 + (second - 0xDC00)
            stringTail fuel whole (Char.ofNat code :: out) after
          else stringTail fuel false out rest
        | _ => stringTail fuel false out rest
      else if isLowSurrogate unit then stringTail fuel false out rest
      else stringTail fuel whole (Char.ofNat unit :: out) rest
    | '\\' :: c :: rest => do
      stringTail fuel whole ((← shortEscape? c) :: out) rest
    | c :: rest => if c.toNat < 0x20 then none else stringTail fuel whole (c :: out) rest
    | [] => none

/-- The text after its opening quote, and what follows its closing one; a text
that holds half of a surrogate pair is none. -/
def string? (cs : List Char) : Option (Option String × List Char) :=
  stringTail (cs.length + 1) true [] cs

/-- A number in parts. -/
structure NumberText where
  /-- Whether a minus sign stands in front. -/
  negative : Bool
  /-- Digits before the point. -/
  whole : List Char
  /-- Digits after the point, if there is one. -/
  places : Option (List Char)
  /-- The exponent, if there is one. -/
  exponent : Option Int

/-- The digits before the point: no zero in front of another digit. -/
def wholeDigits? (cs : List Char) : Option (List Char × List Char) :=
  let digits := cs.takeWhile Char.isDigit
  let rest := cs.dropWhile Char.isDigit
  match digits with
  | [] => none
  | '0' :: _ :: _ => none
  | _ => some (digits, rest)

/-- A nonempty run of digits and what follows it. -/
def digits? (cs : List Char) : Option (List Char × List Char) :=
  let digits := cs.takeWhile Char.isDigit
  if digits.isEmpty then none else some (digits, cs.dropWhile Char.isDigit)

/-- The number at the start of `cs`. -/
def numberText? (cs : List Char) : Option (NumberText × List Char) := do
  let (negative, body) := match cs with
    | '-' :: rest => (true, rest)
    | _ => (false, cs)
  let (whole, rest) ← wholeDigits? body
  let (places, rest) ← match rest with
    | '.' :: more => (digits? more).map (fun d => (some d.1, d.2))
    | _ => some (none, rest)
  let (exponent, rest) ← match rest with
    | c :: more =>
      if c = 'e' ∨ c = 'E' then
        let (minus, digits) := Numeral.splitSign more
        (digits? digits).map (fun d =>
          let n : Int := Int.ofNat (Numeral.ofDigits 10 d.1)
          (some (if minus then -n else n), d.2))
      else some (none, rest)
    | [] => some (none, [])
  return (⟨negative, whole, places, exponent⟩, rest)

/-- Digits gathered into a 64-bit significand: from the first digit that does
not fit on, digits before the point only count as powers of ten and digits
after it are dropped. -/
structure Significand where
  /-- The number so far. -/
  value : Nat
  /-- Power of ten of its last digit. -/
  scale : Int
  /-- Whether a digit has already been left out. -/
  full : Bool

/-- Add a digit before the point. -/
def Significand.pushWhole (s : Significand) (c : Char) : Significand :=
  let next := s.value * 10 + Numeral.digitValue c
  if s.full || decide (twoPow 64 ≤ next) then ⟨s.value, s.scale + 1, true⟩
  else ⟨next, s.scale, false⟩

/-- Add a digit after the point.  Once a digit there has been left out, so is
every later one. -/
def Significand.pushPlace (s : Significand) (c : Char) : Significand :=
  let next := s.value * 10 + Numeral.digitValue c
  if s.full || decide (twoPow 64 ≤ next) then ⟨s.value, s.scale, true⟩
  else ⟨next, s.scale - 1, false⟩

/-- `x` times `10 ^ scale`, in steps of at most 308 powers of ten, each rounded. -/
def scaleBy : Nat → Binary64 → Int → Option Binary64
  | 0, _, _ => none
  | fuel + 1, x, scale =>
    if 0 ≤ scale then
      if scale ≤ 308 then (Binary64.powerOfTen scale.toNat).bind x.mul
      else if x.isZero then some x
      else none
    else if -308 ≤ scale then (Binary64.powerOfTen (-scale).toNat).bind x.div
    else if x.isZero then some x
    else ((Binary64.powerOfTen 308).bind x.div).bind (fun y => scaleBy fuel y (scale + 308))

/-- The value of a number: a whole number if it is written as one and fits, else
the binary number that its significand gives after scaling. -/
def NumberText.value? (t : NumberText) : Option Number := do
  let whole := t.whole.foldl Significand.pushWhole ⟨0, 0, false⟩
  let isWhole := t.places.isNone && t.exponent.isNone && !whole.full
  if isWhole && !t.negative then return .integer (Int.ofNat whole.value)
  else if isWhole && decide (0 < whole.value) && decide (whole.value ≤ twoPow 63) then
    return .integer (-Int.ofNat whole.value)
  else
    -- a digit left out before the point does not close the significand by itself
    let s := (t.places.getD []).foldl Significand.pushPlace { whole with full := false }
    let scale := s.scale + t.exponent.getD 0
    let x ← Binary64.ofNat s.value
    let y ← scaleBy 8 x scale
    return .real (if t.negative then y.neg else y)

/-- The leaf of a number. -/
def NumberText.leaf (t : NumberText) : Document.Leaf :=
  match t.value? with
  | some n => .exact (.number n)
  | none => .unreadable

/-- The rest of the input after the word `word`. -/
def word? (word : List Char) (cs : List Char) : Option (List Char) :=
  if word.isPrefixOf cs then some (cs.drop word.length) else none

/-- The leaf of a text. -/
def stringLeaf (s : Option String) : Document.Tree :=
  .leaf ((s.map (fun s => Document.Leaf.exact (.text s))).getD .unreadable)

mutual
/-- The value at the start of `cs`, blanks skipped. -/
def value? : Nat → List Char → Option (Document.Tree × List Char)
  | 0, _ => none
  | fuel + 1, cs =>
    match skipSpace cs with
    | 'n' :: rest => (word? "ull".toList rest).map (fun r => (.leaf (.exact .null), r))
    | 't' :: rest => (word? "rue".toList rest).map (fun r => (.leaf (.exact (.bool true)), r))
    | 'f' :: rest => (word? "alse".toList rest).map (fun r => (.leaf (.exact (.bool false)), r))
    | '\"' :: rest => (string? rest).map (fun r => (stringLeaf r.1, r.2))
    | '[' :: rest =>
      match skipSpace rest with
      | ']' :: after => some (.seq false [], after)
      | inside => (items? fuel inside).map (fun r => (.seq false r.1, r.2))
    | '\x7b' :: rest =>
      match skipSpace rest with
      | '\x7d' :: after => some (.map false [], after)
      | inside => (members? fuel inside).map (fun r => (.map false r.1, r.2))
    | c :: rest => (numberText? (c :: rest)).map (fun r => (.leaf r.1.leaf, r.2))
    | [] => none

/-- The items of a list up to its closing bracket. -/
def items? : Nat → List Char → Option (List Document.Tree × List Char)
  | 0, _ => none
  | fuel + 1, cs => do
    let (item, rest) ← value? fuel cs
    match skipSpace rest with
    | ',' :: more =>
      let (items, after) ← items? fuel more
      return (item :: items, after)
    | ']' :: after => return ([item], after)
    | _ => none

/-- The members of an object up to its closing brace. -/
def members? : Nat → List Char → Option (List (Document.Tree × Document.Tree) × List Char)
  | 0, _ => none
  | fuel + 1, cs =>
    match skipSpace cs with
    | '\"' :: rest => do
      let (name, rest) ← string? rest
      match skipSpace rest with
      | ':' :: rest =>
        let (value, rest) ← value? fuel rest
        match skipSpace rest with
        | ',' :: more =>
          let (members, after) ← members? fuel more
          return ((stringLeaf name, value) :: members, after)
        | '\x7d' :: after => return ([(stringLeaf name, value)], after)
        | _ => none
      | _ => none
    | _ => none
end

/-- The document tree of a JSON text. -/
def tree? (s : String) : Option Document.Tree := do
  let (tree, rest) ← value? (s.length + 1) s.toList
  if (skipSpace rest).isEmpty then some tree else none

/-- The document of a JSON text. -/
def document? (s : String) : Option Document.Source :=
  (tree? s).map (fun t => .plain t maxDepth)

/-- The value of a JSON text; of two members with one name the later counts. -/
def parse (s : String) : Option Value := do
  (← document? s).read (Document.Reading.free .byValue) |>.toOption

end Json
end ClientSynth
