import ClientSynth.Document.Tree
import ClientSynth.Text.Trim

/-! # Scalars of TOML

Texts in their four forms, and everything that is written without quotes.  Each
reader takes the characters from its position on and answers with what it read
and what follows. -/
namespace ClientSynth
namespace Toml

/-- Blanks within a line. -/
def isSpace (c : Char) : Bool := c == ' ' || c == '\t'

/-- The characters after the blanks of the line. -/
def skipSpace (cs : List Char) : List Char := cs.dropWhile isSpace

/-- Whether a character may stand in a text or a comment as it is. -/
def isPlain (c : Char) : Bool := c == '\t' || (decide (0x20 ≤ c.toNat) && c != '\x7f')

/-- The characters after a line break. -/
def lineBreak? : List Char → Option (List Char)
  | '\n' :: rest => some rest
  | '\r' :: '\n' :: rest => some rest
  | _ => none

/-- The characters after a comment, if there is one; none if it holds a control
character. -/
def skipComment : List Char → List Char
  | '#' :: rest => rest.dropWhile isPlain
  | cs => cs

/-- The characters after blanks, comments and line breaks; `fuel` bounds how many
lines that are. -/
def skipLines : Nat → List Char → List Char
  | 0, cs => cs
  | fuel + 1, cs =>
    let rest := skipComment (skipSpace cs)
    match lineBreak? rest with
    | some after => skipLines fuel after
    | none => rest

/-! ## Texts -/

/-- The character of a short escape. -/
def shortEscape? : Char → Option Char
  | 'b' => some '\x08'
  | 't' => some '\t'
  | 'n' => some '\n'
  | 'f' => some '\x0c'
  | 'r' => some '\r'
  | '\"' => some '\"'
  | '\\' => some '\\'
  | _ => none

/-- The character written with `digits` digits of base 16. -/
def codePoint? (digits : Nat) (cs : List Char) : Option (Char × List Char) :=
  let text := cs.take digits
  if text.length < digits then none
  else (Numeral.natural? 16 text).bind (fun n =>
    if n.isValidChar then some (Char.ofNat n, cs.drop digits) else none)

/-- The character of an escape, behind its backslash. -/
def escape? : List Char → Option (Char × List Char)
  | 'u' :: rest => codePoint? 4 rest
  | 'U' :: rest => codePoint? 8 rest
  | c :: rest => (shortEscape? c).map (fun d => (d, rest))
  | [] => none

/-- The rest of a text between double quotes; `out` is the text so far, backwards. -/
def basicTail : Nat → List Char → List Char → Option (List Char × List Char)
  | 0, _, _ => none
  | fuel + 1, out, cs =>
    match cs with
    | '\"' :: rest => some (out.reverse, rest)
    | '\\' :: rest => (escape? rest).bind (fun e => basicTail fuel (e.1 :: out) e.2)
    | c :: rest => if isPlain c then basicTail fuel (c :: out) rest else none
    | [] => none

/-- The rest of a text between single quotes. -/
def literalTail (cs : List Char) : Option (List Char × List Char) :=
  let body := cs.takeWhile (fun c => isPlain c && c != '\'')
  match cs.drop body.length with
  | '\'' :: rest => some (body, rest)
  | _ => none

/-- The characters after blanks and line breaks, for a line that ends in a
backslash. -/
def skipBlankLines : List Char → List Char
  | [] => []
  | '\r' :: '\n' :: rest => skipBlankLines rest
  | c :: rest => if isSpace c || c == '\n' then skipBlankLines rest else c :: rest

/-- The quotes that end a text of several lines: up to two of them still belong
to it. -/
def closing? (quote : Char) (cs : List Char) : Option (List Char × List Char) :=
  let quotes := cs.takeWhile (· == quote)
  if quotes.length < 3 then none
  else
    let own := min (quotes.length - 3) 2
    some (List.replicate own quote, cs.drop (own + 3))

/-- The rest of a text of several lines; `quote` tells which kind it is. -/
def linesTail (quote : Char) : Nat → List Char → List Char → Option (List Char × List Char)
  | 0, _, _ => none
  | fuel + 1, out, cs =>
    match closing? quote cs with
    | some (own, rest) => some (out.reverse ++ own, rest)
    | none =>
      match lineBreak? cs with
      | some rest => linesTail quote fuel ('\n' :: out) rest
      | none =>
        match cs with
        | [] => none
        | c :: rest =>
          if c = '\\' && quote == '\"' then
            if (lineBreak? (skipSpace rest)).isSome then
              linesTail quote fuel out (skipBlankLines rest)
            else (escape? rest).bind (fun e => linesTail quote fuel (e.1 :: out) e.2)
          else if isPlain c then linesTail quote fuel (c :: out) rest
          else none

/-- A text on one line, with its opening quote. -/
def lineText? : List Char → Option (List Char × List Char)
  | '\"' :: rest => basicTail (rest.length + 1) [] rest
  | '\'' :: rest => literalTail rest
  | _ => none

/-- A text, with its opening quotes. -/
def text? (cs : List Char) : Option (List Char × List Char) :=
  let body (rest : List Char) : List Char := (lineBreak? rest).getD rest
  match cs with
  | '\"' :: '\"' :: '\"' :: rest => linesTail '\"' (rest.length + 1) [] (body rest)
  | '\'' :: '\'' :: '\'' :: rest => linesTail '\'' (rest.length + 1) [] (body rest)
  | _ => lineText? cs

/-! ## Numbers, dates and words -/

/-- Digits of the given base with single underscores between them, without the
underscores. -/
def groupedDigits? (base : Nat) (cs : List Char) : Option (List Char) :=
  let groups := Text.splitWhere (· == '_') cs
  if groups.all (fun g => (Numeral.natural? base g).isSome) then some groups.flatten else none

/-- Whether digits before a point are written without a needless zero. -/
def isWholePart (digits : List Char) : Bool := digits.length == 1 || digits.head? != some '0'

/-- A decimal number in front of a point or an exponent. -/
def wholePart? (cs : List Char) : Option (List Char) :=
  (groupedDigits? 10 cs).filter isWholePart

/-- A whole number. -/
def integer? (cs : List Char) : Option Int :=
  match cs with
  | '0' :: 'x' :: digits => (groupedDigits? 16 digits).map (fun d => Int.ofNat (Numeral.ofDigits 16 d))
  | '0' :: 'o' :: digits => (groupedDigits? 8 digits).map (fun d => Int.ofNat (Numeral.ofDigits 8 d))
  | '0' :: 'b' :: digits => (groupedDigits? 2 digits).map (fun d => Int.ofNat (Numeral.ofDigits 2 d))
  | _ =>
    let (negative, body) := Numeral.splitSign cs
    (wholePart? body).map (fun d =>
      let n := Int.ofNat (Numeral.ofDigits 10 d)
      if negative then -n else n)

/-- Whether `cs` is an exponent with its mark. -/
def isExponent : List Char → Bool
  | c :: rest => (c == 'e' || c == 'E') && (groupedDigits? 10 (Numeral.splitSign rest).2).isSome
  | [] => false

/-- Whether `cs` is a number with a point or an exponent, or a word for one. -/
def isFloat (cs : List Char) : Bool :=
  let body := (Numeral.splitSign cs).2
  if body == "inf".toList || body == "nan".toList then true
  else
    let isDigitOrMark (c : Char) : Bool := c.isDigit || c == '_'
    let whole := body.takeWhile isDigitOrMark
    let rest := body.drop whole.length
    (wholePart? whole).isSome &&
      (match rest with
        | '.' :: more =>
          let places := more.takeWhile isDigitOrMark
          let after := more.drop places.length
          (groupedDigits? 10 places).isSome && (after.isEmpty || isExponent after)
        | _ => isExponent rest)

/-- A number written with exactly `count` digits, at most `limit`. -/
def digitsUpTo? (count limit : Nat) (cs : List Char) : Option (Nat × List Char) :=
  let text := cs.take count
  if text.length < count then none
  else ((Numeral.natural? 10 text).filter (fun n => decide (n ≤ limit))).map (fun n =>
    (n, cs.drop count))

/-- The characters after `mark`. -/
def after? (mark : Char) : List Char → Option (List Char)
  | c :: rest => if c = mark then some rest else none
  | [] => none

/-- How many days a month has. -/
def daysIn (year month : Nat) : Nat :=
  if month = 2 then
    if year % 4 = 0 ∧ (year % 100 ≠ 0 ∨ year % 400 = 0) then 29 else 28
  else if month = 4 ∨ month = 6 ∨ month = 9 ∨ month = 11 then 30
  else 31

/-- The characters after a date. -/
def afterDate? (cs : List Char) : Option (List Char) := do
  let (year, rest) ← digitsUpTo? 4 9999 cs
  let (month, rest) ← digitsUpTo? 2 12 (← after? '-' rest)
  let (day, rest) ← digitsUpTo? 2 31 (← after? '-' rest)
  if month = 0 ∨ day = 0 ∨ daysIn year month < day then none else some rest

/-- The characters after a time of day. -/
def afterTime? (cs : List Char) : Option (List Char) := do
  let (_, rest) ← digitsUpTo? 2 23 cs
  let (_, rest) ← digitsUpTo? 2 59 (← after? ':' rest)
  let (_, rest) ← digitsUpTo? 2 60 (← after? ':' rest)
  match rest with
  | '.' :: more =>
    let digits := more.takeWhile Char.isDigit
    if digits.isEmpty then none else some (more.drop digits.length)
  | _ => some rest

/-- Whether `cs` is the distance of a local time, or nothing. -/
def isOffset : List Char → Bool
  | [] | ['Z'] | ['z'] => true
  | c :: rest => (c == '+' || c == '-') &&
    (do
      let (_, minutes) ← digitsUpTo? 2 23 rest
      let (_, rest) ← digitsUpTo? 2 59 (← after? ':' minutes)
      return rest.isEmpty).getD false

/-- Whether `cs` is a date, a time, or both. -/
def isMoment (cs : List Char) : Bool :=
  match afterDate? cs with
  | some [] => true
  | some (c :: rest) => (c == 'T' || c == 't' || c == ' ') && ((afterTime? rest).map isOffset).getD false
  | none => afterTime? cs == some []

/-- Characters of a scalar without quotes. -/
def isWordChar (c : Char) : Bool :=
  c.isAlphanum || c == '_' || c == '+' || c == '-' || c == '.' || c == ':'

/-- The characters of a scalar without quotes, and what follows; a date and a
time may have one blank between them. -/
def word (cs : List Char) : List Char × List Char :=
  let first := cs.takeWhile isWordChar
  let rest := cs.drop first.length
  match rest with
  | ' ' :: d :: more =>
    if afterDate? first == some [] && d.isDigit then
      let second := (d :: more).takeWhile isWordChar
      (first ++ ' ' :: second, (d :: more).drop second.length)
    else (first, rest)
  | _ => (first, rest)

/-- What a scalar without quotes stands for.  Numbers that are not whole and
moments are accepted, but nothing here reads them. -/
def leaf? (cs : List Char) : Option Document.Leaf :=
  if cs == "true".toList then some (.exact (.bool true))
  else if cs == "false".toList then some (.exact (.bool false))
  else
    match integer? cs with
    | some n =>
      if Word.fitsSigned 64 n then some (.exact (.number (.integer n))) else none
    | none => if isFloat cs || isMoment cs then some .unreadable else none

end Toml
end ClientSynth
