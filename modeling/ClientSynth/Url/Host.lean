import ClientSynth.Text.Trim
import ClientSynth.Url.Encoding
import ClientSynth.Url.Punycode

/-! # Hosts

The host of an address: a domain name, a number of the fourth or of the sixth
version of the protocol, or, under a scheme without rules of its own, any text.
Every form is kept the way it is written back. -/
namespace ClientSynth
namespace Url

/-! ## Numbers of four bytes -/

/-- A part of a four-byte number: decimal, octal with a zero in front, or of base
16 with `0x` in front. -/
def part? (cs : List Char) : Option Nat :=
  match cs with
  | [] => none
  | '0' :: x :: digits =>
    if x = 'x' || x = 'X' then
      if digits.isEmpty then some 0 else Numeral.natural? 16 digits
    else Numeral.natural? 8 (x :: digits)
  | _ => Numeral.natural? 10 cs

/-- The labels of a host without an empty one at the end. -/
def labels (cs : List Char) : List (List Char) :=
  let all := Text.splitWhere (· == '.') cs
  if all.getLast? = some [] && 1 < all.length then all.dropLast else all

/-- Whether the last label is a number, so that the host has to be one. -/
def endsInNumber (cs : List Char) : Bool :=
  match (labels cs).getLast? with
  | none | some [] => false
  | some last => last.all Char.isDigit || ((last.take 2).map Char.toLower == ['0', 'x'] &&
      (part? last).isSome)

/-- The value of the parts of a number: every part but the last is one byte. -/
def numberOfParts : Nat → List Nat → Option Nat
  | _, [] => none
  | place, [last] => if last < twoPow (8 * place) then some last else none
  | place, n :: rest =>
    if n < 256 then (numberOfParts (place - 1) rest).map (fun r => n * twoPow (8 * (place - 1)) + r)
    else none

/-- A number of four bytes as it is written back. -/
def dotted (n : Nat) : List Char :=
  (Text.joined "." ([3, 2, 1, 0].map (fun i => toString (n / twoPow (8 * i) % 256)))).toList

/-- A host that ends in a number. -/
def fourBytes? (cs : List Char) : Option (List Char) := do
  let parts := labels cs
  if 4 < parts.length then none
  return dotted (← numberOfParts 4 (← parts.mapM part?))

/-! ## Numbers of eight words -/

/-- A word of base 16. -/
def word? (cs : List Char) : Option Nat :=
  if cs.length ≤ 4 then Numeral.natural? 16 cs else none

/-- The four decimal bytes that may end a number of eight words, as two words. -/
def trailingBytes? (cs : List Char) : Option (List Nat) := do
  let bytes ← (Text.splitWhere (· == '.') cs).mapM (fun b =>
    if 1 < b.length && b.head? = some '0' then none else Numeral.natural? 10 b)
  match bytes with
  | [a, b, c, d] =>
    if bytes.all (fun n => decide (n < 256)) then some [a * 256 + b, c * 256 + d] else none
  | _ => none

/-- The words on one side of a gap; the last side may end in four bytes. -/
def side? (isLast : Bool) (cs : List Char) : Option (List Nat) :=
  if cs.isEmpty then some []
  else
    let pieces := Text.splitWhere (· == ':') cs
    match pieces.getLast? with
    | some last =>
      if isLast && last.contains '.' then do
        return (← pieces.dropLast.mapM word?) ++ (← trailingBytes? last)
      else pieces.mapM word?
    | none => none

/-- The text before the first two colons in a row, and what follows them. -/
def splitGap : List Char → Option (List Char × List Char)
  | ':' :: ':' :: rest => some ([], rest)
  | c :: rest => (splitGap rest).map (fun r => (c :: r.1, r.2))
  | [] => none

/-- A number of eight words; one run of zeros may be left out. -/
def eightWords? (cs : List Char) : Option (List Nat) :=
  match splitGap cs with
  | none => (side? true cs).filter (fun words => words.length == 8)
  | some (before, after) => do
    let left ← side? false before
    let right ← side? true after
    if 8 ≤ left.length + right.length then none
    else return left ++ List.replicate (8 - left.length - right.length) 0 ++ right

/-- How many zeros start at each word, from the last word backwards. -/
def zeroRuns (words : List Nat) : List Nat :=
  words.foldr (fun w runs => (if w = 0 then runs.headD 0 + 1 else 0) :: runs) []

/-- Eight words as they are written back: the first of the longest runs of two or
more zeros is left out. -/
def writeWords (words : List Nat) : List Char :=
  let runs := zeroRuns words
  let longest := runs.foldl max 0
  let write (ws : List Nat) := Text.joined ":" (ws.map (fun w => String.ofList (Nat.toDigits 16 w)))
  (if longest < 2 then write words
    else
      let start := runs.findIdx (· == longest)
      write (words.take start) ++ "::" ++ write (words.drop (start + longest))).toList

/-! ## Names -/

/-- Characters that no host may hold. -/
def forbidden : List Char :=
  ['\x00', '\t', '\n', '\r', ' ', '#', '/', ':', '<', '>', '?', '@', '[', '\\', ']', '^', '|']

/-- Whether a domain may hold the character. -/
def allowedInDomain (c : Char) : Bool :=
  !forbidden.contains c && decide (0x20 < c.toNat) && c != '%' && c != '\x7f'

/-- A label of a domain as it is written back. -/
def writeLabel (label : List Char) : List Char :=
  let lower := label.flatMap Text.toLower
  if lower.all (fun c => decide (c.toNat < 0x80)) then lower
  else ['x', 'n', '-', '-'] ++ Punycode.encode lower

/-- A domain name as it is written back. -/
def domain? (cs : List Char) : Option (List Char) :=
  let written := List.intercalate ['.'] ((Text.splitWhere (· == '.') cs).map writeLabel)
  if written.isEmpty || !written.all allowedInDomain then none
  else if endsInNumber written then fourBytes? written
  else some written

/-- A host as it is written back; `special` tells whether the scheme is a special
one. -/
def host? (special : Bool) (cs : List Char) : Option (List Char) :=
  match cs with
  | '[' :: rest =>
    match rest.getLast? with
    | some ']' => (eightWords? rest.dropLast).map (fun ws => ['['] ++ writeWords ws ++ [']'])
    | _ => none
  | _ =>
    if special then (decode? cs).bind domain?
    else if cs.any forbidden.contains then none
    else some (encode [] cs)

end Url
end ClientSynth
