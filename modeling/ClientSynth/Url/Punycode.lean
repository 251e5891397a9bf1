/-! # Punycode

How a label with characters outside ASCII is written with ASCII alone: its
ASCII characters, then for each of the others, from small to large, the distance
to its place as a number of variable length in base 36. -/
namespace ClientSynth
namespace Url
namespace Punycode

/-- A digit of base 36: letters first. -/
def digit (n : Nat) : Char := Char.ofNat (if n < 26 then 0x61 + n else 0x16 + n)

/-- Divide by 35 until the value is at most 455, counting the divisions. -/
def settle : Nat → Nat → Nat → Nat × Nat
  | 0, k, delta => (k, delta)
  | fuel + 1, k, delta => if 455 < delta then settle fuel (k + 36) (delta / 35) else (k, delta)

/-- The bias that follows an inserted character: `count` characters are there by
then, and `first` tells whether it is the first one inserted. -/
def adapt (delta count : Nat) (first : Bool) : Nat :=
  let scaled := if first then delta / 700 else delta / 2
  let (k, rest) := settle scaled 0 (scaled + scaled / count)
  k + 36 * rest / (rest + 38)

/-- The digits of a distance under a bias. -/
def variableLength : Nat → Nat → Nat → Nat → List Char
  | 0, _, _, _ => []
  | fuel + 1, bias, k, q =>
    let t := if k ≤ bias then 1 else if bias + 26 ≤ k then 26 else k - bias
    if q < t then [digit q]
    else digit (t + (q - t) % (36 - t)) :: variableLength fuel bias (k + 36) ((q - t) / (36 - t))

/-- Where the encoding stands. -/
structure State where
  delta : Nat
  bias : Nat
  /-- How many characters have been written. -/
  handled : Nat
  /-- The digits so far. -/
  out : List Char

/-- Pass a character of the label while the code point `n` is being inserted;
`basic` is the number of ASCII characters. -/
def pass (basic n : Nat) (s : State) (c : Char) : State :=
  if c.toNat < n then { s with delta := s.delta + 1 }
  else if c.toNat = n then
    { delta := 0
      bias := adapt s.delta (s.handled + 1) (s.handled == basic)
      handled := s.handled + 1
      out := s.out ++ variableLength (s.delta + 1) s.bias 36 s.delta }
  else s

/-- Insert the given code points, from small to large; `next` is the code point
that the distances count from. -/
def insertAll (label : List Char) (basic : Nat) : Nat → List Nat → State → State
  | _, [], s => s
  | next, n :: rest, s =>
    let reached := { s with delta := s.delta + (n - next) * (s.handled + 1) }
    let passed := label.foldl (pass basic n) reached
    insertAll label basic (n + 1) rest { passed with delta := passed.delta + 1 }

/-- `l` in order, each number once. -/
def ordered (l : List Nat) : List Nat :=
  (l.mergeSort (fun a b => decide (a ≤ b))).foldr
    (fun n out => if out.head? = some n then out else n :: out) []

/-- The written form of a label, without the mark in front. -/
def encode (label : List Char) : List Char :=
  let basic := label.filter (fun c => decide (c.toNat < 0x80))
  let others := ordered ((label.filter (fun c => decide (0x80 ≤ c.toNat))).map Char.toNat)
  let start := if basic.isEmpty then [] else basic ++ ['-']
  let s := insertAll label basic.length 0x80 others ⟨0, 72, basic.length, []⟩
  start ++ s.out

end Punycode
end Url
end ClientSynth
