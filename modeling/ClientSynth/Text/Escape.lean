import ClientSynth.Text.Letter

/-! # Quoted text in generated code

String and character literals of the emitted code.  Printable ASCII stands for
itself, the quotes and the backslash take a backslash, tab and the line breaks
have a letter each, and every other character is written `\u{…}` with its
code point in hexadecimal. -/
namespace ClientSynth
namespace Text

/-- The digits of `n` in base 16, lowercase. -/
def hexDigits (n : Nat) : List Char := Nat.toDigits 16 n

/-- How one character is written inside a literal. -/
def escapeChar (c : Char) : List Char :=
  if c = '\t' then ['\\', 't']
  else if c = '\r' then ['\\', 'r']
  else if c = '\n' then ['\\', 'n']
  else if c = '\'' then ['\\', '\'']
  else if c = '\"' then ['\\', '\"']
  else if c = '\\' then ['\\', '\\']
  else if 0x20 ≤ c.toNat ∧ c.toNat ≤ 0x7E then [c]
  else ['\\', 'u', '\x7b'] ++ hexDigits c.toNat ++ ['\x7d']

/-- The inside of the literal of a text. -/
def escape (cs : List Char) : List Char := cs.flatMap escapeChar

/-- The string literal of `s`. -/
def stringLiteral (s : String) : String :=
  String.ofList ('\"' :: escape s.toList ++ ['\"'])

/-- The character literal of `c`. -/
def charLiteral (c : Char) : String := String.ofList ('\'' :: escapeChar c ++ ['\''])

end Text
end ClientSynth
