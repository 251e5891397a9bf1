import ClientSynth.Number.Numeral

/-! # Percent encoding

Bytes that may not stand in a part of an address are written as a percent sign
and two digits of base 16.  Which characters that concerns depends on the part;
control characters and everything outside ASCII are always written that way. -/
namespace ClientSynth
namespace Url

/-- A digit of base 16, in upper case. -/
def hexDigit (n : Nat) : Char := Char.ofNat (if n < 10 then 0x30 + n else 0x37 + n)

/-- The escape of a byte. -/
def escapeByte (b : UInt8) : List Char := ['%', hexDigit (b.toNat / 16), hexDigit (b.toNat % 16)]

/-- The bytes of a character. -/
def bytesOf (c : Char) : List UInt8 := (String.singleton c).toUTF8.toList

/-- Whether a character is escaped in every part of an address. -/
def isAlwaysEscaped (c : Char) : Bool := decide (c.toNat < 0x20) || decide (0x7F ≤ c.toNat)

/-- `cs` with the characters of `set` escaped, and those that always are. -/
def encode (set : List Char) (cs : List Char) : List Char :=
  cs.flatMap (fun c =>
    if isAlwaysEscaped c || set.contains c then (bytesOf c).flatMap escapeByte else [c])

/-- Escaped in a fragment. -/
def fragmentSet : List Char := [' ', '\"', '<', '>', '`']

/-- Escaped in a path. -/
def pathSet : List Char := fragmentSet ++ ['#', '?', '\x7b', '\x7d']

/-- Escaped in a user name and in a password. -/
def userSet : List Char := pathSet ++ ['/', ':', ';', '=', '@', '[', '\\', ']', '^', '|']

/-- Escaped in a query; `special` tells whether the scheme is a special one. -/
def querySet (special : Bool) : List Char :=
  [' ', '\"', '#', '<', '>'] ++ (if special then ['\''] else [])

/-- The byte whose escape has the digits `a` and `b`. -/
def escapedByte? (a b : Char) : Option UInt8 := (Numeral.natural? 16 [a, b]).map UInt8.ofNat

/-- The bytes of `cs` with escapes resolved. -/
def decodeBytes : List Char → List UInt8
  | '%' :: a :: b :: rest =>
    match escapedByte? a b with
    | some byte => byte :: decodeBytes rest
    | none => bytesOf '%' ++ decodeBytes (a :: b :: rest)
  | c :: rest => bytesOf c ++ decodeBytes rest
  | [] => []

/-- `cs` with escapes resolved, if that is a text. -/
def decode? (cs : List Char) : Option (List Char) :=
  (String.fromUTF8? (ByteArray.mk (decodeBytes cs).toArray)).map String.toList

end Url
end ClientSynth
