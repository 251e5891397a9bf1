import ClientSynth.Text.Trim

/-! # Identifier casing

Snake case and camel case of declared names.  A word of a name starts at an
uppercase letter that follows a lowercase letter or a digit, at the last letter
of an acronym (`HTTPResponse` is `http_response`), and after any of the
separators `-`, `_`, `.` and space.  Other symbols are dropped. -/
namespace ClientSynth
namespace Text

/-- The underscore, which separates the words of a snake-case name. -/
def isUnderscore (c : Char) : Bool := c == '_'

/-- Characters that separate words in a declared name. -/
def isWordSeparator (c : Char) : Bool := c == '-' || c == '_' || c == ' ' || c == '.'

/-- Whether an uppercase letter between the characters `prev` and `next` starts
a new word: always after a lowercase letter or a digit, and after an uppercase
letter only when a lowercase one follows. -/
def startsWord (prev next : Option Char) : Bool :=
  match prev with
  | none => false
  | some p =>
    if isLower p || p.isDigit then true
    else if isUpper p then next.any isLower
    else false

/-- `out` with a separating underscore in front, unless it has one there already.
`out` is a snake-case text read backwards. -/
def separate (out : List Char) : List Char :=
  if out.head? = some '_' then out else '_' :: out

/-- Snake case of the characters still to come, in front of the backwards text
`out`; `prev` is the character read last. -/
def snakeFrom (prev : Option Char) (out : List Char) : List Char → List Char
  | [] => out
  | c :: rest =>
    snakeFrom (some c)
      (if isUpper c then
        (toLower c).reverse ++ (if startsWord prev rest.head? then separate out else out)
      else if isAlphanumeric c then c :: out
      else if isWordSeparator c && !out.isEmpty then separate out
      else out)
      rest

/-- Snake case of a name given as characters. -/
def snakeChars (cs : List Char) : List Char := trim isUnderscore (snakeFrom none [] cs).reverse

/-- Snake case: lowercase words joined by single underscores, none at the ends. -/
def snakeCase (s : String) : String := String.ofList (snakeChars s.toList)

/-- Snake case that keeps the underscores at both ends of a name given as
characters.  A name of underscores alone stays as it is. -/
def snakeIdentChars (cs : List Char) : List Char :=
  let core := trim isUnderscore cs
  if core = [] then cs
  else cs.takeWhile isUnderscore ++ snakeChars core ++
    (cs.reverse.takeWhile isUnderscore).reverse

/-- Snake case that keeps the underscores at both ends, so that `query_` and
`query` stay different. -/
def snakeIdent (s : String) : String := String.ofList (snakeIdentChars s.toList)

/-- `word` with its first character in uppercase. -/
def capitalize : List Char → List Char
  | [] => []
  | c :: cs => toUpper c ++ cs

/-- Camel case with a capital at the start of every word. -/
def upperCamelCase (s : String) : String :=
  String.ofList ((splitWhere isUnderscore (snakeChars s.toList)).flatMap capitalize)

end Text
end ClientSynth
